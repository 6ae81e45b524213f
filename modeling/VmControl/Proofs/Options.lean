import Mathlib.Data.List.Nodup
import VmControl.Options

/-!
# What the check of options establishes

A name is usable for a machine exactly if it can stand as one component of a path
(`checkVmName_eq_ok_iff`). Options are accepted exactly if they are safe: the machine has such a
name, there is an address, and each disk can be copied and is told apart from every other one by its
path and by the name of its device in jobs (`MigrationOptions.IsSafe`,
`MigrationOptions.validate_eq_ok_iff`). The check compares each disk with those in front of it only,
so this is by induction over the list (`MigrationOptions.checkDisks_eq_ok_iff`). Then the
identifiers of the jobs are different too, whatever the work (`MigrationOptions.jobIds_nodup`).

The destinations are not compared. They are different exactly if the renames are no reason why they
should not be: no two disks are renamed alike, and no disk takes the path of one that keeps it
(`MigrationOptions.RenamesApart`, `MigrationOptions.dstDiskPaths_nodup_iff`). Then the request for
room has an entry for every disk (`MigrationOptions.capacities_perm`).
-/

namespace VmControl

/-! ## Names of machines -/

/-- A name that stands for one entry of a directory and for nothing else. -/
structure IsPlainName (name : String) : Prop where
  nonempty : name ≠ ""
  /-- It is neither the directory nor the one above. -/
  entry : name ≠ "." ∧ name ≠ ".."
  unseparated : ∀ c ∈ name.toList, c ≠ '/' ∧ c ≠ '\\' ∧ c ≠ '\x00'

theorem vmNameFault?_eq_none_iff {name : String} : vmNameFault? name = none ↔ IsPlainName name := by
  have separators : name.toList.any (fun c => c = '/' || c = '\\' || c = '\x00') = false ↔
      ∀ c ∈ name.toList, c ≠ '/' ∧ c ≠ '\\' ∧ c ≠ '\x00' := by
    simp [List.any_eq_false, and_assoc]
  unfold vmNameFault?
  constructor
  · intro sound
    split at sound
    · cases sound
    · next nonempty =>
      split at sound
      · cases sound
      · next entry =>
        split at sound
        · cases sound
        · next free =>
          exact ⟨nonempty, not_or.mp entry, separators.mp (Bool.not_eq_true _ ▸ free)⟩
  · intro plain
    rw [if_neg plain.nonempty, if_neg (not_or.mpr plain.entry), separators.mpr plain.unseparated]
    rfl

/-- A text can name a machine exactly if it is a plain name. -/
theorem checkVmName_eq_ok_iff {name : String} : checkVmName name = .ok () ↔ IsPlainName name := by
  rw [← vmNameFault?_eq_none_iff, checkVmName]
  cases vmNameFault? name with
  | none => exact iff_of_true rfl rfl
  | some reason => exact iff_of_false nofun nofun

namespace MigrationOptions

variable {o : MigrationOptions} {earlier rest : List Disk} {d : Disk}

/-! ## Disks -/

/-- A disk that a mirror can read and address. -/
def IsMovable (d : Disk) : Prop := d.backend = .localStorage ∧ d.device ≠ ""

/-- Two disks share neither the path nor the device, as far as jobs tell devices apart. -/
def Apart (d e : Disk) : Prop := d.path ≠ e.path ∧ Disk.jobName d.device ≠ Disk.jobName e.device

theorem diskFault?_eq_none_iff :
    diskFault? earlier d = none ↔ IsMovable d ∧ ∀ e ∈ earlier, Apart e d := by
  have paths : earlier.any (·.path = d.path) = true ↔ ∃ e ∈ earlier, e.path = d.path := by simp
  have jobs : earlier.any (·.jobId "" = d.jobId "") = true ↔
      ∃ e ∈ earlier, Disk.jobName e.device = Disk.jobName d.device := by
    simp [Disk.jobId_eq_iff]
  have isLocal : (!d.isLocal) = true ↔ d.backend ≠ .localStorage := by simp [Disk.isLocal]
  unfold diskFault?
  constructor
  · intro sound
    split at sound
    · cases sound
    split at sound
    · cases sound
    split at sound
    · cases sound
    split at sound
    · cases sound
    · next near path device job =>
      refine ⟨⟨not_not.mp (mt isLocal.mpr near), device⟩, fun e listed => ⟨?_, ?_⟩⟩
      · exact fun same => path (paths.mpr ⟨e, listed, same⟩)
      · exact fun same => job (jobs.mpr ⟨e, listed, same⟩)
  · rintro ⟨⟨near, device⟩, apart⟩
    have path : ¬ ∃ e ∈ earlier, e.path = d.path := fun ⟨e, listed, same⟩ => (apart e listed).1 same
    have job : ¬ ∃ e ∈ earlier, Disk.jobName e.device = Disk.jobName d.device :=
      fun ⟨e, listed, same⟩ => (apart e listed).2 same
    rw [if_neg (mt isLocal.mp (not_not.mpr near)), if_neg (mt paths.mp path), if_neg device,
      if_neg (mt jobs.mp job)]

/-- Disks pass the check exactly if each can be moved and is apart from those in front of it. -/
theorem checkDisks_eq_ok_iff : checkDisks earlier rest = .ok () ↔
    (∀ d ∈ rest, IsMovable d) ∧ rest.Pairwise Apart ∧ ∀ e ∈ earlier, ∀ d ∈ rest, Apart e d := by
  induction rest generalizing earlier with
  | nil => simp [checkDisks]
  | cons d rest ih =>
    have step : checkDisks earlier (d :: rest) = .ok () ↔
        diskFault? earlier d = none ∧ checkDisks (earlier ++ [d]) rest = .ok () := by
      rw [checkDisks]
      split
      · next reason fault =>
        refine iff_of_false (fun ok => ?_) fun sound => ?_
        · cases ok
        · cases fault.symm.trans sound.1
      · next sound => exact (and_iff_right sound).symm
    rw [step, diskFault?_eq_none_iff, ih, List.forall_mem_cons, List.pairwise_cons]
    constructor
    · rintro ⟨⟨movable, before⟩, others, distinct, behind⟩
      refine ⟨⟨movable, others⟩, ⟨behind d (by simp), distinct⟩, fun e listed => ?_⟩
      exact List.forall_mem_cons.mpr ⟨before e listed, behind e (List.mem_append_left _ listed)⟩
    · rintro ⟨⟨movable, others⟩, ⟨behind, distinct⟩, before⟩
      refine ⟨⟨movable, fun e listed => before e listed d List.mem_cons_self⟩, others, distinct, ?_⟩
      intro e listed f later
      rcases List.mem_append.mp listed with front | last
      · exact before e front f (List.mem_cons_of_mem _ later)
      · obtain rfl := List.mem_singleton.mp last
        exact behind f later

/-- Options that a migration can be carried out with. -/
structure IsSafe (o : MigrationOptions) : Prop where
  name : IsPlainName o.vmName
  addressed : o.dstAddrs ≠ []
  movable : ∀ d ∈ o.disks, d.backend = .localStorage ∧ d.device ≠ ""
  paths : (o.disks.map (·.path)).Nodup
  devices : (o.disks.map fun d => Disk.jobName d.device).Nodup

/-- Options are accepted exactly if they are safe. -/
theorem validate_eq_ok_iff : o.validate = .ok () ↔ o.IsSafe := by
  have split : o.validate = .ok () ↔
      checkVmName o.vmName = .ok () ∧ o.dstAddrs ≠ [] ∧ checkDisks [] o.disks = .ok () := by
    rw [validate]
    split
    · next e refused =>
      refine iff_of_false (fun ok => ?_) fun sound => ?_
      · cases ok
      · cases refused.symm.trans sound.1
    · next usable =>
      by_cases missing : o.dstAddrs = []
      · rw [if_pos missing]
        refine iff_of_false (fun ok => ?_) fun sound => sound.2.1 missing
        cases ok
      · rw [if_neg missing]
        exact ⟨fun disks => ⟨usable, missing, disks⟩, fun sound => sound.2.2⟩
  rw [split, checkVmName_eq_ok_iff, checkDisks_eq_ok_iff]
  constructor
  · rintro ⟨name, addressed, movable, distinct, -⟩
    exact ⟨name, addressed, movable, List.pairwise_map.mpr (distinct.imp And.left),
      List.pairwise_map.mpr (distinct.imp And.right)⟩
  · rintro ⟨name, addressed, movable, paths, devices⟩
    exact ⟨name, addressed, movable,
      (List.pairwise_map.mp paths).and (List.pairwise_map.mp devices), List.forall_mem_nil _⟩

/-- The disks of accepted options have paths of their own. -/
theorem paths_nodup (valid : o.validate = .ok ()) : (o.disks.map (·.path)).Nodup :=
  (validate_eq_ok_iff.mp valid).paths

/-- The jobs of the disks of accepted options have identifiers of their own, whatever the work. -/
theorem jobIds_nodup (valid : o.validate = .ok ()) (work : String) :
    (o.disks.map (·.jobId work)).Nodup := by
  have devices := List.pairwise_map.mp (validate_eq_ok_iff.mp valid).devices
  exact List.pairwise_map.mpr (devices.imp fun apart same =>
    apart ((Disk.jobId_eq_iff _ _ _).mp same))

/-! ## Destinations -/

/-- The renames give no disk the destination of another one. -/
structure RenamesApart (o : MigrationOptions) : Prop where
  /-- No two disks are renamed alike. -/
  renamed : ∀ d ∈ o.disks, ∀ e ∈ o.disks, ∀ path, o.overrides.disks.get? d.path = some path →
    o.overrides.disks.get? e.path = some path → d.path = e.path
  /-- No disk takes the path of one that keeps it. -/
  kept : ∀ d ∈ o.disks, ∀ e ∈ o.disks, o.overrides.disks.get? d.path = some e.path →
    o.overrides.disks.get? e.path ≠ none

theorem dstDiskPath_of_renamed {path : String}
    (renamed : o.overrides.disks.get? d.path = some path) :
    o.dstDiskPath d = path := by
  rw [dstDiskPath, renamed, Option.getD_some]

theorem dstDiskPath_of_kept (kept : o.overrides.disks.get? d.path = none) :
    o.dstDiskPath d = d.path := by
  rw [dstDiskPath, kept, Option.getD_none]

/-- A disk with the destination of another one is that disk, if the renames keep them apart. -/
theorem RenamesApart.path_eq (apart : o.RenamesApart) {e : Disk} (here : d ∈ o.disks)
    (there : e ∈ o.disks) (same : o.dstDiskPath d = o.dstDiskPath e) : d.path = e.path := by
  cases renamed : o.overrides.disks.get? d.path with
  | none =>
    rw [dstDiskPath_of_kept renamed] at same
    cases other : o.overrides.disks.get? e.path with
    | none => rw [same, dstDiskPath_of_kept other]
    | some path =>
      rw [dstDiskPath_of_renamed other] at same
      exact absurd renamed (apart.kept e there d here (same ▸ other))
  | some path =>
    rw [dstDiskPath_of_renamed renamed] at same
    cases other : o.overrides.disks.get? e.path with
    | none =>
      rw [dstDiskPath_of_kept other] at same
      exact absurd other (apart.kept d here e there (same ▸ renamed))
    | some path' =>
      rw [dstDiskPath_of_renamed other] at same
      exact apart.renamed d here e there path renamed (same ▸ other)

/-- The disks of accepted options have destinations of their own exactly if the renames keep them
apart. -/
theorem dstDiskPaths_nodup_iff (valid : o.validate = .ok ()) :
    o.dstDiskPaths.Nodup ↔ o.RenamesApart := by
  have paths := paths_nodup valid
  have disks : o.disks.Nodup := paths.of_map
  rw [dstDiskPaths, List.nodup_map_iff_inj_on disks]
  constructor
  · intro apart
    refine ⟨fun d here e there path renamed alike => ?_, fun d here e there taken keeps => ?_⟩
    · have same : o.dstDiskPath d = o.dstDiskPath e := by
        rw [dstDiskPath_of_renamed renamed, dstDiskPath_of_renamed alike]
      rw [apart d here e there same]
    · have same : o.dstDiskPath d = o.dstDiskPath e := by
        rw [dstDiskPath_of_renamed taken, dstDiskPath_of_kept keeps]
      obtain rfl := apart d here e there same
      rw [taken] at keeps
      cases keeps
  · intro apart d here e there same
    exact (List.nodup_map_iff_inj_on disks).mp paths d here e there (apart.path_eq here there same)

/-- The request for room names every disk with its size, if every disk has a destination of its
own. -/
theorem capacities_perm (apart : o.dstDiskPaths.Nodup) :
    o.capacities.entries.Perm (o.disks.map fun d => (o.dstDiskPath d, d.virtualSize)) := by
  refine OrderedMap.entries_ofList ?_
  rw [List.map_map]
  exact apart

end MigrationOptions

end VmControl
