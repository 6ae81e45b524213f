import VmControl.Proofs.Options

/-!
# What accepted options are good for

Options are accepted exactly if they are safe, so it does not matter in which order their disks are
listed (`MigrationOptions.IsSafe.perm`). Every job of an accepted migration can be addressed: its
identifier is made of characters that an identifier admits (`Disk.jobName_chars`), no other disk has
it, and no disk copy has it, since the words for the two kinds of work differ
(`Disk.mirrorJob_ne_copyJob`).
-/

namespace VmControl

namespace Disk

/-- Behind the word for the work and an underscore, an identifier holds what stands for the
device. -/
theorem toList_jobId (d : Disk) (work : String) :
    (d.jobId work).toList = work.toList ++ '_' :: (jobName d.device).toList := by
  simp [jobId]

/-- What stands for a device holds letters and digits of ASCII, dashes, points and underscores
only. -/
theorem jobName_chars (device : String) : ∀ c ∈ (jobName device).toList,
    c.isAlphanum = true ∨ c = '-' ∨ c = '.' ∨ c = '_' := by
  intro c listed
  rw [jobName, String.toList_ofList] at listed
  obtain ⟨d, -, rfl⟩ := List.mem_map.mp listed
  have admitted := isIdChar_jobChar d
  simpa [isIdChar, or_assoc] using admitted

/-- The job that mirrors a disk is not the one that copies a disk. -/
theorem mirrorJob_ne_copyJob (d e : Disk) : d.mirrorJob ≠ e.copyJob := by
  intro same
  have chars := congrArg String.toList same
  rw [mirrorJob, copyJob, toList_jobId, toList_jobId] at chars
  exact absurd (List.cons.inj chars).1 (by decide)

end Disk

namespace MigrationOptions

variable {o : MigrationOptions} {disks : List Disk}

/-- Options stay safe when their disks are listed in another order. -/
theorem IsSafe.perm (safe : o.IsSafe) (order : disks.Perm o.disks) :
    IsSafe { o with disks := disks } where
  name := safe.name
  addressed := safe.addressed
  movable d listed := safe.movable d (order.mem_iff.mp listed)
  paths := (order.map _).nodup_iff.mpr safe.paths
  devices := (order.map _).nodup_iff.mpr safe.devices

theorem isSafe_perm_iff (order : disks.Perm o.disks) :
    IsSafe { o with disks := disks } ↔ o.IsSafe :=
  ⟨fun safe => safe.perm order.symm, fun safe => safe.perm order⟩

/-- Options are accepted exactly if they are safe, in whatever order the disks are listed. The jobs
of the disks of accepted options then have identifiers of their own for any kind of work, made of
the word for the work, an underscore and characters that an identifier admits, and no mirror has the
one of a copy. -/
theorem accepts_safe (o : MigrationOptions) :
    (o.validate = .ok () ↔ o.IsSafe) ∧
    (∀ disks, disks.Perm o.disks →
      (MigrationOptions.validate { o with disks := disks } = .ok () ↔ o.validate = .ok ())) ∧
    (o.validate = .ok () → ∀ work,
      (o.disks.map (·.jobId work)).Nodup ∧
      (∀ d ∈ o.disks, ∃ device : List Char, (d.jobId work).toList = work.toList ++ '_' :: device ∧
        ∀ c ∈ device, c.isAlphanum = true ∨ c = '-' ∨ c = '.' ∨ c = '_') ∧
      ∀ d ∈ o.disks, ∀ e : Disk, d.mirrorJob ≠ e.copyJob) := by
  refine ⟨validate_eq_ok_iff, fun disks order => ?_, fun valid work =>
    ⟨jobIds_nodup valid work, fun d _ => ?_, ?_⟩⟩
  · rw [validate_eq_ok_iff, validate_eq_ok_iff]
    exact isSafe_perm_iff order
  · exact ⟨_, d.toList_jobId work, Disk.jobName_chars d.device⟩
  · exact fun d _ e => d.mirrorJob_ne_copyJob e

end MigrationOptions

namespace Sample

/-- A machine with two disks whose devices are told by paths. -/
def peripherals : MigrationOptions where
  vmName := "web"
  dstServer := "target"
  dstAddrs := [.v4 10 0 0 2]
  manifest := []
  extraFiles := .empty
  disks := [⟨"/dev/vg/root", "/machine/disk0", .localStorage, 4096, []⟩,
    ⟨"/dev/vg/data", "/machine/disk1", .localStorage, 4096, []⟩]
  overrides := .none

theorem peripherals_safe : peripherals.IsSafe where
  name := checkVmName_eq_ok_iff.mp rfl
  addressed := List.cons_ne_nil _ _
  movable := by decide
  paths := by decide
  devices := by decide

/-- Its options are accepted in either order, and its jobs are told apart. -/
theorem peripherals_accepted : peripherals.validate = .ok () ∧
    MigrationOptions.validate { peripherals with disks := peripherals.disks.reverse } = .ok () ∧
    (peripherals.disks.map (·.jobId "migr")).Nodup ∧
    ∀ d ∈ peripherals.disks, ∀ e ∈ peripherals.disks, d.mirrorJob ≠ e.copyJob := by
  obtain ⟨accepted, order, jobs⟩ := peripherals.accepts_safe
  have valid := accepted.mpr peripherals_safe
  obtain ⟨distinct, -, mirrors⟩ := jobs valid "migr"
  exact ⟨valid, (order _ (List.reverse_perm _)).mpr valid, distinct,
    fun d listed e _ => mirrors d listed e⟩

end Sample

end VmControl
