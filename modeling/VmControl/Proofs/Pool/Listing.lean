import Mathlib.Data.List.Nodup
import VmControl.Proofs.Pool.Exclusion
import VmControl.Proofs.Pool.Overlap

/-!
# The listing of the tasks

A host lists its registered tasks by the texts of their identifiers, so a task is only listed if no
other one is written alike. The machine of a copy stands behind a separator, and names of machines
may hold that separator themselves. So two copies are written alike exactly if a part of the text
belongs to the disk of the one and to the machine of the other (`Work.text_id_eq_iff`), and the
listing is complete exactly if no two registered copies are in this relation
(`Host.Run.flags_listing`). Nothing keeps such copies apart: a host may have two copies in progress
and list one (`Sample.alike_unlisted`).
-/

namespace VmControl

/-- A text that is cut in two at a separator in two ways: a part of it changes sides. -/
theorem Text.cuts_of_append_cons_eq {α : Type} {c : α} {a b front back : List α}
    (same : a ++ c :: b = front ++ c :: back) : a = front ∧ b = back ∨
      (∃ part, a = front ++ c :: part ∧ back = part ++ c :: b) ∨
      ∃ part, front = a ++ c :: part ∧ b = part ++ c :: back := by
  rcases List.append_eq_append_iff.mp same with ⟨rest, rfl, tail⟩ | ⟨rest, rfl, tail⟩
  · cases rest with
    | nil => exact .inl ⟨(List.append_nil a).symm, (List.cons.inj tail).2⟩
    | cons d part =>
      obtain ⟨rfl, behind⟩ := List.cons.inj tail
      exact .inr (.inr ⟨part, rfl, behind⟩)
  · cases rest with
    | nil => exact .inl ⟨List.append_nil front, (List.cons.inj tail).2.symm⟩
    | cons d part =>
      obtain ⟨rfl, behind⟩ := List.cons.inj tail
      exact .inr (.inl ⟨part, rfl, behind⟩)

/-! ## How identifiers are written -/

namespace TaskId

/-- Two identifiers of copies are written alike although they differ: a part of the text belongs to
the disk of the one and to the machine of the other. -/
inductive Alias : TaskId → TaskId → Prop
  | shifted (disk part vm : String) :
      Alias (.diskCopying (disk ++ "@" ++ part) vm) (.diskCopying disk (part ++ "@" ++ vm))

variable {a b : TaskId} {disk vm disk' vm' : String}

theorem Alias.text_eq (alike : a.Alias b) : a.text = b.text := by
  obtain ⟨disk, part, vm⟩ := alike
  simp only [text, diskCopying, String.append_assoc]

theorem Alias.of_toList {part : List Char} (disks : disk.toList = disk'.toList ++ '@' :: part)
    (vms : vm'.toList = part ++ '@' :: vm.toList) :
    (diskCopying disk vm).Alias (diskCopying disk' vm') := by
  obtain rfl : disk = disk' ++ "@" ++ String.ofList part := by
    apply String.toList_inj.mp
    simp [disks]
  obtain rfl : vm' = String.ofList part ++ "@" ++ vm := by
    apply String.toList_inj.mp
    simp [vms]
  exact .shifted disk' (String.ofList part) vm

theorem Alias.ne (alike : a.Alias b) : a ≠ b := by
  obtain ⟨disk, part, vm⟩ := alike
  intro same
  have lengths := congrArg (·.object.toList.length) same
  simp [diskCopying] at lengths

/-- The machine to which the part belongs has a name with a separator. -/
theorem Alias.separator (alike : a.Alias (diskCopying disk vm)) : '@' ∈ vm.toList := by
  generalize named : diskCopying disk vm = b at alike
  obtain ⟨disk', part, vm'⟩ := alike
  cases named
  simp

theorem toList_text_migration (vm : String) :
    (migration vm).text.toList = "migration:".toList ++ vm.toList := by
  simp [text, migration, TaskKind.name]

theorem toList_text_diskCopying (disk vm : String) : (diskCopying disk vm).text.toList =
    "disk-copying:".toList ++ (disk.toList ++ '@' :: vm.toList) := by
  simp [text, diskCopying, TaskKind.name]

theorem text_migration_inj {vm vm' : String} (same : (migration vm).text = (migration vm').text) :
    migration vm = migration vm' := by
  have chars := congrArg String.toList same
  rw [toList_text_migration, toList_text_migration] at chars
  rw [String.toList_inj.mp (List.append_cancel_left chars)]

theorem text_migration_ne (vm disk vm' : String) :
    (migration vm).text ≠ (diskCopying disk vm').text := by
  intro same
  have chars := congrArg String.toList same
  rw [toList_text_migration, toList_text_diskCopying] at chars
  exact absurd (List.cons.inj chars).1 (by decide)

/-- Copies that are written alike have the same disk and machine, or a part changes sides. -/
theorem eq_or_alias_of_text_eq (same : (diskCopying disk vm).text = (diskCopying disk' vm').text) :
    diskCopying disk vm = diskCopying disk' vm' ∨
      (diskCopying disk vm).Alias (diskCopying disk' vm') ∨
      (diskCopying disk' vm').Alias (diskCopying disk vm) := by
  have chars := congrArg String.toList same
  rw [toList_text_diskCopying, toList_text_diskCopying] at chars
  rcases Text.cuts_of_append_cons_eq (List.append_cancel_left chars) with
    ⟨disks, vms⟩ | ⟨part, disks, vms⟩ | ⟨part, disks, vms⟩
  · rw [String.toList_inj.mp disks, String.toList_inj.mp vms]
    exact .inl rfl
  · exact .inr (.inl (.of_toList disks vms))
  · exact .inr (.inr (.of_toList disks vms))

end TaskId

/-- Tasks are written alike if they have one identifier, or a part of it changes sides. -/
theorem Work.text_id_eq_iff {w w' : Work} :
    w.id.text = w'.id.text ↔ w.id = w'.id ∨ w.id.Alias w'.id ∨ w'.id.Alias w.id := by
  constructor
  · intro same
    cases w with
    | migration r =>
      cases w' with
      | migration r' => exact .inl (TaskId.text_migration_inj same)
      | copying r' => exact (TaskId.text_migration_ne _ _ _ same).elim
    | copying r =>
      cases w' with
      | migration r' => exact (TaskId.text_migration_ne _ _ _ same.symm).elim
      | copying r' => exact TaskId.eq_or_alias_of_text_eq same
  · rintro (same | alike | alike)
    · rw [same]
    · exact alike.text_eq
    · exact alike.text_eq.symm

/-! ## Each identifier is registered once -/

namespace TaskTable

variable {t : TaskTable} {id : TaskId} {number : Nat}

theorem place_perm (entry : TaskId × Nat) (entries : List (TaskId × Nat)) :
    (place entry entries).Perm (entry :: entries) := by
  induction entries with
  | nil => exact .refl _
  | cons first rest ih =>
    rw [place]
    split
    · exact .refl _
    · exact (ih.cons first).trans (.swap _ _ _)

/-- Each identifier is there once. -/
def Distinct (t : TaskTable) : Prop := (t.entries.map (·.1)).Nodup

theorem Distinct.without (distinct : t.Distinct) (id : TaskId) :
    ((without id t.entries).map (·.1)).Nodup :=
  distinct.sublist (List.filter_sublist.map _)

theorem Distinct.insert (distinct : t.Distinct) : (t.insert id number).Distinct := by
  have placed := (place_perm (id, number) (TaskTable.without id t.entries)).map (·.1)
  refine placed.nodup_iff.mpr (List.nodup_cons.mpr ⟨fun there => ?_, distinct.without id⟩)
  obtain ⟨entry, kept, same⟩ := List.mem_map.mp there
  exact absurd same (of_decide_eq_true (List.mem_filter.mp kept).2)

theorem Distinct.release (distinct : t.Distinct) : (t.release id number).Distinct := by
  unfold TaskTable.release
  split
  · exact distinct.without id
  · exact distinct

/-- What is registered under an identifier is found there. -/
theorem Distinct.get? (distinct : t.Distinct) (listed : (id, number) ∈ t.entries) :
    t.get? id = some number := by
  obtain ⟨before, after, split⟩ := List.append_of_mem listed
  rw [Distinct, split, List.map_append, List.map_cons] at distinct
  refine List.lookup_eq_some_iff.mpr ⟨before, after, split, fun entry earlier => ?_⟩
  have apart := (List.nodup_append.mp distinct).2.2 entry.1 (List.mem_map_of_mem earlier) id
    List.mem_cons_self
  exact bne_iff_ne.mpr apart.symm

end TaskTable

namespace Pool

variable {p q : Pool}

theorem Change.distinct (change : p.Change q) (distinct : p.table.Distinct) : q.table.Distinct := by
  cases change with
  | nothing | setJob => exact distinct
  | start => exact distinct.insert
  | unregister => exact distinct.release

/-! ## What is listed -/

/-- A task is registered. -/
def Registered (p : Pool) (j : Job) : Prop := ∃ number, p.find? j.id = some (number, j)

/-- The listing is complete: it has the entries of the registered tasks, one for each of them, and
no two of these are written alike. -/
structure ListsAll (p : Pool) : Prop where
  entries : p.flags.entries.Perm (p.table.entries.map fun entry => (entry.1.text, p.isBusy entry.2))
  apart : ∀ j k, p.Registered j → p.Registered k → j.id.text = k.id.text → j.id = k.id

/-- What the table holds is a registered task. -/
theorem Sound.registered_of_mem (sound : p.Sound) (distinct : p.table.Distinct)
    {entry : TaskId × Nat} (listed : entry ∈ p.table.entries) :
    ∃ j, p.Registered j ∧ j.id = entry.1 ∧ j.inProgress = p.isBusy entry.2 := by
  obtain ⟨id, number⟩ := entry
  obtain ⟨j, here, rfl⟩ := sound.entered (id, number) listed
  refine ⟨j, ⟨number, ?_⟩, rfl, ?_⟩
  · unfold Pool.find?
    rw [distinct.get? listed]
    dsimp only
    rw [here, Option.map_some]
  · rw [isBusy, here, Option.any_some]

theorem Registered.mem {j : Job} (registered : p.Registered j) :
    ∃ number, (j.id, number) ∈ p.table.entries ∧ p.jobs[number]? = some j := by
  obtain ⟨number, found⟩ := registered
  unfold Pool.find? at found
  split at found
  · next n there =>
    obtain ⟨k, here, same⟩ := Option.map_eq_some_iff.mp found
    cases same
    exact ⟨number, TaskTable.mem_of_get? there, here⟩
  · cases found

theorem Registered.vm_mem {j : Job} (registered : p.Registered j) : j.vm ∈ p.jobs.map (·.vm) := by
  obtain ⟨number, -, here⟩ := registered.mem
  exact List.mem_map_of_mem (List.mem_of_getElem? here)

theorem Registered.own {j : Job} (registered : p.Registered j) (sound : p.Sound) :
    j.id = j.work.id := by
  obtain ⟨number, -, here⟩ := registered.mem
  exact (sound.jobs number j here).own

/-- An entry of the listing is that of a registered task. -/
theorem Sound.of_mem_flags (sound : p.Sound) (distinct : p.table.Distinct) {text : String}
    {flag : Bool} (shown : (text, flag) ∈ p.flags.entries) :
    ∃ j, p.Registered j ∧ j.id.text = text ∧ j.inProgress = flag := by
  obtain ⟨entry, listed, same⟩ := List.mem_map.mp (OrderedMap.mem_of_mem_ofList shown)
  obtain ⟨rfl, rfl⟩ := Prod.mk.inj same
  obtain ⟨j, registered, named, busy⟩ := sound.registered_of_mem distinct listed
  exact ⟨j, registered, by rw [named], busy⟩

/-- The text of every registered task is listed. -/
theorem Registered.mem_flags {j : Job} (registered : p.Registered j) :
    j.id.text ∈ p.flags.keys := by
  obtain ⟨number, listed, -⟩ := registered.mem
  refine OrderedMap.mem_keys_ofList.mpr (List.mem_map.mpr ⟨(j.id.text, p.isBusy number), ?_, rfl⟩)
  exact List.mem_map.mpr ⟨(j.id, number), listed, rfl⟩

/-- Where no two registered tasks are written alike, all of them are listed. -/
theorem Sound.listsAll (sound : p.Sound) (distinct : p.table.Distinct)
    (apart : ∀ j k, p.Registered j → p.Registered k → j.id.text = k.id.text → j.id = k.id) :
    p.ListsAll := by
  refine ⟨OrderedMap.entries_ofList ?_, apart⟩
  have texts : ((p.table.entries.map (·.1)).map TaskId.text).Nodup := by
    refine List.Nodup.map_on (fun a there b there' same => ?_) distinct
    obtain ⟨entry, listed, rfl⟩ := List.mem_map.mp there
    obtain ⟨entry', listed', rfl⟩ := List.mem_map.mp there'
    obtain ⟨j, registered, named, -⟩ := sound.registered_of_mem distinct listed
    obtain ⟨k, registered', named', -⟩ := sound.registered_of_mem distinct listed'
    rw [← named, ← named'] at same ⊢
    exact apart j k registered registered' same
  rwa [List.map_map] at texts ⊢

/-- The listing is complete exactly if no part of the text of a registered copy changes sides in
that of another one. -/
theorem Sound.listsAll_iff (sound : p.Sound) (distinct : p.table.Distinct) :
    p.ListsAll ↔ ∀ j k, p.Registered j → p.Registered k → ¬ j.id.Alias k.id := by
  constructor
  · intro complete j k registered registered' alike
    exact alike.ne (complete.apart j k registered registered' alike.text_eq)
  · intro free
    refine sound.listsAll distinct fun j k registered registered' same => ?_
    have own := registered.own sound
    have own' := registered'.own sound
    rw [own, own'] at same
    rcases Work.text_id_eq_iff.mp same with equal | alike | alike <;> rw [← own, ← own'] at *
    · exact equal
    · exact absurd alike (free j k registered registered')
    · exact absurd alike (free k j registered' registered)

/-- A task that is written like another one, with the part in its machine, has a machine whose name
holds a separator. -/
theorem Registered.separator {j : Job} {id : TaskId} (registered : p.Registered j) (sound : p.Sound)
    (alike : id.Alias j.id) : '@' ∈ j.vm.toList := by
  rw [registered.own sound] at alike
  cases work : j.work with
  | migration r =>
    rw [work] at alike
    nomatch alike
  | copying r =>
    rw [work] at alike
    rw [Job.vm, work]
    exact alike.separator

end Pool

namespace Host

variable {config : Config} {past : List Moment} {h : Host}

/-- Each identifier is registered once. -/
theorem Run.distinct (run : Run config past h) : h.pool.table.Distinct := by
  induction run with
  | new => exact List.nodup_nil
  | step run moved ih => exact (Step.change run.sound (step?_cases moved)).distinct ih

/-- The listing of a host shows the texts of its registered tasks and whether these are in progress.
It has an entry for each registered task, and no two of these are written alike, exactly if there
are no two copies among them of which a part of the text belongs to the disk of the one and to the
machine of the other; there are none where no name of a machine holds a separator. -/
theorem Run.flags_listing (run : Run config past h) :
    h.pool.table.Distinct ∧
    (∀ text flag, (text, flag) ∈ h.pool.flags.entries →
      ∃ j, h.pool.Registered j ∧ j.id.text = text ∧ j.inProgress = flag) ∧
    (∀ j, h.pool.Registered j → j.id.text ∈ h.pool.flags.keys) ∧
    (h.pool.ListsAll ↔
      ∀ j k, h.pool.Registered j → h.pool.Registered k → ¬ j.id.Alias k.id) ∧
    ((∀ j, h.pool.Registered j → '@' ∉ j.vm.toList) → h.pool.ListsAll) := by
  have sound := run.sound.pool
  have iff := sound.listsAll_iff run.distinct
  refine ⟨run.distinct, fun _ _ => sound.of_mem_flags run.distinct,
    fun _ => Pool.Registered.mem_flags, iff, fun plain => iff.mpr fun j k _ registered alike => ?_⟩
  exact plain k registered (registered.separator sound alike)

end Host

namespace Sample

/-- Of each of two machines a disk is to be copied. -/
def copiesOn (vm disk vm' disk' : String) : List Host.Move :=
  let found := { surroundings 0 with registry := (Registry.empty.register vm 0).register vm' 1 }
  [.call found
      (.startCopying { copying with vmName := vm, disk := { Sample.disk with path := disk } }),
    .call found
      (.startCopying { copying with vmName := vm', disk := { Sample.disk with path := disk' } })]

theorem apart_replayable :
    ((Host.new .default).replay? (copiesOn "web" "/dev/vg@1/root" "db" "/dev/vg@1/data")).isSome :=
  rfl

/-- The moves with what they found, and the host after them. -/
def writtenApart : List Host.Moment × Host := Option.get _ apart_replayable

theorem writtenApart_run : Host.Run .default writtenApart.1 writtenApart.2 :=
  .of_replay? apart_replayable

/-- Separators in disks do no harm. -/
theorem writtenApart_listed :
    writtenApart.2.pool.flags.entries =
      [("disk-copying:/dev/vg@1/data@db", true), ("disk-copying:/dev/vg@1/root@web", true)] ∧
    writtenApart.2.pool.ListsAll := by
  refine ⟨rfl, writtenApart_run.flags_listing.2.2.2.2 fun j registered => ?_⟩
  have named : j.vm ∈ ["web", "db"] := registered.vm_mem
  simp only [List.mem_cons, List.not_mem_nil, or_false] at named
  rcases named with vm | vm <;> rw [vm] <;> decide

theorem alike_replayable : ((Host.new .default).replay? (copiesOn "b@c" "a" "c" "a@b")).isSome :=
  rfl

/-- The moves with what they found, and the host after them. -/
def writtenAlike : List Host.Moment × Host := Option.get _ alike_replayable

theorem writtenAlike_run : Host.Run .default writtenAlike.1 writtenAlike.2 :=
  .of_replay? alike_replayable

/-- Two copies are in progress, of machines whose names are accepted, and one of them is listed. -/
theorem alike_unlisted : ¬ ∀ config past h, Host.Run config past h →
    (∀ j, h.pool.Registered j → checkVmName j.vm = .ok ()) → h.pool.ListsAll := by
  intro always
  have complete := always _ _ _ writtenAlike_run fun j registered => by
    have named : j.vm ∈ ["b@c", "c"] := registered.vm_mem
    simp only [List.mem_cons, List.not_mem_nil, or_false] at named
    rcases named with vm | vm <;> rw [vm] <;> rfl
  have listed : writtenAlike.2.pool.flags.entries = [("disk-copying:a@b@c", true)] := rfl
  have registered : writtenAlike.2.pool.table.entries.length = 2 := rfl
  have lengths := complete.entries.length_eq
  rw [listed, List.length_map, registered] at lengths
  cases lengths

end Sample

end VmControl
