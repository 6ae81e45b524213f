import VmControl.Gateway.Call
import VmControl.Proofs.Copy.Backups
import VmControl.Proofs.Past
import VmControl.Proofs.Task.Interruption

/-!
# What incremental copies build on

A disk is copied again and again, each time after its bitmaps were looked up. An incremental copy
takes what has changed since the bitmap was attached or cleared, which comes with a full copy; but
whether that full copy came to its end is not looked at.

* `CopyTask`: a copy of a disk, from the listing of the disks of its machine to its end.
* `CopyTask.Series`: at each copy the bitmap is attached exactly if an earlier copy has had it
  attached or cleared.
* `CopyTask.Base`: the full copy on which an incremental one builds.
* `CopyTask.Series.incremental_iff`: when a copy is incremental, and when its base is complete.
-/

namespace VmControl

/-- What a copy is to do; a migration is to do something else. -/
def Work.copyOptions? : Work → Option CopyOptions
  | .migration _ => none
  | .copying r => some r.plan.options

/-- A copy of a disk of a machine, with a bitmap, that has come to its end. -/
structure CopyTask (vm path bitmap : String) where
  request : CopyRequest
  named : request.bitmapName = bitmap
  /-- The listing of the disks that was asked for when the request came in. -/
  listing : Json
  disks : List Disk
  listed : BlockDevice.disks listing = .ok disks
  options : CopyOptions
  chosen : GatewayCall.copyOptions vm path request disks = .ok options
  past : List Job.Moment
  job : Job
  life : Job.Life past job
  work : job.work.copyOptions? = some options
  ended : job.inProgress = false
  /-- Whether the monitor has carried out the transaction of a full copy. Where its answer was lost,
  nobody else knows. -/
  rebased : Bool
  ordered : rebased = true → ∃ o ∈ Job.orders past, o.isFull = true
  accepted : options.mode ≠ .incremental → Job.Accepted past → rebased = true
  refused : Job.Refused past → rebased = false

namespace CopyTask

variable {vm path bitmap : String}

def status (t : CopyTask vm path bitmap) : TaskStatus := t.job.work.status

/-- A copy has ordered a backup of what the bitmap has recorded. -/
def Incremental (t : CopyTask vm path bitmap) : Prop :=
  ∃ o ∈ Job.orders t.past, o.isIncremental = true

/-- A copy has ordered a backup, of whatever kind. -/
def Backs (t : CopyTask vm path bitmap) : Prop :=
  ∃ o ∈ Job.orders t.past, o.isIncremental = true ∨ o.isFull = true

/-- The last copy with which the bitmap was attached or cleared. -/
def Base (earlier : List (CopyTask vm path bitmap)) (base : CopyTask vm path bitmap) : Prop :=
  ∃ before after, earlier = before ++ base :: after ∧ base.rebased = true ∧
    ∀ t ∈ after, t.rebased = false

/-- The bitmap was attached or cleared with a full copy that was not completed, and no full copy has
been completed since. -/
def Unfinished (earlier : List (CopyTask vm path bitmap)) : Prop :=
  ∃ before base after, earlier = before ++ base :: after ∧ base.rebased = true ∧
    base.status ≠ .completed ∧ ∀ t ∈ after, t.options.mode ≠ .incremental → t.status ≠ .completed

/-- Copies one after the other, oldest first. No bitmap is attached in the beginning, and what is
attached or cleared stays so: each listing tells of the bitmap exactly if an earlier copy has had it
attached or cleared. -/
def Series (tasks : List (CopyTask vm path bitmap)) : Prop :=
  Throughout (fun earlier t =>
    t.options.disk.hasBitmap bitmap = true ↔ ∃ base ∈ earlier, base.rebased = true) tasks

variable {t : CopyTask vm path bitmap} {earlier : List (CopyTask vm path bitmap)}

theorem exists_base (some : ∃ base ∈ earlier, base.rebased = true) : ∃ base, Base earlier base := by
  induction earlier with
  | nil =>
    obtain ⟨_, here, -⟩ := some
    cases here
  | cons first rest ih =>
    by_cases later : ∃ base ∈ rest, base.rebased = true
    · obtain ⟨base, before, after, rfl, rebased, last⟩ := ih later
      exact ⟨base, first :: before, after, rfl, rebased, last⟩
    · have none (u : CopyTask vm path bitmap) (here : u ∈ rest) : u.rebased = false := by
        by_contra rebased
        exact later ⟨u, here, Bool.of_not_eq_false rebased⟩
      obtain ⟨base, here, rebased⟩ := some
      rcases List.mem_cons.mp here with rfl | here
      · exact ⟨base, [], rest, rfl, rebased, none⟩
      · exact absurd ⟨base, here, rebased⟩ later

theorem Base.rebased {base : CopyTask vm path bitmap} (is : Base earlier base) :
    ∃ base ∈ earlier, base.rebased = true := by
  obtain ⟨before, after, rfl, rebased, -⟩ := is
  exact ⟨base, List.mem_append_right _ List.mem_cons_self, rebased⟩

/-- A copy is told by its request which bitmap it is for and whether to clear it. -/
theorem options_eq (t : CopyTask vm path bitmap) :
    t.options.bitmapName = bitmap ∧ t.options.resetBitmap = t.request.resetBitmap := by
  have chosen := t.chosen
  unfold GatewayCall.copyOptions at chosen
  split at chosen
  · cases chosen
  · rw [← Except.ok.inj chosen]
    exact ⟨t.named, rfl⟩

/-- A copy is incremental exactly if the listing has told of the bitmap and nobody has asked to
clear it. -/
theorem mode_iff : t.options.mode = .incremental ↔
    t.options.disk.hasBitmap bitmap = true ∧ t.request.resetBitmap = false := by
  obtain ⟨name, reset⟩ := t.options_eq
  rw [CopyOptions.mode, CopyMode.select_eq_incremental_iff, name, reset]

theorem exists_run (t : CopyTask vm path bitmap) :
    ∃ r : CopyRun, t.job.work = .copying r ∧ r.plan.options = t.options := by
  have work := t.work
  cases which : t.job.work with
  | migration r =>
    rw [which] at work
    cases work
  | copying r =>
    rw [which] at work
    exact ⟨r, rfl, Option.some.inj work⟩

theorem suits (t : CopyTask vm path bitmap) : ∀ o ∈ Job.orders t.past, o.Suits t.options.mode := by
  obtain ⟨r, work, plan⟩ := t.exists_run
  have backs := t.life.backs
  rw [work] at backs
  rw [← plan]
  exact CopyRun.Backs.suits backs

/-- Of the two kinds of backups a copy orders the one of its mode. -/
theorem incremental_iff_mode : t.Incremental ↔ t.Backs ∧ t.options.mode = .incremental := by
  constructor
  · intro incremental
    obtain ⟨o, here, kind⟩ := incremental
    exact ⟨⟨o, here, Or.inl kind⟩, (t.suits o here).incremental kind⟩
  · intro both
    obtain ⟨⟨o, here, kind⟩, mode⟩ := both
    rcases kind with kind | kind
    · exact ⟨o, here, kind⟩
    · exact absurd mode ((t.suits o here).full kind)

/-- A full copy that is completed has had the bitmap attached or cleared. -/
theorem rebased_of_completed (full : t.options.mode ≠ .incremental)
    (completed : t.status = .completed) : t.rebased = true := by
  obtain ⟨r, work, -⟩ := t.exists_run
  exact t.accepted full (t.life.accepted_of_completed work t.ended completed)

/-- While no full copy is unfinished, the last one is completed. -/
theorem Base.completed {base : CopyTask vm path bitmap} (is : Base earlier base)
    (finished : ¬ Unfinished earlier) : base.status = .completed := by
  obtain ⟨before, after, split, rebased, last⟩ := is
  by_contra incomplete
  refine finished ⟨before, base, after, split, rebased, incomplete,
    fun u later full completed => ?_⟩
  exact nomatch (last u later).symm.trans (rebased_of_completed full completed)

/-- A copy is incremental exactly if nobody asks to clear the bitmap and an earlier copy has had it
attached or cleared, in whatever way that copy has ended. Its base is complete if whoever asks for a
copy while a full copy is unfinished asks to clear the bitmap. -/
theorem Series.incremental_iff {tasks : List (CopyTask vm path bitmap)} (series : Series tasks) :
    Throughout (fun earlier t =>
      (t.Incremental ↔ t.Backs ∧ t.request.resetBitmap = false ∧ ∃ base, Base earlier base) ∧
      ((Unfinished earlier → t.request.resetBitmap = true) → t.Incremental →
        ∃ base, Base earlier base ∧ base.status = .completed)) tasks := by
  refine series.mono fun earlier t reread => ?_
  have iff : t.Incremental ↔ t.Backs ∧ t.request.resetBitmap = false ∧
      ∃ base, Base earlier base := by
    rw [incremental_iff_mode, mode_iff, reread]
    constructor
    · intro all
      obtain ⟨backs, some, reset⟩ := all
      exact ⟨backs, reset, exists_base some⟩
    · intro all
      obtain ⟨backs, reset, base, is⟩ := all
      exact ⟨backs, is.rebased, reset⟩
  refine ⟨iff, fun careful incremental => ?_⟩
  obtain ⟨-, reset, base, is⟩ := iff.mp incremental
  refine ⟨base, is, is.completed fun unfinished => ?_⟩
  exact nomatch reset.symm.trans (careful unfinished)

end CopyTask

namespace Sample

/-- The listing of the disk with its bitmaps. -/
def diskListing (bitmaps : List Json) : Json :=
  .arr [.obj [("device", .str "drive0"), ("inserted", .obj [("file", .str "/dev/vg/root"),
    ("drv", .str "raw"), ("image", .obj [("virtual-size", .nat 4096)]),
    ("dirty-bitmaps", .arr bitmaps)])]]

/-- The disk when its bitmap is attached. -/
def trackedDisk : Disk := { disk with bitmaps := ["nightly"] }

def tracked (reset : Bool) : CopyOptions :=
  { copying with disk := trackedDisk, resetBitmap := reset }

theorem tracked_replayable (reset : Bool) :
    ((Job.copying (tracked reset) .default ⟨100, 0⟩).replay? copyMoves).isSome := by
  cases reset <;> rfl

def trackedCopied (reset : Bool) : List Job.Moment × Job := Option.get _ (tracked_replayable reset)

theorem trackedCopied_life (reset : Bool) :
    Job.Life (trackedCopied reset).1 (trackedCopied reset).2 :=
  .of_replay? (.copying (tracked reset) .default ⟨100, 0⟩) (tracked_replayable reset)

/-- The first copy of the disk: the bitmap is attached, and then the copy is cancelled. -/
def stoppedTask : CopyTask "web" "/dev/vg/root" "nightly" where
  request := ⟨"/backup/root", false, "nightly", none⟩
  named := rfl
  listing := diskListing []
  disks := [disk]
  listed := rfl
  options := copying
  chosen := rfl
  past := stopped.1
  job := stopped.2
  life := stopped_life
  work := rfl
  ended := rfl
  rebased := true
  ordered _ := ⟨_, List.mem_of_getElem? (i := 0) rfl, rfl⟩
  accepted _ _ := rfl
  refused := by
    have answers : stopped.1.filterMap Job.Moment.answer? = [.ok .null] := rfl
    exact fun refused => absurd refused (Job.not_refused answers)

/-- A copy of the disk when its bitmap is attached, in which everything goes well. -/
def trackedTask (reset : Bool) : CopyTask "web" "/dev/vg/root" "nightly" where
  request := ⟨"/backup/root", reset, "nightly", none⟩
  named := rfl
  listing := diskListing [.obj [("name", .str "nightly")]]
  disks := [trackedDisk]
  listed := rfl
  options := tracked reset
  chosen := rfl
  past := (trackedCopied reset).1
  job := (trackedCopied reset).2
  life := trackedCopied_life reset
  work := by cases reset <;> rfl
  ended := by cases reset <;> rfl
  rebased := reset
  ordered := by
    intro rebased
    cases reset with
    | false => cases rebased
    | true => exact ⟨_, List.mem_of_getElem? (i := 0) rfl, rfl⟩
  accepted full _ := by
    cases reset with
    | false => exact absurd rfl full
    | true => rfl
  refused := by
    have answers : (trackedCopied reset).1.filterMap Job.Moment.answer? = [.ok .null] := by
      cases reset <;> rfl
    exact fun refused => absurd refused (Job.not_refused answers)

theorem stopped_series : CopyTask.Series [stoppedTask] := by
  have first : CopyTask.Series ([] ++ [stoppedTask]) :=
    throughout_concat.mpr ⟨throughout_nil, iff_of_false nofun fun some => by simp at some⟩
  exact first

theorem tracked_series {past : List (CopyTask "web" "/dev/vg/root" "nightly")}
    (series : CopyTask.Series past) (here : stoppedTask ∈ past) (reset : Bool) :
    CopyTask.Series (past ++ [trackedTask reset]) :=
  throughout_concat.mpr ⟨series, iff_of_true rfl ⟨stoppedTask, here, rfl⟩⟩

/-- After the copy that was cancelled comes one that clears the bitmap, and then an incremental
one. -/
theorem cleared_base :
    CopyTask.Series [stoppedTask, trackedTask true, trackedTask false] ∧
    (trackedTask false).Incremental ∧
    ∃ base, CopyTask.Base [stoppedTask, trackedTask true] base ∧ base.status = .completed := by
  have cleared : CopyTask.Series ([stoppedTask] ++ [trackedTask true]) :=
    tracked_series stopped_series List.mem_cons_self true
  have series : CopyTask.Series ([stoppedTask, trackedTask true] ++ [trackedTask false]) :=
    tracked_series cleared List.mem_cons_self false
  have incremental : (trackedTask false).Incremental := ⟨_, List.mem_of_getElem? (i := 0) rfl, rfl⟩
  have last := series.incremental_iff [stoppedTask, trackedTask true] (trackedTask false) [] rfl
  refine ⟨series, incremental, last.2 (fun unfinished => absurd unfinished ?_) incremental⟩
  intro unfinished
  obtain ⟨before, base, after, split, -, incomplete, none⟩ := unfinished
  rcases before with _ | ⟨first, _ | ⟨second, rest⟩⟩
  · obtain ⟨-, rfl⟩ := List.cons.inj split
    exact none (trackedTask true) List.mem_cons_self nofun rfl
  · obtain ⟨-, split⟩ := List.cons.inj split
    obtain ⟨rfl, -⟩ := List.cons.inj split
    exact incomplete rfl
  · obtain ⟨-, split⟩ := List.cons.inj split
    obtain ⟨-, split⟩ := List.cons.inj split
    exact absurd split.symm (List.append_ne_nil_of_right_ne_nil _ (List.cons_ne_nil _ _))

/-- After the copy that was cancelled comes an incremental one. -/
theorem incomplete_base : ¬ ∀ vm path bitmap (tasks : List (CopyTask vm path bitmap)),
    CopyTask.Series tasks → Throughout (fun earlier t =>
      t.Incremental → ∃ base, CopyTask.Base earlier base ∧ base.status = .completed) tasks := by
  intro always
  have series : CopyTask.Series ([stoppedTask] ++ [trackedTask false]) :=
    tracked_series stopped_series List.mem_cons_self false
  have incremental : (trackedTask false).Incremental := ⟨_, List.mem_of_getElem? (i := 0) rfl, rfl⟩
  obtain ⟨base, is, completed⟩ :=
    always _ _ _ _ series [stoppedTask] (trackedTask false) [] rfl incremental
  obtain ⟨before, after, split, -⟩ := is
  have same : base = stoppedTask := by
    have here : base ∈ [stoppedTask] := by
      rw [split]
      exact List.mem_append_right _ List.mem_cons_self
    exact List.mem_singleton.mp here
  rw [same] at completed
  have status : stoppedTask.status = .interrupted := rfl
  exact nomatch completed.symm.trans status

end Sample

end VmControl
