import VmControl.Proofs.Migration.Ordering
import VmControl.Proofs.Migration.RootCause
import VmControl.Proofs.Task.Reports
import VmControl.Proofs.Task.Telling

/-!
# The figures of a completed migration

The statistics of a migration tell how much of every disk and of the machine state is on the other
side. The updates come from the mirrors, from the transfer and from the course of the run, and they
are taken in later. `Account.figures` is what they amount to: taking one in changes nothing
(`Account.figures_fold`).

`RunStage.Tallied` says what the figures are when a run has come to a stage. Once a mirror is over
its disk is told to be finished, and nobody tells anything of that disk afterwards, since its leg
does not act any more and no other leg has that path. The transfer is told to be finished by the
answer that ends it, after which it asks no more. So when a migration is seen to be completed,
everything is (`Course.figures_of_completed`).
-/

namespace VmControl

open History

/-! ## What is told -/

/-- What statistics tell of progress, and whether they are final. -/
structure Figures where
  isOver : Bool
  state : Progress
  disks : OrderedMap Progress

namespace Figures

def of (stat : MigrationStat) : Figures := ⟨stat.status.isTerminal, stat.state, stat.disks⟩

/-- The figures after an update, unless they are final. -/
def apply (f : Figures) (u : StatUpdate) : Figures :=
  if f.isOver then f
  else
    match u with
    | .status status => { f with isOver := status.isTerminal }
    | .state p => { f with state := p }
    | .disk path p => { f with disks := f.disks.replace path p }
    | .error _ => f

/-- A disk is told to be wholly on the other side. -/
def Finished (f : Figures) (d : Disk) : Prop := f.disks.get? d.path = some (.done d.virtualSize)

/-- The figures may still change, and have an entry for every disk. -/
structure Going (plan : MigrationPlan) (f : Figures) : Prop where
  ahead : f.isOver = false
  listed : ∀ d ∈ plan.options.disks, (f.disks.get? d.path).isSome = true

variable {plan : MigrationPlan} {f : Figures} {updates : List StatUpdate}

theorem of_apply (stat : MigrationStat) (now : Timestamp) (u : StatUpdate) :
    of (stat.apply now u) = (of stat).apply u := by
  unfold MigrationStat.apply apply
  by_cases terminal : stat.status.isTerminal = true
  · rw [if_pos terminal, if_pos (show (of stat).isOver = true from terminal)]
  · rw [if_neg terminal, if_neg (show ¬ (of stat).isOver = true from terminal)]
    cases u <;> rfl

theorem apply_disk (going : f.isOver = false) (path : String) (p : Progress) :
    f.apply (.disk path p) = { f with disks := f.disks.replace path p } :=
  if_neg (Bool.eq_false_iff.mp going)

theorem apply_state (going : f.isOver = false) (p : Progress) :
    f.apply (.state p) = { f with state := p } :=
  if_neg (Bool.eq_false_iff.mp going)

theorem Going.status (going : f.Going plan) {status : TaskStatus}
    (ahead : status.isTerminal = false) :
    (f.apply (.status status)).Going plan := by
  have same : f.apply (.status status) = { f with isOver := status.isTerminal } :=
    if_neg (Bool.eq_false_iff.mp going.ahead)
  rw [same]
  exact ⟨ahead, going.listed⟩

theorem isSome_replace (f : Figures) (path other : String) (p : Progress) :
    ((f.disks.replace path p).get? other).isSome = (f.disks.get? other).isSome := by
  rw [OrderedMap.get?_replace]
  split
  · exact Option.isSome_map
  · rfl

/-- The mirrors tell nothing of the machine state. -/
theorem Going.mirrors (going : f.Going plan) (only : ∀ u ∈ updates, u.OfMirror) :
    (updates.foldl Figures.apply f).Going plan ∧
    (updates.foldl Figures.apply f).state = f.state := by
  induction updates generalizing f with
  | nil => exact ⟨going, rfl⟩
  | cons u rest ih =>
    obtain ⟨path, p, rfl, -⟩ := only u List.mem_cons_self
    rw [List.foldl_cons, apply_disk going.ahead]
    have after : Going plan { f with disks := f.disks.replace path p } := by
      refine ⟨going.ahead, fun d listed => ?_⟩
      exact (isSome_replace f path d.path p).trans (going.listed d listed)
    exact ih after fun u sent => only u (List.mem_cons_of_mem _ sent)

/-- The transfer tells nothing of disks. -/
theorem Going.transfer (going : f.Going plan) (only : ∀ u ∈ updates, u.OfTransfer) :
    (updates.foldl Figures.apply f).Going plan ∧
    (updates.foldl Figures.apply f).disks = f.disks := by
  induction updates generalizing f with
  | nil => exact ⟨going, rfl⟩
  | cons u rest ih =>
    obtain ⟨p, rfl, -⟩ := only u List.mem_cons_self
    rw [List.foldl_cons, apply_state going.ahead]
    have after : Going plan { f with state := p } := ⟨going.ahead, going.listed⟩
    exact ih after fun u sent => only u (List.mem_cons_of_mem _ sent)

end Figures

namespace Account

variable {a b : Account MigrationStat}

/-- What will be told of progress when nothing is left. -/
def figures (a : Account MigrationStat) : Figures := a.left.foldl Figures.apply (.of a.stat)

theorem figures_report (updates : List StatUpdate) :
    (a.report updates).figures = updates.foldl Figures.apply a.figures :=
  List.foldl_append

/-- Taking in an update does not change what will be told. -/
theorem figures_fold {now : Timestamp} (folded : a.fold? now = some b) : b.figures = a.figures := by
  obtain ⟨stat, left⟩ := a
  cases left with
  | nil => cases folded
  | cons u rest =>
    cases folded
    exact congrArg (rest.foldl Figures.apply) (Figures.of_apply stat now u)

end Account

/-! ## The transfer -/

/-- The bytes of the machine state when its transfer has completed. -/
def MigrationInfo.moved (info : MigrationInfo) : UInt64 :=
  max (info.ram.getD .zero).total (info.ram.getD .zero).transferred

/-- The monitor answers the question for the progress of the transfer with its completion. -/
def TellsTransferred (info : MigrationInfo) (earlier : History) (m : Moment) : Prop :=
  ∃ reply, Answers .transfer .queryMigrate (.ok reply) earlier m ∧
    Reply.interpret Order.queryMigrate.command.name MigrationInfo.ofDraft reply = .ok info ∧
    info.status = some "completed"

/-- No answer has told that the transfer is over. -/
def Untold (past : History) : Prop :=
  Throughout (fun earlier m => ∀ info, ¬ TellsTransferred info earlier m) past

/-- An answer has told that the transfer is over, and a progress is the finished one by its
counters. -/
structure Transferred (past : History) (p : Progress) : Prop where
  told : ∃ info, Once (TellsTransferred info) past
  agrees : Throughout (fun earlier m => ∀ info,
    TellsTransferred info earlier m → p = .done info.moved)
    past

section

variable {past : History} {m : Moment} {p : Progress}

theorem Untold.concat (untold : Untold past) (silent : ∀ info, ¬ TellsTransferred info past m) :
    Untold (past ++ [m]) := throughout_concat.mpr ⟨untold, silent⟩

theorem Transferred.concat (transferred : Transferred past p)
    (silent : ∀ info, ¬ TellsTransferred info past m) : Transferred (past ++ [m]) p where
  told := transferred.told.imp fun _ once => once.append [m]
  agrees := throughout_concat.mpr ⟨transferred.agrees, fun info tells => absurd tells (silent info)⟩

theorem Untold.told (untold : Untold past) {info : MigrationInfo}
    (tells : TellsTransferred info past m) : Transferred (past ++ [m]) (.done info.moved) where
  told := ⟨info, Once.last tells⟩
  agrees := by
    refine throughout_concat.mpr ⟨fun earlier m later split info tells => ?_, fun other again => ?_⟩
    · exact absurd tells (untold earlier m later split info)
    · -- one moment has one answer
      obtain ⟨reply, ⟨-, happens⟩, told, -⟩ := tells
      obtain ⟨_, ⟨-, happens'⟩, told', -⟩ := again
      rw [happens] at happens'
      cases happens'
      rw [told] at told'
      cases told'
      rfl

/-- Only an answer to the transfer tells that it is over. -/
theorem silent_of_other {part : Part} {h : Happening} (happens : m.stimulus = .act part h)
    (other : part ≠ .transfer) : ∀ info, ¬ TellsTransferred info past m := by
  rintro info ⟨reply, ⟨-, happens'⟩, -⟩
  rw [happens] at happens'
  cases happens'
  exact other rfl

theorem silent_of_inner (inner : ∀ part h, m.stimulus ≠ .act part h) :
    ∀ info, ¬ TellsTransferred info past m := by
  rintro info ⟨reply, ⟨-, happens⟩, -⟩
  exact inner _ _ happens

end

namespace Transfer

/-- What was told of the transfer when it has come so far. -/
def Tallied (past : History) (f : Figures) : Transfer → Prop
  | .ended (.ok ()) => Transferred past f.state
  | .ended (.error _) => True
  | _ => Untold past

variable {plan : MigrationPlan} {target : Endpoint} {past : History} {m : Moment}
  {t next : Transfer} {ready : Gate} {cancelled : Bool} {h : Happening} {r : Reaction Transfer}
  {f g : Figures}

/-- What other parts do does not touch what was told of the transfer. -/
theorem Tallied.frame (tallied : t.Tallied past f)
    (silent : ∀ info, ¬ TellsTransferred info past m) (same : g.state = f.state) :
    t.Tallied (past ++ [m]) g := by
  cases t with
  | ended outcome =>
    cases outcome with
    | ok =>
      rw [Tallied, same]
      exact Transferred.concat tallied silent
    | error => trivial
  | _ => exact Untold.concat tallied silent

/-- A transfer that takes the answer which tells of its end is over, and reports itself finished. -/
theorem react?_told {info : MigrationInfo} (borne : t.BorneOut plan past)
    (happens : m.stimulus = .act .transfer h) (tells : TellsTransferred info past m)
    (react : t.react? plan target m.surroundings cancelled ready h = some r) :
    r = ⟨.ok (.ended (.ok ())), none, [.state (.done info.moved)]⟩ := by
  obtain ⟨reply, ⟨asked, happens'⟩, told, status⟩ := tells
  rw [happens] at happens'
  cases happens'
  have answers (meter : Meter) : onAnswer plan m.surroundings meter (.ok reply) =
      ⟨.ok (.ended (.ok ())), none, [.state (.done info.moved)]⟩ := by
    simp only [onAnswer, Except.bind, told]
    exact onProgress_completed plan m.surroundings meter info status
  cases t with
  | asking meter =>
    obtain rfl := Option.some.inj react
    exact answers meter
  | settingCapabilities =>
    rw [borne.2] at asked
    cases asked
  | settingParameters =>
    rw [borne.2] at asked
    cases asked
  | starting =>
    obtain ⟨uri, orders⟩ := borne.2
    rw [orders] at asked
    cases asked
  | blocked | resting | ended => cases react

theorem Tallied.untold (tallied : t.Tallied past f)
    (react : t.react? plan target m.surroundings cancelled ready h = some r) : Untold past := by
  cases t with
  | ended => cases react
  | _ => exact tallied

/-- A turn of the transfer keeps what was told of it. -/
theorem Tallied.step (tallied : t.Tallied past f) (borne : t.BorneOut plan past)
    (ahead : f.isOver = false) (happens : m.stimulus = .act .transfer h)
    (react : t.react? plan target m.surroundings cancelled ready h = some r)
    (goesOn : r.next = .ok next) :
    next.Tallied (past ++ [m]) (r.reports.foldl Figures.apply f) := by
  have untold : Untold past := tallied.untold react
  by_cases told : ∃ info, TellsTransferred info past m
  · obtain ⟨info, tells⟩ := told
    obtain rfl := react?_told borne happens tells react
    cases goesOn
    have same : [StatUpdate.state (.done info.moved)].foldl Figures.apply f =
        { f with state := .done info.moved } := Figures.apply_state ahead _
    rw [same]
    exact untold.told tells
  · have silent (info : MigrationInfo) : ¬ TellsTransferred info past m :=
      fun tells => told ⟨info, tells⟩
    obtain ⟨_, order, reports⟩ := r
    cases goesOn
    cases react?_cases react with
    | @completed meter reply info answered status =>
      obtain ⟨-, times, begun⟩ := borne
      exact absurd ⟨reply, ⟨begun.last, happens⟩, answered, status⟩ (silent info)
    | setCapabilities | setParameters | migrate | started | query | goesOn =>
      exact untold.concat silent

end Transfer

/-! ## The mirrors -/

namespace Leg

/-- Whether a mirror is being completed, or is over. -/
def isClosing (l : Leg) : Bool :=
  match l.stage with
  | .toComplete | .completing _ | .awaitingEnd _ | .concluded => true
  | _ => false

variable {plan : MigrationPlan} {target : Endpoint} {s : Surroundings} {l k : Leg} {h : Happening}
  {order : Option Order} {reports : List StatUpdate}

/-- A mirror that is being completed tells nothing but that it is over. -/
theorem Step.closing (turn : l.Step plan target s h ⟨.ok k, order, reports⟩)
    (closing : l.isClosing = true) :
    k.isClosing = true ∧ ((reports = [] ∧ k.isConcluded = false) ∨
      reports = [.disk l.disk.path (.done l.disk.virtualSize)]) := by
  unfold isClosing at closing
  cases turn with
  | complete | taken | awaitEnd => exact ⟨rfl, Or.inl ⟨rfl, rfl⟩⟩
  | endedAtOnce | ended | gone => exact ⟨rfl, Or.inr rfl⟩
  | start stage | rested stage | listed stage =>
    rw [stage] at closing
    cases closing
  | awaitStart stage | running stage =>
    rcases stage with stage | ⟨_, stage⟩ <;> rw [stage] at closing <;> cases closing

end Leg

namespace Mirroring

/-- What was told of the disks when the mirrors have come so far. -/
def Tallied (plan : MigrationPlan) (f : Figures) : Mirroring → Prop
  | .completing legs => ∀ l ∈ legs, l.isClosing = true ∧ (l.isConcluded = true → f.Finished l.disk)
  | .ended (.ok ()) => ∀ d ∈ plan.options.disks, f.Finished d
  | _ => True

variable {plan : MigrationPlan} {target : Endpoint} {past : History} {m : Moment}
  {g next : Mirroring} {legs : List Leg} {l k : Leg} {n : Nat} {h : Happening} {f : Figures}
  {order : Option Order} {reports : List StatUpdate}

/-- What is told of one disk does not touch what was told of another one. -/
theorem finished_replace {d other : Disk} (finished : f.Finished d) (apart : d.path ≠ other.path)
    (p : Progress) : Figures.Finished { f with disks := f.disks.replace other.path p } d := by
  rw [Figures.Finished, OrderedMap.get?_replace, if_neg apart]
  exact finished

/-- A turn of a mirror that is being completed. -/
theorem tallied_set (all : Legs plan past legs) (distinct : (plan.options.disks.map (·.path)).Nodup)
    (going : f.Going plan) (found : legs[n]? = some l)
    (tallied : ∀ l ∈ legs, l.isClosing = true ∧ (l.isConcluded = true → f.Finished l.disk))
    (turn : l.Step plan target m.surroundings h ⟨.ok k, order, reports⟩) :
    ∀ i ∈ legs.set n k, i.isClosing = true ∧
      (i.isConcluded = true → (reports.foldl Figures.apply f).Finished i.disk) := by
  have listed : plan.options.disks[n]? = some l.disk := all.listed found
  obtain ⟨closing, told⟩ := turn.closing (tallied l (List.mem_of_getElem? found)).1
  intro i there
  obtain ⟨at_, place⟩ := List.mem_iff_getElem?.mp there
  rw [List.getElem?_set] at place
  split at place
  · -- the mirror that has acted
    split at place <;> cases place
    refine ⟨closing, fun concluded => ?_⟩
    rcases told with ⟨-, open_⟩ | rfl
    · rw [open_] at concluded
      cases concluded
    · rw [List.foldl_cons, List.foldl_nil, Figures.apply_disk going.ahead, Figures.Finished,
        turn.disk, OrderedMap.get?_replace, if_pos rfl]
      obtain ⟨old, known⟩ := Option.isSome_iff_exists.mp
        (going.listed l.disk (List.mem_of_getElem? listed))
      rw [known, Option.map_some]
  · next apart =>
    obtain ⟨still, finished⟩ := tallied i (List.mem_of_getElem? place)
    refine ⟨still, fun concluded => ?_⟩
    rcases told with ⟨rfl, -⟩ | rfl
    · exact finished concluded
    · rw [List.foldl_cons, List.foldl_nil, Figures.apply_disk going.ahead]
      refine finished_replace (finished concluded) (fun same => apart ?_) _
      -- two mirrors with one path would be one mirror
      have here : (plan.options.disks.map (·.path))[n]? = some l.disk.path := by
        rw [List.getElem?_map, listed, Option.map_some]
      have alike : (plan.options.disks.map (·.path))[n]? =
          (plan.options.disks.map (·.path))[at_]? := by
        rw [here, List.getElem?_map, all.listed place, Option.map_some, same]
      exact (List.getElem?_inj (List.getElem?_eq_some_iff.mp here).1 distinct).mp alike

/-- A turn of the mirrors keeps what was told of the disks. -/
theorem Tallied.step {migrated : Gate} {part : Part} {order : Option (Part × Order)}
    (tallied : g.Tallied plan f) (borne : g.BorneOut plan past)
    (distinct : (plan.options.disks.map (·.path)).Nodup) (going : f.Going plan)
    (turn : g.Step plan target m.surroundings migrated part h ⟨.ok next, order, reports⟩) :
    next.Tallied plan (reports.foldl Figures.apply f) := by
  cases turn with
  | syncing | synced | measured | poll => trivial
  | @migrated legs p passed =>
    intro l there
    obtain ⟨_, -, rfl⟩ := List.mem_map.mp there
    exact ⟨rfl, nofun⟩
  | completing found turn => exact tallied_set borne.1 distinct going found tallied turn
  | @ended legs n l k h order reports found turn finished =>
    have after := tallied_set borne.1 distinct going found tallied turn
    intro d here
    obtain ⟨i, place⟩ := List.mem_iff_getElem?.mp here
    obtain ⟨old, there, rfl⟩ := borne.1.found place
    by_cases same : n = i
    · subst same
      rw [found] at there
      cases there
      have set : k ∈ legs.set n k := List.mem_set (List.getElem?_eq_some_iff.mp found).1 k
      rw [← turn.disk]
      exact (after k set).2 (finished k set)
    · have set : old ∈ legs.set n k :=
        List.mem_of_getElem? ((List.getElem?_set_ne same).trans there)
      exact (after old set).2 (finished old set)

end Mirroring

/-! ## Runs -/

/-- Everything is told to be on the other side. -/
structure Complete (plan : MigrationPlan) (past : History) (f : Figures) : Prop where
  disks : ∀ d ∈ plan.options.disks, f.Finished d
  state : Transferred past f.state

/-- What was told when the phases have come so far. -/
structure Phases.Tallied (plan : MigrationPlan) (past : History) (f : Figures) (p : Phases) :
    Prop where
  going : f.Going plan
  mirroring : p.mirroring.Tallied plan f
  transfer : p.transfer.Tallied past f

/-- What was told when a run has come to a stage. -/
def RunStage.Tallied (plan : MigrationPlan) (past : History) (f : Figures) : RunStage → Prop
  | .fresh | .provisioning .. | .offering .. => f.Going plan ∧ Untold past
  | .transferring p => p.Tallied plan past f
  | .withdrawing _ | .resuming _ => f.isOver = false ∧ Complete plan past f
  | .quitting => Complete plan past f
  | .closing e => e.verdict = .ok () → Complete plan past f
  | .cancellingJobs .. | .cancellingTransfer _ | .removing .. => True

section

variable {plan : MigrationPlan} {past : History} {m : Moment} {f : Figures}

theorem Complete.concat (complete : Complete plan past f)
    (silent : ∀ info, ¬ TellsTransferred info past m) : Complete plan (past ++ [m]) f :=
  ⟨complete.disks, complete.state.concat silent⟩

/-- The last word changes none of the figures. -/
theorem Complete.status (complete : Complete plan past f) (ahead : f.isOver = false)
    (status : TaskStatus) : Complete plan past (f.apply (.status status)) := by
  have same : f.apply (.status status) = { f with isOver := status.isTerminal } :=
    if_neg (Bool.eq_false_iff.mp ahead)
  rw [same]
  exact ⟨complete.disks, complete.state⟩

theorem RunStage.Tallied.frame {stage : RunStage} (tallied : stage.Tallied plan past f)
    (silent : ∀ info, ¬ TellsTransferred info past m) : stage.Tallied plan (past ++ [m]) f := by
  cases stage with
  | fresh | provisioning | offering => exact ⟨tallied.1, tallied.2.concat silent⟩
  | transferring p =>
    exact ⟨tallied.going, tallied.mirroring, tallied.transfer.frame silent rfl⟩
  | withdrawing | resuming => exact ⟨tallied.1, tallied.2.concat silent⟩
  | quitting => exact Complete.concat tallied silent
  | closing => exact fun sound => (tallied sound).concat silent
  | cancellingJobs | cancellingTransfer | removing => trivial

namespace Phases

variable {p : Phases} {part : Part} {h : Happening} {t : PhaseTurn} {cancelled : Bool}

/-- A turn of the phases keeps what was told of them. -/
theorem Tallied.step (tallied : p.Tallied plan past f) (borne : p.BorneOut plan past)
    (distinct : (plan.options.disks.map (·.path)).Nodup) (happens : m.stimulus = .act part h)
    (react : p.react? plan m.surroundings cancelled part h = some t) :
    t.next.Tallied plan (past ++ [m]) (t.reports.foldl Figures.apply f) := by
  rcases react?_parts react with ⟨rfl, r, turn, rfl⟩ | ⟨other, target, r, -, turn, rfl⟩
  · obtain ⟨going, disks⟩ := tallied.going.transfer (Transfer.react?_cases turn).ofTransfer
    have mirroring : p.mirroring.Tallied plan (r.reports.foldl Figures.apply f) := by
      have before := tallied.mirroring
      unfold Mirroring.Tallied Figures.Finished at before ⊢
      rwa [disks]
    show (p.afterTransfer r.next).Tallied plan (past ++ [m]) (r.reports.foldl Figures.apply f)
    cases goesOn : r.next with
    | error e => exact ⟨going, mirroring, trivial⟩
    | ok next =>
      exact ⟨going, mirroring,
        tallied.transfer.step borne.transfer tallied.going.ahead happens turn goesOn⟩
  · obtain ⟨going, state⟩ := tallied.going.mirrors (Mirroring.react?_ofMirror turn)
    have transfer : p.transfer.Tallied (past ++ [m]) (r.reports.foldl Figures.apply f) :=
      tallied.transfer.frame (silent_of_other happens other) state
    show (p.afterMirror r.next).Tallied plan (past ++ [m]) (r.reports.foldl Figures.apply f)
    have step := Mirroring.react?_cases turn
    obtain ⟨next, order, reports⟩ := r
    cases next with
    | error e => exact ⟨going, trivial, transfer⟩
    | ok next =>
      exact ⟨going, tallied.mirroring.step borne.mirroring distinct tallied.going step, transfer⟩

theorem Tallied.withDisks {stamp : Timestamp} {incoming offered : Endpoint} (going : f.Going plan)
    (untold : Untold past) :
    (withDisks stamp incoming offered plan.options.disks).Tallied plan past f :=
  ⟨going, trivial, untold⟩

theorem Tallied.withoutDisks {incoming : Endpoint} (none : plan.options.disks = [])
    (going : f.Going plan) (untold : Untold past) :
    (withoutDisks incoming).Tallied plan past f where
  going := going
  mirroring d listed := by
    rw [none] at listed
    cases listed
  transfer := untold

/-- When both phases are over with success, everything is told to be on the other side. -/
theorem Tallied.complete (tallied : p.Tallied plan past f) (finished : p.outcome? = some (.ok ())) :
    Complete plan past f := by
  rw [outcome?] at finished
  split at finished
  · next mirrors transfer =>
    obtain ⟨rfl, rfl⟩ := firstFailure_ok (Option.some.inj finished)
    have mirroring := tallied.mirroring
    have transferred := tallied.transfer
    rw [Mirroring.eq_ended mirrors] at mirroring
    rw [Transfer.eq_ended transfer] at transferred
    exact ⟨mirroring, transferred⟩
  · cases finished

end Phases

namespace MigrationRun

variable {r : MigrationRun} {part : Part} {h : Happening} {st : RunStep} {cancelled : Bool}

/-- What a run has told when it has come to its stage. -/
def Tallied (plan : MigrationPlan) (past : History) (r : MigrationRun) : Prop :=
  r.stage.Tallied plan past r.account.figures

theorem tallied_cancelNext (cause : RollbackCause) (jobs : List String) :
    (r.cancelNext cause jobs).1.Tallied plan past := by
  cases jobs <;> trivial

/-- A turn of the phases keeps what the run has told. -/
theorem Tallied.phases {t : PhaseTurn} (s : Surroundings)
    (after : t.next.Tallied plan past (t.reports.foldl Figures.apply r.account.figures)) :
    (r.onPhases s cancelled t).1.Tallied plan past := by
  have told : (r.account.report t.reports).figures =
      t.reports.foldl Figures.apply r.account.figures := Account.figures_report _
  rw [← told] at after
  simp only [onPhases]
  split
  · exact after
  · next finished =>
    have complete : (r.account.report t.reports).figures.isOver = false ∧
        Complete plan past (r.account.report t.reports).figures :=
      ⟨after.going.ahead, after.complete finished⟩
    unfold finishPhases
    split <;> exact complete
  · exact tallied_cancelNext _ _

/-- An act of a run keeps what was told. -/
theorem Tallied.act (tallied : r.Tallied plan past) (ordered : r.Ordered plan past)
    (distinct : (plan.options.disks.map (·.path)).Nodup) (happens : m.stimulus = .act part h)
    (act : r.act? m.surroundings cancelled part h = some st) : st.1.Tallied plan (past ++ [m]) := by
  obtain ⟨rfl, -, borne⟩ := ordered
  rcases act?_phases act with ⟨p, t, stage, react, rfl⟩ | ⟨apart, -⟩
  · rw [Tallied, stage] at tallied
    rw [stage] at borne
    have before : p.Tallied r.plan past r.account.figures := tallied
    exact .phases _ (before.step borne distinct happens react)
  · -- outside the phases only the course acts, and it takes no answer for the transfer
    have silent (course : part = .course) : ∀ info, ¬ TellsTransferred info past m :=
      silent_of_other happens (by rw [course]; exact nofun)
    have said (status : TaskStatus) : (r.account.report [.status status]).figures =
        r.account.figures.apply (.status status) := Account.figures_report _
    cases act?_cases act with
    | turn stage | withdraw stage | resume stage => exact absurd stage (apart _)
    | fail => exact tallied_cancelNext _ _
    | jobCancelled => exact tallied_cancelNext _ _
    | transferCancelled => trivial
    | removed => exact nofun
    | provision stage =>
      rw [Tallied, stage] at tallied
      have going : (r.account.figures.apply (.status .inMigrate)).Going r.plan :=
        tallied.1.status rfl
      have after := And.intro going (tallied.2.concat (silent rfl))
      rw [← said] at after
      exact after
    | offer stage =>
      rw [Tallied, stage] at tallied
      exact ⟨tallied.1, tallied.2.concat (silent rfl)⟩
    | withoutDisks stage none =>
      rw [Tallied, stage] at tallied
      exact Phases.Tallied.withoutDisks none tallied.1 (tallied.2.concat (silent rfl))
    | withDisks stage =>
      rw [Tallied, stage] at tallied
      exact Phases.Tallied.withDisks tallied.1 (tallied.2.concat (silent rfl))
    | withdrawn stage =>
      rw [Tallied, stage] at tallied
      exact ⟨tallied.1, tallied.2.concat (silent rfl)⟩
    | spare stage =>
      rw [Tallied, stage] at tallied
      have after := (tallied.2.concat (silent rfl)).status tallied.1 .completed
      rw [← said] at after
      exact fun _ => after
    | stop stage =>
      rw [Tallied, stage] at tallied
      have after := (tallied.2.concat (silent rfl)).status tallied.1 .completed
      rw [← said] at after
      exact after
    | quit stage =>
      rw [Tallied, stage] at tallied
      have before : Complete r.plan past r.account.figures := tallied
      exact fun _ => before.concat (silent rfl)

end MigrationRun

end

namespace Course

variable {plan : MigrationPlan} {past : History} {cancelled : Bool} {r : MigrationRun}

/-- What a run has told of its end when it has come to its stage. -/
theorem told (course : Course plan past cancelled r) :
    r.stage.Told cancelled r.account.forecast := by
  induction course with
  | new => exact ⟨rfl, rfl⟩
  | cancel _ ih => exact ih.mono fun _ => rfl
  | @step past cancelled r r' s x effects _ step ih =>
    rcases MigrationRun.step?_cases step with ⟨_, _, -, act⟩ | ⟨account, -, folded, rfl, -⟩ |
      ⟨e, e', stage, verdict, rfl, -, -⟩
    · exact act.told ih
    · rwa [← Account.forecast_fold folded] at ih
    · rw [stage] at ih
      have tells : Summary.Tells cancelled r.account.forecast e.verdict := ih
      rw [← verdict] at tells
      exact tells

theorem tallied (course : Course plan past cancelled r)
    (distinct : (plan.options.disks.map (·.path)).Nodup) : r.Tallied plan past := by
  induction course with
  | new stamp =>
    refine ⟨⟨rfl, fun d listed => OrderedMap.isSome_get?_iff.mpr ?_⟩, throughout_nil⟩
    refine OrderedMap.mem_keys_ofList.mpr (List.mem_map_of_mem (a := (d.path, Progress.initial)) ?_)
    exact List.mem_map_of_mem (List.mem_map_of_mem listed)
  | cancel _ ih => exact ih
  | @step past cancelled r r' s x effects course step ih =>
    rcases MigrationRun.step?_cases step with ⟨part, h, rfl, -⟩ | ⟨account, rfl, folded, rfl, -⟩ |
      ⟨e, e', stage, verdict, rfl, -, inner⟩
    · exact ih.act (m := ⟨s, cancelled, .act part h, effects⟩) course.ordered distinct rfl step
    · have kept := ih.frame (m := ⟨s, cancelled, .fold, effects⟩) (silent_of_inner nofun)
      rwa [← Account.figures_fold folded] at kept
    · have quiet (part : Part) (h : Happening) : x ≠ .act part h := by
        rcases inner with rfl | rfl <;> exact nofun
      rw [MigrationRun.Tallied, stage] at ih
      have before : e.verdict = .ok () → Complete plan past r.account.figures := ih
      intro sound
      have complete := before (verdict ▸ sound)
      exact complete.concat (m := ⟨s, cancelled, x, effects⟩) (silent_of_inner quiet)

end Course

end VmControl
