import VmControl.Proofs.Monitor.Steps

/-!
# Turns and numbers

What holds of the calls of a connection wherever its steps have led: one call at most has its turn,
and every number that is awaited was given to one call, which waits for it or whose caller has gone
away (`Session.Sound`).

* `Session.Sound.step`: every step keeps this.
* `Session.Run.sound`: it holds along every run.
-/

namespace VmControl

/-- Numbers still ascend after one that is above them all. -/
theorem ascending_concat {α : Type} {entries : List (Nat × α)} {last : Nat × α}
    (ascending : entries.Pairwise fun a b => a.1 < b.1)
    (above : ∀ entry ∈ entries, entry.1 < last.1) :
    (entries ++ [last]).Pairwise fun a b => a.1 < b.1 := by
  refine List.pairwise_append.mpr ⟨ascending, List.pairwise_singleton _ _, ?_⟩
  intro a before b new
  obtain rfl := List.mem_singleton.mp new
  exact above a before

namespace CallStage.Goes

variable {s t : Session} {x : SessionStep} {q id : Nat} {old stage : CallStage}

theorem hasTurn (goes : Goes s t q x old stage) (turn : stage.hasTurn = true) :
    old.hasTurn = true ∨ s.turn? = none ∧ s.first? = some q := by
  cases goes with
  | stays => exact Or.inl turn
  | admitted free first => exact Or.inr ⟨free, first⟩
  | enrolled | written => exact Or.inl rfl
  | refused | endedEarly | unwritten | dropped => cases turn
  | answered | failed => exact Or.inl (hasTurn_of_answered turn)

/-- Who awaits a number has awaited it, or has just been given it. -/
theorem awaits (goes : Goes s t q x old stage) (awaits : stage.awaited? = some id) :
    old.awaited? = some id ∨ x = .register ∧ old = .admitted ∧ id = s.nextId := by
  cases goes with
  | stays | written => exact Or.inl awaits
  | enrolled => exact Or.inr ⟨rfl, rfl, (Option.some.inj awaits).symm⟩
  | admitted | refused | endedEarly | unwritten | dropped => cases awaits
  | answered | failed =>
    rw [awaited?_answered] at awaits
    cases awaits

theorem writes {early : Option (Except ControlError Json)} (goes : Goes s t q x old stage)
    (now : stage = .writing id early) :
    (∃ before, old = .writing id before) ∨ x = .register ∧ old = .admitted ∧ id = s.nextId := by
  have wrote (outcome : Except ControlError Json)
      (same : old.answered outcome = .writing id early) : ∃ before, old = .writing id before := by
    rcases answered_cases old outcome with kept | ⟨own, rfl, -⟩ | ⟨own, -, ended⟩
    · exact ⟨early, kept.symm.trans same⟩
    · cases same
      exact ⟨none, rfl⟩
    · rw [ended] at same
      cases same
  cases goes with
  | stays => exact Or.inl ⟨_, now⟩
  | enrolled =>
    cases now
    exact Or.inr ⟨rfl, rfl, rfl⟩
  | admitted | refused | written | endedEarly | unwritten | dropped => cases now
  | answered | failed => exact Or.inl (wrote _ now)

theorem waits (goes : Goes s t q x old stage) (now : stage = .waiting id) :
    old = .waiting id ∨ x = .written ∧ old = .writing id none := by
  cases goes with
  | stays => exact Or.inl now
  | written =>
    cases now
    exact Or.inr ⟨rfl, rfl⟩
  | admitted | enrolled | refused | endedEarly | unwritten | dropped => cases now
  | answered | failed => exact Or.inl (eq_of_answered_eq now (by rintro _ ⟨⟩) (by rintro ⟨⟩))

theorem admits (goes : Goes s t q x old stage) (now : stage = .admitted) :
    old = .admitted ∨ x = .giveTurn ∧ old = .queued ∧ s.turn? = none ∧ s.first? = some q := by
  cases goes with
  | stays => exact Or.inl now
  | admitted free first => exact Or.inr ⟨rfl, rfl, free, first⟩
  | enrolled | refused | written | endedEarly | unwritten | dropped => cases now
  | answered | failed => exact Or.inl (eq_of_answered_eq now (by rintro _ ⟨⟩) (by rintro ⟨⟩))

/-- Nobody queues a second time. -/
theorem queues (goes : Goes s t q x old stage) (now : stage = .queued) : old = .queued := by
  cases goes with
  | stays => exact now
  | admitted | enrolled | refused | written | endedEarly | unwritten | dropped => cases now
  | answered | failed => exact eq_of_answered_eq now (by rintro _ ⟨⟩) (by rintro ⟨⟩)

theorem drops (goes : Goes s t q x old stage) (now : stage = .dropped) :
    old = .dropped ∨ x = .drop q := by
  cases goes with
  | stays => exact Or.inl now
  | dropped => exact Or.inr rfl
  | admitted | enrolled | refused | written | endedEarly | unwritten => cases now
  | answered | failed => exact Or.inl (eq_of_answered_eq now (by rintro _ ⟨⟩) (by rintro ⟨⟩))

theorem of_isOver (goes : Goes s t q x old stage) (isOver : old.isOver = true) : stage = old := by
  cases goes with
  | stays => rfl
  | admitted | enrolled | refused | written | endedEarly | unwritten => cases isOver
  | dropped going =>
    rw [isOver] at going
    cases going
  | answered | failed => exact answered_of_none (awaited?_of_isOver isOver)

/-- Whatever a call gets comes with a reply under the number that it awaits, or is a failure. -/
theorem got {outcome : Except ControlError Json} (goes : Goes s t q x old stage)
    (got : stage.got? = some outcome) :
    old.got? = some outcome ∨ Session.Failure s.vm outcome ∨
      ∃ id, s.reading = true ∧ x.inbound? = some (.reply (some id) outcome) ∧
        old.awaited? = some id.toNat := by
  cases goes with
  | stays | endedEarly => exact Or.inl got
  | admitted | enrolled | written | dropped => cases got
  | refused =>
    cases got
    exact Or.inr (Or.inl .shut)
  | unwritten =>
    cases got
    exact Or.inr (Or.inl (.unwritten _))
  | @answered _ _ id _ reading heard awaits =>
    rw [got?_answered awaits] at got
    cases got
    exact Or.inr (Or.inr ⟨id, reading, heard, awaits⟩)
  | failed awaits =>
    obtain ⟨id, awaited⟩ := Option.ne_none_iff_exists'.mp awaits
    rw [got?_answered awaited] at got
    cases got
    exact Or.inr (Or.inl .closed)

theorem keeps {outcome : Except ControlError Json} (goes : Goes s t q x old stage)
    (had : old.got? = some outcome) : stage.got? = some outcome ∨ stage = .dropped ∨
      ∃ reason, stage = .ended (.error (.io reason)) := by
  have nothing := awaited?_of_got had
  cases goes with
  | stays | endedEarly => exact Or.inl had
  | admitted | enrolled | refused | written => cases had
  | unwritten => exact Or.inr (Or.inr ⟨_, rfl⟩)
  | dropped => exact Or.inr (Or.inl rfl)
  | answered _ _ awaits =>
    rw [nothing] at awaits
    cases awaits
  | failed awaits => exact absurd nothing awaits

/-- Who ceases to await a number is gone, or nobody awaits it any more. -/
theorem ceases (goes : Goes s t q x old stage) (awaits : old.awaited? = some id) :
    stage.awaited? = some id ∨ stage = .dropped ∨ ∀ entry ∈ t.pending, entry.1 ≠ id := by
  cases goes with
  | stays | written => exact Or.inl awaits
  | admitted | enrolled | refused | endedEarly => cases awaits
  | @unwritten own early reason struck =>
    cases early with
    | none =>
      cases awaits
      exact Or.inr (Or.inr struck)
    | some outcome => cases awaits
  | dropped => exact Or.inr (Or.inl rfl)
  | answered reading heard own struck =>
    rw [awaits] at own
    cases own
    exact Or.inr (Or.inr struck)
  | failed own cleared cause =>
    rw [cleared]
    exact Or.inr (Or.inr (List.forall_mem_nil _))

end CallStage.Goes

namespace Session

variable {s t : Session} {p q id : Nat} {c d : Command} {stage other : CallStage} {x : SessionStep}

/-- What a step does to the table of awaited numbers. -/
theorem Step.table (step : s.Step x t) :
    (t.pending.Sublist s.pending ∧ t.nextId = s.nextId ∧ (x = .register → s.isOpen = false)) ∨
      ∃ q c, (x = .register ∧ s.isOpen = true ∧ s.At q c .admitted) ∧
        t.At q c (.writing s.nextId none) ∧ t.pending = s.pending ++ [(s.nextId, q)] ∧
        t.nextId = s.nextId + 1 := by
  have failed : s.failPending.nextId = s.nextId := by rw [failPending_frame]
  cases step with
  | call | giveTurn | written | drop | pass | event | takeWriter =>
    exact Or.inl ⟨List.Sublist.refl _, rfl, fun other => by cases other⟩
  | enroll here isOpen =>
    exact Or.inr ⟨_, _, ⟨rfl, isOpen, here⟩, At.change (f := fun _ => .writing s.nextId none) here,
      rfl, rfl⟩
  | refuse here shut => exact Or.inl ⟨List.Sublist.refl _, rfl, fun _ => shut⟩
  | unwritten => exact Or.inl ⟨List.filter_sublist, rfl, fun other => by cases other⟩
  | reply =>
    unfold deliver
    split
    · exact Or.inl ⟨List.Sublist.refl _, rfl, fun other => by cases other⟩
    · exact Or.inl ⟨List.filter_sublist, rfl, fun other => by cases other⟩
  | giveUp | lose | beginClose | endClose =>
    exact Or.inl ⟨List.nil_sublist _, failed, fun other => by cases other⟩

theorem Step.nextId_le (step : s.Step x t) : s.nextId ≤ t.nextId := by
  rcases step.table with ⟨-, same, -⟩ | ⟨_, _, -, -, -, next⟩ <;> omega

/-- A line is sent only when it is written. -/
theorem Step.sends (step : s.Step x t) : t.sent = s.sent ∨
    ∃ q c id early, x = .written ∧ s.At q c (.writing id early) ∧
      t.sent = s.sent ++ [(id, c.line (some id))] ∧ ∀ stage, t.At q c stage →
        stage.isWriting = false := by
  have failed : s.failPending.sent = s.sent := by rw [failPending_frame]
  cases step with
  | call | giveTurn | enroll | refuse | unwritten | drop | pass | event | takeWriter =>
    exact Or.inl rfl
  | @written q c id early here =>
    refine Or.inr ⟨q, c, id, early, rfl, here, rfl, ?_⟩
    intro stage there
    cases early with
    | none =>
      obtain ⟨-, rfl⟩ := there.unique (At.change (f := fun _ => .waiting id) here)
      rfl
    | some outcome =>
      obtain ⟨-, rfl⟩ := there.unique (At.change (f := fun _ => .ended outcome) here)
      rfl
  | reply =>
    unfold deliver
    split <;> exact Or.inl rfl
  | giveUp | lose | beginClose | endClose => exact Or.inl failed

/-- What holds of the calls of every connection. -/
structure Sound (s : Session) : Prop where
  oneTurn : ∀ {p q c d stage other}, s.At p c stage → s.At q d other → stage.hasTurn = true →
    other.hasTurn = true → p = q
  below : ∀ entry ∈ s.pending, entry.1 < s.nextId
  ascending : s.pending.Pairwise fun a b => a.1 < b.1
  entered : ∀ {q c stage id}, s.At q c stage → stage.awaited? = some id → (id, q) ∈ s.pending
  awaited : ∀ {q id}, (id, q) ∈ s.pending →
    ∃ c stage, s.At q c stage ∧ (stage.awaited? = some id ∨ stage = .dropped)
  writing : ∀ {q c id early}, s.At q c (.writing id early) →
    id < s.nextId ∧ ∀ entry ∈ s.sent, entry.1 < id
  sentBelow : ∀ entry ∈ s.sent, entry.1 < s.nextId
  sentAscending : s.sent.Pairwise fun a b => a.1 < b.1
  /-- Who waits for an answer has sent his line. -/
  waiting : ∀ {q c id}, s.At q c (.waiting id) → (id, c.line (some id)) ∈ s.sent

theorem sound_new (vm : String) : (new vm).Sound where
  oneTurn here := by cases here
  below := List.forall_mem_nil _
  ascending := .nil
  entered here := by cases here
  awaited listed := by cases listed
  writing here := by cases here
  sentBelow := List.forall_mem_nil _
  sentAscending := .nil
  waiting here := by cases here

namespace Sound

/-- An awaited number leads to the call that it was given to. -/
theorem lookup_of_mem (sound : s.Sound) (listed : (id, q) ∈ s.pending) :
    s.pending.lookup id = some q := by
  obtain ⟨before, after, split⟩ := List.append_of_mem listed
  have ascending := sound.ascending
  rw [split, List.pairwise_append] at ascending
  have fresh : ∀ entry ∈ before, entry.1 ≠ id := fun entry earlier =>
    Nat.ne_of_lt (ascending.2.2 entry earlier (id, q) (List.mem_cons_self ..))
  rw [split, List.lookup_append, List.lookup_eq_none_iff.mpr]
  · rw [Option.none_or, List.lookup_cons_self]
  · intro entry earlier
    exact bne_iff_ne.mpr (Ne.symm (fresh entry earlier))

theorem lookup_of_awaited (sound : s.Sound) (here : s.At q c stage)
    (awaits : stage.awaited? = some id) : s.pending.lookup id = some q :=
  sound.lookup_of_mem (sound.entered here awaits)

theorem position_unique (sound : s.Sound) (here : (id, p) ∈ s.pending)
    (there : (id, q) ∈ s.pending) : p = q :=
  Option.some.inj ((sound.lookup_of_mem here).symm.trans (sound.lookup_of_mem there))

theorem oneTurn_step (sound : s.Sound) (step : s.Step x t) (here : t.At p c stage)
    (there : t.At q d other) (turn : stage.hasTurn = true) (turn' : other.hasTurn = true) :
    p = q := by
  rcases step.goes here with ⟨-, -, rfl⟩ | ⟨old, before, goes⟩
  · cases turn
  rcases step.goes there with ⟨-, -, rfl⟩ | ⟨old', before', goes'⟩
  · cases turn'
  rcases goes.hasTurn turn with had | ⟨free, first⟩
  · rcases goes'.hasTurn turn' with had' | ⟨free, -⟩
    · exact sound.oneTurn before before' had had'
    · rw [before.hasTurn_of_turn? free] at had
      cases had
  · rcases goes'.hasTurn turn' with had' | ⟨-, first'⟩
    · rw [before'.hasTurn_of_turn? free] at had'
      cases had'
    · exact Option.some.inj (first.symm.trans first')

/-- A number that is still awaited after a step is still in the table. -/
theorem keeps (sound : s.Sound) (step : s.Step x t) (before : s.At q c stage)
    (awaits : stage.awaited? = some id) (here : t.At q d other) (still : other.awaited? = some id) :
    (id, q) ∈ t.pending := by
  have listed := sound.entered before awaits
  have unanswered {outcome} (got : t.At q c (stage.answered outcome)) : False := by
    obtain ⟨-, rfl⟩ := here.unique got
    rw [CallStage.awaited?_answered] at still
    cases still
  cases step with
  | call | giveTurn | refuse | written | drop | pass | event | takeWriter => exact listed
  | enroll => exact List.mem_append_left _ listed
  | @unwritten p _ own early reason writes =>
    refine List.mem_filter.mpr ⟨listed, decide_eq_true ?_⟩
    rintro rfl
    have same := sound.oneTurn writes before rfl (CallStage.hasTurn_of_awaited awaits)
    subst same
    obtain ⟨-, rfl⟩ := here.unique (At.change (f := fun _ => .ended (.error (.io reason))) before)
    cases still
  | @reply _ _ own outcome =>
    have got : (s.deliver own.toNat outcome).At q c (stage.answer own.toNat outcome) :=
      before.deliver fun awaits => sound.lookup_of_awaited before awaits
    by_cases same : id = own.toNat
    · rw [CallStage.answer_of_awaited (same ▸ awaits)] at got
      exact (unanswered got).elim
    · unfold deliver
      split
      · exact listed
      · exact List.mem_filter.mpr ⟨listed, decide_eq_true same⟩
  | giveUp | lose | beginClose | endClose =>
    exact (unanswered (before.failPending fun id => sound.entered before)).elim

theorem entered_step (sound : s.Sound) (step : s.Step x t) (here : t.At q c stage)
    (awaits : stage.awaited? = some id) : (id, q) ∈ t.pending := by
  rcases step.goes here with ⟨-, -, rfl⟩ | ⟨old, before, goes⟩
  · cases awaits
  rcases goes.awaits awaits with awaited | ⟨rfl, rfl, rfl⟩
  · exact sound.keeps step before awaited here awaits
  · cases step with
    | @enroll p d there =>
      obtain rfl := sound.oneTurn there before rfl rfl
      exact List.mem_append_right _ (List.mem_singleton_self _)
    | refuse there =>
      obtain rfl := sound.oneTurn there before rfl rfl
      obtain ⟨-, rfl⟩ := here.unique (At.change (f := fun _ => .ended _) there)
      cases awaits

theorem awaited_step (sound : s.Sound) (step : s.Step x t) (listed : (id, q) ∈ t.pending) :
    ∃ c stage, t.At q c stage ∧ (stage.awaited? = some id ∨ stage = .dropped) := by
  have stays (before : (id, q) ∈ s.pending) :
      ∃ c stage, t.At q c stage ∧ (stage.awaited? = some id ∨ stage = .dropped) := by
    obtain ⟨c, old, there, awaits | rfl⟩ := sound.awaited before
    · obtain ⟨stage, here, goes⟩ := step.later there
      rcases goes.ceases awaits with still | gone | struck
      · exact ⟨c, stage, here, Or.inl still⟩
      · exact ⟨c, stage, here, Or.inr gone⟩
      · exact absurd rfl (struck _ listed)
    · obtain ⟨stage, here, goes⟩ := step.later there
      exact ⟨c, stage, here, Or.inr (goes.of_isOver rfl)⟩
  rcases step.table with ⟨fewer, -⟩ | ⟨p, c, -, enrolled, more, -⟩
  · exact stays (fewer.subset listed)
  · rw [more] at listed
    rcases List.mem_append.mp listed with before | new
    · exact stays before
    · cases List.mem_singleton.mp new
      exact ⟨c, _, enrolled, Or.inl rfl⟩

theorem below_step (sound : s.Sound) (step : s.Step x t) :
    ∀ entry ∈ t.pending, entry.1 < t.nextId := by
  rcases step.table with ⟨fewer, same, -⟩ | ⟨q, c, -, -, more, next⟩
  · rw [same]
    exact fun entry listed => sound.below entry (fewer.subset listed)
  · rw [more, next]
    refine List.forall_mem_append.mpr ⟨?_, List.forall_mem_singleton.mpr (Nat.lt_succ_self _)⟩
    exact fun entry before => Nat.lt_succ_of_lt (sound.below entry before)

theorem ascending_step (sound : s.Sound) (step : s.Step x t) :
    t.pending.Pairwise fun a b => a.1 < b.1 := by
  rcases step.table with ⟨fewer, -⟩ | ⟨q, c, -, -, more, -⟩
  · exact sound.ascending.sublist fewer
  · rw [more]
    exact ascending_concat sound.ascending sound.below

/-- Only the call that has its turn writes, so nothing of a later number is sent before it has
written. -/
theorem writing_step (sound : s.Sound) (step : s.Step x t)
    {early : Option (Except ControlError Json)} (here : t.At q c (.writing id early)) :
    id < t.nextId ∧ ∀ entry ∈ t.sent, entry.1 < id := by
  rcases step.goes here with ⟨-, -, new⟩ | ⟨old, before, goes⟩
  · cases new
  have next := step.nextId_le
  rcases goes.writes rfl with ⟨early', rfl⟩ | ⟨rfl, rfl, rfl⟩
  · obtain ⟨low, later⟩ := sound.writing before
    refine ⟨Nat.lt_of_lt_of_le low next, ?_⟩
    rcases step.sends with same | ⟨p, d, own, early', -, there, -, done⟩
    · rwa [same]
    · -- who writes now has not just written
      obtain rfl := sound.oneTurn there before rfl rfl
      obtain ⟨rfl, -⟩ := there.unique before
      cases done _ here
  · cases step with
    | enroll => exact ⟨Nat.lt_succ_self _, sound.sentBelow⟩
    | refuse there =>
      obtain rfl := sound.oneTurn there before rfl rfl
      obtain ⟨-, same⟩ := here.unique (At.change (f := fun _ => .ended (.error s.shut)) there)
      cases same

theorem sent_step (sound : s.Sound) (step : s.Step x t) :
    (∀ entry ∈ t.sent, entry.1 < t.nextId) ∧ t.sent.Pairwise fun a b => a.1 < b.1 := by
  have next := step.nextId_le
  have kept : ∀ entry ∈ s.sent, entry.1 < t.nextId := fun entry before =>
    Nat.lt_of_lt_of_le (sound.sentBelow entry before) next
  rcases step.sends with same | ⟨q, c, id, early, -, here, more, -⟩
  · rw [same]
    exact ⟨kept, sound.sentAscending⟩
  · obtain ⟨low, later⟩ := sound.writing here
    rw [more]
    refine ⟨?_, ascending_concat sound.sentAscending later⟩
    exact List.forall_mem_append.mpr
      ⟨kept, List.forall_mem_singleton.mpr (Nat.lt_of_lt_of_le low next)⟩

theorem waiting_step (sound : s.Sound) (step : s.Step x t) (here : t.At q c (.waiting id)) :
    (id, c.line (some id)) ∈ t.sent := by
  rcases step.goes here with ⟨-, -, new⟩ | ⟨old, before, goes⟩
  · cases new
  rcases goes.waits rfl with rfl | ⟨rfl, rfl⟩
  · have sent := sound.waiting before
    rcases step.sends with same | ⟨_, _, _, _, -, -, more, -⟩
    · rwa [same]
    · rw [more]
      exact List.mem_append_left _ sent
  · cases step with
    | written there =>
      obtain rfl := sound.oneTurn there before rfl rfl
      obtain ⟨rfl, same⟩ := there.unique before
      cases same
      exact List.mem_append_right _ (List.mem_singleton_self _)

/-- Every step keeps what holds of the calls. -/
theorem step (sound : s.Sound) (step : s.Step x t) : t.Sound where
  oneTurn here there := sound.oneTurn_step step here there
  below := sound.below_step step
  ascending := sound.ascending_step step
  entered here awaits := sound.entered_step step here awaits
  awaited listed := sound.awaited_step step listed
  writing here := sound.writing_step step here
  sentBelow := (sound.sent_step step).1
  sentAscending := (sound.sent_step step).2
  waiting here := sound.waiting_step step here

end Sound

theorem Run.sound {vm : String} {past : List Moment} (run : Run vm past s) : s.Sound :=
  Leads.induct run (sound_new vm) fun step sound => sound.step step

end Session

end VmControl
