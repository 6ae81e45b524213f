import VmControl.Proofs.Monitor.Numbers

/-!
# Who gets which reply

A reply answers a call if it comes under the number of the call while that number is awaited. Every
outcome of a call is that of the first reply that answers it, or a failure of the connection.

* `Session.Moment.Answers`: at a moment a reply comes that answers the call at a position.
* `Session.Moment.Apart`: the reply of a moment answers one call at most, and no other call is
  affected.
* `Session.Answered`: the outcome of the first reply that answers a call (`Session.Run.gets`,
  `Session.Run.keeps`).
-/

namespace VmControl

namespace Session

variable {s t : Session} {past : List Moment} {p q id : Nat} {c : Command} {stage : CallStage}
  {x : SessionStep} {m : Moment} {vm : String} {outcome : Except ControlError Json}

/-- At a moment a reply comes under a number that is awaited for the call at a position. -/
structure Moment.Answers (m : Moment) (q id : Nat) (outcome : Except ControlError Json) : Prop where
  told : ∃ number : UInt64, number.toNat = id ∧
    m.step.inbound? = some (.reply (some number) outcome)
  awaited : (id, q) ∈ m.before.pending

/-- The first reply under the number of a call that came while it was awaited had this outcome. -/
def Answered (past : List Moment) (q : Nat) (outcome : Except ControlError Json) : Prop :=
  Once (fun earlier m => ∃ id, (id, q) ∈ enrolled earlier ∧ m.Answers q id outcome ∧
    ∀ n ∈ earlier, ∀ other, ¬ n.Answers q id other) past

theorem Step.eq_deliver {number : UInt64} (step : s.Step x t)
    (told : x.inbound? = some (.reply (some number) outcome)) :
    t = s.deliver number.toNat outcome := by
  cases step with
  | call | giveTurn | enroll | refuse | written | unwritten | drop | lose | beginClose | takeWriter
  | endClose => cases told
  | pass reading noEvent noReply => exact absurd told (noReply _ _)
  | event reading told' =>
    rw [told] at told'
    cases told'
  | reply reading told' =>
    rw [told] at told'
    cases told'
    rfl
  | giveUp reading nothing =>
    rw [told] at nothing
    cases nothing

/-! ## One call at a time -/

theorem Moment.Answers.unique {id' : Nat} {other : Except ControlError Json}
    (sound : m.before.Sound) (here : m.Answers p id outcome) (there : m.Answers q id' other) :
    p = q := by
  obtain ⟨⟨number, rfl, told⟩, awaited⟩ := here
  obtain ⟨⟨number', rfl, told'⟩, awaited'⟩ := there
  rw [told] at told'
  cases told'
  exact sound.position_unique awaited awaited'

/-- At a moment a reply reaches nobody but the call that it answers. -/
structure Moment.Apart (m : Moment) (after : Session) : Prop where
  one : ∀ {p q id id' outcome other}, m.Answers p id outcome → m.Answers q id' other → p = q
  /-- The call gets the outcome unless its caller has gone away. -/
  own : ∀ {q id outcome c stage}, m.Answers q id outcome → m.before.At q c stage →
    after.At q c (stage.answered outcome) ∧ (stage.awaited? = some id ∨ stage = .dropped)
  others : ∀ {p q id outcome c stage}, m.Answers q id outcome → p ≠ q → m.before.At p c stage →
    after.At p c stage
  /-- A reply that nobody awaits changes nothing. -/
  stray : ∀ {number outcome}, m.step.inbound? = some (.reply (some number) outcome) →
    (∀ q, ¬ m.Answers q number.toNat outcome) → after = m.before

theorem Sound.apart (sound : s.Sound) (step : s.Step x t) : Moment.Apart ⟨s, x⟩ t where
  one here there := here.unique sound there
  own := by
    rintro q id outcome c stage ⟨⟨number, rfl, told⟩, awaited⟩ here
    obtain rfl := step.eq_deliver told
    have got : (s.deliver number.toNat outcome).At q c (stage.answer number.toNat outcome) :=
      At.deliver here fun _ => sound.lookup_of_mem awaited
    obtain ⟨d, old, there, state⟩ := sound.awaited awaited
    obtain ⟨rfl, rfl⟩ := there.unique here
    rcases state with awaits | rfl
    · rw [CallStage.answer_of_awaited awaits] at got
      exact ⟨got, Or.inl awaits⟩
    · exact ⟨got, Or.inr rfl⟩
  others := by
    rintro p q id outcome c stage ⟨⟨number, rfl, told⟩, awaited⟩ apart here
    obtain rfl := step.eq_deliver told
    have other : stage.awaited? ≠ some number.toNat := fun awaits =>
      apart (sound.position_unique (sound.entered here awaits) awaited)
    have same : (s.deliver number.toNat outcome).At p c (stage.answer number.toNat outcome) :=
      At.deliver here fun awaits => absurd awaits other
    rwa [CallStage.answer_of_not_awaited other] at same
  stray := by
    intro number outcome told nobody
    obtain rfl := step.eq_deliver told
    unfold deliver
    split
    · rfl
    · next position found =>
      obtain ⟨before, after, split, -⟩ := List.lookup_eq_some_iff.mp found
      have listed : (number.toNat, position) ∈ s.pending := by
        rw [split]
        exact List.mem_append_right _ (List.mem_cons_self ..)
      exact absurd ⟨⟨number, rfl, told⟩, listed⟩ (nobody position)

/-! ## The first reply -/

theorem Run.vm_eq (run : Run vm past s) : s.vm = vm :=
  Leads.induct (P := fun u => u.vm = vm) run rfl fun step same => step.vm_eq.trans same

/-- A call that was answered keeps the outcome, unless its caller goes away or its line cannot be
written. -/
theorem Run.keeps (run : Run vm past s) (answered : Answered past q outcome) :
    ∃ c stage, s.At q c stage ∧ (stage.got? = some outcome ∨ stage = .dropped ∨
      ∃ reason, stage = .ended (.error (.io reason))) := by
  induction run with
  | refl =>
    obtain ⟨earlier, m, later, nothing, -⟩ := answered
    cases earlier <;> cases nothing
  | @step past t u x run stepped ih =>
    have step := step?_cases stepped
    have sound := Run.sound run
    obtain ⟨earlier, m, later, split, id, given, answers, first⟩ := answered
    rcases concat_eq_split_iff.mp split with ⟨rfl, rfl, rfl⟩ | ⟨rest, rfl, front⟩
    · obtain ⟨c, stage, before, -⟩ := sound.awaited answers.awaited
      obtain ⟨after, awaits | rfl⟩ := (sound.apart step).own answers before
      · exact ⟨c, _, after, Or.inl (CallStage.got?_answered awaits)⟩
      · exact ⟨c, _, after, Or.inr (Or.inl rfl)⟩
    · obtain ⟨c, old, before, state⟩ := ih ⟨earlier, m, rest, front, id, given, answers, first⟩
      obtain ⟨stage, here, goes⟩ := step.later before
      refine ⟨c, stage, here, ?_⟩
      rcases state with got | rfl | ⟨reason, rfl⟩
      · exact goes.keeps got
      · exact Or.inr (Or.inl (goes.of_isOver rfl))
      · exact Or.inr (Or.inr ⟨reason, goes.of_isOver rfl⟩)

end Session

end VmControl
