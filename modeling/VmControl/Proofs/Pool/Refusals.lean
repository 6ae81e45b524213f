import VmControl.Proofs.Past
import VmControl.Proofs.Pool.Polls

/-!
# Starts that are refused

A start that is refused has only asked questions. Until it is accepted it changes nothing
(`Host.Sound.inquires`), so all of its moves can be left out of a run: the others then find the same
tasks, the same files and the same saves at every moment (`Service.Run.without`).

* `Host.Operation.Inquires`: what the start of a migration may want done before it is accepted.
* `Service.without`: a service to which one call was not made. The calls made later close up, and
  `Service.Move.without` renames them.
* `Service.Run.refused_without_effect`: what is so of every start that is refused.
-/

namespace VmControl

/-! ## Questions -/

namespace Host

/-- A call that is to start something only makes a connection and asks the receiving host whether it
has the machine and, if there are disks, whether it has room. -/
inductive Operation.Inquires : Operation → CallEffect → Prop
  | connect (o : MigrationOptions) : Inquires (.startMigration o) (.connect o.dstServer o.dstAddrs)
  | name (o : MigrationOptions) :
      Inquires (.startMigration o) (.request (.isConfigPresent o.dstVmName))
  | room (o : MigrationOptions) (disks : o.disks ≠ []) :
      Inquires (.startMigration o) (.request (.checkCapacity o.capacities))

/-- A step of a call is its acceptance, or it changes no task and only asks. -/
def Operation.AsksOrAccepts (o : Operation) (p q : Pool) (state : CallState)
    (effects : List CallEffect) : Prop :=
  state = .returned (.ok ()) ∨ q = p ∧ ∀ e ∈ effects, o.Inquires e

end Host

open Host

variable {p q : Pool} {s : Surroundings}

theorem StartCall.begin_inquires (p : Pool) (s : Surroundings) (o : MigrationOptions)
    {c : StartCall} {effects : List CallEffect} (asks : (begin p s o).2 = .goesOn c effects) :
    ∀ e ∈ effects, (Operation.startMigration o).Inquires e := by
  unfold begin at asks
  split at asks
  · cases asks
  · split at asks
    · cases asks
    · split at asks
      · cases asks
      · cases asks
        exact List.forall_mem_singleton.mpr (.connect o)

/-- A further step of the start of a migration accepts it, or changes no task and only asks. -/
theorem StartCall.step?_inquires {c : StartCall} {x : Happening}
    {turn : CallTurn StartCall (Except ControlError Unit)} (h : c.step? p s x = some (q, turn)) :
    turn = .over (.ok ()) ∨ q = p ∧ ∀ d effects, turn = .goesOn d effects →
      ∀ e ∈ effects, (Operation.startMigration c.options).Inquires e := by
  have registers (came : c.register p s = (q, turn)) : turn = .over (.ok ()) ∨
      q = p ∧ ∀ d effects, turn = .goesOn d effects →
        ∀ e ∈ effects, (Operation.startMigration c.options).Inquires e := by
    unfold register at came
    split at came <;> cases came
    · exact Or.inr ⟨rfl, nofun⟩
    · exact Or.inl rfl
  unfold step? at h
  split at h
  · split at h <;> cases h
    · refine Or.inr ⟨rfl, fun _ _ same => ?_⟩
      cases same
      exact List.forall_mem_singleton.mpr (.name c.options)
    · exact Or.inr ⟨rfl, nofun⟩
  · obtain ⟨answer, -, came⟩ := Option.map_eq_some_iff.mp h
    unfold onName at came
    split at came
    · cases came
      exact Or.inr ⟨rfl, nofun⟩
    · split at came
      · cases came
        exact Or.inr ⟨rfl, nofun⟩
      · split at came
        · exact registers came
        · next disks =>
          cases came
          refine Or.inr ⟨rfl, fun _ _ same => ?_⟩
          cases same
          rw [List.isEmpty_iff] at disks
          exact List.forall_mem_singleton.mpr (.room c.options disks)
  · obtain ⟨answer, -, came⟩ := Option.map_eq_some_iff.mp h
    unfold onRoom at came
    split at came
    · cases came
      exact Or.inr ⟨rfl, nofun⟩
    · exact registers came

namespace Host

variable {h h' : Host} {move : Move} {errands : List Errand} {o : Operation} {number : Nat}
  {state next : CallState} {effects : List CallEffect}

theorem Operation.begin_inquires (start : o.wanted? ≠ none)
    (begun : o.begin p s = (q, state, effects)) :
    o.AsksOrAccepts p q state effects := by
  cases o with
  | startMigration o =>
    obtain ⟨same, asks⟩ := Prod.mk.inj begun
    rw [StartCall.begin_fst] at same
    subst same
    rcases turn : (StartCall.begin p s o).2 with ⟨c, wanted⟩ | outcome
    · rw [turn] at asks
      cases asks
      exact Or.inr ⟨rfl, StartCall.begin_inquires p s o turn⟩
    · rw [turn] at asks
      cases asks
      exact Or.inr ⟨rfl, List.forall_mem_nil _⟩
  | startCopying o =>
    cases begun
    unfold Pool.startCopying
    split
    · exact Or.inr ⟨rfl, List.forall_mem_nil _⟩
    · split
      · exact Or.inr ⟨rfl, List.forall_mem_nil _⟩
      · exact Or.inl rfl
  | cancel | cancelAll => exact absurd rfl start

theorem CallState.step?_inquires {x : Happening} (start : o.wanted? ≠ none)
    (relied : state.Sound p o) (stepped : state.step? p s x = some (q, next, effects)) :
    o.AsksOrAccepts p q next effects := by
  cases state with
  | starting c =>
    obtain rfl : o = .startMigration c.options := relied
    obtain ⟨⟨_, turn⟩, went, same⟩ := Option.map_eq_some_iff.mp stepped
    rcases StartCall.step?_inquires went with rfl | ⟨rfl, asks⟩
    · cases same
      exact Or.inl rfl
    · rcases turn with ⟨d, wanted⟩ | outcome <;> cases same
      · exact Or.inr ⟨rfl, asks d _ rfl⟩
      · exact Or.inr ⟨rfl, List.forall_mem_nil _⟩
  | cancelling | cancellingAll => exact absurd relied.1 start
  | returned => cases stepped

/-- A move of a call that is to start something accepts it, or changes no task and only asks. -/
theorem Sound.inquires (sound : h.Sound) (step : h.Step move h' errands) (start : o.wanted? ≠ none)
    (own : Moment.call? ⟨h, move, errands⟩ = some number)
    (there : h'.calls[number]? = some ⟨o, state⟩) (unaccepted : state ≠ .returned (.ok ())) :
    h'.pool = h.pool ∧ ∀ errand ∈ errands, ∃ e, errand = .ofCall number e ∧ o.Inquires e := by
  have asked {effects : List CallEffect} (asks : ∀ e ∈ effects, o.Inquires e) :
      ∀ errand ∈ effects.map (Errand.ofCall number), ∃ e, errand = .ofCall number e ∧
        o.Inquires e :=
    List.forall_mem_map.mpr fun e wanted => ⟨e, rfl, asks e wanted⟩
  cases step with
  | call begun =>
    cases own
    rw [List.getElem?_concat_length] at there
    cases there
    rcases Operation.begin_inquires start begun with accepted | ⟨same, asks⟩
    · exact absurd accepted unaccepted
    · exact ⟨same, asked asks⟩
  | @goOn _ s x c p next effects here stepped =>
    cases own
    rw [List.getElem?_set_self (List.getElem?_eq_some_iff.mp here).1] at there
    obtain ⟨operation, before⟩ := c
    cases there
    have relied := sound.calls _ (List.mem_of_getElem? here)
    rcases CallState.step?_inquires start relied stepped with accepted | ⟨same, asks⟩
    · exact absurd accepted unaccepted
    · exact ⟨same, asked asks⟩
  | task => cases own

/-! ## Leaving out a call -/

/-- The number of a call where another one was not made. -/
def closeUp (left number : Nat) : Nat := if left < number then number - 1 else number

/-- A host to which a call was not made. -/
def without (h : Host) (left : Nat) : Host := { h with calls := h.calls.eraseIdx left }

/-- A move of a host to which a call was not made. -/
def Move.without (left : Nat) : Move → Move
  | .goOn number s x => .goOn (closeUp left number) s x
  | move => move

def Errand.without (left : Nat) : Errand → Errand
  | .ofCall number e => .ofCall (closeUp left number) e
  | errand => errand

variable {left : Nat}

theorem getElem?_eraseIdx_closeUp {α : Type} (l : List α) (apart : number ≠ left) :
    (l.eraseIdx left)[closeUp left number]? = l[number]? := by
  rw [closeUp, List.getElem?_eraseIdx]
  split
  · rw [if_neg (by omega), Nat.sub_add_cancel (by omega)]
  · rw [if_pos (by omega)]

theorem eraseIdx_set_closeUp {α : Type} (l : List α) (a : α) (apart : number ≠ left) :
    (l.set number a).eraseIdx left = (l.eraseIdx left).set (closeUp left number) a := by
  rw [closeUp]
  split
  · next later => exact List.eraseIdx_set_lt later
  · exact List.eraseIdx_set_gt (by omega)

/-- The others go on as they do, whether the call was made or not. -/
theorem step?_without (moved : h.step? move = some (h', errands))
    (other : Moment.call? ⟨h, move, errands⟩ ≠ some left) :
    (h.without left).step? (move.without left) =
      some (h'.without left, errands.map (Errand.without left)) := by
  cases step?_cases moved with
  | @call s o p state effects begun =>
    have apart : h.calls.length ≠ left := fun same => other (congrArg some same)
    have length : (h.calls.eraseIdx left).length = closeUp left h.calls.length := by
      rw [List.length_eraseIdx, closeUp]
    have calls (c : Call) : (h.calls ++ [c]).eraseIdx left = h.calls.eraseIdx left ++ [c] := by
      rcases Nat.lt_or_ge left h.calls.length with low | high
      · exact List.eraseIdx_append_of_lt_length low _
      · rw [List.eraseIdx_of_length_le high, List.eraseIdx_of_length_le]
        rw [List.length_append, List.length_singleton]
        omega
    simp only [Move.without, step?, without, begun, length, calls, List.map_map]
    rfl
  | @goOn number s x c p state effects here stepped =>
    have apart : number ≠ left := fun same => other (congrArg some same)
    simp only [Move.without, step?, without, getElem?_eraseIdx_closeUp _ apart, here, stepped,
      Option.map_some, eraseIdx_set_closeUp _ _ apart, List.map_map]
    rfl
  | @task number s x j k effects here stepped =>
    simp only [Move.without, step?, without, Pool.step?, here, stepped, Option.map_some,
      List.map_map]
    rfl

/-- A call that makes a move is made by it, or was under way. -/
theorem Step.own_cases (step : h.Step move h' errands)
    (own : Moment.call? ⟨h, move, errands⟩ = some number)
    (there : h'.calls[number]? = some ⟨o, state⟩) : number = h.calls.length ∨
      ∃ before, h.calls[number]? = some ⟨o, before⟩ ∧ ∀ outcome, before ≠ .returned outcome := by
  cases step with
  | call =>
    cases own
    exact Or.inl rfl
  | @goOn _ s x c p next effects here stepped =>
    cases own
    rw [List.getElem?_set_self (List.getElem?_eq_some_iff.mp here).1] at there
    obtain ⟨operation, before⟩ := c
    cases there
    refine Or.inr ⟨before, here, ?_⟩
    rintro outcome rfl
    cases stepped
  | task => cases own

/-- A move of the call itself leaves nothing but what is known of the call. -/
theorem Step.without_eq (step : h.Step move h' errands)
    (own : Moment.call? ⟨h, move, errands⟩ = some left) (same : h'.pool = h.pool) :
    h'.without left = h.without left := by
  cases step with
  | call =>
    cases own
    obtain rfl := same
    rw [without, without, List.eraseIdx_append_of_length_le (Nat.le_refl _), Nat.sub_self,
      List.eraseIdx_of_length_le (Nat.le_refl _)]
    exact congrArg _ (List.append_nil _)
  | goOn =>
    cases own
    obtain rfl := same
    rw [without, without, List.eraseIdx_set_eq]
  | task => cases own

end Host

namespace Service

open Host

variable {config : Config} {files : FileSystem} {v w : Service} {move : Move} {left : Nat}

/-! ## Runs of a service -/

/-- The moves that have led to a service on a file system, oldest first. -/
inductive Run (config : Config) (files : FileSystem) : List Moment → Service → Prop
  | new : Run config files [] (.new config files)
  | step {past : List Moment} {v w : Service} {move : Move} :
      Run config files past v → v.step? move = some w → Run config files (past ++ [⟨v, move⟩]) w

/-- A service that can be led through moves from its beginning has run. -/
theorem Run.of_replay? {moves : List Move}
    (replayable : ((Service.new config files).replay? moves).isSome) :
    Run config files (Option.get _ replayable).1 (Option.get _ replayable).2 :=
  holds_of_replay? (R := Run config files) .new (fun _ _ => .step) replayable

/-- The call that makes a move. -/
def Moment.call? (m : Moment) : Option Nat :=
  match m.move with
  | .host move => Host.Moment.call? ⟨m.before.host, move, []⟩
  | _ => none

/-- A move changes nothing but what is known of a call, which has only asked questions. -/
def Moment.OnlyInquires (m : Moment) (call : Nat) (o : Operation) : Prop :=
  ∃ move after errands, m.move = .host move ∧
    m.before.host.step? move = some (after, errands) ∧
    m.before.step? m.move = some { m.before with host := after } ∧
    after.pool = m.before.host.pool ∧ after.without call = m.before.host.without call ∧
    ∀ errand ∈ errands, ∃ e, errand = .ofCall call e ∧ o.Inquires e

/-- A service to which a call was not made. -/
def without (v : Service) (left : Nat) : Service := { v with host := v.host.without left }

def Move.without (left : Nat) : Move → Move
  | .host move => .host (move.without left)
  | move => move

def Moment.without (left : Nat) (m : Moment) : Moment :=
  ⟨m.before.without left, m.move.without left⟩

/-- What has happened without the moves of a call. -/
def pastWithout (left : Nat) (past : List Moment) : List Moment :=
  (past.filter fun m => m.call? ≠ some left).map (Moment.without left)

variable {past : List Moment} {m : Moment} {o : Operation} {state : CallState}

theorem pastWithout_own (own : m.call? = some left) :
    pastWithout left (past ++ [m]) = pastWithout left past := by
  have dropped : [m].filter (fun m => m.call? ≠ some left) = [] := by simp [own]
  rw [pastWithout, List.filter_append, dropped, List.append_nil, pastWithout]

theorem pastWithout_other (other : m.call? ≠ some left) :
    pastWithout left (past ++ [m]) = pastWithout left past ++ [m.without left] := by
  have kept : [m].filter (fun m => m.call? ≠ some left) = [m] := by simp [other]
  rw [pastWithout, List.filter_append, kept, List.map_append, List.map_singleton, pastWithout]

theorem begunSaves_without (r : Records) (errands : List Errand) :
    begunSaves r (errands.map (Errand.without left)) = begunSaves r errands := by
  rw [begunSaves, List.filterMap_map]
  refine List.filterMap_congr fun errand _ => ?_
  cases errand <;> rfl

/-- The others go on as they do, whether the call was made or not. -/
theorem step?_without (moved : v.step? move = some w)
    (other : Moment.call? ⟨v, move⟩ ≠ some left) :
    (v.without left).step? (move.without left) = some (w.without left) := by
  cases step?_cases moved with
  | @host move h errands waits went =>
    have waits' : (v.without left).awaitsSave (move.without left) = false := by
      cases move <;> exact waits
    have went' := Host.step?_without went other
    simp only [Move.without, step?, waits', Bool.false_eq_true, if_false]
    have host : (v.without left).host = v.host.without left := rfl
    rw [host, went', Option.map_some, begunSaves_without]
    rfl
  | @save number program next files here advanced =>
    have here' : (v.without left).save? number = some program := here
    have advanced' : program.advance? (v.without left).files = some (next, files) := advanced
    simp only [Move.without, step?, here', advanced', Option.map_some]
    rfl
  | ask vm => rfl
  | @read poll p next files here advanced =>
    have here' : (v.without left).polls[poll]? = some p := here
    have advanced' : p.program.advance? (v.without left).files = some (next, files) := advanced
    simp only [Move.without, step?, here', advanced', Option.map_some]
    rfl
  | outside files => rfl

/-- Where all moves of a call change nothing but what is known of it, they can be left out. -/
theorem Run.without (run : Run config files past v)
    (quiet : ∀ m ∈ past, m.call? = some left → m.OnlyInquires left o) :
    Run config files (pastWithout left past) (v.without left) ∧
      Throughout (fun earlier m =>
        Run config files (pastWithout left earlier) (m.before.without left))
        past := by
  induction run with
  | new => exact ⟨.new, throughout_nil⟩
  | @step past v w move run moved ih =>
    obtain ⟨before, now⟩ := List.forall_mem_append.mp quiet
    obtain ⟨led, throughout⟩ := ih before
    refine ⟨?_, throughout_concat.mpr ⟨throughout, led⟩⟩
    by_cases own : Moment.call? ⟨v, move⟩ = some left
    · obtain ⟨_, after, _, -, -, same, -, erased, -⟩ := now _ List.mem_cons_self own
      have reached : w.without left = v.without left := by
        cases moved.symm.trans same
        rw [Service.without, Service.without, erased]
      rw [pastWithout_own own, reached]
      exact led
    · rw [pastWithout_other own]
      exact led.step (step?_without moved own)

theorem Run.sound (run : Run config files past v) : v.host.Sound := by
  induction run with
  | new =>
    have run : Host.Run config [] (.new config) := .new
    exact run.sound
  | step _ moved ih =>
    cases step?_cases moved with
    | host _ went => exact ih.step (Host.step?_cases went)
    | save | ask | read | outside => exact ih

theorem Run.call_lt (run : Run config files past v) :
    ∀ m ∈ past, m.call? = some left → left < v.host.calls.length := by
  induction run with
  | new => exact List.forall_mem_nil _
  | step _ moved ih =>
    cases step?_cases moved with
    | host _ went =>
      have step := Host.step?_cases went
      refine List.forall_mem_append.mpr ⟨fun m old own => ?_,
        List.forall_mem_singleton.mpr step.call_lt⟩
      exact Nat.lt_of_lt_of_le (ih m old own) step.calls_length_le
    | save | ask | read | outside =>
      exact List.forall_mem_append.mpr ⟨ih, List.forall_mem_singleton.mpr nofun⟩

theorem begunSaves_of_inquires {r : Records} {errands : List Errand}
    (asks : ∀ errand ∈ errands, ∃ e, errand = .ofCall left e ∧ o.Inquires e) :
    begunSaves r errands = [] := by
  refine List.filterMap_eq_nil_iff.mpr fun errand wanted => ?_
  obtain ⟨e, rfl, -⟩ := asks errand wanted
  rfl

/-- Until a start is accepted, it only asks questions. -/
theorem Run.inquires (run : Run config files past v) (start : o.wanted? ≠ none)
    (made : v.host.calls[left]? = some ⟨o, state⟩) (unaccepted : state ≠ .returned (.ok ())) :
    ∀ m ∈ past, m.call? = some left → m.OnlyInquires left o := by
  induction run generalizing state with
  | new => cases made
  | @step past v w move run moved ih =>
    cases step?_cases moved with
    | @host move h errands waits went =>
      have step := Host.step?_cases went
      by_cases own : Host.Moment.call? ⟨v.host, move, errands⟩ = some left
      · refine List.forall_mem_append.mpr ⟨?_, List.forall_mem_singleton.mpr fun _ => ?_⟩
        · rcases step.own_cases own made with fresh | ⟨before, here, going⟩
          · -- the number of the call was not yet given to any
            exact fun m old mine => absurd (run.call_lt m old mine) (by omega)
          · exact ih here (going _)
        · obtain ⟨same, asks⟩ := run.sound.inquires step start own made unaccepted
          refine ⟨move, h, errands, rfl, went, ?_, same, step.without_eq own same, asks⟩
          rw [moved, begunSaves_of_inquires asks]
          rfl
      · have bound := (List.getElem?_eq_some_iff.mp made).1
        rw [step.calls own bound] at made
        exact List.forall_mem_append.mpr ⟨ih made unaccepted,
          List.forall_mem_singleton.mpr fun mine => absurd mine own⟩
    | save | ask | read | outside =>
      exact List.forall_mem_append.mpr ⟨ih made unaccepted, List.forall_mem_singleton.mpr nofun⟩

/-- A start that was refused has changed no task, no file, no save and no poll, and has only asked
the receiving host questions. Without its moves, the others lead through the same tasks, files,
saves and polls at every moment. -/
theorem Run.refused_without_effect {e : ControlError} (run : Run config files past v)
    (start : o.wanted? ≠ none) (refused : v.host.calls[left]? = some ⟨o, .returned (.error e)⟩) :
    (∀ m ∈ past, m.call? = some left → m.OnlyInquires left o) ∧
      Run config files (pastWithout left past) (v.without left) ∧
      Throughout (fun earlier m =>
        Run config files (pastWithout left earlier) (m.before.without left)) past := by
  have quiet := run.inquires start refused nofun
  exact ⟨quiet, run.without quiet⟩

end Service

namespace Sample

theorem overtaken_service_replayable :
    ((Service.new .default noFiles).replay? (overtakingMoves.map .host)).isSome := rfl

def overtakenPast : List Service.Moment := (Option.get _ overtaken_service_replayable).1

/-- The host on which a copy has overtaken the migration, with its files. -/
def overtakenService : Service := (Option.get _ overtaken_service_replayable).2

/-- The migration that a copy has overtaken has only asked whether the machine is there and whether
there is room, and without it the copy is started in the same way. -/
theorem overtaken_without_effect : ∃ past, past.map (·.move) = overtakingMoves.map .host ∧
    Service.Run .default noFiles past overtakenService ∧
    overtakenService.host.calls[0]? = some ⟨.startMigration plan.options,
      .returned (.error (.alreadyRunning .diskCopying "/dev/vg/root" (some "web")))⟩ ∧
    (∀ m ∈ past, m.call? = some 0 → m.OnlyInquires 0 (.startMigration plan.options)) ∧
    Service.Run .default noFiles (Service.pastWithout 0 past) (overtakenService.without 0) ∧
    (overtakenService.without 0).host.pool.isBusy 0 = true := by
  have run : Service.Run .default noFiles overtakenPast overtakenService :=
    .of_replay? overtaken_service_replayable
  have refused : overtakenService.host.calls[0]? = some ⟨.startMigration plan.options,
      .returned (.error (.alreadyRunning .diskCopying "/dev/vg/root" (some "web")))⟩ := rfl
  have start : (Host.Operation.startMigration plan.options).wanted? ≠ none := nofun
  obtain ⟨quiet, led, -⟩ := run.refused_without_effect start refused
  exact ⟨overtakenPast, rfl, run, refused, quiet, led, rfl⟩

end Sample

end VmControl
