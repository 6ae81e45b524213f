import Mathlib.Data.List.Basic

/-!
# Replaying moves

Whatever goes on by moves can be led through given ones: each move finds a state, leaves another
one, and writes entries into a history. `replay?` does so as long as every move can be made, and
what each of the moves preserves, of the history and of the state, holds after all of them
(`holds_of_replay?`). Whoever makes moves of a kind names its own step and what the step writes
down.
-/

namespace VmControl

variable {σ μ τ ε : Type} {step? : σ → μ → Option τ} {next : τ → σ} {entries : σ → μ → τ → List ε}
  {R : List ε → σ → Prop}

/-- Leads a state through moves: the entries that they write, oldest first, and the state after
them; nothing if one of the moves cannot be made. -/
def replay? (step? : σ → μ → Option τ) (next : τ → σ) (entries : σ → μ → τ → List ε) (s : σ) :
    List μ → Option (List ε × σ)
  | [] => some ([], s)
  | move :: rest =>
    (step? s move).bind fun outcome =>
      (replay? step? next entries (next outcome) rest).map fun (later, last) =>
        (entries s move outcome ++ later, last)

/-- What the moves preserve one by one holds after all of them. -/
theorem of_replay? {moves : List μ}
    (kept : ∀ move ∈ moves, ∀ {past s outcome}, R past s → step? s move = some outcome →
      R (past ++ entries s move outcome) (next outcome)) :
    ∀ {past more s last}, R past s → replay? step? next entries s moves = some (more, last) →
      R (past ++ more) last := by
  induction moves with
  | nil =>
    intro past more s last before replayed
    cases replayed
    rwa [List.append_nil]
  | cons move rest ih =>
    intro past more s last before replayed
    obtain ⟨here, others⟩ := List.forall_mem_cons.mp kept
    obtain ⟨outcome, stepped, replayed⟩ := Option.bind_eq_some_iff.mp replayed
    obtain ⟨⟨later, final⟩, replayed, same⟩ := Option.map_eq_some_iff.mp replayed
    cases same
    rw [← List.append_assoc]
    exact ih others (here before stepped) replayed

/-- What holds at first and is preserved by each of the moves holds wherever they have led. -/
theorem holds_of_replay? {s : σ} {moves : List μ} (first : R [] s)
    (kept : ∀ move ∈ moves, ∀ {past s outcome}, R past s → step? s move = some outcome →
      R (past ++ entries s move outcome) (next outcome))
    (replayable : (replay? step? next entries s moves).isSome) :
    R (Option.get _ replayable).1 (Option.get _ replayable).2 :=
  of_replay? kept first (Option.some_get replayable).symm

end VmControl
