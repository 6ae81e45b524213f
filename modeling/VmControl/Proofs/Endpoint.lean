import VmControl.Proofs.Net.Addresses

/-!
# Endpoints inside longer texts

An endpoint is written with digits, points, colons and brackets. It holds no equals sign
(`Endpoint.equals_not_mem_text`), so the name behind the equals sign of a target can be read off the
target, whichever endpoint stands in front of it (`Endpoint.exportName_inj`).
-/

namespace VmControl

theorem equals_not_mem_digits (n : Nat) : '=' ∉ Text.digits n := by
  intro there
  have digit := Nat.isDigit_of_mem_toDigits (by decide) (by decide) there
  revert digit
  decide

namespace IpAddress

theorem equals_not_mem_groupsText (groups : List UInt16) : '=' ∉ groupsText groups :=
  not_mem_groupsText (by decide) (by decide) groups

theorem equals_not_mem_bytesText (a b c d : UInt8) : '=' ∉ bytesText a b c d := by
  simp [bytesText, equals_not_mem_digits]

/-- The text of an address holds no equals sign. -/
theorem equals_not_mem_text (a : IpAddress) : '=' ∉ a.text.toList := by
  unfold text
  split
  · rw [String.toList_ofList]
    exact equals_not_mem_bytesText _ _ _ _
  · rw [String.toList_ofList]
    split
    · simp [equals_not_mem_bytesText]
    · split
      split
      · simp [equals_not_mem_groupsText]
      · exact equals_not_mem_groupsText _

end IpAddress

namespace Endpoint

/-- The text of an endpoint holds no equals sign. -/
theorem equals_not_mem_text (e : Endpoint) : '=' ∉ e.text.toList := by
  have port : '=' ∉ Nat.toDigits 10 e.port.toNat := equals_not_mem_digits _
  unfold text
  split <;> simp [port, IpAddress.equals_not_mem_text]

theorem eq_of_append_cons {α : Type} {c : α} {a b front back : List α} (here : c ∉ a)
    (there : c ∉ front) (same : a ++ c :: b = front ++ c :: back) : b = back := by
  induction a generalizing front with
  | nil =>
    cases front with
    | nil => exact (List.cons.inj same).2
    | cons d front => exact absurd ((List.cons.inj same).1 ▸ List.mem_cons_self) there
  | cons d a ih =>
    cases front with
    | nil => exact absurd ((List.cons.inj same).1 ▸ List.mem_cons_self) here
    | cons f front =>
      exact ih (fun h => here (List.mem_cons_of_mem _ h))
        (fun h => there (List.mem_cons_of_mem _ h))
        (List.cons.inj same).2

/-- The name in a target does not depend on how one looks at the target. -/
theorem exportName_inj {e f : Endpoint} {name other : String}
    (same : "nbd:" ++ e.text ++ ":exportname=" ++ name =
      "nbd:" ++ f.text ++ ":exportname=" ++ other) :
    name = other := by
  have chars := congrArg String.toList same
  have front (e : Endpoint) : '=' ∉ ("nbd:" ++ e.text ++ ":exportname").toList := by
    simp [e.equals_not_mem_text]
  have split (e : Endpoint) (name : String) : ("nbd:" ++ e.text ++ ":exportname=" ++ name).toList =
      ("nbd:" ++ e.text ++ ":exportname").toList ++ '=' :: name.toList := by
    simp
  rw [split, split] at chars
  exact String.toList_inj.mp (eq_of_append_cons (front e) (front f) chars)

end Endpoint

end VmControl
