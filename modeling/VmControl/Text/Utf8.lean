/-!
Reading bytes as text.

A byte that cannot continue the sequence before it ends that sequence, which then counts as one
fault, and is read anew as a first byte. Main statements:

- `Utf8.pieces_ascii`: seven-bit bytes stand for the characters with their numbers;
- `Utf8.strict?_eq_some`: strict reading gives a text only if there is no fault.
-/

namespace VmControl

namespace Utf8

/-- A sequence that has begun. -/
structure Sequence where
  value : Nat
  /-- The number of bytes still to come, less one. -/
  more : Nat
  /-- The least byte that may come next. -/
  low : Nat
  /-- The greatest byte that may come next. -/
  high : Nat
deriving DecidableEq

/-- What a first byte begins. -/
inductive Lead where
  /-- A character of its own. -/
  | char (c : Char)
  | sequence (p : Sequence)
  | fault
deriving DecidableEq

/-- Classifies a first byte. The bounds on the second byte keep out sequences that are too long,
surrogates, and numbers behind the last character. -/
def lead (b : Nat) : Lead :=
  if b < 0x80 then .char (Char.ofNat b)
  else if b < 0xc2 then .fault
  else if b < 0xe0 then .sequence ⟨b - 0xc0, 0, 0x80, 0xbf⟩
  else if b = 0xe0 then .sequence ⟨0, 1, 0xa0, 0xbf⟩
  else if b = 0xed then .sequence ⟨13, 1, 0x80, 0x9f⟩
  else if b < 0xf0 then .sequence ⟨b - 0xe0, 1, 0x80, 0xbf⟩
  else if b = 0xf0 then .sequence ⟨0, 2, 0x90, 0xbf⟩
  else if b < 0xf4 then .sequence ⟨b - 0xf0, 2, 0x80, 0xbf⟩
  else if b = 0xf4 then .sequence ⟨4, 2, 0x80, 0x8f⟩
  else .fault

/-- Whether a byte continues a sequence. -/
def Sequence.takes (p : Sequence) (b : Nat) : Bool := decide (p.low ≤ b ∧ b ≤ p.high)

/-- The bits of a sequence with a further byte. -/
def Sequence.grow (p : Sequence) (b : Nat) : Nat := p.value * 64 + b % 64

/-- Reads bytes behind a sequence that may have begun; a fault is read as nothing. -/
def piecesFrom (begun : Option Sequence) : List UInt8 → List (Option Char)
  | [] => if begun.isSome then [none] else []
  | b :: rest =>
    let fresh : List (Option Char) :=
      match lead b.toNat with
      | .char c => some c :: piecesFrom none rest
      | .sequence p => piecesFrom (some p) rest
      | .fault => none :: piecesFrom none rest
    match begun with
    | none => fresh
    | some p =>
      if p.takes b.toNat then
        match p.more with
        | 0 => some (Char.ofNat (p.grow b.toNat)) :: piecesFrom none rest
        | more + 1 => piecesFrom (some ⟨p.grow b.toNat, more, 0x80, 0xbf⟩) rest
      else none :: fresh

/-- The characters that bytes stand for; a fault is read as nothing. -/
def pieces (bytes : List UInt8) : List (Option Char) := piecesFrom none bytes

/-- The characters of pieces without a fault. -/
def whole? : List (Option Char) → Option (List Char)
  | [] => some []
  | none :: _ => none
  | some c :: rest => (whole? rest).map (c :: ·)

/-- The text that bytes stand for, if there is no fault. -/
def strict? (bytes : List UInt8) : Option (List Char) := whole? (pieces bytes)

/-- The character that stands for a fault. -/
def replacement : Char := '\ufffd'

/-- The text that bytes stand for, with a replacement for every fault. -/
def lossy (bytes : List UInt8) : List Char := (pieces bytes).map (·.getD replacement)

/-- The bytes that stand for a text. -/
def encode (text : String) : List UInt8 := text.toUTF8.toList

/-- Seven-bit bytes stand for the characters with their numbers. -/
theorem pieces_ascii {b : UInt8} (small : b.toNat < 0x80) (rest : List UInt8) :
    pieces (b :: rest) = some (Char.ofNat b.toNat) :: pieces rest := by
  simp [pieces, piecesFrom, lead, small]

theorem whole?_eq_some {ps : List (Option Char)} {cs : List Char} :
    whole? ps = some cs ↔ ps = cs.map some := by
  induction ps generalizing cs with
  | nil => cases cs <;> simp [whole?]
  | cons p ps ih =>
    cases p with
    | none => cases cs <;> simp [whole?]
    | some c =>
      rw [whole?, Option.map_eq_some_iff]
      constructor
      · rintro ⟨tail, found, rfl⟩
        rw [ih.mp found, List.map_cons]
      · intro same
        cases cs with
        | nil => cases same
        | cons d cs =>
          obtain ⟨head, tail⟩ := List.cons.inj same
          cases head
          exact ⟨cs, ih.mpr tail, rfl⟩

/-- Strict reading gives a text only if there is no fault. -/
theorem strict?_eq_some {bytes : List UInt8} {cs : List Char} :
    strict? bytes = some cs ↔ pieces bytes = cs.map some := whole?_eq_some

end Utf8

end VmControl
