import Mathlib.Data.List.Basic
import VmControl.Text.Utf8

/-!
# Texts that are written as bytes and read again

A character takes up to four bytes. The first byte tells how many there are; together with the
second it keeps out whatever no character is written as.

* `Utf8.pieces_char`: the bytes of a character are read as that character, whatever follows them.
* `Utf8.pieces_encode`: the bytes of a text are read as its characters, without a fault.
* `Utf8.encode_injective`: no two texts have the same bytes.
-/

namespace VmControl

namespace Utf8

/-! ## The bytes of a text -/

theorem toList_loop (bytes : ByteArray) (i : Nat) (done : List UInt8) :
    ByteArray.toList.loop bytes i done = done.reverse ++ bytes.data.toList.drop i := by
  fun_induction ByteArray.toList.loop bytes i done with
  | case1 i done inside ih =>
    have here : i < bytes.data.toList.length := inside
    have byte : bytes.get! i = bytes.data.toList[i] := getElem!_pos bytes.data i inside
    rw [ih, List.reverse_cons, List.append_assoc, List.drop_eq_getElem_cons here, byte,
      List.singleton_append]
  | case2 i done beyond =>
    have passed : bytes.data.toList.length ≤ i := Nat.not_lt.mp beyond
    rw [List.drop_eq_nil_of_le passed, List.append_nil]

theorem toList_eq (bytes : ByteArray) : bytes.toList = bytes.data.toList := toList_loop bytes 0 []

/-- The bytes of a text are those of its characters, one after the other. -/
theorem encode_ofList (cs : List Char) :
    encode (String.ofList cs) = cs.flatMap String.utf8EncodeChar := by
  rw [encode, String.toUTF8_eq_toByteArray, toList_eq, String.toByteArray_ofList, List.utf8Encode,
    List.toList_data_toByteArray]

/-! ## Sequences -/

variable {p : Sequence} {b : UInt8} {rest : List UInt8} {n : Nat}

theorem pieces_sequence (begins : lead b.toNat = .sequence p) :
    pieces (b :: rest) = piecesFrom (some p) rest := by
  simp only [pieces, piecesFrom, begins]

theorem piecesFrom_last (takes : p.takes b.toNat = true) (last : p.more = 0) :
    piecesFrom (some p) (b :: rest) = some (Char.ofNat (p.grow b.toNat)) :: pieces rest := by
  simp only [piecesFrom, takes, last, if_true, pieces]

theorem piecesFrom_more {more : Nat} (takes : p.takes b.toNat = true)
    (further : p.more = more + 1) :
    piecesFrom (some p) (b :: rest) =
      piecesFrom (some ⟨p.grow b.toNat, more, 0x80, 0xbf⟩) rest := by
  simp only [piecesFrom, takes, further, if_true]

theorem toNat_ofNat (small : n < 256) : (UInt8.ofNat n).toNat = n := UInt8.toNat_ofNat_of_lt' small

/-- A byte behind the first one, with six bits of a number. -/
def tail (n : Nat) : UInt8 := UInt8.ofNat (n % 64 + 128)

theorem toNat_tail (n : Nat) : (tail n).toNat = n % 64 + 128 := toNat_ofNat (by omega)

theorem takes_tail (value more n : Nat) :
    Sequence.takes ⟨value, more, 0x80, 0xbf⟩ (tail n).toNat = true := by
  rw [toNat_tail]
  refine decide_eq_true ?_
  dsimp only
  omega

theorem grow_tail (p : Sequence) (n : Nat) : p.grow (tail n).toNat = p.value * 64 + n % 64 := by
  rw [toNat_tail, Sequence.grow]
  omega

/-! ## First bytes -/

theorem lead_two (low : 2 ≤ n) (high : n < 32) :
    lead (n + 192) = .sequence ⟨n, 0, 0x80, 0xbf⟩ := by
  rw [lead, if_neg (by omega), if_neg (by omega), if_pos (by omega), Nat.add_sub_cancel]

/-- The first of three bytes. The next one is not as low as in a number that takes two bytes, and
not a surrogate's. -/
theorem lead_three {m : Nat} (small : n < 16) (long : n = 0 → 32 ≤ m % 64)
    (whole : n = 13 → m % 64 < 32) :
    ∃ p : Sequence, lead (n + 224) = .sequence p ∧ p.value = n ∧ p.more = 1 ∧
      p.takes (tail m).toNat = true := by
  have bounds := Nat.mod_lt m (show 0 < 64 by decide)
  simp only [toNat_tail, Sequence.takes, decide_eq_true_iff]
  by_cases first : n = 0
  · have low := long first
    subst first
    exact ⟨⟨0, 1, 0xa0, 0xbf⟩, rfl, rfl, rfl, by dsimp only; omega⟩
  · by_cases surrogate : n = 13
    · have high := whole surrogate
      subst surrogate
      exact ⟨⟨13, 1, 0x80, 0x9f⟩, rfl, rfl, rfl, by dsimp only; omega⟩
    · refine ⟨⟨n, 1, 0x80, 0xbf⟩, ?_, rfl, rfl, by dsimp only; omega⟩
      rw [lead, if_neg (by omega), if_neg (by omega), if_neg (by omega), if_neg (by omega),
        if_neg (by omega), if_pos (by omega), Nat.add_sub_cancel]

/-- The first of four bytes. The next one is not as low as in a number that takes three bytes, and
not behind the last character. -/
theorem lead_four {m : Nat} (small : n < 5) (long : n = 0 → 16 ≤ m % 64)
    (last : n = 4 → m % 64 < 16) :
    ∃ p : Sequence, lead (n + 240) = .sequence p ∧ p.value = n ∧ p.more = 2 ∧
      p.takes (tail m).toNat = true := by
  have bounds := Nat.mod_lt m (show 0 < 64 by decide)
  simp only [toNat_tail, Sequence.takes, decide_eq_true_iff]
  by_cases first : n = 0
  · have low := long first
    subst first
    exact ⟨⟨0, 2, 0x90, 0xbf⟩, rfl, rfl, rfl, by dsimp only; omega⟩
  · by_cases final : n = 4
    · have high := last final
      subst final
      exact ⟨⟨4, 2, 0x80, 0x8f⟩, rfl, rfl, rfl, by dsimp only; omega⟩
    · refine ⟨⟨n, 2, 0x80, 0xbf⟩, ?_, rfl, rfl, by dsimp only; omega⟩
      rw [lead, if_neg (by omega), if_neg (by omega), if_neg (by omega), if_neg (by omega),
        if_neg (by omega), if_neg (by omega), if_neg (by omega), if_pos (by omega),
        Nat.add_sub_cancel]

/-! ## Characters -/

/-- The bytes of the character with a number. -/
def bytes (n : Nat) : List UInt8 :=
  if n ≤ 0x7f then [UInt8.ofNat n]
  else if n ≤ 0x7ff then [UInt8.ofNat (n / 64 % 32 + 192), tail n]
  else if n ≤ 0xffff then [UInt8.ofNat (n / 4096 % 16 + 224), tail (n / 64), tail n]
  else [UInt8.ofNat (n / 262144 % 8 + 240), tail (n / 4096), tail (n / 64), tail n]

theorem utf8EncodeChar_eq (c : Char) : String.utf8EncodeChar c = bytes c.toNat := rfl

theorem pieces_two (low : 0x80 ≤ n) (high : n ≤ 0x7ff) :
    pieces (UInt8.ofNat (n / 64 % 32 + 192) :: tail n :: rest) =
      some (Char.ofNat n) :: pieces rest := by
  have first : n / 64 % 32 = n / 64 := by omega
  have begins : lead (UInt8.ofNat (n / 64 % 32 + 192)).toNat =
      .sequence ⟨n / 64, 0, 0x80, 0xbf⟩ := by
    rw [toNat_ofNat (by omega), first]
    exact lead_two (by omega) (by omega)
  have value : n / 64 * 64 + n % 64 = n := by omega
  rw [pieces_sequence begins, piecesFrom_last (takes_tail _ _ _) rfl, grow_tail, value]

theorem pieces_three (low : 0x800 ≤ n) (high : n ≤ 0xffff) (whole : n < 0xd800 ∨ 0xdfff < n) :
    pieces (UInt8.ofNat (n / 4096 % 16 + 224) :: tail (n / 64) :: tail n :: rest) =
      some (Char.ofNat n) :: pieces rest := by
  have first : n / 4096 % 16 = n / 4096 := by omega
  obtain ⟨p, begins, front, more, takes⟩ :=
    lead_three (n := n / 4096) (m := n / 64) (by omega) (by omega) (by omega)
  rw [← first, ← toNat_ofNat (n := n / 4096 % 16 + 224) (by omega)] at begins
  have value : (n / 4096 * 64 + n / 64 % 64) * 64 + n % 64 = n := by omega
  rw [pieces_sequence begins, piecesFrom_more takes more, piecesFrom_last (takes_tail _ _ _) rfl,
    grow_tail, grow_tail, front, value]

theorem pieces_four (low : 0x10000 ≤ n) (high : n < 0x110000) :
    pieces (UInt8.ofNat (n / 262144 % 8 + 240) :: tail (n / 4096) :: tail (n / 64) ::
      tail n :: rest) =
      some (Char.ofNat n) :: pieces rest := by
  have first : n / 262144 % 8 = n / 262144 := by omega
  obtain ⟨p, begins, front, more, takes⟩ :=
    lead_four (n := n / 262144) (m := n / 4096) (by omega) (by omega) (by omega)
  rw [← first, ← toNat_ofNat (n := n / 262144 % 8 + 240) (by omega)] at begins
  have value : ((n / 262144 * 64 + n / 4096 % 64) * 64 + n / 64 % 64) * 64 + n % 64 = n := by omega
  rw [pieces_sequence begins, piecesFrom_more takes more, piecesFrom_more (takes_tail _ _ _) rfl,
    piecesFrom_last (takes_tail _ _ _) rfl, grow_tail, grow_tail, grow_tail, front, value]

/-- The bytes of a character are read as that character. -/
theorem pieces_char (c : Char) (rest : List UInt8) :
    pieces (String.utf8EncodeChar c ++ rest) = some c :: pieces rest := by
  have range : c.toNat < 0xd800 ∨ 0xdfff < c.toNat ∧ c.toNat < 0x110000 := c.valid
  have back : Char.ofNat c.toNat = c := Char.ofNat_toNat c
  rw [utf8EncodeChar_eq, bytes]
  split
  · next one =>
    have byte : (UInt8.ofNat c.toNat).toNat = c.toNat := toNat_ofNat (by omega)
    rw [List.singleton_append, pieces_ascii (by omega), byte, back]
  · split
    · rw [List.cons_append, List.singleton_append, pieces_two (by omega) (by omega), back]
    · split
      · rw [List.cons_append, List.cons_append, List.singleton_append,
          pieces_three (by omega) (by omega) (by omega), back]
      · rw [List.cons_append, List.cons_append, List.cons_append, List.singleton_append,
          pieces_four (by omega) (by omega), back]

/-! ## Texts -/

/-- The bytes of a text are read as its characters. -/
theorem pieces_encode (text : String) : pieces (encode text) = text.toList.map some := by
  have chars (cs : List Char) : pieces (cs.flatMap String.utf8EncodeChar) = cs.map some := by
    induction cs with
    | nil => rfl
    | cons c cs ih => rw [List.flatMap_cons, pieces_char, ih, List.map_cons]
  rw [← chars, ← encode_ofList, String.ofList_toList]

/-- What is written is read again. -/
theorem strict?_encode (text : String) : strict? (encode text) = some text.toList :=
  strict?_eq_some.mpr (pieces_encode text)

/-- No two texts have the same bytes. -/
theorem encode_injective {text other : String} (same : encode text = encode other) :
    text = other := by
  have chars := (strict?_encode text).symm.trans
    ((congrArg strict? same).trans (strict?_encode other))
  exact String.toList_inj.mp (Option.some.inj chars)

end Utf8

end VmControl
