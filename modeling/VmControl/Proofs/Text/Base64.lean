import Mathlib.Algebra.Group.Nat.Defs
import Mathlib.Data.List.Basic
import Mathlib.Data.List.GetD
import VmControl.Text.Base64

/-!
# Which texts stand for bytes in base 64

The bits of the bytes are taken six by six, each six of them are a digit, and padding fills up the
last group of four. Only this grouping is told here, not how the bytes are taken three by three.

* `Base64.Stands`: a text stands for bytes. It stands for no two sequences of bytes
  (`Base64.Stands.bytes_unique`).
* `Base64.encode_stands`: the text that is written stands for the bytes.
* `Base64.stands_of_decode?`: a text that can be read stands for the bytes that are read.
-/

namespace VmControl

namespace Base64

/-! ## Bits -/

/-- The lowest bits of a number, the highest of them first. -/
def bits : Nat → Nat → List Bool
  | 0, _ => []
  | width + 1, n => n.testBit width :: bits width n

variable {width high low n m : Nat}

@[simp] theorem length_bits (width n : Nat) : (bits width n).length = width := by
  induction width with
  | zero => rfl
  | succ width ih => rw [bits, List.length_cons, ih]

theorem bits_eq_iff : bits width n = bits width m ↔ ∀ i < width, n.testBit i = m.testBit i := by
  induction width with
  | zero => simp [bits]
  | succ width ih =>
    rw [bits, bits, List.cons.injEq, ih, Nat.forall_lt_succ_right, and_comm]

theorem bits_injective (small : n < 2 ^ width) (small' : m < 2 ^ width)
    (same : bits width n = bits width m) : n = m := by
  refine Nat.eq_of_testBit_eq fun i => ?_
  by_cases inside : i < width
  · exact bits_eq_iff.mp same i inside
  · have beyond : 2 ^ width ≤ 2 ^ i := Nat.pow_le_pow_right (by decide) (Nat.not_lt.mp inside)
    rw [Nat.testBit_lt_two_pow (Nat.lt_of_lt_of_le small beyond),
      Nat.testBit_lt_two_pow (Nat.lt_of_lt_of_le small' beyond)]

/-- The bits of a number are those of its upper part and those of its lower part. -/
theorem bits_concat (n : Nat) (small : m < 2 ^ low) :
    bits (high + low) (n * 2 ^ low + m) = bits high n ++ bits low m := by
  rw [Nat.mul_comm]
  have upper : bits (high + low) (2 ^ low * n + m) = bits high n ++ bits low (2 ^ low * n + m) := by
    induction high with
    | zero => rw [Nat.zero_add, bits, List.nil_append]
    | succ high ih =>
      have top : (2 ^ low * n + m).testBit (high + low) = n.testBit high := by
        rw [Nat.testBit_two_pow_mul_add n small, if_neg (by omega), Nat.add_sub_cancel]
      rw [Nat.succ_add, bits, bits, top, ih, List.cons_append]
  rw [upper]
  refine congrArg (bits high n ++ ·) (bits_eq_iff.mpr fun i inside => ?_)
  rw [Nat.testBit_two_pow_mul_add n small, if_pos inside]

/-- The bits of numbers, one after the other. -/
def spell (width : Nat) (ns : List Nat) : List Bool := ns.flatMap (bits width)

theorem spell_append (ns ms : List Nat) :
    spell width (ns ++ ms) = spell width ns ++ spell width ms :=
  List.flatMap_append

@[simp] theorem length_spell (ns : List Nat) : (spell width ns).length = ns.length * width := by
  induction ns with
  | nil => simp [spell]
  | cons n ns ih =>
    rw [spell, List.flatMap_cons, List.length_append, length_bits, ← spell, ih, List.length_cons,
      Nat.succ_mul, Nat.add_comm]

/-- Numbers of one width are known from their bits. -/
theorem spell_injective {ns ms : List Nat} (small : ∀ n ∈ ns, n < 2 ^ width)
    (small' : ∀ m ∈ ms, m < 2 ^ width) (long : ns.length = ms.length)
    (same : spell width ns = spell width ms) : ns = ms := by
  induction ns generalizing ms with
  | nil => exact (List.eq_nil_of_length_eq_zero long.symm).symm
  | cons n ns ih =>
    cases ms with
    | nil => cases long
    | cons m ms =>
      obtain ⟨first, rest⟩ := List.append_inj same (by rw [length_bits, length_bits])
      rw [List.forall_mem_cons] at small small'
      rw [bits_injective small.1 small'.1 first,
        ih small.2 small'.2 (Nat.succ.inj long) rest]

/-- The number that numbers of one width make, the first of them in front. -/
def number (width : Nat) (ns : List Nat) : Nat := ns.foldl (fun n m => n * 2 ^ width + m) 0

theorem spell_eq_bits {ns : List Nat} (small : ∀ m ∈ ns, m < 2 ^ width) :
    spell width ns = bits (ns.length * width) (number width ns) := by
  have behind : ∀ (k n : Nat), bits k n ++ spell width ns =
      bits (k + ns.length * width) (ns.foldl (fun n m => n * 2 ^ width + m) n) := by
    induction ns with
    | nil => simp [spell]
    | cons m ns ih =>
      intro k n
      rw [List.forall_mem_cons] at small
      rw [spell, List.flatMap_cons, ← List.append_assoc, ← bits_concat n small.1, ← spell,
        ih small.2, List.foldl_cons, List.length_cons, Nat.succ_mul, Nat.add_assoc,
        Nat.add_comm width]
  have whole := behind 0 0
  rwa [bits, List.nil_append, Nat.zero_add] at whole

theorem bits_zero (width : Nat) : bits width 0 = List.replicate width false := by
  induction width with
  | zero => rfl
  | succ width ih => rw [bits, ih, Nat.zero_testBit, List.replicate_succ]

/-- Numbers of two widths spell the same bits, with zeros behind them, if they make the same
number. -/
theorem spell_eq {width' fill : Nat} {ns ms : List Nat} (small : ∀ n ∈ ns, n < 2 ^ width)
    (small' : ∀ m ∈ ms, m < 2 ^ width') (long : ns.length * width = ms.length * width' + fill)
    (same : number width ns = number width' ms * 2 ^ fill) :
    spell width ns = spell width' ms ++ List.replicate fill false := by
  have none : (0 : Nat) < 2 ^ fill := Nat.two_pow_pos fill
  rw [spell_eq_bits small, spell_eq_bits small', ← bits_zero, ← bits_concat _ none, long, same,
    Nat.add_zero]

/-! ## Digits -/

variable {c : Char}

theorem digit?_padding : digit? padding = none := by decide

theorem digit_ne_padding (small : n < 64) : digit n ≠ padding := by
  intro same
  have known := digit?_digit n small
  rw [same, digit?_padding] at known
  cases known

theorem digit?_eq_some_iff : digit? c = some n ↔ n < 64 ∧ digit n = c := by
  constructor
  · intro found
    obtain ⟨inside, here, -⟩ := List.findIdx?_eq_some_iff_getElem.mp found
    exact ⟨inside, by rw [digit, List.getD_eq_getElem _ _ inside, eq_of_beq here]⟩
  · rintro ⟨small, rfl⟩
    exact digit?_digit n small

/-- Digits with padding behind them are known from the text. -/
theorem digits_unique {ns ms : List Nat} {pad pad' : Nat} (small : ∀ n ∈ ns, n < 64)
    (small' : ∀ m ∈ ms, m < 64)
    (same : ns.map digit ++ List.replicate pad padding =
      ms.map digit ++ List.replicate pad' padding) :
    ns = ms := by
  have stops {ns : List Nat} (small : ∀ n ∈ ns, n < 64) (pad : Nat) :
      (ns.map digit ++ List.replicate pad padding).takeWhile (· ≠ padding) = ns.map digit := by
    rw [List.takeWhile_append_of_pos, List.takeWhile_replicate]
    · simp
    · intro c listed
      obtain ⟨n, member, rfl⟩ := List.mem_map.mp listed
      exact decide_eq_true (digit_ne_padding (small n member))
  have read {ns : List Nat} (small : ∀ n ∈ ns, n < 64) :
      (ns.map digit).map digit? = ns.map some := by
    rw [List.map_map]
    exact List.map_congr_left fun n listed => digit?_digit n (small n listed)
  have digits : ns.map digit = ms.map digit := by
    rw [← stops small pad, same, stops small' pad']
  refine List.map_injective_iff.mpr (fun _ _ => Option.some.inj) ?_
  rw [← read small, digits, read small']

/-! ## Texts of bytes -/

/-- The bytes as numbers. -/
def numbers (bytes : List UInt8) : List Nat := bytes.map UInt8.toNat

theorem numbers_append (bytes more : List UInt8) :
    numbers (bytes ++ more) = numbers bytes ++ numbers more := List.map_append

theorem numbers_small (bytes : List UInt8) : ∀ n ∈ numbers bytes, n < 2 ^ 8 := by
  intro n listed
  obtain ⟨b, -, rfl⟩ := List.mem_map.mp listed
  exact b.toNat_lt

/-- A text stands for bytes: its digits spell the bits of the bytes, with no more zeros behind them
than the last digit needs, and padding fills up the last group of four characters. -/
inductive Stands (bytes : List UInt8) : List Char → Prop
  | digits {values : List Nat} {fill pad : Nat} (small : ∀ v ∈ values, v < 64)
      (spelt : spell 6 values = spell 8 (numbers bytes) ++ List.replicate fill false)
      (short : fill < 6)
      (few : pad < 4) (grouped : (values.length + pad) % 4 = 0) :
      Stands bytes (values.map digit ++ List.replicate pad padding)

variable {bytes other : List UInt8} {text text' : List Char}

/-- A text stands for no two sequences of bytes. -/
theorem Stands.bytes_unique (one : Stands bytes text) (two : Stands other text) :
    bytes = other := by
  obtain @⟨values, fill, pad, small, spelt, short, few, grouped⟩ := one
  generalize same : values.map digit ++ List.replicate pad padding = text at two
  obtain @⟨values', fill', pad', small', spelt', short', few', grouped'⟩ := two
  cases digits_unique small small' same
  have long := congrArg List.length spelt
  have long' := congrArg List.length spelt'
  simp only [List.length_append, length_spell, List.length_replicate] at long long'
  have lengths : (numbers bytes).length = (numbers other).length := by omega
  have bits := (List.append_inj (spelt.symm.trans spelt') (by simp [lengths])).1
  exact List.map_injective_iff.mpr (fun _ _ => UInt8.toNat_inj.mp)
    (spell_injective (numbers_small bytes) (numbers_small other) lengths bits)

/-- Digits stand for bytes if they make the same number, with zeros behind it. -/
theorem stands_of_number (values : List Nat) (fill pad : Nat) (small : ∀ v ∈ values, v < 64)
    (short : fill < 6) (few : pad < 4) (grouped : (values.length + pad) % 4 = 0)
    (long : values.length * 6 = bytes.length * 8 + fill)
    (same : number 6 values = number 8 (numbers bytes) * 2 ^ fill) :
    Stands bytes (values.map digit ++ List.replicate pad padding) := by
  have lengths : (numbers bytes).length = bytes.length := List.length_map _
  exact .digits small (spell_eq small (numbers_small bytes) (lengths.symm ▸ long) same) short
    few grouped

/-- Whole groups of digits for whole bytes can stand in front. -/
theorem Stands.append {front : List UInt8} {group : List Char} (stands : Stands bytes text)
    (whole : Stands front group) (third : front.length % 3 = 0) :
    Stands (front ++ bytes) (group ++ text) := by
  obtain @⟨values, fill, pad, small, spelt, short, few, grouped⟩ := whole
  obtain @⟨others, fill', pad', small', spelt', short', few', grouped'⟩ := stands
  have long := congrArg List.length spelt
  have lengths : (numbers front).length = front.length := List.length_map _
  simp only [List.length_append, length_spell, List.length_replicate, lengths] at long
  have filled : fill = 0 := by omega
  have padded : pad = 0 := by omega
  subst filled padded
  rw [List.replicate_zero, List.append_nil] at spelt
  rw [List.replicate_zero, List.append_nil, ← List.append_assoc, ← List.map_append]
  refine .digits (List.forall_mem_append.mpr ⟨small, small'⟩) ?_ short' few' ?_
  · rw [spell_append, spelt, spelt', numbers_append, spell_append, List.append_assoc]
  · rw [List.length_append]
    omega

/-! ## Reading -/

/-- The bytes of four digits. -/
def bytesOf (a b c d : Nat) : List UInt8 :=
  let n := ((a * 64 + b) * 64 + c) * 64 + d
  [UInt8.ofNat (n / 65536), UInt8.ofNat (n / 256), UInt8.ofNat n]

theorem decode?_group {a b c d : Nat} (first : a < 64) (second : b < 64) (third : c < 64)
    (fourth : d < 64) (rest : List Char) :
    decode? (digit a :: digit b :: digit c :: digit d :: rest) =
      (decode? rest).map (bytesOf a b c d ++ ·) := by
  have digits := digit?_digit
  cases rest with
  | nil =>
    simp only [decode?, digit_ne_padding fourth, if_false, digits a first, digits b second,
      digits c third, digits d fourth]
    rfl
  | cons e rest =>
    simp only [decode?, digits a first, digits b second, digits c third, digits d fourth]
    cases decode? (e :: rest) <;> rfl

theorem ofNat_eq {b : UInt8} (same : n % 256 = b.toNat) : UInt8.ofNat n = b := by
  rw [← UInt8.toNat_inj, UInt8.toNat_ofNat']
  exact same

theorem stands_bytesOf {a b c d : Nat} (first : a < 64) (second : b < 64) (third : c < 64)
    (fourth : d < 64) : Stands (bytesOf a b c d) [digit a, digit b, digit c, digit d] := by
  refine stands_of_number [a, b, c, d] 0 0 (by simp [first, second, third, fourth]) (by decide)
    (by decide)
    (by simp) (by simp [bytesOf]) ?_
  simp only [number, numbers, bytesOf, List.map_cons, List.map_nil, List.foldl_cons, List.foldl_nil,
    UInt8.toNat_ofNat']
  omega

/-- What is written is read again. -/
theorem decode?_encode (bytes : List UInt8) : decode? (encode bytes) = some bytes := by
  fun_induction encode bytes with
  | case1 => rfl
  | case2 a n =>
    have byte : a.toNat < 256 := a.toNat_lt
    have joined : n / 64 * 64 + n % 64 = n := by omega
    simp only [decode?, digit?_digit (n / 64) (by omega), digit?_digit (n % 64) (by omega), if_true,
      Option.bind_eq_bind, Option.bind_some, joined]
    rw [if_pos (by omega), ofNat_eq (b := a) (by omega)]
  | case3 a b n =>
    have first : a.toNat < 256 := a.toNat_lt
    have second : b.toNat < 256 := b.toNat_lt
    have joined : (n / 4096 * 64 + n / 64 % 64) * 64 + n % 64 = n := by omega
    simp only [decode?, digit?_digit (n / 4096) (by omega), digit?_digit (n / 64 % 64) (by omega),
      digit?_digit (n % 64) (by omega), digit_ne_padding (show n % 64 < 64 by omega),
      if_true, if_false, Option.bind_eq_bind, Option.bind_some, joined]
    rw [if_pos (by omega), ofNat_eq (b := a) (by omega), ofNat_eq (b := b) (by omega)]
  | case4 a b c rest n ih =>
    have first : a.toNat < 256 := a.toNat_lt
    have second : b.toNat < 256 := b.toNat_lt
    have third : c.toNat < 256 := c.toNat_lt
    have joined : ((n / 262144 * 64 + n / 4096 % 64) * 64 + n / 64 % 64) * 64 + n % 64 = n := by
      omega
    rw [decode?_group (by omega) (by omega) (by omega) (by omega), ih, Option.map_some]
    simp only [bytesOf, joined]
    rw [ofNat_eq (b := a) (by omega), ofNat_eq (b := b) (by omega), ofNat_eq (b := c) (by omega)]
    rfl

/-- What is read stands for the bytes. -/
theorem stands_of_decode? (read : decode? text = some bytes) : Stands bytes text := by
  have spelt := @digit?_eq_some_iff
  fun_induction decode? text generalizing bytes with
  | case1 =>
    cases read
    exact stands_of_number [] 0 0 nofun (by decide) (by decide) rfl rfl rfl
  | case2 a b =>
    simp only [Option.bind_eq_bind, Option.bind_eq_some_iff, spelt, Option.ite_none_right_eq_some,
      Option.some.injEq] at read
    obtain ⟨x, ⟨first, rfl⟩, y, ⟨second, rfl⟩, whole, rfl⟩ := read
    refine stands_of_number [x, y] 4 2 (by simp [first, second]) (by decide) (by decide) (by simp)
      (by simp) ?_
    simp only [number, numbers, List.map_cons, List.map_nil, List.foldl_cons, List.foldl_nil,
      UInt8.toNat_ofNat']
    omega
  | case3 a b c other =>
    simp only [Option.bind_eq_bind, Option.bind_eq_some_iff, spelt, Option.ite_none_right_eq_some,
      Option.some.injEq] at read
    obtain ⟨x, ⟨first, rfl⟩, y, ⟨second, rfl⟩, z, ⟨third, rfl⟩, whole, rfl⟩ := read
    refine stands_of_number [x, y, z] 2 1 (by simp [first, second, third]) (by decide)
      (by decide) (by simp)
      (by simp) ?_
    simp only [number, numbers, List.map_cons, List.map_nil, List.foldl_cons, List.foldl_nil,
      UInt8.toNat_ofNat']
    omega
  | case4 a b c d other =>
    simp only [Option.bind_eq_bind, Option.bind_eq_some_iff, spelt, Option.some.injEq] at read
    obtain ⟨w, ⟨first, rfl⟩, x, ⟨second, rfl⟩, y, ⟨third, rfl⟩, z, ⟨fourth, rfl⟩, rfl⟩ := read
    exact stands_bytesOf first second third fourth
  | case5 a b c d rest others ih =>
    simp only [Option.bind_eq_bind, Option.bind_eq_some_iff, spelt, Option.some.injEq] at read
    obtain ⟨w, ⟨first, rfl⟩, x, ⟨second, rfl⟩, y, ⟨third, rfl⟩, z, ⟨fourth, rfl⟩, tail, later,
      rfl⟩ := read
    exact (ih later).append (stands_bytesOf first second third fourth) (by simp [bytesOf])
  | case6 => cases read

/-- The text that is written stands for the bytes. -/
theorem encode_stands (bytes : List UInt8) : Stands bytes (encode bytes) :=
  stands_of_decode? (decode?_encode bytes)

example : encode [0, 1, 2, 255] = "AAEC/w==".toList := by decide

end Base64

end VmControl
