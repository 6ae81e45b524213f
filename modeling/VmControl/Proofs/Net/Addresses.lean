import Mathlib.Algebra.Group.Nat.Defs
import VmControl.Net.Address

/-!
# Addresses that are written and read again

The text of an address is read as the address (`IpAddress.ofText?_text`). The numbers in it are read
up to the character that follows them (`IpAddress.Base.numberIn_toDigits`). Of a long address the
zero groups that were left out are as many as are missing, since what is left out is one run of them
(`IpAddress.longestZeros_spec`), and no part of it is taken for four bytes, since there is no point
in it.
-/

namespace VmControl

namespace IpAddress

/-! ## Numbers -/

/-- In this base a number is written with digits that are read as they were meant. -/
structure Base (base : Nat) : Prop where
  wide : 1 < base
  reads : ∀ d < base, digitIn base d.digitChar = some d

theorem base_ten : Base 10 := ⟨by decide, by decide⟩

theorem base_sixteen : Base 16 := ⟨by decide, by decide⟩

/-- The value of a character that is a digit. -/
def valueIn (base : Nat) (c : Char) : Nat := (digitIn base c).getD 0

variable {base most limit n : Nat} {zerosInFront : Bool} {rest : List Char} {c : Char}

/-- Digits are read up to something else. -/
theorem spanDigits_append {digits : List Char} (all : ∀ c ∈ digits, (digitIn base c).isSome = true)
    (ends : ∀ c ∈ rest.head?, digitIn base c = none) :
    spanDigits base (digits ++ rest) = (digits.map (valueIn base), rest) := by
  induction digits with
  | nil =>
    cases rest with
    | nil => rfl
    | cons c rest => simp only [List.nil_append, spanDigits, ends c rfl, List.map_nil]
  | cons c digits ih =>
    obtain ⟨d, value⟩ := Option.isSome_iff_exists.mp (all c List.mem_cons_self)
    have later := ih fun e listed => all e (List.mem_cons_of_mem _ listed)
    simp only [List.cons_append, spanDigits, value, later, List.map_cons, valueIn, Option.getD_some]

theorem exists_digit_of_mem_toDigits (wide : 1 < base) (listed : c ∈ Nat.toDigits base n) :
    ∃ d < base, c = d.digitChar := by
  induction n using Nat.strongRecOn with
  | ind n ih =>
    rcases Nat.lt_or_ge n base with small | large
    · rw [Nat.toDigits_of_lt_base small] at listed
      exact ⟨n, small, List.mem_singleton.mp listed⟩
    · rw [Nat.toDigits_of_base_le wide large] at listed
      rcases List.mem_append.mp listed with front | last
      · exact ih (n / base) (Nat.div_lt_self (by omega) wide) front
      · exact ⟨n % base, Nat.mod_lt n (by omega), List.mem_singleton.mp last⟩

namespace Base

variable (digits : Base base)

include digits

theorem valueIn_digitChar {d : Nat} (low : d < base) : valueIn base d.digitChar = d := by
  rw [valueIn, digits.reads d low, Option.getD_some]

theorem isSome_digitIn (listed : c ∈ Nat.toDigits base n) : (digitIn base c).isSome = true := by
  obtain ⟨d, low, rfl⟩ := exists_digit_of_mem_toDigits digits.wide listed
  rw [digits.reads d low, Option.isSome_some]

/-- The digits of a number spell it. -/
theorem foldl_toDigits (n : Nat) :
    ((Nat.toDigits base n).map (valueIn base)).foldl (fun n d => n * base + d) 0 = n := by
  have wide := digits.wide
  induction n using Nat.strongRecOn with
  | ind n ih =>
    rcases Nat.lt_or_ge n base with small | large
    · rw [Nat.toDigits_of_lt_base small, List.map_singleton, digits.valueIn_digitChar small,
        List.foldl_cons, List.foldl_nil, Nat.zero_mul, Nat.zero_add]
    · have last : n % base < base := Nat.mod_lt n (by omega)
      rw [Nat.toDigits_of_base_le wide large, List.map_append, List.foldl_append,
        ih (n / base) (Nat.div_lt_self (by omega) wide), List.map_singleton,
        digits.valueIn_digitChar last, List.foldl_cons, List.foldl_nil, Nat.mul_comm]
      exact Nat.div_add_mod n base

/-- A number other than zero is written without zeros in front. -/
theorem head?_toDigits (some : 0 < n) :
    ∃ d, ((Nat.toDigits base n).map (valueIn base)).head? = Option.some d ∧ d ≠ 0 := by
  have wide := digits.wide
  induction n using Nat.strongRecOn with
  | ind n ih =>
    rcases Nat.lt_or_ge n base with small | large
    · rw [Nat.toDigits_of_lt_base small, List.map_singleton, digits.valueIn_digitChar small]
      exact ⟨n, rfl, by omega⟩
    · obtain ⟨d, front, other⟩ :=
        ih (n / base) (Nat.div_lt_self (by omega) wide) (Nat.div_pos large (by omega))
      rw [Nat.toDigits_of_base_le wide large, List.map_append, List.head?_append, front]
      exact ⟨d, rfl, other⟩

/-- A number is read again, up to what is no digit. -/
theorem numberIn_toDigits (below : n < limit) (short : (Nat.toDigits base n).length ≤ most)
    (ends : ∀ c ∈ rest.head?, digitIn base c = none) :
    numberIn base most zerosInFront limit (Nat.toDigits base n ++ rest) = some (n, rest) := by
  have span := spanDigits_append (fun _ listed => digits.isSome_digitIn (n := n) listed) ends
  have fits : digitsFit most zerosInFront ((Nat.toDigits base n).map (valueIn base)) = true := by
    have front : ((Nat.toDigits base n).map (valueIn base)).length = 1 ∨
        ((Nat.toDigits base n).map (valueIn base)).head? ≠ some 0 := by
      rcases Nat.eq_zero_or_pos n with rfl | some
      · left
        rw [Nat.toDigits_of_lt_base (Nat.lt_trans Nat.zero_lt_one digits.wide)]
        rfl
      · obtain ⟨d, head, other⟩ := digits.head?_toDigits some
        right
        rw [head]
        exact fun same => other (Option.some.inj same)
    have some : 0 < (Nat.toDigits base n).length :=
      List.length_pos_iff.mpr Nat.toDigits_ne_nil
    simp only [digitsFit, List.length_map, Bool.and_eq_true, Bool.or_eq_true, decide_eq_true_eq]
      at front ⊢
    exact ⟨⟨some, short⟩, front.elim (fun single => .inl (.inr single)) .inr⟩
  rw [numberIn, span]
  simp only [digits.foldl_toDigits n, fits, below, decide_true, Bool.and_self, if_true]

end Base

/-! ## Four bytes -/

/-- A byte is read again, up to what is no decimal digit. -/
theorem byte?_digits (n : UInt8) (ends : ∀ c ∈ rest.head?, digitIn 10 c = none) :
    byte? (Text.digits n.toNat ++ rest) = some (n, rest) := by
  have below : n.toNat < 256 := n.toNat_lt
  have short : (Nat.toDigits 10 n.toNat).length ≤ 3 :=
    (Nat.length_toDigits_le_iff (by decide) (by decide)).mpr (by omega)
  rw [byte?, Text.digits, base_ten.numberIn_toDigits below short ends, Option.map_some]
  simp

/-- Four bytes are read again, up to what is no decimal digit. -/
theorem bytes?_bytesText (a b c d : UInt8) (ends : ∀ c ∈ rest.head?, digitIn 10 c = none) :
    bytes? (bytesText a b c d ++ rest) = some ((a, b, c, d), rest) := by
  have point (text : List Char) : ∀ c ∈ ('.' :: text).head?, digitIn 10 c = none := by
    intro c first
    cases first
    rfl
  simp only [bytes?, bytesText, List.append_assoc, List.cons_append,
    byte?_digits _ (point _), char?, Option.bind_eq_bind, Option.bind_some, if_true,
    byte?_digits d ends]

theorem bytes?_bytesText_nil (a b c d : UInt8) :
    bytes? (bytesText a b c d) = some ((a, b, c, d), []) := by
  have read : bytes? (bytesText a b c d ++ []) = some ((a, b, c, d), []) :=
    bytes?_bytesText a b c d nofun
  rwa [List.append_nil] at read

theorem spanDigits_suffix (base : Nat) (s : List Char) : (spanDigits base s).2 <:+ s := by
  induction s with
  | nil => exact List.suffix_refl _
  | cons c rest ih =>
    rw [spanDigits]
    split
    · exact ih.trans (List.suffix_cons c rest)
    · exact List.suffix_refl _

/-- What is read as four bytes holds a point. -/
theorem point_mem_of_bytes? {s : List Char} {read : (UInt8 × UInt8 × UInt8 × UInt8) × List Char}
    (found : bytes? s = some read) : '.' ∈ s := by
  obtain ⟨⟨n, behind⟩, first, found⟩ := Option.bind_eq_some_iff.mp found
  obtain ⟨further, point, -⟩ := Option.bind_eq_some_iff.mp found
  have here : '.' ∈ behind := by
    cases behind with
    | nil => cases point
    | cons c behind =>
      rw [char?] at point
      split at point
      · next same =>
        rw [← same]
        exact List.mem_cons_self
      · cases point
  have suffix : behind <:+ s := by
    obtain ⟨⟨number, rest⟩, numeral, same⟩ := Option.map_eq_some_iff.mp first
    obtain ⟨-, rfl⟩ := Prod.mk.inj same
    simp only [numberIn] at numeral
    split at numeral
    · cases numeral
      exact spanDigits_suffix 10 s
    · cases numeral
  exact suffix.subset here

theorem bytes?_eq_none {s : List Char} (pointless : '.' ∉ s) : bytes? s = none := by
  cases found : bytes? s with
  | none => rfl
  | some read => exact absurd (point_mem_of_bytes? found) pointless

/-! ## Groups -/

/-- Groups with a colon in front of each. -/
def colonText (groups : List UInt16) : List Char := groups.flatMap fun g => ':' :: groupText g

theorem groupsText_cons (g : UInt16) (groups : List UInt16) :
    groupsText (g :: groups) = groupText g ++ colonText groups := by
  induction groups generalizing g with
  | nil => simp [groupsText, colonText]
  | cons h groups ih =>
    have later := ih h
    rw [groupsText, List.map_cons] at later
    rw [groupsText, List.map_cons, List.map_cons, List.intercalate_cons_cons, later]
    simp [colonText]

section

variable (other : ∀ d < 16, c ≠ Nat.digitChar d)

include other

theorem not_mem_groupText (g : UInt16) : c ∉ groupText g := by
  intro listed
  obtain ⟨d, low, same⟩ := exists_digit_of_mem_toDigits (by decide) listed
  exact other d low same

theorem not_mem_colonText (colon : c ≠ ':') (groups : List UInt16) : c ∉ colonText groups := by
  simp [colonText, colon, not_mem_groupText other]

/-- Groups are written with hexadecimal digits and colons. -/
theorem not_mem_groupsText (colon : c ≠ ':') (groups : List UInt16) : c ∉ groupsText groups := by
  cases groups with
  | nil => exact List.not_mem_nil
  | cons g rest =>
    rw [groupsText_cons, List.mem_append, not_or]
    exact ⟨not_mem_groupText other g, not_mem_colonText other colon rest⟩

end

theorem point_ne_digitChar : ∀ d < 16, '.' ≠ Nat.digitChar d := by decide

theorem point_not_mem_groupsText (groups : List UInt16) : '.' ∉ groupsText groups :=
  not_mem_groupsText point_ne_digitChar (by decide) groups

/-- Where no point follows, a group is not taken for the first of four bytes. -/
theorem bytes?_groupText (g : UInt16) (groups : List UInt16) (pointless : '.' ∉ rest) :
    bytes? (groupText g ++ (colonText groups ++ rest)) = none := by
  refine bytes?_eq_none ?_
  rw [List.mem_append, List.mem_append, not_or, not_or]
  exact ⟨not_mem_groupText point_ne_digitChar g,
    not_mem_colonText point_ne_digitChar (by decide) groups, pointless⟩

/-- What stands behind groups when no more of them follow. -/
def Ends (rest : List Char) : Prop := rest = [] ∨ ∃ more, rest = ':' :: ':' :: more

theorem Ends.stops (ends : Ends rest) : ∀ c ∈ rest.head?, digitIn 16 c = none := by
  intro c first
  rcases ends with rfl | ⟨more, rfl⟩ <;> cases first
  rfl

/-- Where no group follows none is read. -/
theorem readGroups_ends (left : Nat) (first : Bool) (pointless : '.' ∉ rest) (ends : Ends rest) :
    readGroups left first rest = ([], false, rest) := by
  cases left with
  | zero => rfl
  | succ left =>
    have bytes {inner : List Char} (within : inner <:+ rest) :
        (if 0 < left then bytes? inner else none) = none := by
      rw [bytes?_eq_none fun point => pointless (within.subset point), ite_self]
    rcases ends with rfl | ⟨more, rfl⟩
    · cases first
      · rfl
      · simp only [readGroups, if_true, bytes (List.suffix_refl _)]
        rfl
    · cases first
      · simp only [readGroups, char?, if_true, Bool.false_eq_true, if_false,
          bytes (List.suffix_cons _ _)]
        rfl
      · simp only [readGroups, if_true, bytes (List.suffix_refl _)]
        rfl

/-- A group is read again, up to what is no hexadecimal digit. -/
theorem numberIn_groupText (g : UInt16) (ends : ∀ c ∈ rest.head?, digitIn 16 c = none) :
    numberIn 16 4 true 65536 (groupText g ++ rest) = some (g.toNat, rest) := by
  have below : g.toNat < 65536 := g.toNat_lt
  have short : (Nat.toDigits 16 g.toNat).length ≤ 4 :=
    (Nat.length_toDigits_le_iff (by decide) (by decide)).mpr (by omega)
  exact base_sixteen.numberIn_toDigits below short ends

theorem stops_colonText (groups : List UInt16) (ends : Ends rest) :
    ∀ c ∈ (colonText groups ++ rest).head?, digitIn 16 c = none := by
  cases groups with
  | nil => exact ends.stops
  | cons g groups =>
    intro c first
    cases first
    rfl

/-- A group at the front is read, and then those behind it. -/
theorem readGroups_group (g : UInt16) {groups : List UInt16} {left : Nat} (pointless : '.' ∉ rest)
    (ends : Ends rest) (later : readGroups left false (colonText groups ++ rest) =
      (groups, false, rest)) :
    readGroups (left + 1) true (groupText g ++ (colonText groups ++ rest)) =
        (g :: groups, false, rest) ∧
      readGroups (left + 1) false (':' :: (groupText g ++ (colonText groups ++ rest))) =
        (g :: groups, false, rest) := by
  have none := bytes?_groupText g groups pointless
  have number := numberIn_groupText g (stops_colonText groups ends)
  have same : g.toNat.toUInt16 = g := UInt16.ofNat_toNat
  constructor
  · simp only [readGroups, if_true, none, ite_self, number, later, same]
  · simp only [readGroups, Bool.false_eq_true, if_false, char?, if_true, none, ite_self,
      number, later, same]

/-- Groups that follow others are read again. -/
theorem readGroups_colonText {groups : List UInt16} {left : Nat} (room : groups.length ≤ left)
    (pointless : '.' ∉ rest) (ends : Ends rest) :
    readGroups left false (colonText groups ++ rest) = (groups, false, rest) := by
  induction groups generalizing left with
  | nil => exact readGroups_ends left false pointless ends
  | cons g groups ih =>
    cases left with
    | zero => cases room
    | succ left =>
      have text : colonText (g :: groups) ++ rest =
          ':' :: (groupText g ++ (colonText groups ++ rest)) := by
        rw [colonText, List.flatMap_cons, ← colonText, List.cons_append, List.cons_append,
          List.append_assoc]
      rw [text]
      exact (readGroups_group g pointless ends (ih (Nat.le_of_succ_le_succ room))).2

/-- Groups are read again. -/
theorem readGroups_groupsText {groups : List UInt16} {left : Nat} (room : groups.length ≤ left)
    (pointless : '.' ∉ rest) (ends : Ends rest) :
    readGroups left true (groupsText groups ++ rest) = (groups, false, rest) := by
  cases groups with
  | nil => exact readGroups_ends left true pointless ends
  | cons g groups =>
    cases left with
    | zero => cases room
    | succ left =>
      have later := readGroups_colonText (Nat.le_of_succ_le_succ room) pointless ends
      rw [groupsText_cons, List.append_assoc]
      exact (readGroups_group g pointless ends later).1

/-! ## Long addresses -/

theorem groupsOf_list (groups : Groups) : groupsOf groups.list = groups := by
  have eight := groups.eight
  obtain ⟨list, _⟩ := groups
  simp only [groupsOf, Groups.mk.injEq]
  rw [← eight, List.take_left]

/-- Groups of which none is left out are read again. -/
theorem groups?_groupsText (groups : Groups) :
    groups? (groupsText groups.list) = some (groups, []) := by
  have room : groups.list.length ≤ 8 := Nat.le_of_eq groups.eight
  have read := readGroups_groupsText room List.not_mem_nil (Or.inl rfl)
  rw [List.append_nil] at read
  simp only [groups?, read, groups.eight, if_true, groupsOf_list]

/-- Groups of which a run of zeros is left out are read again. -/
theorem groups?_elided {groups : Groups} {before after : List UInt16} {n : Nat} (some : 0 < n)
    (all : groups.list = before ++ List.replicate n 0 ++ after) :
    groups? (groupsText before ++ ':' :: ':' :: groupsText after) = Option.some (groups, []) := by
  have eight : before.length + n + after.length = 8 := by
    have lengths := groups.eight
    rwa [all, List.length_append, List.length_append, List.length_replicate] at lengths
  have pointless : '.' ∉ ':' :: ':' :: groupsText after := by
    simp [point_not_mem_groupsText]
  have front : readGroups 8 true (groupsText before ++ ':' :: ':' :: groupsText after) =
      (before, false, ':' :: ':' :: groupsText after) :=
    readGroups_groupsText (by omega) pointless (Or.inr ⟨_, rfl⟩)
  have back : readGroups (7 - before.length) true (groupsText after) = (after, false, []) := by
    have room : after.length ≤ 7 - before.length := by omega
    have read := readGroups_groupsText room List.not_mem_nil (Or.inl rfl)
    rwa [List.append_nil] at read
  have missing : 8 - before.length - after.length = n := by omega
  have other : before.length ≠ 8 := by omega
  simp only [groups?, front, other, if_false, Bool.false_eq_true, back, missing, ← all,
    groupsOf_list]

/-- The run of zeros that is left out is part of the groups. -/
theorem longestZeros_spec (index : Nat) (groups : List UInt16) :
    ∃ before after, groups = before ++ List.replicate (longestZeros index groups).2 0 ++ after ∧
      (longestZeros index groups).1 = index + before.length := by
  induction groups generalizing index with
  | nil => exact ⟨[], [], rfl, rfl⟩
  | cons g rest ih =>
    rw [longestZeros]
    split
    · have zeros : (g :: rest).takeWhile (· == 0) =
          List.replicate (zerosAtFront (g :: rest)) 0 :=
        List.eq_replicate_of_mem fun h listed => by
          simpa using List.all_eq_true.mp List.all_takeWhile h listed
      refine ⟨[], (g :: rest).dropWhile (· == 0), ?_, rfl⟩
      rw [List.nil_append, ← zeros, List.takeWhile_append_dropWhile]
    · obtain ⟨before, after, all, start⟩ := ih (index + 1)
      refine ⟨g :: before, after, ?_, ?_⟩
      · rw [List.cons_append, List.cons_append, ← all]
      · rw [start, List.length_cons]
        omega

theorem group_halves (g : UInt16) :
    group (g.toNat / 256).toUInt8 (g.toNat % 256).toUInt8 = g := by
  have below := g.toNat_lt
  apply UInt16.toNat_inj.mp
  rw [group_ofBytes, UInt8.toNat_ofNat', UInt8.toNat_ofNat', Nat.mod_eq_of_lt (by omega),
    Nat.mod_eq_of_lt (by omega)]
  omega

/-- Groups of which the last two are given as four bytes are read again. -/
theorem groups?_mapped {groups : Groups} {g h : UInt16}
    (all : groups.list = [0, 0, 0, 0, 0, 0xffff, g, h]) :
    groups? ([':', ':', 'f', 'f', 'f', 'f', ':'] ++
      bytesText (g.toNat / 256).toUInt8 (g.toNat % 256).toUInt8 (h.toNat / 256).toUInt8
        (h.toNat % 256).toUInt8) = some (groups, []) := by
  have bytes := bytes?_bytesText_nil (g.toNat / 256).toUInt8 (g.toNat % 256).toUInt8
    (h.toNat / 256).toUInt8 (h.toNat % 256).toUInt8
  generalize bytesText (g.toNat / 256).toUInt8 (g.toNat % 256).toUInt8 (h.toNat / 256).toUInt8
    (h.toNat % 256).toUInt8 = text at bytes ⊢
  have front : readGroups 8 true (':' :: ':' :: 'f' :: 'f' :: 'f' :: 'f' :: ':' :: text) =
      ([], false, ':' :: ':' :: 'f' :: 'f' :: 'f' :: 'f' :: ':' :: text) := rfl
  have last : readGroups 6 false (':' :: text) = ([g, h], true, []) := by
    simp [readGroups, char?, bytes, group_halves]
  have none : bytes? ('f' :: 'f' :: 'f' :: 'f' :: ':' :: text) = none := rfl
  have number : numberIn 16 4 true 65536 ('f' :: 'f' :: 'f' :: 'f' :: ':' :: text) =
      some (65535, ':' :: text) := rfl
  have back : readGroups 7 true ('f' :: 'f' :: 'f' :: 'f' :: ':' :: text) =
      ([0xffff, g, h], true, []) := by
    rw [readGroups]
    simp [none, number, last]
  have same : groupsOf ([0, 0, 0, 0, 0] ++ [0xffff, g, h]) = groups := by
    rw [← groupsOf_list groups, all]
    rfl
  simp only [groups?, List.cons_append, List.nil_append, front, List.length_nil, Nat.sub_zero, back]
  simpa using same

theorem ofText?_of_groups? {s : List Char} {groups : Groups} (long : bytes? s = none)
    (read : groups? s = some (groups, [])) : ofText? (String.ofList s) = some (.v6 groups) := by
  simp only [ofText?, String.toList_ofList, long, read]

/-- The text of an address is read as the address. -/
theorem ofText?_text (a : IpAddress) : ofText? a.text = some a := by
  cases a with
  | v4 a b c d =>
    simp only [ofText?, text, String.toList_ofList, bytes?_bytesText_nil]
  | v6 groups =>
    unfold text
    dsimp only
    split
    · next g h all => exact ofText?_of_groups? rfl (groups?_mapped all)
    · obtain ⟨before, after, all, start⟩ := longestZeros_spec 0 groups.list
      generalize longestZeros 0 groups.list = run at all start ⊢
      obtain ⟨first, length⟩ := run
      dsimp only at all start ⊢
      rw [Nat.zero_add] at start
      split
      · next elided =>
        have front : groups.list.take first = before := by
          rw [all, start, List.append_assoc, List.take_left]
        have back : groups.list.drop (first + length) = after := by
          rw [all, start]
          exact List.drop_left' (by simp)
        rw [front, back]
        refine ofText?_of_groups? (bytes?_eq_none ?_) (groups?_elided (by omega) all)
        simp [point_not_mem_groupsText]
      · exact ofText?_of_groups? (bytes?_eq_none (point_not_mem_groupsText _))
          (groups?_groupsText groups)

end IpAddress

end VmControl
