import VmControl.Text.Digits

/-!
Internet addresses of both families and their texts.

An address of four bytes is written in decimal with points; one of eight groups in hexadecimal with
colons, the first longest run of two or more zero groups left out, and a four-byte address inside
the eight groups shown in its own form. Main statement:

- `IpAddress.group_ofBytes`: two bytes of a four-byte address make one group.
-/

namespace VmControl

/-- The eight groups of a long address. -/
structure Groups where
  /-- The groups, the most significant first. -/
  list : List UInt16
  eight : list.length = 8
deriving DecidableEq

inductive IpAddress where
  | v4 (a b c d : UInt8)
  | v6 (groups : Groups)
deriving DecidableEq

namespace IpAddress

/-- Two bytes as one group. -/
def group (high low : UInt8) : UInt16 := UInt16.ofNat (high.toNat * 256 + low.toNat)

/-- Eight groups out of a list, filled with zeros or cut to the length. -/
def groupsOf (list : List UInt16) : Groups :=
  ⟨(list ++ List.replicate 8 0).take 8, by simp⟩

/-! ## Writing -/

/-- The text of four bytes. -/
def bytesText (a b c d : UInt8) : List Char :=
  let byte (n : UInt8) := Text.digits n.toNat
  byte a ++ '.' :: byte b ++ '.' :: byte c ++ '.' :: byte d

/-- The text of one group. -/
def groupText (g : UInt16) : List Char := Nat.toDigits 16 g.toNat

/-- The texts of groups with colons between them. -/
def groupsText (groups : List UInt16) : List Char :=
  [':'].intercalate (groups.map groupText)

/-- The number of zero groups at the front. -/
def zerosAtFront (groups : List UInt16) : Nat := (groups.takeWhile (· == 0)).length

/-- The first longest run of zero groups, as start and length, looking from an index on. -/
def longestZeros : Nat → List UInt16 → Nat × Nat
  | index, [] => (index, 0)
  | index, g :: rest =>
    let here := zerosAtFront (g :: rest)
    let later := longestZeros (index + 1) rest
    if later.2 ≤ here then (index, here) else later

/-- The text of an address. -/
def text : IpAddress → String
  | .v4 a b c d => String.ofList (bytesText a b c d)
  | .v6 groups =>
    String.ofList <| match groups.list with
    | [0, 0, 0, 0, 0, 0xffff, g, h] =>
      [':', ':', 'f', 'f', 'f', 'f', ':'] ++
        bytesText (g.toNat / 256).toUInt8 (g.toNat % 256).toUInt8 (h.toNat / 256).toUInt8
          (h.toNat % 256).toUInt8
    | all =>
      let (start, length) := longestZeros 0 all
      if 1 < length then
        groupsText (all.take start) ++ ':' :: ':' :: groupsText (all.drop (start + length))
      else groupsText all

/-! ## Reading -/

/-- The value of a digit in a base up to sixteen. -/
def digitIn (base : Nat) (c : Char) : Option Nat :=
  let value :=
    if '0' ≤ c ∧ c ≤ '9' then some (c.toNat - 48)
    else if 'a' ≤ c ∧ c ≤ 'f' then some (c.toNat - 87)
    else if 'A' ≤ c ∧ c ≤ 'F' then some (c.toNat - 55)
    else none
  value.filter (· < base)

/-- The digits of a base at the front of a text, and the text behind them. -/
def spanDigits (base : Nat) : List Char → List Nat × List Char
  | [] => ([], [])
  | c :: rest =>
    match digitIn base c with
    | some d => let (ds, rest) := spanDigits base rest; (d :: ds, rest)
    | none => ([], c :: rest)

/-- Whether digits may stand for one part of an address: there are some, not too many, and where
zeros in front are refused none is there. -/
def digitsFit (most : Nat) (zerosInFront : Bool) (digits : List Nat) : Bool :=
  0 < digits.length && digits.length ≤ most
    && (zerosInFront || digits.length = 1 || digits.head? ≠ some 0)

/-- The number at the front of a text. -/
def numberIn (base most : Nat) (zerosInFront : Bool) (limit : Nat) (s : List Char) :
    Option (Nat × List Char) :=
  let (ds, rest) := spanDigits base s
  let n := ds.foldl (fun n d => n * base + d) 0
  if digitsFit most zerosInFront ds && n < limit then some (n, rest) else none

/-- A byte in decimal at the front of a text. -/
def byte? (s : List Char) : Option (UInt8 × List Char) :=
  (numberIn 10 3 false 256 s).map (fun (n, rest) => (n.toUInt8, rest))

/-- A given character at the front of a text. -/
def char? (c : Char) : List Char → Option (List Char)
  | d :: rest => if c = d then some rest else none
  | [] => none

/-- Four bytes at the front of a text. -/
def bytes? (s : List Char) : Option ((UInt8 × UInt8 × UInt8 × UInt8) × List Char) := do
  let (a, s) ← byte? s
  let (b, s) ← byte? (← char? '.' s)
  let (c, s) ← byte? (← char? '.' s)
  let (d, s) ← byte? (← char? '.' s)
  some ((a, b, c, d), s)

/-- Groups at the front of a text, `left` at most, with colons between them; the last two may be
given as four bytes. The result tells whether they were. -/
def readGroups : Nat → Bool → List Char → List UInt16 × Bool × List Char
  | 0, _, s => ([], false, s)
  | left + 1, first, s =>
    match (if first then some s else char? ':' s) with
    | none => ([], false, s)
    | some inner =>
      match (if 0 < left then bytes? inner else none) with
      | some ((a, b, c, d), rest) => ([group a b, group c d], true, rest)
      | none =>
        match numberIn 16 4 true 65536 inner with
        | none => ([], false, s)
        | some (n, rest) =>
          let (gs, short, rest) := readGroups left false rest
          (n.toUInt16 :: gs, short, rest)

/-- Eight groups at the front of a text, with two colons in place of one or more zero groups. -/
def groups? (s : List Char) : Option (Groups × List Char) :=
  let (head, short, rest) := readGroups 8 true s
  if head.length = 8 then some (groupsOf head, rest)
  else if short then none
  else match rest with
    | ':' :: ':' :: rest =>
      let (tail, _, rest) := readGroups (7 - head.length) true rest
      some (groupsOf (head ++ List.replicate (8 - head.length - tail.length) 0 ++ tail), rest)
    | _ => none

def ofText? (s : String) : Option IpAddress :=
  match bytes? s.toList with
  | some ((a, b, c, d), []) => some (.v4 a b c d)
  | _ =>
    match groups? s.toList with
    | some (groups, []) => some (.v6 groups)
    | _ => none

/-- Two bytes of a four-byte address make one group. -/
theorem group_ofBytes (high low : UInt8) :
    (group high low).toNat = high.toNat * 256 + low.toNat := by
  have := high.toNat_lt
  have := low.toNat_lt
  rw [group, UInt16.toNat_ofNat', Nat.mod_eq_of_lt]
  omega

end IpAddress

/-- An address and a port on which a host listens. -/
structure Endpoint where
  address : IpAddress
  port : UInt16
deriving DecidableEq

/-- Address and port with a colon between them; a long address stands in brackets. -/
def Endpoint.text (e : Endpoint) : String :=
  match e.address with
  | .v4 .. => e.address.text ++ ":" ++ toString e.port.toNat
  | .v6 _ => "[" ++ e.address.text ++ "]:" ++ toString e.port.toNat

end VmControl
