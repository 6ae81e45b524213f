import VmControl.OrderedMap
import VmControl.Number.Shortest

/-!
Data values: the tree that monitor messages, requests and stored records are made of.

A number is a whole number of the 64-bit ranges or a binary fraction, and the two never compare as
equal. Members of an object are kept in the order in which they were written; a value that was read
in full is *settled*, with its members in key order and the last of repeated members kept.
-/

namespace VmControl

/-- A finite double-precision number with its sign. -/
structure Real64 where
  /-- Whether the sign is minus; zero has both signs. -/
  negative : Bool
  /-- The magnitude, in canonical form for 64 bits. -/
  magnitude : Magnitude
deriving DecidableEq

namespace Real64

/-- Whether two doubles compare as equal: the same number, or zero under both signs. -/
def same (a b : Real64) : Bool :=
  decide (a = b) || (a.magnitude.isZero && b.magnitude.isZero)

/-- A whole number as a double. -/
def ofInt (n : Int) : Real64 := ⟨decide (n < 0), binary64.ofNat n.natAbs⟩

/-- The text of a double in the data format. -/
def text (x : Real64) : String :=
  (if x.negative then "-" else "") ++ Shortest.markedText binary64 x.magnitude

end Real64

/-- A number of the data format. -/
inductive Number where
  /-- A whole number from `-2 ^ 63` to `2 ^ 64 - 1`. -/
  | whole (n : Int)
  /-- A number written with a point or an exponent, or outside the range of the whole ones. -/
  | real (x : Real64)
deriving DecidableEq

namespace Number

/-- Whether two numbers are equal; a whole number never equals a double. -/
def same : Number → Number → Bool
  | .whole a, .whole b => decide (a = b)
  | .real a, .real b => a.same b
  | _, _ => false

/-- The text of a number. -/
def text : Number → String
  | .whole n => toString n
  | .real x => x.text

/-- The number as an unsigned 64-bit word, if it is a whole number in that range. -/
def toUInt64? : Number → Option UInt64
  | .whole n => if 0 ≤ n ∧ n < UInt64.size then some (UInt64.ofNat n.toNat) else none
  | .real _ => none

end Number

inductive Json where
  | null
  | bool (b : Bool)
  | num (n : Number)
  | str (s : String)
  | arr (items : List Json)
  /-- Named members, in the order in which they are written. -/
  | obj (members : List (String × Json))

namespace Json

instance : Inhabited Json := ⟨.null⟩

/-- A natural number as a value. -/
def nat (n : Nat) : Json := .num (.whole n)

/-- A 64-bit word as a value. -/
def word (n : UInt64) : Json := .nat n.toNat

/-- A list of texts as a value. -/
def texts (items : List String) : Json := .arr (items.map .str)

/-- A text or nothing. -/
def strOrNull : Option String → Json
  | some s => .str s
  | none => .null

/-- The members of a map, in key order. -/
def ofMap {α : Type} (encode : α → Json) (m : OrderedMap α) : Json :=
  .obj (m.entries.map (fun entry => (entry.1, encode entry.2)))

/-- The member of an object under a name; nothing for every other value. -/
def get? (name : String) : Json → Option Json
  | .obj members => members.lookup name
  | _ => none

/-- The text of a text value. -/
def str? : Json → Option String
  | .str s => some s
  | _ => none

/-- The value of a truth value. -/
def bool? : Json → Option Bool
  | .bool b => some b
  | _ => none

/-- The items of a list. -/
def arr? : Json → Option (List Json)
  | .arr items => some items
  | _ => none

/-- The members of an object. -/
def obj? : Json → Option (List (String × Json))
  | .obj members => some members
  | _ => none

/-- The unsigned 64-bit word that a number is. -/
def word? : Json → Option UInt64
  | .num n => n.toUInt64?
  | _ => none

mutual

/-- Whether two settled values are equal, doubles by comparison and all else by content. -/
def same : Json → Json → Bool
  | .null, .null => true
  | .bool a, .bool b => a == b
  | .num a, .num b => a.same b
  | .str a, .str b => a == b
  | .arr a, .arr b => sameItems a b
  | .obj a, .obj b => sameMembers a b
  | _, _ => false

/-- Whether two lists agree item by item. -/
def sameItems : List Json → List Json → Bool
  | [], [] => true
  | a :: as, b :: bs => same a b && sameItems as bs
  | _, _ => false

/-- Whether two lists of members agree name by name and value by value. -/
def sameMembers : List (String × Json) → List (String × Json) → Bool
  | [], [] => true
  | (k, a) :: as, (l, b) :: bs => k == l && same a b && sameMembers as bs
  | _, _ => false

end

mutual

/-- The settled form of a value: members of every object in key order, the last of repeated ones
kept. -/
def settle : Json → Json
  | .arr items => .arr (settleItems items)
  | .obj members => .obj (OrderedMap.ofList (settleMembers members)).entries
  | other => other

/-- The settled items of a list. -/
def settleItems : List Json → List Json
  | [] => []
  | item :: rest => item.settle :: settleItems rest

/-- The settled members of an object, still in their written order. -/
def settleMembers : List (String × Json) → List (String × Json)
  | [] => []
  | (name, value) :: rest => (name, value.settle) :: settleMembers rest

end

end Json

end VmControl
