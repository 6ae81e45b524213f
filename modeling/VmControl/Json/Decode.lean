import VmControl.Json.Reader

/-!
Interpreting drafts as values of the domain.

An interpretation reports the fault that a reader from left to right would meet first, so two
interpretations of parts of one draft are combined by keeping the fault with the earlier place. A
fault is either a place where the text is not well-formed, or a place where it spells something else
than was asked for.
-/

namespace VmControl

/-- Why a draft could not be interpreted. -/
inductive FaultKind where
  /-- The text is not well-formed. -/
  | malformed
  /-- The text spells something else. -/
  | mismatch
deriving DecidableEq

/-- A fault and the place where reading met it: the index of the entry at each level, the outermost
first. -/
structure Fault where
  place : List Nat
  kind : FaultKind
deriving DecidableEq

namespace Fault

/-- Whether one place is reached before another; an entry is reached before its own parts. -/
def before : List Nat → List Nat → Bool
  | [], _ => true
  | _ :: _, [] => false
  | a :: as, b :: bs => if a = b then before as bs else decide (a < b)

/-- The fault that is met first, the first of the two where both have one place. -/
def earlier (a b : Fault) : Fault := if before a.place b.place then a else b

/-- A fault seen from the container of the entry in which it lies. -/
def inside (index : Nat) (f : Fault) : Fault := { f with place := index :: f.place }

end Fault

/-- The outcome of an interpretation. -/
inductive Decoded (α : Type) where
  | value (a : α)
  | fault (f : Fault)

namespace Decoded

variable {α β : Type}

/-- The value, if there is one. -/
def toOption : Decoded α → Option α
  | .value a => some a
  | .fault _ => none

def map (f : α → β) : Decoded α → Decoded β
  | .value a => .value (f a)
  | .fault e => .fault e

/-- Combines a function and its argument, both read from one draft. -/
def seq (f : Decoded (α → β)) (a : Decoded α) : Decoded β :=
  match f, a with
  | .value f, .value a => .value (f a)
  | .value _, .fault e => .fault e
  | .fault e, .value _ => .fault e
  | .fault e, .fault e' => .fault (e.earlier e')

instance : Applicative Decoded where
  pure := .value
  seq f a := seq f (a ())
  map := map

/-- The outcome seen from the container of the entry that was interpreted. -/
def inside (index : Nat) : Decoded α → Decoded α
  | .value a => .value a
  | .fault f => .fault (f.inside index)

/-- Refines a value that is read at one place: a value without a refinement is a mismatch there. -/
def refine (f : α → Option β) : Decoded α → Decoded β
  | .value a => match f a with
    | some b => .value b
    | none => .fault ⟨[], .mismatch⟩
  | .fault e => .fault e

end Decoded

/-- A way to interpret drafts. -/
abbrev Decoder (α : Type) := Draft → Decoded α

namespace Decode

variable {α β : Type}

/-- What a draft is to an interpretation that asked for something else. -/
def unexpected : Draft → Decoded α
  | .cut | .num none | .str none => .fault ⟨[], .malformed⟩
  | _ => .fault ⟨[], .mismatch⟩

def text : Decoder String
  | .str (some s) => .value s
  | other => unexpected other

def flag : Decoder Bool
  | .bool b => .value b
  | other => unexpected other

/-- A whole number from `low` to below `high`. -/
def whole (low high : Int) : Decoder Int
  | .num (some (.whole n)) => if low ≤ n ∧ n < high then .value n else .fault ⟨[], .mismatch⟩
  | other => unexpected other

/-- An unsigned 64-bit word. -/
def word64 : Decoder UInt64 := fun d => (whole 0 UInt64.size d).map (fun n => UInt64.ofNat n.toNat)

/-- An unsigned 32-bit word. -/
def word32 : Decoder UInt32 := fun d => (whole 0 UInt32.size d).map (fun n => UInt32.ofNat n.toNat)

/-- An unsigned 16-bit word. -/
def word16 : Decoder UInt16 := fun d => (whole 0 UInt16.size d).map (fun n => UInt16.ofNat n.toNat)

def byte : Decoder UInt8 := fun d => (whole 0 UInt8.size d).map (fun n => UInt8.ofNat n.toNat)

/-- A signed 64-bit number. -/
def signed64 : Decoder Int := whole (-0x8000000000000000) 0x8000000000000000

/-- A double; a whole number counts as one. -/
def double : Decoder Real64
  | .num (some (.whole n)) => .value (.ofInt n)
  | .num (some (.real x)) => .value x
  | other => unexpected other

/-- Nothing, or a value. -/
def nullable (decoder : Decoder α) : Decoder (Option α)
  | .null => .value none
  | other => (decoder other).map some

/-- The items of a list, from an index on. -/
def itemsFrom (decoder : Decoder α) (whole : Bool) : Nat → List Draft → Decoded (List α)
  | index, [] => if whole then .value [] else .fault ⟨[index], .malformed⟩
  | index, item :: rest =>
    (fun a as => a :: as) <$> (decoder item).inside index <*> itemsFrom decoder whole
      (index + 1) rest

def list (decoder : Decoder α) : Decoder (List α)
  | .arr items whole => itemsFrom decoder whole 0 items
  | other => unexpected other

/-- A name of a member. -/
def name : Option String → Decoded String
  | some s => .value s
  | none => .fault ⟨[], .malformed⟩

/-- The members of a map, from an index on. -/
def membersFrom (decoder : Decoder α) (whole : Bool) :
    Nat → List (Option String × Draft) → Decoded (List (String × α))
  | index, [] => if whole then .value [] else .fault ⟨[index], .malformed⟩
  | index, (key, item) :: rest =>
    (fun k a as => (k, a) :: as) <$> (name key).inside index <*> (decoder item).inside index
      <*> membersFrom decoder whole (index + 1) rest

/-- A map; of repeated names the last one counts. -/
def map (decoder : Decoder α) : Decoder (OrderedMap α)
  | .obj members whole => (membersFrom decoder whole 0 members).map OrderedMap.ofList
  | other => unexpected other

/-- The first place inside a draft that is not well-formed, looking only at what a reader checks
when it skips a value. -/
def skippable : Draft → Bool
  | .cut => false
  | .arr _ whole | .obj _ whole => whole
  | _ => true

/-! ## Any value -/

/-- Interprets a text from its first character to its last. What follows the value is noticed after
the value itself. -/
def ofReading (decoder : Decoder α) (r : Reader.Reading) : Except FaultKind α :=
  match decoder r.draft with
  | .fault f => .error f.kind
  | .value a => if r.clean then .ok a else .error .malformed

def ofText (decoder : Decoder α) (text : String) : Except FaultKind α :=
  ofReading decoder (Reader.readText text)

/-- The deepest nesting of lists and objects that is interpreted. -/
def depthLimit : Nat := 127

/-- The name under which an object may hold a value that is spelt as a text of its own. -/
def embeddedName : String := "$serde_json::private::RawValue"

/-- What an object stands for whose first member has that name: the value of the embedded text. It
holds nothing else. -/
def embedding? (valueOf : String → Option Json) (members : List (Option String × Draft))
    (whole : Bool) : Option (Decoded Json) :=
  match members with
  | (key, item) :: rest =>
    if key = some embeddedName then
      some ((fun v () => v) <$> ((text item).refine valueOf).inside 0
        <*> if rest.isEmpty && whole then .value () else .fault ⟨[1], .malformed⟩)
    else none
  | [] => none

section

variable (valueOf : String → Option Json)

mutual

/-- Any value, with at most the given nesting, where `valueOf` tells what embedded texts stand for.
A draft that is deeper is not well-formed. -/
def anyWithin : Nat → Draft → Decoded Json
  | _, .null => .value .null
  | _, .bool b => .value (.bool b)
  | _, .num (some n) => .value (.num n)
  | _, .str (some s) => .value (.str s)
  | depth + 1, .arr items whole => (anyItems depth whole 0 items).map .arr
  | depth + 1, .obj members whole =>
    (embedding? valueOf members whole).getD
      ((anyMembers depth whole 0 members).map fun ms => .obj (OrderedMap.ofList ms).entries)
  | _, _ => .fault ⟨[], .malformed⟩

/-- The items of a list of any values, from an index on. -/
def anyItems : Nat → Bool → Nat → List Draft → Decoded (List Json)
  | _, whole, index, [] => if whole then .value [] else .fault ⟨[index], .malformed⟩
  | depth, whole, index, item :: rest =>
    (fun a as => a :: as) <$> (anyWithin depth item).inside index
      <*> anyItems depth whole (index + 1) rest

/-- The members of an object of any values, from an index on. -/
def anyMembers : Nat → Bool → Nat → List (Option String × Draft) → Decoded (List (String × Json))
  | _, whole, index, [] => if whole then .value [] else .fault ⟨[index], .malformed⟩
  | depth, whole, index, (key, item) :: rest =>
    (fun k a as => (k, a) :: as) <$> (name key).inside index <*> (anyWithin depth item).inside index
      <*> anyMembers depth whole (index + 1) rest

end

end

/-- Any value in which texts are embedded in one another so many times at most. -/
def anyEmbedding : Nat → Nat → Decoder Json
  | 0, depth => anyWithin (fun _ => none) depth
  | times + 1, depth =>
    anyWithin (fun s => (ofText (anyEmbedding times depthLimit) s).toOption) depth

/-- Any value with at most the given nesting. An embedded text is shorter than the text around it,
so the characters of a draft bound how often texts are embedded in it. -/
def anyNested (depth : Nat) : Decoder Json := fun d => anyEmbedding d.letters depth d

/-- Any value that stands at the outermost level. -/
def any : Decoder Json := anyNested depthLimit

/-- Any value that stands as a member of an outermost record or map. -/
def anyMember : Decoder Json := anyNested (depthLimit - 1)

end Decode

/-! ## Records -/

/-- The slots of a record as a draft fills them. -/
structure Record where
  /-- The declared names and, where one is given, its place and draft. -/
  slots : List (String × Option (Nat × Draft))
  /-- The number of entries given, the place of whatever is missing. -/
  size : Nat
  /-- The first fault of the record as such: a repeated name, an entry too many, an ill-formed entry
  under another name, or a missing end. -/
  trouble : Option Fault

namespace Record

variable {α : Type}

/-- Fills the slots from named members. Members under other names only have to be well-formed. -/
def fill (names : List String) : Nat → List (Option String × Draft) → Record → Record
  | _, [], r => r
  | index, (key, item) :: rest, r =>
    let report (f : Fault) : Option Fault := some ((r.trouble.map (·.earlier f)).getD f)
    let r :=
      match key with
      | none => { r with trouble := report ⟨[index], .malformed⟩ }
      | some k =>
        if names.contains k then
          match r.slots.lookup k with
          | some (some _) => { r with trouble := report ⟨[index], .mismatch⟩ }
          | _ => { r with slots := r.slots.map fun slot =>
              if slot.1 = k then (k, some (index, item)) else slot }
        else if Decode.skippable item then r
        else { r with trouble := report ⟨[index], .malformed⟩ }
    fill names (index + 1) rest r

/-- The record of a draft: named members in any order, or a list of the values in the declared
order. -/
def ofDraft (names : List String) : Decoder Record
  | .obj members whole =>
    let r := fill names 0 members
      ⟨names.map (fun n => (n, none)), members.length, none⟩
    .value (if whole then r else
      { r with trouble := some (r.trouble.getD ⟨[members.length], .malformed⟩) })
  | .arr items whole =>
    let slots := names.zipIdx.map fun slot => (slot.1, items[slot.2]?.map (fun d => (slot.2, d)))
    .value
      { slots := slots
        size := items.length
        trouble :=
          if names.length < items.length then some ⟨[names.length], .malformed⟩
          else if whole then none else some ⟨[items.length], .malformed⟩ }
  | other => Decode.unexpected other

/-- The slot of a declared name. -/
def slot (r : Record) (name : String) : Option (Nat × Draft) := (r.slots.lookup name).join

/-- A member that has to be there. What is missing is noticed at the end. -/
def required (r : Record) (name : String) (decoder : Decoder α) : Decoded α :=
  match r.slot name with
  | some (index, d) => (decoder d).inside index
  | none => .fault ⟨[r.size, 0], .mismatch⟩

/-- A member that stands for a given value when it is missing. -/
def withDefault (r : Record) (name : String) (decoder : Decoder α) (default : α) : Decoded α :=
  match r.slot name with
  | some (index, d) => (decoder d).inside index
  | none => .value default

/-- A member that may be missing or nothing. -/
def optional (r : Record) (name : String) (decoder : Decoder α) : Decoded (Option α) :=
  r.withDefault name (Decode.nullable decoder) none

/-- The fault of the record as such, combined with what was read from it. -/
def close (r : Record) (a : Decoded α) : Decoded α :=
  match r.trouble with
  | none => a
  | some f => (fun _ a => a) <$> (.fault f : Decoded Unit) <*> a

end Record

namespace Decode

variable {α : Type}

/-- A record with the declared names. -/
def record (names : List String) (build : Record → Decoded α) : Decoder α := fun d =>
  match Record.ofDraft names d with
  | .value r => r.close (build r)
  | .fault f => .fault f

/-- One of a set of names, spelt as a text or as the only member of an object that holds nothing. -/
def choice (ofName : String → Option α) : Decoder α
  | .str (some s) => (Decoded.value s).refine ofName
  | .obj [(some s, .null)] true => (Decoded.value s).refine ofName
  | other => unexpected other

def ofJson (decoder : Decoder α) (v : Json) : Option α := (decoder v.toDraft).toOption

end Decode

end VmControl
