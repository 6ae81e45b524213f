import VmControl.Json.Basic

/-!
What a text gives before it is interpreted.

A draft keeps everything about a text that an interpretation may ask for: members that are repeated,
names and texts that cannot be put into characters, numbers out of range, and how far the text went
before it stopped being well-formed. A value is drafted by `Json.toDraft`, so that one set of
interpretations serves texts and values.
-/

namespace VmControl

/-- A value as a text spells it, as far as the text is well-formed. -/
inductive Draft where
  /-- Nothing more that is well-formed. -/
  | cut
  | null
  | bool (b : Bool)
  /-- A number, or a numeral without a value. -/
  | num (n : Option Number)
  /-- A text, or quoted characters that are no text. -/
  | str (s : Option String)
  /-- A list; `whole` tells whether it is closed. -/
  | arr (items : List Draft) (whole : Bool)
  /-- Members in their order; `whole` tells whether the object is closed. -/
  | obj (members : List (Option String × Draft)) (whole : Bool)

namespace Draft

instance : Inhabited Draft := ⟨.cut⟩

mutual

/-- The number of characters in the texts of a draft, names of members left out. -/
def letters : Draft → Nat
  | .str (some s) => s.length
  | .arr items _ => lettersOfItems items
  | .obj members _ => lettersOfMembers members
  | _ => 0

/-- The number of characters in the texts of items. -/
def lettersOfItems : List Draft → Nat
  | [] => 0
  | item :: rest => letters item + lettersOfItems rest

/-- The number of characters in the texts of members. -/
def lettersOfMembers : List (Option String × Draft) → Nat
  | [] => 0
  | (_, item) :: rest => letters item + lettersOfMembers rest

end

end Draft

mutual

/-- The draft of a value. -/
def Json.toDraft : Json → Draft
  | .null => .null
  | .bool b => .bool b
  | .num n => .num (some n)
  | .str s => .str (some s)
  | .arr items => .arr (itemsToDraft items) true
  | .obj members => .obj (membersToDraft members) true

/-- The drafts of the items of a list. -/
def itemsToDraft : List Json → List Draft
  | [] => []
  | item :: rest => item.toDraft :: itemsToDraft rest

/-- The drafts of the members of an object. -/
def membersToDraft : List (String × Json) → List (Option String × Draft)
  | [] => []
  | (name, value) :: rest => (some name, value.toDraft) :: membersToDraft rest

end

end VmControl
