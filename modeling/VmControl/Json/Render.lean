import VmControl.Json.Basic

/-!
The written form of data values: compact on one line, and laid out with two spaces to a level.

Texts are quoted with the two-character escapes where the format has one and with four hexadecimal
digits for every other control character; everything else stands for itself.
-/

namespace VmControl

namespace Json

/-- A hexadecimal digit in lower case. -/
def hexDigit (n : Nat) : Char := Nat.digitChar n

/-- How one character stands inside quotes. -/
def escapeChar (c : Char) : List Char :=
  if c = '\x22' then ['\\', '\x22']
  else if c = '\\' then ['\\', '\\']
  else if c = '\x08' then ['\\', 'b']
  else if c = '\x0c' then ['\\', 'f']
  else if c = '\n' then ['\\', 'n']
  else if c = '\r' then ['\\', 'r']
  else if c = '\t' then ['\\', 't']
  else if c.toNat < 0x20 then
    ['\\', 'u', '0', '0', hexDigit (c.toNat / 16), hexDigit (c.toNat % 16)]
  else [c]

/-- A text in quotes. -/
def quoteChars (s : String) : List Char :=
  '\x22' :: (s.toList.flatMap escapeChar ++ ['\x22'])

mutual

/-- The characters of the compact form. -/
def renderChars : Json → List Char
  | .null => ['n', 'u', 'l', 'l']
  | .bool true => ['t', 'r', 'u', 'e']
  | .bool false => ['f', 'a', 'l', 's', 'e']
  | .num n => n.text.toList
  | .str s => quoteChars s
  | .arr [] => ['[', ']']
  | .arr (item :: rest) => '[' :: (renderChars item ++ renderItems rest)
  | .obj [] => ['\x7b', '\x7d']
  | .obj ((name, value) :: rest) =>
    '\x7b' :: (quoteChars name ++ ':' :: (renderChars value ++ renderMembers rest))

/-- The further items of a list, with the closing bracket. -/
def renderItems : List Json → List Char
  | [] => [']']
  | item :: rest => ',' :: (renderChars item ++ renderItems rest)

/-- The further members of an object, with the closing brace. -/
def renderMembers : List (String × Json) → List Char
  | [] => ['\x7d']
  | (name, value) :: rest =>
    ',' :: (quoteChars name ++ ':' :: (renderChars value ++ renderMembers rest))

end

def render (v : Json) : String := String.ofList v.renderChars

/-- A line break and the blanks of a level. -/
def lineBreak (level : Nat) : List Char := '\n' :: List.replicate (2 * level) ' '

mutual

/-- The characters of the laid-out form at a level. -/
def layoutChars (level : Nat) : Json → List Char
  | .arr [] => ['[', ']']
  | .arr (item :: rest) =>
    '[' :: (lineBreak (level + 1) ++ layoutChars (level + 1) item ++ layoutItems level rest)
  | .obj [] => ['\x7b', '\x7d']
  | .obj ((name, value) :: rest) =>
    '\x7b' :: (lineBreak (level + 1) ++ quoteChars name ++ ':' :: ' ' ::
      (layoutChars (level + 1) value ++ layoutMembers level rest))
  | .null => ['n', 'u', 'l', 'l']
  | .bool true => ['t', 'r', 'u', 'e']
  | .bool false => ['f', 'a', 'l', 's', 'e']
  | .num n => n.text.toList
  | .str s => quoteChars s

/-- The further items of a laid-out list, with the closing bracket. -/
def layoutItems (level : Nat) : List Json → List Char
  | [] => lineBreak level ++ [']']
  | item :: rest =>
    ',' :: (lineBreak (level + 1) ++ layoutChars (level + 1) item ++ layoutItems level rest)

/-- The further members of a laid-out object, with the closing brace. -/
def layoutMembers (level : Nat) : List (String × Json) → List Char
  | [] => lineBreak level ++ ['\x7d']
  | (name, value) :: rest =>
    ',' :: (lineBreak (level + 1) ++ quoteChars name ++ ':' :: ' ' ::
      (layoutChars (level + 1) value ++ layoutMembers level rest))

end

def layout (v : Json) : String := String.ofList (v.layoutChars 0)

end Json

end VmControl
