import VmControl.Text.Shown

/-!
Texts in quotes as they are displayed for a developer.

Quotes, backslashes and the common controls have short escapes; what is not shown, or would melt
into the character in front of it, is given by its code point.
-/

namespace VmControl

namespace Text

/-- The code point of a character in braces. -/
def codePoint (c : Char) : List Char :=
  '\\' :: 'u' :: '\x7b' :: (Nat.toDigits 16 c.toNat ++ ['\x7d'])

/-- How one character stands inside the quotes. -/
def quotedChar (c : Char) : List Char :=
  if c = '\x00' then ['\\', '0']
  else if c = '\t' then ['\\', 't']
  else if c = '\r' then ['\\', 'r']
  else if c = '\n' then ['\\', 'n']
  else if c = '\\' then ['\\', '\\']
  else if c = '\x22' then ['\\', '\x22']
  else if isExtending c || isHidden c then codePoint c
  else [c]

/-- A text in quotes. -/
def quoted (s : String) : String :=
  String.ofList ('\x22' :: (s.toList.flatMap quotedChar ++ ['\x22']))

end Text

end VmControl
