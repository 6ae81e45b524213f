import VmControl.Text.Utf8

/-!
Percent-encoding: a percent sign and two hexadecimal digits stand for a byte.

A percent sign without two digits behind it stands for itself.
-/

namespace VmControl

namespace Percent

/-- The value of a hexadecimal digit. -/
def digit? (c : Char) : Option Nat :=
  if '0' ≤ c ∧ c ≤ '9' then some (c.toNat - '0'.toNat)
  else if 'a' ≤ c ∧ c ≤ 'f' then some (c.toNat - 'a'.toNat + 10)
  else if 'A' ≤ c ∧ c ≤ 'F' then some (c.toNat - 'A'.toNat + 10)
  else none

/-- The bytes of a character. -/
def bytes (c : Char) : List UInt8 := Utf8.encode (String.singleton c)

/-- The bytes that characters stand for. -/
def decodeChars : List Char → List UInt8
  | [] => []
  | '%' :: high :: low :: rest =>
    match digit? high, digit? low with
    | some h, some l => UInt8.ofNat (h * 16 + l) :: decodeChars rest
    | _, _ => bytes '%' ++ decodeChars (high :: low :: rest)
  | c :: rest => bytes c ++ decodeChars rest

/-- The text that a text stands for; nothing if the bytes are no text. -/
def decode? (s : String) : Option String :=
  (Utf8.strict? (decodeChars s.toList)).map String.ofList

end Percent

end VmControl
