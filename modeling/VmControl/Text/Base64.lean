/-!
Bytes as text in base 64, with the standard alphabet and padding.

Three bytes make four digits; one or two bytes at the end make a group that is padded. Main
statement:

- `Base64.digit?_digit`: a digit is found in the alphabet at its place.
-/

namespace VmControl

namespace Base64

/-- The digits, in the order of their values. -/
def alphabet : List Char :=
  "ABCDEFGHIJKLMNOPQRSTUVWXYZabcdefghijklmnopqrstuvwxyz0123456789+/".toList

/-- The character that fills up the last group. -/
def padding : Char := '='

/-- The digit with a value below 64. -/
def digit (n : Nat) : Char := alphabet.getD n padding

/-- The value of a digit. -/
def digit? (c : Char) : Option Nat := alphabet.idxOf? c

/-- The text of bytes. -/
def encode : List UInt8 → List Char
  | [] => []
  | [a] =>
    let n := a.toNat * 16
    [digit (n / 64), digit (n % 64), padding, padding]
  | [a, b] =>
    let n := (a.toNat * 256 + b.toNat) * 4
    [digit (n / 4096), digit (n / 64 % 64), digit (n % 64), padding]
  | a :: b :: c :: rest =>
    let n := (a.toNat * 256 + b.toNat) * 256 + c.toNat
    digit (n / 262144) :: digit (n / 4096 % 64) :: digit (n / 64 % 64) :: digit (n % 64)
      :: encode rest

/-- The bytes of a text, if it is one that bytes have. -/
def decode? : List Char → Option (List UInt8)
  | [] => some []
  | [a, b, c, d] =>
    if d = padding then
      if c = padding then do
        let n := (← digit? a) * 64 + (← digit? b)
        if n % 16 = 0 then some [UInt8.ofNat (n / 16)] else none
      else do
        let n := ((← digit? a) * 64 + (← digit? b)) * 64 + (← digit? c)
        if n % 4 = 0 then some [UInt8.ofNat (n / 1024), UInt8.ofNat (n / 4)] else none
    else do
      let n := (((← digit? a) * 64 + (← digit? b)) * 64 + (← digit? c)) * 64 + (← digit? d)
      some [UInt8.ofNat (n / 65536), UInt8.ofNat (n / 256), UInt8.ofNat n]
  | a :: b :: c :: d :: rest => do
    let n := (((← digit? a) * 64 + (← digit? b)) * 64 + (← digit? c)) * 64 + (← digit? d)
    let tail ← decode? rest
    some (UInt8.ofNat (n / 65536) :: UInt8.ofNat (n / 256) :: UInt8.ofNat n :: tail)
  | _ => none

/-- A digit is found in the alphabet at its place. -/
theorem digit?_digit : ∀ n, n < 64 → digit? (digit n) = some n := by decide +kernel

end Base64

end VmControl
