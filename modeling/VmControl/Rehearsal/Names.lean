import VmControl.Net.Address
import VmControl.Text.Split

/-!
The names of hosts in a rehearsal, where no name server answers: a host is found by a number in one
of the forms that are in use, or by the name that every host gives itself.

Besides the usual forms, a four-byte address may have fewer than four parts, of which the last one
fills the bytes that are left, and each part may be hexadecimal or octal; a long address may be
followed by the zone in which it counts. The gateway does not depend on any of this: what a look-up
answers is an input there.
-/

namespace VmControl

namespace HostName

/-- Why no address was found. -/
inductive Failure where
  /-- The name holds a character that ends every name. -/
  | nul
  /-- No host can have the name. -/
  | unknown
  /-- A host may have the name, but there is nobody to ask. -/
  | unanswered
deriving DecidableEq

def Failure.message : Failure → String
  | .nul => "file name contained an unexpected NUL byte"
  | .unknown => "failed to lookup address information: Name or service not known"
  | .unanswered => "failed to lookup address information: Temporary failure in name resolution"

/-! ## Short addresses -/

/-- The base of a part and its digits: hexadecimal behind `0x`, octal behind a zero, else
decimal. -/
def baseOf : List Char → Nat × List Char
  | '0' :: 'x' :: d :: rest | '0' :: 'X' :: d :: rest => (16, d :: rest)
  | '0' :: d :: rest => (8, d :: rest)
  | digits => (10, digits)

/-- The number that a part is. -/
def part? (s : List Char) : Option Nat :=
  let (base, digits) := baseOf s
  if digits.isEmpty then none
  else (digits.mapM (IpAddress.digitIn base)).map (·.foldl (fun n d => n * base + d) 0)

/-- The address whose bytes make a number. -/
def ofNumber (n : Nat) : IpAddress :=
  .v4 (UInt8.ofNat (n / 0x1000000)) (UInt8.ofNat (n / 0x10000)) (UInt8.ofNat (n / 0x100))
    (UInt8.ofNat n)

/-- The address with the given parts: a byte each, and behind them a number that fills the rest. -/
def ofParts? (bytes : List Nat) (last : Nat) : Option IpAddress :=
  let room := Nat.pow 256 (4 - bytes.length)
  if bytes.length < 4 ∧ (∀ b ∈ bytes, b < 256) ∧ last < room then
    some (ofNumber (bytes.foldl (fun n b => n * 256 + b) 0 * room + last))
  else none

/-- Reads a four-byte address in one of its forms. -/
def short? (s : List Char) : Option IpAddress := do
  let parts ← (Text.splitAll '.' s).mapM part?
  ofParts? parts.dropLast (← parts.getLast?)

/-! ## Long addresses with a zone -/

/-- Whether an address counts in one zone only, so that its zone may be named by an interface. -/
def isZoned : IpAddress → Bool
  | .v4 .. => false
  | .v6 groups =>
    match groups.list with
    | first :: _ =>
      let n := first.toNat
      decide (n / 64 = 0x3fa) || (decide (n / 256 = 0xff) && (n % 16 = 1 || n % 16 = 2))
    | [] => false

/-- The interface that every host has. -/
def loopback : List Char := ['l', 'o']

/-- Whether a text names a zone of an address: it is a 32-bit number, or an interface. -/
def isZone (address : IpAddress) (zone : List Char) : Bool :=
  (isZoned address && decide (zone = loopback))
    || (!zone.isEmpty && (zone.mapM (IpAddress.digitIn 10)).any
      fun digits => decide (digits.foldl (fun n d => n * 10 + d) 0 < UInt32.size))

/-- Reads a long address that is followed by a zone. -/
def zoned? (s : List Char) : Option IpAddress :=
  match Text.splitFirst? '%' s with
  | some (front, zone) =>
    match IpAddress.groups? front with
    | some (groups, []) => if isZone (.v6 groups) zone then some (.v6 groups) else none
    | _ => none
  | none => none

/-! ## Names that are no numbers -/

/-- The name that every host gives itself, in any case of its letters. -/
def ownName : List Char := ['l', 'o', 'c', 'a', 'l', 'h', 'o', 's', 't']

/-- The address of a host as seen by itself. -/
def own? (s : List Char) : Option IpAddress :=
  if s.map Char.toLower = ownName then some (.v4 127 0 0 1) else none

/-- The greatest length of a part of a name. -/
def longestPart : Nat := 63

/-- The greatest length of a name, a dot at its end apart. -/
def longestName : Nat := 253

/-- Whether a text may be a part of a name: letters, digits, hyphens and underscores. -/
def isPart (s : List Char) : Bool :=
  !s.isEmpty && decide (s.length ≤ longestPart)
    && s.all fun c => c.isAlphanum || c = '-' || c = '_'

/-- Whether a host may have a name: it has parts between dots and does not begin with a hyphen. -/
def isName (s : List Char) : Bool :=
  let s := if s.getLast? = some '.' then s.dropLast else s
  decide (s.length ≤ longestName) && decide (s.head? ≠ some '-') && (Text.splitAll '.' s).all isPart

/-- What looking for a host comes to where no name server answers. -/
def lookUp (name : String) : Except String (List IpAddress) :=
  match IpAddress.ofText? name with
  | some address => .ok [address]
  | none =>
    let s := name.toList
    if '\x00' ∈ s then .error Failure.nul.message
    else match short? s <|> zoned? s <|> own? s with
      | some address => .ok [address]
      | none => .error (if isName s then Failure.unanswered else Failure.unknown).message

end HostName

end VmControl
