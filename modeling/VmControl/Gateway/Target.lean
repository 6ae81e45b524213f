/-!
The targets of gateway requests.

A target is a path with perhaps a query, or an address of which the path is a part, or a host alone,
or a star. What may stand in each of them is fixed; a text that holds anything else is no target.
The path is told as it is spelt, with nothing in it decoded.
-/

namespace VmControl

namespace Target

/-- The greatest number of bytes of a target. -/
def greatestSize : Nat := 65534

/-- Whether a character ends what stands in front of a query or a fragment. -/
def endsPath (c : Char) : Bool := c = '?' || c = '#'

/-- Whether a character leaves a mark: it is neither a blank nor one of the ASCII controls. -/
def isMark (c : Char) : Bool := decide (0x21 ≤ c.toNat) && c.toNat ≠ 0x7f

/-- Whether a character may stand in a path. -/
def isPathChar (c : Char) : Bool := isMark c && !"<>`".toList.contains c

/-- Whether a character may stand in a query. -/
def isQueryChar (c : Char) : Bool := isMark c && !"\"<>".toList.contains c

/-- The path in front of a query and a fragment, if the characters of both are admitted. A path that
is left out is the root. -/
def pathBefore? (s : List Char) : Option String :=
  let path := s.takeWhile (!endsPath ·)
  let query := match s.dropWhile (!endsPath ·) with
    | '?' :: rest => rest.takeWhile (· ≠ '#')
    | _ => []
  if path.all isPathChar && query.all isQueryChar then
    some (if path.isEmpty then "/" else String.ofList path)
  else none

/-- Whether a character may stand in the name of a scheme. -/
def isSchemeChar (c : Char) : Bool := c.isAlphanum || "+-.~".toList.contains c

/-- The name of a scheme and what stands behind it, if a text begins with one. -/
def scheme? (s : List Char) : Option (List Char × List Char) :=
  match s.dropWhile isSchemeChar with
  | ':' :: '/' :: '/' :: rest => some (s.takeWhile isSchemeChar, rest)
  | _ => none

/-- The greatest number of characters of a scheme. -/
def greatestScheme : Nat := 64

/-- What was seen of a host so far. -/
structure HostScan where
  /-- The number of colons since the last bracket or the last at-sign. -/
  colons : Nat
  /-- Whether a bracket was opened. -/
  opened : Bool
  closed : Bool
  /-- Whether a percent sign was seen since then. -/
  percent : Bool
  /-- Whether the last character was an at-sign. -/
  atSign : Bool
deriving DecidableEq

namespace HostScan

def start : HostScan := ⟨0, false, false, false, false⟩

/-- Whether a character without a meaning of its own may stand in a host. -/
def isHostChar (c : Char) : Bool := c.isAlphanum || "!$&'()*+,-.;=_~".toList.contains c

/-- The greatest number of colons without a bracket or an at-sign between them: those of a long
address and the one in front of its port. -/
def greatestColons : Nat := 8

/-- What was seen after one more character, unless it cannot stand there. -/
def next (h : HostScan) (c : Char) : Option HostScan :=
  let h := { h with atSign := c = '@' }
  if c = ':' then
    if greatestColons ≤ h.colons then none else some { h with colons := h.colons + 1 }
  else if c = '[' then if h.percent || h.opened then none else some { h with opened := true }
  else if c = ']' then
    if !h.opened || h.closed then none
    else some { h with closed := true, colons := 0, percent := false }
  else if c = '@' then some { h with colons := 0, percent := false }
  else if c = '%' then some { h with percent := true }
  else if isHostChar c then some h else none

/-- Whether a host may end here: its brackets are closed, at most one port follows, and nothing is
spelt with a percent sign. -/
def isEnd (h : HostScan) : Bool :=
  h.opened = h.closed && decide (h.colons ≤ 1) && !h.atSign && !h.percent

end HostScan

/-- Whether a character ends a host. -/
def endsHost (c : Char) : Bool := c = '/' || endsPath c

/-- The host at the front of a text and what stands behind it. -/
def authority? (s : List Char) : Option (List Char × List Char) :=
  let host := s.takeWhile (!endsHost ·)
  if (host.foldlM HostScan.next .start).any (·.isEnd) then some (host, s.dropWhile (!endsHost ·))
  else none

/-- The path of a target as it is spelt; nothing for a text that is no target. A host alone has an
empty path. -/
def path? (target : String) : Option String :=
  if greatestSize < target.utf8ByteSize then none
  else match target.toList with
    | [] => none
    | ['*'] => some "*"
    | '/' :: rest => pathBefore? ('/' :: rest)
    | s =>
      match scheme? s with
      | some (name, rest) =>
        if greatestScheme < name.length then none
        else match authority? rest with
          | some (_ :: _, rest) => pathBefore? rest
          | _ => none
      | none =>
        match authority? s with
        | some (_, []) => some ""
        | _ => none

end Target

end VmControl
