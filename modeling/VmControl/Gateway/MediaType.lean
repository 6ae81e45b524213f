import VmControl.Text.Split

/-!
The media types of request bodies.

A media type is a kind, a subtype that may end in a suffix behind a plus sign, and parameters, of
which only the form counts here. Letters stand for themselves in either case.
-/

namespace VmControl

/-- A media type without its parameters, in lower case. -/
structure MediaType where
  kind : List Char
  /-- The subtype without its suffix. -/
  subtype : List Char
  /-- The format on which the subtype is built, if it tells one. -/
  suffix : Option (List Char)
deriving DecidableEq

namespace MediaType

/-- Whether a character may stand in a token. -/
def isTokenChar (c : Char) : Bool := c.isAlphanum || "!#$%&'*+-.^_`|~".toList.contains c

/-- Whether a text is a token. -/
def isToken (s : List Char) : Bool := !s.isEmpty && s.all isTokenChar

/-- Where in the parameters a reader stands. -/
inductive ParameterStage where
  /-- In front of a name. -/
  | between
  | name
  /-- Behind the sign between a name and its value. -/
  | equals
  | value
  | opened
  | quoted
  | closed
deriving DecidableEq

namespace ParameterStage

/-- Whether a character may stand in quotes: it is one of the printable ASCII characters. -/
def isQuotable (c : Char) : Bool := decide (0x20 ≤ c.toNat) && decide (c.toNat < 0x7f)

/-- Where the reader stands after a character, unless it cannot stand there. -/
def next (stage : ParameterStage) (c : Char) : Option ParameterStage :=
  match stage with
  | .between => if c = ' ' then some .between else if isTokenChar c then some .name else none
  | .name => if c = '=' then some .equals else if isTokenChar c then some .name else none
  | .equals => if c = '"' then some .opened else if isTokenChar c then some .value else none
  | .value => if c = ';' then some .between else if isTokenChar c then some .value else none
  | .opened => if isQuotable c then some .quoted else none
  | .quoted => if c = '"' then some .closed else if isQuotable c then some .quoted else none
  | .closed => if c = ';' then some .between else if c = ' ' then some .closed else none

/-- Whether the parameters may end where the reader stands. -/
def isEnd : ParameterStage → Bool
  | .between | .equals | .value | .closed => true
  | .name | .opened | .quoted => false

end ParameterStage

/-- Whether a text behind a semicolon is a list of parameters. -/
def areParameters (s : List Char) : Bool :=
  (s.foldlM ParameterStage.next .between).any (·.isEnd)

/-- A subtype and the suffix behind its last plus sign. A plus sign in front of everything belongs
to the subtype. -/
def splitSuffix (s : List Char) : List Char × Option (List Char) :=
  match Text.splitLast? '+' s with
  | some (c :: subtype, suffix) => (c :: subtype, some suffix)
  | _ => (s, none)

/-- Reads a media type. -/
def ofText? (s : String) : Option MediaType :=
  let chars := s.toList.map Char.toLower
  let kind := chars.takeWhile isTokenChar
  match chars.dropWhile isTokenChar with
  | '/' :: rest =>
    let essence := rest.takeWhile isTokenChar
    let accepted := !kind.isEmpty && match rest.dropWhile isTokenChar with
      | [] => true
      | ';' :: parameters => !essence.isEmpty && areParameters parameters
      | _ => false
    let (subtype, suffix) := splitSuffix essence
    if accepted then some ⟨kind, subtype, suffix⟩ else none
  | _ => none

/-- The name of the data format. -/
def dataName : List Char := ['j', 's', 'o', 'n']

/-- Whether a media type is the one of data texts, or of a format built on them. -/
def isData (m : MediaType) : Bool :=
  String.ofList m.kind = "application" && (m.subtype = dataName || m.suffix = some dataName)

end MediaType

end VmControl
