import VmControl.Json.Draft
import VmControl.Number.Text

/-!
The reader of data texts: a machine that takes one character at a time.

The machine keeps the containers that are still open on a stack and never looks back, so reading is
one fold over the text. A piece of the input that is no character at all is given as `none`; inside
quotes it only spoils the text it stands in, elsewhere the text ends there. Main statement:

- `Reader.run_append`: reading two texts one after the other is reading their concatenation.
-/

namespace VmControl

namespace Reader

/-- A container that is still open. -/
inductive Frame where
  /-- A list with the items read so far, the last one first. -/
  | arr (items : List Draft)
  /-- An object with the members read so far, the last one first, and the name being read. -/
  | obj (members : List (Option String × Draft)) (name : Option String)

/-- Where in a quoted text the reader stands. -/
inductive QuoteStage where
  | plain
  | escape
  /-- Inside the four digits of an escape, with the digits left, the value so far, and the leading
  half of a pair in front. -/
  | hex (left : Nat) (value : Nat) (leading : Option Nat)
  /-- Behind the leading half of a pair. -/
  | afterLeading (leading : Nat)
  /-- Behind the leading half of a pair and a backslash. -/
  | afterLeadingEscape (leading : Nat)

/-- A quoted text being read. -/
structure Quote where
  /-- Whether it is the name of a member. -/
  isName : Bool
  /-- The characters so far, the last one first. -/
  chars : List Char
  /-- Whether all pieces so far are characters. -/
  sound : Bool
  stage : QuoteStage

/-- Where in a numeral the reader stands. -/
inductive NumeralStage where
  | sign
  | zero
  /-- In the digits before the point. -/
  | whole
  | point
  /-- In the digits behind the point. -/
  | fraction
  | mark
  /-- Behind the sign of the exponent. -/
  | exponentSign
  /-- In the digits of the exponent. -/
  | exponent
deriving DecidableEq

/-- A numeral being read, with its digits in reverse. -/
structure Numeral where
  /-- Whether a minus sign stands in front. -/
  negative : Bool
  /-- The digits before the point. -/
  whole : List Nat
  /-- The digits behind the point. -/
  fraction : List Nat
  /-- Whether the exponent is negative. -/
  exponentNegative : Bool
  /-- The digits of the exponent. -/
  exponent : List Nat
  stage : NumeralStage

/-- What the reader expects next. -/
inductive Stage where
  | value
  /-- A value, or the end of the list just opened. -/
  | firstItem
  /-- A name, or the end of the object just opened. -/
  | firstName
  | name
  /-- The colon behind a name. -/
  | colon
  /-- A comma or the end of the container. -/
  | next
  /-- The rest of a word that stands for a value. -/
  | word (rest : List Char) (value : Draft)
  /-- The rest of a quoted text. -/
  | quote (q : Quote)
  /-- The rest of a numeral. -/
  | numeral (n : Numeral)
  /-- Nothing but blanks: the value is complete. -/
  | complete (value : Draft)
  /-- Nothing: characters followed the complete value. -/
  | trailing (value : Draft)
  /-- Nothing: the text is not well-formed, and this is what it gave. -/
  | broken (value : Draft)

/-- The reader between two characters. -/
structure State where
  /-- The open containers, the innermost first. -/
  frames : List Frame
  stage : Stage

/-- The reader before the first character. -/
def start : State := ⟨[], .value⟩

/-- Closes the open containers around what was read last, marking each as not closed. -/
def abandon : List Frame → Draft → Draft
  | [], inner => inner
  | .arr items :: rest, inner => abandon rest (.arr (inner :: items).reverse false)
  | .obj members name :: rest, inner => abandon rest (.obj ((name, inner) :: members).reverse false)

/-- Closes the open containers when nothing of a further entry was read. -/
def abandonBetween : List Frame → Draft
  | [] => .cut
  | .arr items :: rest => abandon rest (.arr items.reverse false)
  | .obj members _ :: rest => abandon rest (.obj members.reverse false)

/-- The reader after a fault: a value that was begun is cut, a separator that is missing leaves the
entries read so far. -/
def State.fail (s : State) : State :=
  match s.stage with
  | .firstItem | .firstName | .name | .next => ⟨[], .broken (abandonBetween s.frames)⟩
  | .quote q =>
    ⟨[], .broken (if q.isName then abandonBetween s.frames else abandon s.frames .cut)⟩
  | .value | .colon | .word _ _ | .numeral _ => ⟨[], .broken (abandon s.frames .cut)⟩
  | .complete v | .trailing v => ⟨[], .trailing v⟩
  | .broken v => ⟨[], .broken v⟩

/-- The reader after a complete value. -/
def State.finish (s : State) (value : Draft) : State :=
  match s.frames with
  | [] => ⟨[], .complete value⟩
  | .arr items :: rest => ⟨.arr (value :: items) :: rest, .next⟩
  | .obj members name :: rest => ⟨.obj ((name, value) :: members) none :: rest, .next⟩

/-- The reader after the end of the innermost container. -/
def State.close (s : State) : State :=
  match s.frames with
  | [] => s.fail
  | .arr items :: rest => State.finish ⟨rest, .next⟩ (.arr items.reverse true)
  | .obj members _ :: rest => State.finish ⟨rest, .next⟩ (.obj members.reverse true)

/-- Whether a character is blank between the parts of a text. -/
def isBlank (c : Char) : Bool := c = ' ' || c = '\n' || c = '\t' || c = '\r'

/-- The value of a decimal digit. -/
def digit? (c : Char) : Option Nat :=
  if '0' ≤ c ∧ c ≤ '9' then some (c.toNat - 48) else none

/-- The value of a hexadecimal digit. -/
def hexDigit? (c : Char) : Option Nat :=
  if '0' ≤ c ∧ c ≤ '9' then some (c.toNat - 48)
  else if 'a' ≤ c ∧ c ≤ 'f' then some (c.toNat - 87)
  else if 'A' ≤ c ∧ c ≤ 'F' then some (c.toNat - 55)
  else none

/-- The first character of a value. -/
def State.beginValue (s : State) (c : Char) : State :=
  if c = '[' then ⟨.arr [] :: s.frames, .firstItem⟩
  else if c = '\x7b' then ⟨.obj [] none :: s.frames, .firstName⟩
  else if c = '\x22' then ⟨s.frames, .quote ⟨false, [], true, .plain⟩⟩
  else if c = 'n' then ⟨s.frames, .word ['u', 'l', 'l'] .null⟩
  else if c = 't' then ⟨s.frames, .word ['r', 'u', 'e'] (.bool true)⟩
  else if c = 'f' then ⟨s.frames, .word ['a', 'l', 's', 'e'] (.bool false)⟩
  else if c = '-' then ⟨s.frames, .numeral ⟨true, [], [], false, [], .sign⟩⟩
  else match digit? c with
    | some 0 => ⟨s.frames, .numeral ⟨false, [0], [], false, [], .zero⟩⟩
    | some d => ⟨s.frames, .numeral ⟨false, [d], [], false, [], .whole⟩⟩
    | none => State.fail ⟨s.frames, .value⟩

/-- The reader behind the closing quote. -/
def State.endQuote (s : State) (q : Quote) : State :=
  let text := if q.sound then some (String.ofList q.chars.reverse) else none
  if q.isName then
    match s.frames with
    | .obj members _ :: rest => ⟨.obj members text :: rest, .colon⟩
    | _ => s.fail
  else s.finish (.str text)

/-- The character behind a backslash that stands for one character. -/
def escaped? (c : Char) : Option Char :=
  if c = '\x22' ∨ c = '\\' ∨ c = '/' then some c
  else if c = 'b' then some '\x08'
  else if c = 'f' then some '\x0c'
  else if c = 'n' then some '\n'
  else if c = 'r' then some '\r'
  else if c = 't' then some '\t'
  else none

/-- The quoted text after the four digits of an escape. -/
def Quote.endHex (q : Quote) (value : Nat) (leading : Option Nat) : Quote :=
  match leading with
  | some high =>
    if 0xdc00 ≤ value ∧ value < 0xe000 then
      { q with
        chars := Char.ofNat (0x10000 + (high - 0xd800) * 0x400 + (value - 0xdc00)) :: q.chars
        stage := .plain }
    else { q with sound := false, stage := .plain }
  | none =>
    if 0xd800 ≤ value ∧ value < 0xdc00 then { q with stage := .afterLeading value }
    else if 0xdc00 ≤ value ∧ value < 0xe000 then { q with sound := false, stage := .plain }
    else { q with chars := Char.ofNat value :: q.chars, stage := .plain }

/-- A character inside quotes, between escapes. -/
def State.quotePlain (s : State) (q : Quote) (c : Char) : State :=
  if c = '\x22' then s.endQuote q
  else if c = '\\' then ⟨s.frames, .quote { q with stage := .escape }⟩
  else if c.toNat < 0x20 then s.fail
  else ⟨s.frames, .quote { q with chars := c :: q.chars, stage := .plain }⟩

/-- A character behind a backslash. -/
def State.quoteEscape (s : State) (q : Quote) (c : Char) : State :=
  if c = 'u' then ⟨s.frames, .quote { q with stage := .hex 4 0 none }⟩
  else match escaped? c with
    | some e => ⟨s.frames, .quote { q with chars := e :: q.chars, stage := .plain }⟩
    | none => s.fail

/-- A character inside quotes. -/
def State.inQuote (s : State) (q : Quote) (c : Char) : State :=
  match q.stage with
  | .plain => s.quotePlain q c
  | .escape => s.quoteEscape q c
  | .hex left value leading =>
    match hexDigit? c with
    | none => s.fail
    | some d =>
      let value := value * 16 + d
      match left with
      | 0 | 1 => ⟨s.frames, .quote (q.endHex value leading)⟩
      | left + 1 => ⟨s.frames, .quote { q with stage := .hex left value leading }⟩
  | .afterLeading high =>
    if c = '\\' then ⟨s.frames, .quote { q with stage := .afterLeadingEscape high }⟩
    else s.quotePlain { q with sound := false } c
  | .afterLeadingEscape high =>
    if c = 'u' then ⟨s.frames, .quote { q with stage := .hex 4 0 (some high) }⟩
    else s.quoteEscape { q with sound := false } c

/-- The parts of a numeral in reading order. -/
def Numeral.toText (n : Numeral) : NumberText :=
  { negative := n.negative
    whole := n.whole.reverse
    fraction := n.fraction.reverse
    exponent := match n.stage with
      | .exponent => some (n.exponentNegative, n.exponent.reverse)
      | _ => none
    pointed := !n.fraction.isEmpty }

/-- Whether a numeral may end where the reader stands. -/
def Numeral.canEnd (n : Numeral) : Bool :=
  match n.stage with
  | .zero | .whole | .fraction | .exponent => true
  | .sign | .point | .mark | .exponentSign => false

/-- A numeral taking one more character; nothing if the character does not belong to it. -/
def Numeral.extend? (n : Numeral) (c : Char) : Option Numeral :=
  let exponentMark := c = 'e' || c = 'E'
  match n.stage, digit? c with
  | .sign, some 0 => some { n with whole := [0], stage := .zero }
  | .sign, some d => some { n with whole := [d], stage := .whole }
  | .whole, some d => some { n with whole := d :: n.whole }
  | .point, some d | .fraction, some d =>
    some { n with fraction := d :: n.fraction, stage := .fraction }
  | .mark, some d | .exponentSign, some d | .exponent, some d =>
    some { n with exponent := d :: n.exponent, stage := .exponent }
  | .zero, none | .whole, none =>
    if c = '.' then some { n with stage := .point }
    else if exponentMark then some { n with stage := .mark } else none
  | .fraction, none => if exponentMark then some { n with stage := .mark } else none
  | .mark, none =>
    if c = '+' then some { n with stage := .exponentSign }
    else if c = '-' then some { n with exponentNegative := true, stage := .exponentSign } else none
  | _, _ => none

/-- A character behind a value: a comma, the end of the container, or a blank. -/
def State.afterValue (s : State) (c : Char) : State :=
  if isBlank c then s
  else match s.stage, s.frames with
    | .complete v, _ => ⟨[], .trailing v⟩
    | _, .arr _ :: _ =>
      if c = ',' then ⟨s.frames, .value⟩ else if c = ']' then s.close else s.fail
    | _, .obj _ _ :: _ =>
      if c = ',' then ⟨s.frames, .name⟩ else if c = '\x7d' then s.close else s.fail
    | _, [] => s.fail

/-- The reader after one character. -/
def State.read (s : State) (c : Char) : State :=
  match s.stage with
  | .value => if isBlank c then s else s.beginValue c
  | .firstItem => if isBlank c then s else if c = ']' then s.close else s.beginValue c
  | .firstName =>
    if isBlank c then s
    else if c = '\x22' then ⟨s.frames, .quote ⟨true, [], true, .plain⟩⟩
    else if c = '\x7d' then s.close
    else s.fail
  | .name =>
    if isBlank c then s
    else if c = '\x22' then ⟨s.frames, .quote ⟨true, [], true, .plain⟩⟩
    else s.fail
  | .colon => if isBlank c then s else if c = ':' then ⟨s.frames, .value⟩ else s.fail
  | .next | .complete _ => s.afterValue c
  | .word [] v => (s.finish v).afterValue c
  | .word [e] v => if c = e then s.finish v else s.fail
  | .word (e :: rest) v => if c = e then ⟨s.frames, .word rest v⟩ else s.fail
  | .quote q => s.inQuote q c
  | .numeral n =>
    match n.extend? c with
    | some n => ⟨s.frames, .numeral n⟩
    | none =>
      if n.canEnd && (digit? c).isNone then (s.finish (.num n.toText.value?)).afterValue c
      else s.fail
  | .trailing _ | .broken _ => s

/-- The reader after a piece of the input that is no character. -/
def State.readGap (s : State) : State :=
  match s.stage with
  | .quote q =>
    match q.stage with
    | .plain | .afterLeading _ => ⟨s.frames, .quote { q with sound := false, stage := .plain }⟩
    | _ => s.fail
  | .numeral n => if n.canEnd then (s.finish (.num n.toText.value?)).fail else s.fail
  | _ => s.fail

/-- The reader after one piece of the input. -/
def State.step (s : State) : Option Char → State
  | some c => s.read c
  | none => s.readGap

/-- The reader after a whole text. -/
def run (s : State) (text : List (Option Char)) : State := text.foldl State.step s

/-- What a text gave, and whether nothing but blanks followed it. -/
structure Reading where
  /-- The value as far as it was well-formed. -/
  draft : Draft
  /-- Whether the text ended with the value. -/
  clean : Bool

/-- What the reader has when the text is over. -/
def State.result (s : State) : Reading :=
  match s.stage with
  | .complete v => ⟨v, true⟩
  | .trailing v => ⟨v, false⟩
  | .broken v => ⟨v, true⟩
  | .numeral n =>
    if n.canEnd then
      match (s.finish (.num n.toText.value?)).stage, s.frames with
      | .complete v, _ => ⟨v, true⟩
      | _, _ => ⟨abandonBetween (s.finish (.num n.toText.value?)).frames, true⟩
    else ⟨abandon s.frames .cut, true⟩
  | _ =>
    match s.fail.stage with
    | .broken v => ⟨v, true⟩
    | _ => ⟨.cut, true⟩

/-- Reads a text given in pieces. -/
def readPieces (text : List (Option Char)) : Reading := (run start text).result

def readText (text : String) : Reading := readPieces (text.toList.map some)

/-- Reading two texts one after the other is reading their concatenation. -/
theorem run_append (s : State) (a b : List (Option Char)) : run s (a ++ b) = run (run s a) b :=
  List.foldl_append ..

end Reader

end VmControl
