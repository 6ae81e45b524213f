import VmControl.Text.Blank
import VmControl.Text.Utf8

/-!
The lines of a byte stream.

A line ends at a line feed; one carriage return before it belongs to the ending.
-/

namespace VmControl

namespace Line

/-- The number of the byte that ends a line. -/
def feed : UInt8 := 10

/-- The number of the byte that may stand before the end of a line. -/
def carriage : UInt8 := 13

/-- The complete lines of a stream and what stands behind the last of them. -/
def split : List UInt8 → List (List UInt8) × List UInt8
  | [] => ([], [])
  | b :: rest =>
    let (lines, tail) := split rest
    if b = feed then ([] :: lines, tail)
    else match lines with
      | [] => ([], b :: tail)
      | line :: lines => ((b :: line) :: lines, tail)

/-- A line without the carriage return at its end. -/
def trim (line : List UInt8) : List UInt8 :=
  if line.getLast? = some carriage then line.dropLast else line

/-- The text of a line, if its bytes are a text. -/
def text? (line : List UInt8) : Option String := (Utf8.strict? (trim line)).map String.ofList

/-- Whether a line holds nothing but blanks. -/
def isBlank (line : String) : Bool := Text.allBlank line.toList

end Line

end VmControl
