import VmControl.Error
import VmControl.Text.Split

/-!
Task identifiers: the kind of work, the object worked on, and the machine that owns the object.

The text form is `kind:object` or `kind:object@owner`. The first colon ends the kind and the last
`@` begins the owner. Main statement:

- `TaskKind.ofName?_name`: a kind is found under its name.
-/

namespace VmControl

namespace TaskKind

/-- The kind with a name. -/
def ofName? (name : String) : Option TaskKind :=
  if name = "migration" then some .migration
  else if name = "disk-copying" then some .diskCopying
  else none

@[simp] theorem ofName?_name (kind : TaskKind) : ofName? kind.name = some kind := by
  cases kind <;> decide

/-- The kind that a text names, or why it names none. -/
def ofText (text : String) : Except OptionError TaskKind :=
  match ofName? text with
  | some kind => .ok kind
  | none => .error (.taskKind text)

/-- The position of a kind in the order of identifiers. -/
def rank : TaskKind → Nat
  | .migration => 0
  | .diskCopying => 1

end TaskKind

/-- The key under which a task is registered. -/
structure TaskId where
  kind : TaskKind
  /-- The machine of a migration, the disk of a copy. -/
  object : String
  /-- The machine to which a copied disk belongs. -/
  owner : Option String
deriving DecidableEq

namespace TaskId

/-- The identifier of the migration of a machine. -/
def migration (vm : String) : TaskId := ⟨.migration, vm, none⟩

/-- The identifier of the copy of a disk of a machine. -/
def diskCopying (disk vm : String) : TaskId := ⟨.diskCopying, disk, some vm⟩

/-- Whether a name is the object or the owner. -/
def involves (id : TaskId) (name : String) : Bool := id.object = name || id.owner = some name

def text (id : TaskId) : String :=
  id.kind.name ++ ":" ++ id.object ++ match id.owner with
    | some owner => "@" ++ owner
    | none => ""

/-- The object and owner that stand behind the kind, or why they do not. -/
def splitOwner (rest : List Char) : Except String (String × Option String) :=
  match Text.splitLast? '@' rest with
  | some (_, []) => .error "empty owner"
  | some ([], _) => .error "empty object"
  | some (object, owner) => .ok (String.ofList object, some (String.ofList owner))
  | none => if rest = [] then .error "empty object" else .ok (String.ofList rest, none)

/-- The identifier that a text spells, or why it spells none. -/
def ofText (text : String) : Except OptionError TaskId :=
  match Text.splitFirst? ':' text.toList with
  | none => .error (.taskId text "missing ':' separator")
  | some (kind, rest) =>
    match TaskKind.ofText (String.ofList kind) with
    | .error e => .error e
    | .ok kind =>
      match splitOwner rest with
      | .error reason => .error (.taskId text reason)
      | .ok (object, owner) => .ok ⟨kind, object, owner⟩

/-- Whether an owner that may be missing comes before another; a missing one comes first. -/
def ownerBefore : Option String → Option String → Bool
  | none, none => true
  | none, some _ => true
  | some _, none => false
  | some a, some b => decide (a ≤ b)

/-- Whether one identifier comes before another or is the same: by kind, then object, then owner. -/
def before (a b : TaskId) : Bool :=
  if a.kind = b.kind then
    if a.object = b.object then ownerBefore a.owner b.owner else decide (a.object < b.object)
  else decide (a.kind.rank < b.kind.rank)

/-- Identifiers in ascending order. -/
def sort (ids : List TaskId) : List TaskId := ids.mergeSort before

end TaskId

end VmControl
