import VmControl.Text.Split

/-!
A file system: directories, plain files and block devices under their paths.

A path is the list of its components from the root. Every operation walks the path from the root and
reports the first obstacle it meets. Main statements:

- `FileSystem.find?_put`: what writing a node makes visible, for every path;
- `FileSystem.find?_remove`: what removing a node hides.
-/

namespace VmControl

/-- A path from the root, as the list of its components. -/
abbrev Path := List String

namespace Path

/-- The components of a path text; empty ones and the dot stand for no step. -/
def ofText (s : String) : Path := (Text.parts '/' s).filter (fun c => c ≠ "" && c ≠ ".")

/-- The text of an absolute path. -/
def text (p : Path) : String := "/" ++ "/".intercalate p

end Path

/-- Why the operating system refuses. -/
inductive OsError where
  /-- The process may not do it. -/
  | notPermitted
  /-- There is no such file or directory. -/
  | notFound
  /-- The file is there already. -/
  | exists
  /-- A component of the path is no directory. -/
  | notDirectory
  /-- The file is a directory. -/
  | isDirectory
  /-- A component of the path is too long. -/
  | nameTooLong
  /-- The other end of a connection is gone. -/
  | brokenPipe
  | refused
deriving DecidableEq

namespace OsError

/-- The wording of a refusal. -/
def message : OsError → String
  | .notPermitted => "Operation not permitted (os error 1)"
  | .notFound => "No such file or directory (os error 2)"
  | .exists => "File exists (os error 17)"
  | .notDirectory => "Not a directory (os error 20)"
  | .isDirectory => "Is a directory (os error 21)"
  | .nameTooLong => "File name too long (os error 36)"
  | .brokenPipe => "Broken pipe (os error 32)"
  | .refused => "Connection refused (os error 111)"

end OsError

/-- The number of a device. -/
structure DeviceNumber where
  major : Nat
  /-- The device of the driver. -/
  minor : Nat
deriving DecidableEq

/-- What a path leads to. -/
inductive Node where
  | dir
  /-- A plain file and its text. -/
  | file (text : String)
  /-- A block device with its access mode and owner. -/
  | block (number : DeviceNumber) (mode uid gid : Nat)
deriving DecidableEq

/-- A file system. The root is always a directory. -/
structure FileSystem where
  /-- The nodes below the root, each path once. -/
  nodes : List (Path × Node)
  /-- Whether the process may make device nodes. -/
  mayMakeNodes : Bool
deriving DecidableEq

namespace FileSystem

/-- The longest component of a path, in bytes. -/
def nameLimit : Nat := 255

/-- The node at a path. -/
def find? (fs : FileSystem) (p : Path) : Option Node :=
  if p = [] then some .dir else fs.nodes.lookup p

/-- Puts a node at a path, in place of what was there. -/
def put (fs : FileSystem) (p : Path) (n : Node) : FileSystem :=
  { fs with nodes := (p, n) :: fs.nodes.filter (fun entry => entry.1 ≠ p) }

/-- Removes the node at a path. -/
def remove (fs : FileSystem) (p : Path) : FileSystem :=
  { fs with nodes := fs.nodes.filter (fun entry => entry.1 ≠ p) }

/-- Walks on from a directory: the node at the end, or nothing if only the last component is
missing. -/
def walk (fs : FileSystem) : Path → List String → Except OsError (Option Node)
  | done, [] => .ok (fs.find? done)
  | done, c :: rest =>
    match fs.find? done with
    | some .dir =>
      if nameLimit < c.utf8ByteSize then .error .nameTooLong
      else
        match rest, fs.find? (done ++ [c]) with
        | _ :: _, none => .error .notFound
        | _, _ => walk fs (done ++ [c]) rest
    | some _ => .error .notDirectory
    | none => .error .notFound

/-- The node at a path that has to be there. -/
def get (fs : FileSystem) (p : Path) : Except OsError Node :=
  match fs.walk [] p with
  | .error e => .error e
  | .ok none => .error .notFound
  | .ok (some n) => .ok n

/-- The text of a plain file. -/
def read (fs : FileSystem) (p : Path) : Except OsError String :=
  match fs.get p with
  | .error e => .error e
  | .ok (.file text) => .ok text
  | .ok .dir => .error .isDirectory
  | .ok (.block ..) => .ok ""

/-- Writes a plain file, which is made if it is not there. -/
def write (fs : FileSystem) (p : Path) (text : String) : Except OsError FileSystem :=
  match fs.walk [] p with
  | .error e => .error e
  | .ok (some .dir) => .error .isDirectory
  | .ok (some (.block ..)) => .ok fs
  | .ok _ => .ok (fs.put p (.file text))

def makeDir (fs : FileSystem) (p : Path) : Except OsError FileSystem :=
  match fs.walk [] p with
  | .error e => .error e
  | .ok none => .ok (fs.put p .dir)
  | .ok (some _) => .error .exists

/-- Makes the missing directories of a path, from one that is there on. -/
def makeDirsFrom (fs : FileSystem) : Path → List String → Except OsError FileSystem
  | _, [] => .ok fs
  | done, c :: rest =>
    let p := done ++ [c]
    match fs.walk [] p with
    | .error e => .error e
    | .ok none => makeDirsFrom (fs.put p .dir) p rest
    | .ok (some .dir) => makeDirsFrom fs p rest
    | .ok (some _) => .error (if rest = [] then .exists else .notDirectory)

/-- Makes a directory and all that lead to it. -/
def makeDirs (fs : FileSystem) (p : Path) : Except OsError FileSystem := fs.makeDirsFrom [] p

/-- Gives a plain file another path, in place of a plain file there. -/
def rename (fs : FileSystem) (source target : Path) : Except OsError FileSystem :=
  match fs.get source with
  | .error e => .error e
  | .ok n =>
    match fs.walk [] target with
    | .error e => .error e
    | .ok (some .dir) => .error .isDirectory
    | .ok _ => .ok ((fs.remove source).put target n)

/-- Removes a node that is no directory. -/
def unlink (fs : FileSystem) (p : Path) : Except OsError FileSystem :=
  match fs.get p with
  | .error e => .error e
  | .ok .dir => .error .isDirectory
  | .ok _ => .ok (fs.remove p)

/-- Makes a block device, as far as the process may. -/
def makeBlock (fs : FileSystem) (p : Path) (number : DeviceNumber) (mode : Nat) :
    Except OsError FileSystem :=
  match fs.walk [] p with
  | .error e => .error e
  | .ok (some _) => .error .exists
  | .ok none =>
    if fs.mayMakeNodes then .ok (fs.put p (.block number mode 0 0)) else .error .notPermitted

/-- Gives a block device to a user and a group. -/
def changeOwner (fs : FileSystem) (p : Path) (uid gid : Nat) : Except OsError FileSystem :=
  match fs.get p with
  | .error e => .error e
  | .ok (.block number mode _ _) => .ok (fs.put p (.block number mode uid gid))
  | .ok _ => .ok fs

/-- The names in a directory; none if it is not there. -/
def names (fs : FileSystem) (p : Path) : List String :=
  (fs.nodes.filterMap fun entry =>
    if entry.1.length = p.length + 1 ∧ p.isPrefixOf entry.1 then entry.1.getLast?
    else none).mergeSort
      (fun a b => decide (a ≤ b))

/-- Everything below a directory that is no directory. -/
def leaves (fs : FileSystem) (p : Path) : List (Path × Node) :=
  fs.nodes.filter fun entry => p.isPrefixOf entry.1 && entry.1 ≠ p && entry.2 ≠ .dir

theorem lookup_filter_ne (entries : List (Path × Node)) (p q : Path) (differ : q ≠ p) :
    (entries.filter (fun entry => entry.1 ≠ p)).lookup q = entries.lookup q := by
  induction entries with
  | nil => rfl
  | cons entry rest ih =>
    obtain ⟨key, node⟩ := entry
    by_cases same : key = p
    · subst same
      have apart : (q == key) = false := beq_eq_false_iff_ne.mpr differ
      simpa [List.lookup_cons, apart] using ih
    · by_cases hit : q = key
      · simp [same, hit]
      · have apart : (q == key) = false := beq_eq_false_iff_ne.mpr hit
        simpa [List.lookup_cons, same, apart] using ih

theorem lookup_filter_self (entries : List (Path × Node)) (p : Path) :
    (entries.filter (fun entry => entry.1 ≠ p)).lookup p = none := by
  induction entries with
  | nil => rfl
  | cons entry rest ih =>
    obtain ⟨key, node⟩ := entry
    by_cases same : key = p
    · subst same
      simpa using ih
    · have apart : (p == key) = false := beq_eq_false_iff_ne.mpr (Ne.symm same)
      simpa [List.lookup_cons, same, apart] using ih

/-- After a node was put at a path below the root, that path leads to it and every other one to
where it led before. -/
theorem find?_put (fs : FileSystem) (p q : Path) (n : Node) (below : p ≠ []) :
    (fs.put p n).find? q = if q = p then some n else fs.find? q := by
  by_cases same : q = p
  · subst same
    simp [find?, put, below]
  · by_cases root : q = []
    · simp [find?, root, Ne.symm below]
    · have apart : (q == p) = false := beq_eq_false_iff_ne.mpr same
      have kept := lookup_filter_ne fs.nodes p q same
      simpa [find?, put, root, same, List.lookup_cons, apart] using kept

/-- After the node at a path below the root was removed, that path leads nowhere and every other
one to where it led before. -/
theorem find?_remove (fs : FileSystem) (p q : Path) (below : p ≠ []) :
    (fs.remove p).find? q = if q = p then none else fs.find? q := by
  by_cases same : q = p
  · subst same
    have gone := lookup_filter_self fs.nodes q
    simpa [find?, remove, below] using gone
  · by_cases root : q = []
    · simp [find?, root, Ne.symm below]
    · have kept := lookup_filter_ne fs.nodes p q same
      simpa [find?, remove, root, same] using kept

end FileSystem

end VmControl
