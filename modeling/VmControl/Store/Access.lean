import VmControl.Store.FileSystem

/-!
What the record store asks of the file system, one request at a time.

A store operation is a sequence of requests in which each may depend on the answers to those before.
The same operation runs on a file system that answers as it should, and can be followed where
requests fail. Main statements:

- `FileProgram.run_done`, `FileProgram.run_ask`: how an operation runs;
- `FileProgram.run_bind`: one operation after another runs as the two do.
-/

namespace VmControl

/-- A request to the file system. -/
inductive FileRequest where
  /-- Make a directory and all that lead to it. -/
  | makeDirs (path : Path)
  /-- Write a text to a file. -/
  | write (path : Path) (text : String)
  /-- Give a file another path. -/
  | rename (source target : Path)
  | read (path : Path)
deriving DecidableEq

namespace FileRequest

/-- The answer to a request and the file system afterwards. A refused request changes nothing. -/
def perform (fs : FileSystem) : FileRequest → Except OsError String × FileSystem
  | .makeDirs path =>
    match fs.makeDirs path with
    | .ok fs' => (.ok "", fs')
    | .error e => (.error e, fs)
  | .write path text =>
    match fs.write path text with
    | .ok fs' => (.ok "", fs')
    | .error e => (.error e, fs)
  | .rename source target =>
    match fs.rename source target with
    | .ok fs' => (.ok "", fs')
    | .error e => (.error e, fs)
  | .read path => (fs.read path, fs)

/-- The files that a request reads, writes or moves. -/
def files : FileRequest → List Path
  | .makeDirs _ => []
  | .write path _ => [path]
  | .rename source target => [source, target]
  | .read path => [path]

end FileRequest

/-- An operation on files: its outcome, or a request and what follows each answer. -/
inductive FileProgram (α : Type) where
  | done (outcome : α)
  | ask (request : FileRequest) (next : Except OsError String → FileProgram α)

namespace FileProgram

variable {α β : Type}

/-- One operation after another. -/
def bind : FileProgram α → (α → FileProgram β) → FileProgram β
  | .done a, f => f a
  | .ask request next, f => .ask request fun answer => (next answer).bind f

instance : Monad FileProgram where
  pure := .done
  bind := bind

/-- A request whose failure ends the operation with an outcome of its own. -/
def attempt {ε : Type} (request : FileRequest) (failure : OsError → ε)
    (next : String → FileProgram (Except ε α)) : FileProgram (Except ε α) :=
  .ask request fun answer =>
    match answer with
    | .ok text => next text
    | .error e => .done (.error (failure e))

/-- Runs an operation on a file system. -/
def run (fs : FileSystem) : FileProgram α → α × FileSystem
  | .done a => (a, fs)
  | .ask request next => (next (request.perform fs).1).run (request.perform fs).2

@[simp] theorem run_done (fs : FileSystem) (a : α) : (FileProgram.done a).run fs = (a, fs) := rfl

@[simp] theorem run_ask (fs : FileSystem) (request : FileRequest)
    (next : Except OsError String → FileProgram α) :
    (FileProgram.ask request next).run fs
      = (next (request.perform fs).1).run (request.perform fs).2 := rfl

/-- One operation after another runs as the two do. -/
theorem run_bind (fs : FileSystem) (p : FileProgram α) (f : α → FileProgram β) :
    (p.bind f).run fs = (f (p.run fs).1).run (p.run fs).2 := by
  induction p generalizing fs with
  | done a => rfl
  | ask request next ih => exact ih _ _

end FileProgram

end VmControl
