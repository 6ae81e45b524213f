import VmControl.Pool.Call

/-!
Starting a migration.

What can be refused without asking anyone is refused first. Then the receiving host is asked whether
it has the machine already and whether it has room for the disks, and only then the task is started.
Meanwhile other tasks may have started, so whether it may start is decided once more. Main
statement:

- `StartCall.begin_fst`: the first step starts nothing.
-/

namespace VmControl

/-- How far the start of a migration has come. -/
inductive StartStage where
  /-- A connection to the receiving host is being made. -/
  | connecting
  /-- The receiving host was asked whether it has the machine. -/
  | checkingName (b : Bound)
  /-- The receiving host was asked whether it has room. -/
  | checkingRoom (b : Bound)
deriving DecidableEq

/-- The start of a migration. -/
structure StartCall where
  /-- What the migration is to do. -/
  options : MigrationOptions
  /-- How far it has come. -/
  stage : StartStage
deriving DecidableEq

/-- A step of the start of a migration. -/
abbrev StartStep := CallStep StartCall (Except ControlError Unit)

namespace StartCall

def fail (p : Pool) (e : ControlError) : StartStep := (p, .over (.error e))

def begin (p : Pool) (s : Surroundings) (o : MigrationOptions) : StartStep :=
  match o.validate with
  | .error e => fail p (.invalidOptions e)
  | .ok () =>
    match s.registry.get? o.vmName with
    | none => fail p (.notRunning o.vmName)
    | some _ =>
      match p.admission (Pool.blocksMigration o.vmName) with
      | .error e => fail p e
      | .ok () => (p, .goesOn ⟨o, .connecting⟩ [.connect o.dstServer o.dstAddrs])

/-- Starts the migration, if it may still start. -/
def register (p : Pool) (s : Surroundings) (c : StartCall) : StartStep :=
  match p.admission (Pool.blocksMigration c.options.vmName) with
  | .error e => fail p e
  | .ok () => (p.start (.migration c.options p.config s.stamp), .over (.ok ()))

/-- The connection is made: asks whether the machine is there already. -/
def onConnected (p : Pool) (s : Surroundings) (c : StartCall) : StartStep :=
  (p, .goesOn
    { c with stage := .checkingName (.begin s "destination preflight" p.config.remoteTimeout) }
    [.request (.isConfigPresent c.options.dstVmName)])

/-- Why a machine that is there already cannot be moved there. -/
def present (c : StartCall) : ControlError :=
  .precondition ("VM " ++ c.options.dstVmName ++ " already exists on " ++ c.options.dstServer)

/-- It is known whether the machine is there: asks whether there is room for its disks. -/
def onName (p : Pool) (s : Surroundings) (c : StartCall) (b : Bound) :
    Except ControlError PeerReply → StartStep
  | .error e => fail p e
  | .ok answer =>
    if answer.isYes then fail p c.present
    else if c.options.disks.isEmpty then c.register p s
    else (p, .goesOn { c with stage := .checkingRoom b }
      [.request (.checkCapacity c.options.capacities)])

/-- It is known whether there is room. -/
def onRoom (p : Pool) (s : Surroundings) (c : StartCall) : Except ControlError PeerReply → StartStep
  | .error e => fail p e
  | .ok _ => c.register p s

/-- What comes of something that happens to the call, if it can happen now. -/
def step? (p : Pool) (s : Surroundings) (c : StartCall) (h : Happening) : Option StartStep :=
  match c.stage with
  | .connecting =>
    match h with
    | .answer (.ok _) => some (c.onConnected p s)
    | .answer (.error e) => some (fail p e)
    | _ => none
  | .checkingName b => (b.resolve? s false h).map (c.onName p s b)
  | .checkingRoom b => (b.resolve? s false h).map (c.onRoom p s)

/-- The moment at which the call wakes by itself. -/
def due? (c : StartCall) : Option Nat :=
  match c.stage with
  | .connecting => none
  | .checkingName b | .checkingRoom b => some b.due

/-- The first step starts nothing. -/
@[simp] theorem begin_fst (p : Pool) (s : Surroundings) (o : MigrationOptions) :
    (begin p s o).1 = p := by
  rw [begin]
  split
  · rfl
  · split
    · rfl
    · split <;> rfl

end StartCall

end VmControl
