import VmControl.Rehearsal.World

/-!
Scenarios: steps taken in a world, one after the other.

A step lasts until its result is known and nothing more can happen at that moment. One that takes an
hour is given up.
-/

namespace VmControl

/-- What a step of a scenario brought about. -/
structure StepRecord where
  /-- The time after the step. -/
  time : Nat
  result : StepResult
  /-- The calls that were made meanwhile, in order of time, target, command and arguments. -/
  calls : List CallRecord

namespace CallRecord

/-- What orders calls of one moment. -/
def key (c : CallRecord) : List String :=
  [c.target, c.command, c.arguments.settle.render]

/-- Whether one call comes before another or they are alike. -/
def before (a b : CallRecord) : Bool :=
  decide (a.moment < b.moment) ||
    (a.moment = b.moment && !b.key.lex a.key fun s t => decide (s < t))

end CallRecord

namespace World

/-- The longest time of a step, in milliseconds. -/
def patience : Nat := 3600000

/-- A bound on what happens at one moment. -/
def settleFuel : Nat := 100000

/-- A bound on the moments of a step. -/
def runFuel : Nat := 100000000

/-! ## Files -/

/-- The directory of the store. -/
def storeDir (w : World) : Path := w.pool.records.dirPath

/-- Changes the files, and tells whether they could be changed. -/
def change (w : World) (f : FileSystem → Except OsError FileSystem) : Bool × World :=
  match f w.files with
  | .ok files => (true, { w with files := files })
  | .error _ => (false, w)

/-- Writes a file of the store, making its directory. -/
def writeRecord (name text : String) (dir : Path) (fs : FileSystem) : Except OsError FileSystem :=
  (fs.makeDirs dir).bind fun fs => fs.write (dir ++ Path.ofText name) text

/-- Writes a plain file, making the directories that lead to it. -/
def placeFile (p : Path) (fs : FileSystem) : Except OsError FileSystem :=
  (fs.makeDirs p.dropLast).bind fun fs => fs.write p ""

/-! ## Beginning a step -/

/-- Finds a registered task for a step. -/
def found? (w : World) (id : TaskId) : Option FoundTask :=
  (w.pool.table.get? id).map (id, ·)

/-- Registers a monitor for a machine, and tells whether it replaced another one. -/
def attach (w : World) (vm : String) (m : ScriptedMonitor) : Bool × World :=
  ((w.registry.get? vm).isSome,
    { w with
      registry := w.registry.register vm w.monitors.length
      latest := w.latest.register vm w.monitors.length
      monitors := w.monitors ++ [m] })

/-- Takes the monitor of a machine away and closes it. -/
def closeMonitor (w : World) (vm : String) : World :=
  match w.registry.get? vm with
  | none => w
  | some connection =>
    { w with
      registry := w.registry.unregister vm
      monitors := w.monitors.modify connection fun m => { m with log := m.log.close } }

/-- Runs a look at files. -/
def look {α : Type} (w : World) (p : FileProgram α) : α := (p.run w.files).1

mutual

def begin (w : World) (number : Nat) : Step → World
  | .known r => w.conclude number r
  | .startMigration o =>
    let x := StartCall.begin w.pool w.surroundings o
    w.take number (x.1, x.2.map .starting .attempt)
  | .startCopying o =>
    let (outcome, p) := w.pool.startCopying w.surroundings o
    (w.tick.setPool p).conclude number (.attempt outcome)
  | .advance ms => w.setActor number (.sleeping (w.now + ms) none)
  | .later ms next => w.setActor number (.sleeping (w.now + ms) (some next))
  | .together steps =>
    let first := w.steps
    let w : World := { w with steps := first + steps.length }
    (w.setActor number (.group (List.range' first steps.length))).beginAll first steps
  | .cancel id =>
    let x := CancelCall.begin w.pool id
    w.take number (x.1, x.2.map .cancelling .attempt)
  | .cancelAll vm => w.setActor number (.cancellingAll (CancelAllCall.begin w.pool vm))
  | .wait id =>
    match w.found? id with
    | some found => w.setActor number (.awaiting found)
    | none => w.conclude number (.report none)
  | .task id =>
    w.conclude number (match w.found? id with
      | some found => Actor.report w.pool found
      | none => .report none)
  | .stat vm => w.conclude number (.migrationStat (w.look (w.pool.migrationStat vm)))
  | .copyStat vm disk => w.conclude number (.copyStat (w.look (w.pool.copyStat vm disk)))
  | .tasks => w.conclude number (.flags w.pool.flags)
  | .files => w.conclude number (.names (w.files.names w.storeDir))
  | .writeFile name text =>
    let (b, w) := w.change (writeRecord name text w.storeDir)
    w.conclude number (.flag b)
  | .blockStore =>
    let (b, w) := w.change (placeFile w.storeDir)
    w.conclude number (.flag b)
  | .emit vm e =>
    match w.latest.get? vm with
    | some connection => (w.record connection e).conclude number (.flag true)
    | none => w.conclude number (.flag false)
  | .attach vm m =>
    let (b, w) := w.attach vm m
    w.conclude number (.flag b)
  | .closeMonitor vm =>
    let w := w.closeMonitor vm
    w.conclude number (.names w.registry.names)
  | .restart => (w.setPool w.pool.restart).conclude number .done
  | .disks vm => w.take number (w.pool, .goesOn .listing [.command vm BlockDevice.query])
  | .run vm c => w.take number (w.pool, .goesOn .commanding [.command vm c])
  | .debug => w.conclude number (.debug w.pool.debugText w.registry.names)
  | .makeDir path =>
    let (b, w) := w.change (·.makeDirs (Path.ofText path))
    w.conclude number (.flag b)
  | .makeFile path =>
    let (b, w) := w.change (placeFile (Path.ofText path))
    w.conclude number (.flag b)
  | .makeBlock path device =>
    let (b, w) := w.change (·.makeBlock (Path.ofText path) device CopyTarget.nodeMode)
    w.conclude number (.flag b)
  | .leaves path => w.conclude number (.leaves (w.files.leaves (Path.ofText path)))
  | .http q =>
    if q.isWellFormed then
      let x := w.look (GatewayCall.begin w.pool q)
      w.take number (x.1, x.2.map .exchange .response)
    else w.conclude number .badTarget

/-- Begins steps that are taken together. -/
def beginAll (w : World) (number : Nat) : List Step → World
  | [] => w
  | step :: rest => (w.begin number step).beginAll (number + 1) rest

end

/-! ## Letting time pass -/

/-- Wakes the first step that has slept long enough. -/
def wakeSleeper? (w : World) : Option World :=
  w.actors.findSome? fun
    | (number, .sleeping due next) =>
      if due ≤ w.now then
        some (match next with
          | some step => w.begin number step
          | none => w.conclude number .done)
      else none
    | _ => none

/-- Concludes the first group of which all members have ended. -/
def closeGroup? (w : World) : Option World :=
  w.actors.findSome? fun
    | (number, .group members) =>
      (members.mapM fun member => w.results.lookup member).map fun results =>
        w.conclude number (.many results)
    | _ => none

/-- Lets the next thing happen that can happen now. Tasks go on when no step of the scenario can, so
a step that follows the start of a task at the same moment finds it before its first step. -/
def advance? (w : World) : Option World :=
  w.stir? <|> w.wakeSleeper? <|> w.continueTasks? <|> w.closeGroup?

/-- Lets everything happen that can happen now, up to a bound. -/
def settle : Nat → World → World
  | 0, w => w
  | fuel + 1, w =>
    match w.advance? with
    | some w => settle fuel w
    | none => w

/-- Lets time pass until the result of a step is known, or until a given moment. -/
def await (number limit : Nat) : Nat → World → World
  | 0, w => w
  | fuel + 1, w =>
    let w := settle settleFuel w
    match w.results.lookup number with
    | some _ => w
    | none =>
      match w.next? with
      | some moment =>
        if moment ≤ limit then await number limit fuel { w with now := moment }
        else { w with now := limit }
      | none => { w with now := limit }

def play (w : World) (step : Step) : StepRecord × World :=
  let number := w.steps
  let begun :=
    ({ w with steps := number + 1, calls := [], results := [] } : World).begin number step
  let w := await number (w.now + patience) runFuel begun
  (⟨w.now, (w.results.lookup number).getD .hang, w.calls.mergeSort CallRecord.before⟩,
    { w with actors := [] })

/-- Takes steps one after the other. -/
def playAll (w : World) : List Step → List StepRecord
  | [] => []
  | step :: rest =>
    let (r, w) := w.play step
    r :: w.playAll rest

/-- The world in which a scenario begins. -/
def new (config : Config) (epoch : Timestamp) (monitors : List (String × ScriptedMonitor))
    (peer : Script) (names : String → Except String (List IpAddress)) (files : FileSystem) :
    World :=
  monitors.foldl (fun w m => (w.attach m.1 m.2).2)
    { now := 0
      epoch := epoch
      readings := 0
      registry := .empty
      latest := .empty
      monitors := []
      peer := peer
      names := names
      files := files
      pool := .new config
      questions := 0
      awaited := []
      agenda := []
      turn := none
      steps := 0
      actors := []
      results := []
      calls := [] }

end World

end VmControl
