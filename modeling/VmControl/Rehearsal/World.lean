import VmControl.Rehearsal.Step

/-!
The world of a scenario: tasks, scripted monitors and a scripted receiving host, and a clock that
jumps to the next moment at which something happens.

What is due at one moment happens in the order in which it was planned, and whoever an answer
reaches goes on until nothing more can happen to it. An answer counts only while it is still
awaited.
-/

namespace VmControl

/-- Who awaits an answer. -/
inductive Asker where
  /-- A part of a task. -/
  | task (number : Nat) (part : Part)
  /-- A step of the scenario. -/
  | step (number : Nat)
deriving DecidableEq

/-- Who goes on at one time: a task with all its parts, or the steps of the scenario. -/
inductive Party where
  | task (number : Nat)
  | steps
deriving DecidableEq

/-- The party of an asker. -/
def Asker.party : Asker → Party
  | .task number _ => .task number
  | .step _ => .steps

/-- An answer on its way. -/
structure Letter where
  /-- The number of the question. -/
  question : Nat
  asker : Asker
  content : Happening

/-- Something that is planned. -/
inductive Plan where
  | letter (l : Letter)
  /-- An event of a connection is logged. -/
  | event (connection : Nat) (e : Emission)

/-- Whether something that is planned is an answer for a party. -/
def Plan.isFor (p : Party) : Plan → Bool
  | .letter l => decide (l.asker.party = p)
  | .event .. => false

/-- A call that was made. -/
structure CallRecord where
  moment : Nat
  /-- The machine whose monitor was called, or the receiving host. -/
  target : String
  command : String
  arguments : Json

/-- The world of a scenario. -/
structure World where
  /-- The time passed, in milliseconds. -/
  now : Nat
  /-- The time of day at the beginning. -/
  epoch : Timestamp
  /-- How often the time of day was read; no two readings are the same. -/
  readings : Nat
  registry : Registry
  /-- The connection that every machine was given last, also where it was taken away since. -/
  latest : Registry
  /-- The monitors, by the number of their connection. -/
  monitors : List ScriptedMonitor
  peer : Script
  /-- What looking for the addresses of a host comes to. -/
  names : String → Except String (List IpAddress)
  files : FileSystem
  pool : Pool
  /-- The number of questions so far. -/
  questions : Nat
  /-- The question to which each asker awaits an answer. -/
  awaited : List (Asker × Nat)
  /-- What is planned, and when it is due. -/
  agenda : List (Nat × Plan)
  turn : Option Party
  /-- The number of steps so far. -/
  steps : Nat
  /-- The steps that take time. -/
  actors : List (Nat × Actor)
  results : List (Nat × StepResult)
  /-- The calls that were made, the last one first. -/
  calls : List CallRecord

namespace World

/-- The time of day after a number of readings. -/
def clock (epoch : Timestamp) (readings : Nat) : Timestamp :=
  ⟨epoch.seconds + Int.ofNat (readings / 1000000000), readings % 1000000000⟩

/-- The time of day. -/
def stamp (w : World) : Timestamp := clock w.epoch w.readings

/-- What everyone sees of the world. -/
def surroundings (w : World) : Surroundings :=
  { now := w.now
    stamp := w.stamp
    registry := w.registry
    log := fun connection => ((w.monitors[connection]?).map (·.log)).getD (.new 0) }

/-- The world after the time of day was read. -/
def tick (w : World) : World := { w with readings := w.readings + 1 }

/-! ## Monitors and the receiving host -/

def record (w : World) (connection : Nat) (e : Emission) : World :=
  let event : Event := ⟨e.event, e.data, w.stamp.backBy e.age⟩
  { w.tick with
    monitors := w.monitors.modify connection fun m => { m with log := m.log.push event } }

def plan (w : World) (delay : Nat) (p : Plan) : World :=
  { w with agenda := w.agenda ++ [(w.now + delay, p)] }

/-- Logs an event now or plans it. -/
def emit (w : World) (connection : Nat) (e : Emission) : World :=
  if e.delay = 0 then w.record connection e else w.plan e.delay (.event connection e)

/-- Puts an answer on its way. -/
def send (w : World) (asker : Asker) (delay : Nat) (content : Happening) : World :=
  w.plan delay (.letter ⟨w.questions, asker, content⟩)

def ask (w : World) (asker : Asker) : World :=
  { w with
    questions := w.questions + 1
    awaited := (asker, w.questions + 1) :: w.awaited.filter (·.1 ≠ asker) }

def note (w : World) (target command : String) (arguments : Json) : World :=
  { w with calls := ⟨w.now, target, command, arguments⟩ :: w.calls }

/-- Lets a monitor carry out a command. -/
def command (w : World) (asker : Asker) (vm : String) (c : Command) : World :=
  let w := w.ask asker
  match w.registry.find vm with
  | .error e => w.send asker 0 (.reply (.error e))
  | .ok connection =>
    match w.monitors[connection]? with
    | none => w
    | some m =>
      let arguments := c.arguments.getD .null
      let (play, script) := m.script.play w.now c.name arguments
      let w := (w.note vm c.name arguments)
      let w := { w with monitors := w.monitors.set connection { m with script := script } }
      let w := match play.answer with
        | none => w
        | some (latency, answer) =>
          w.send asker latency (.reply (answer.map (·.getD (.obj []))))
      play.emissions.foldl (fun w e => w.emit connection e) w

/-- Calls the receiving host. -/
def callPeer (w : World) (asker : Asker) (command : String) (arguments : Json)
    (reply : Option Json → PeerReply) : World :=
  let w := (w.ask asker).note "remote" command arguments
  let (play, script) := w.peer.play w.now command arguments
  let w := { w with peer := script }
  match play.answer with
  | none => w
  | some (latency, answer) => w.send asker latency (.answer (answer.map reply))

/-- Asks the receiving host. -/
def request (w : World) (asker : Asker) (r : PeerRequest) : World :=
  w.callPeer asker r.shown.1 r.shown.2 r.scripted

/-! ## What tasks and steps want done -/

/-- The world after something happened to a task, without what the task wants done. -/
def setPool (w : World) (p : Pool) : World := { w with pool := p }

/-- Keeps statistics and tells the task so. -/
def keep (w : World) (number : Nat) (save : FileProgram (Except ControlError Unit)) : World :=
  let (_, files) := save.run w.files
  let w := { w with files := files }
  match w.pool.step? w.surroundings number (.work .kept) with
  | some (p, _) => w.setPool p
  | none => w

/-- Does what a task wants done. -/
def perform (w : World) (number : Nat) : Effect → World
  | .order part o =>
    match (w.pool.jobs[number]?).map (·.vm) with
    | some vm => w.command (.task number part) vm o.command
    | none => w
  | .request r => w.request (.task number .course) r
  | .prepare o =>
    let (answer, files) := CopyTarget.prepare w.files o
    let asker := Asker.task number .course
    ({ w with files := files }.ask asker).send asker 0 (.prepared answer)
  | .discard target => { w with files := target.discard w.files }
  | .keepMigration vm stat => w.keep number (w.pool.records.saveMigration vm stat)
  | .keepCopying vm stat => w.keep number (w.pool.records.saveCopying vm stat)

/-- Does what a step wants done. -/
def performCall (w : World) (number : Nat) : CallEffect → World
  | .connect server addresses =>
    w.callPeer (.step number) "connect"
      (.obj [("dst_server", .str server), ("addrs", .arr (addresses.map IpAddress.toJson))])
      fun _ => .done
  | .request r => w.request (.step number) r
  | .command vm c => w.command (.step number) vm c
  | .lookUp host => (w.ask (.step number)).send (.step number) 0 (.found (w.names host))

/-! ## What happens -/

/-- Lets something happen to a task, if it can happen now. -/
def moveTask? (w : World) (number : Nat) (x : JobStimulus) : Option World :=
  (w.pool.step? w.surroundings number x).map fun (p, effects) =>
    effects.foldl (fun w effect => w.perform number effect) (w.tick.setPool p)

/-- The world after a step came to an end. -/
def conclude (w : World) (number : Nat) (r : StepResult) : World :=
  { w with
    actors := w.actors.filter (·.1 ≠ number)
    results := (number, r) :: w.results }

/-- The world with a step come so far. -/
def setActor (w : World) (number : Nat) (a : Actor) : World :=
  { w with
    actors :=
      if w.actors.any (·.1 = number) then
        w.actors.map fun entry => if entry.1 = number then (number, a) else entry
      else w.actors ++ [(number, a)] }

/-- The world after a turn of a step. -/
def take (w : World) (number : Nat) (x : CallStep Actor StepResult) : World :=
  let w := w.tick.setPool x.1
  match x.2 with
  | .goesOn a effects =>
    effects.foldl (fun w effect => w.performCall number effect) (w.setActor number a)
  | .over r => w.conclude number r

/-- Lets something happen to a step, if it can happen now. -/
def moveActor? (w : World) (number : Nat) (h : Happening) : Option World :=
  match w.actors.lookup number with
  | some a => (a.react? w.pool w.surroundings h).map (w.take number)
  | none => none

/-- Delivers an answer, if it is still awaited. -/
def deliver (w : World) (l : Letter) : World :=
  if w.awaited.lookup l.asker = some l.question then
    (match l.asker with
      | .task number part => w.moveTask? number (.work (.act part l.content))
      | .step number => w.moveActor? number l.content).getD w
  else w

/-- The first thing on an agenda that is due and wanted, and what is left. -/
def takeDue (now : Nat) (wanted : Plan → Bool) :
    List (Nat × Plan) → Option (Plan × List (Nat × Plan))
  | [] => none
  | entry :: rest =>
    if entry.1 ≤ now && wanted entry.2 then some (entry.2, rest)
    else (takeDue now wanted rest).map fun found => (found.1, entry :: found.2)

/-- Lets something that was planned happen. -/
def carryOut (w : World) : Plan → World
  | .letter l => ({ w with turn := some l.asker.party } : World).deliver l
  | .event connection e => w.record connection e

/-- Lets the first thing happen that is due and wanted. -/
def happen? (w : World) (wanted : Plan → Bool) : Option World :=
  (takeDue w.now wanted w.agenda).map fun (p, agenda) =>
    ({ w with agenda := agenda } : World).carryOut p

/-- What can happen to a task without an answer, in the order in which it does. -/
def stimuli (j : Job) : List JobStimulus :=
  .work .fold
    :: ([.enter, .wake .notice, .wake .interrupt, .wake .elapse].flatMap fun h =>
      j.work.parts.map fun part => .work (.act part h))
    ++ [.work .persist, .finish, .release]

/-- Lets a task go on. -/
def continueTask? (w : World) (number : Nat) : Option World :=
  match w.pool.jobs[number]? with
  | some j => (stimuli j).findSome? (w.moveTask? number)
  | none => none

/-- Lets a step of the scenario go on. -/
def continueSteps? (w : World) : Option World :=
  w.actors.findSome? fun (number, _) =>
    [.enter, .wake .elapse].findSome? (w.moveActor? number)

/-- Lets a party go on. -/
def continue? (w : World) : Party → Option World
  | .task number => w.continueTask? number
  | .steps => w.continueSteps?

/-- Lets the next thing happen that was planned or that concerns a step of the scenario. -/
def stir? (w : World) : Option World :=
  match w.turn with
  | some p =>
    w.happen? (·.isFor p) <|> w.continue? p <|> some { w with turn := none }
  | none => w.happen? (fun _ => true) <|> w.continueSteps?

/-- Lets the first task go on that can. -/
def continueTasks? (w : World) : Option World :=
  (List.range w.pool.jobs.length).findSome? w.continueTask?

/-- The moments at which something will happen by itself. -/
def dues (w : World) : List Nat :=
  w.agenda.map (·.1) ++ w.pool.jobs.flatMap (·.dues) ++ w.actors.filterMap fun a => a.2.due?

/-- The next moment at which something will happen. -/
def next? (w : World) : Option Nat := (w.dues.filter (w.now < ·)).min?

end World

end VmControl
