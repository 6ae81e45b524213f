import VmControl.OrderedMap
import VmControl.Text.Digits

/-!
The configuration shared by the monitor registry and all tasks, and how the environment sets it.

Intervals and bounds are whole milliseconds.
-/

namespace VmControl

/-- The configuration. All intervals and bounds are in milliseconds. -/
structure Config where
  /-- The directory with one monitor socket per running machine. -/
  socketDir : String
  /-- The directory in which final statistics are kept. -/
  stateDir : String
  /-- The interval between two looks at the progress. -/
  pollInterval : UInt64
  /-- The bound on waiting for a block job to run. -/
  jobStartTimeout : UInt64
  /-- The bound on waiting for a block job to conclude. -/
  jobFinishTimeout : UInt64
  /-- The bound on connecting to a monitor. -/
  connectTimeout : UInt64
  /-- The bound on a request to the peer. -/
  remoteTimeout : UInt64
  /-- The bound on the peer starting the incoming instance. -/
  incomingTimeout : UInt64
  /-- The bandwidth of a migration in bytes per second. -/
  maxBandwidth : UInt64
  /-- The size of the page cache of a migration in bytes. -/
  cacheSize : UInt64
  /-- The port of the control service on peer hosts. -/
  peerPort : UInt16
deriving DecidableEq

namespace Config

/-- The configuration where nothing is set. -/
def default : Config :=
  { socketDir := "/run/ferry/qmp"
    stateDir := "/var/lib/ferry/stat"
    pollInterval := 1000
    jobStartTimeout := 60000
    jobFinishTimeout := 60000
    connectTimeout := 10000
    remoteTimeout := 30000
    incomingTimeout := 120000
    maxBandwidth := 1073741824
    cacheSize := 268435456
    peerPort := 9393 }

/-- The number below a limit that a variable holds. A variable that holds anything else is
ignored. -/
def number? (env : OrderedMap String) (name : String) (limit : Nat) : Option Nat :=
  ((env.get? name).bind Text.unsigned?).filter (· < limit)

/-- A 64-bit word that a variable holds, or a default. -/
def wordOr (env : OrderedMap String) (name : String) (default : UInt64) : UInt64 :=
  match number? env name UInt64.size with
  | some n => UInt64.ofNat n
  | none => default

/-- The defaults with the variables of an environment laid over them. -/
def ofEnvironment (env : OrderedMap String) : Config :=
  { default with
    socketDir := (env.get? "FERRY_QMP_DIR").getD default.socketDir
    stateDir := (env.get? "FERRY_STATE_DIR").getD default.stateDir
    pollInterval := wordOr env "FERRY_POLL_INTERVAL_MS" default.pollInterval
    remoteTimeout := wordOr env "FERRY_REMOTE_TIMEOUT_MS" default.remoteTimeout
    incomingTimeout := wordOr env "FERRY_INCOMING_TIMEOUT_MS" default.incomingTimeout
    maxBandwidth := wordOr env "FERRY_MAX_BANDWIDTH" default.maxBandwidth
    peerPort := match number? env "FERRY_PEER_PORT" UInt16.size with
      | some n => UInt16.ofNat n
      | none => default.peerPort }

end Config

end VmControl
