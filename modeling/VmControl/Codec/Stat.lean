import VmControl.Config
import VmControl.Json.Decode
import VmControl.Stat

/-!
Data forms of statistics and of the configuration.

What is not known of a task is left out of its statistics. Every member of a configuration may be
left out and then stands for its default.
-/

namespace VmControl

/-- The data form of a status. -/
def TaskStatus.toJson (s : TaskStatus) : Json := .str s.name

/-- Interprets the data form of a status. -/
def TaskStatus.ofDraft : Decoder TaskStatus := Decode.choice TaskStatus.ofName?

/-- The data form of a point in time. -/
def Timestamp.toJson (t : Timestamp) : Json := .str t.text

/-- Interprets the data form of a point in time. -/
def Timestamp.ofDraft : Decoder Timestamp := fun d => (Decode.text d).refine Timestamp.ofText?

/-- A member that is left out when there is nothing to say. -/
def Json.given {α : Type} (name : String) (encode : α → Json) : Option α → List (String × Json)
  | some a => [(name, encode a)]
  | none => []

namespace Progress

/-- The data form of a progress report. -/
def toJson (p : Progress) : Json :=
  .obj [("total", .word p.total), ("remaining", .word p.remaining),
    ("transferred", .word p.transferred), ("percent", .nat p.percent.toNat),
    ("speed_mbps", .word p.speedMbps)]

/-- Interprets the data form of a progress report. -/
def ofDraft : Decoder Progress :=
  Decode.record ["total", "remaining", "transferred", "percent", "speed_mbps"] fun r =>
    Progress.mk <$> r.required "total" Decode.word64
      <*> r.required "remaining" Decode.word64
      <*> r.required "transferred" Decode.word64
      <*> r.required "percent" Decode.byte
      <*> r.required "speed_mbps" Decode.word64

end Progress

namespace MigrationStat

/-- The data form of the statistics of a migration. -/
def toJson (s : MigrationStat) : Json :=
  .obj ([("dst_server", .str s.dstServer), ("status", s.status.toJson), ("qemu", s.state.toJson),
      ("disks", .ofMap Progress.toJson s.disks)]
    ++ Json.given "error" .str s.error
    ++ Json.given "started_at" Timestamp.toJson s.startedAt
    ++ Json.given "finished_at" Timestamp.toJson s.finishedAt)

/-- Interprets the data form of the statistics of a migration. -/
def ofDraft : Decoder MigrationStat :=
  Decode.record ["dst_server", "status", "qemu", "disks", "error", "started_at", "finished_at"]
    fun r =>
      MigrationStat.mk <$> r.required "dst_server" Decode.text
        <*> r.required "status" TaskStatus.ofDraft
        <*> r.required "qemu" Progress.ofDraft
        <*> r.required "disks" (Decode.map Progress.ofDraft)
        <*> r.optional "error" Decode.text
        <*> r.optional "started_at" Timestamp.ofDraft
        <*> r.optional "finished_at" Timestamp.ofDraft

end MigrationStat

namespace CopyStat

/-- The data form of the statistics of a copy. -/
def toJson (s : CopyStat) : Json :=
  .obj ([("disk", .str s.disk), ("target", .str s.target), ("status", s.status.toJson),
      ("progress", s.progress.toJson)]
    ++ Json.given "error" .str s.error
    ++ Json.given "started_at" Timestamp.toJson s.startedAt
    ++ Json.given "finished_at" Timestamp.toJson s.finishedAt)

/-- Interprets the data form of the statistics of a copy. -/
def ofDraft : Decoder CopyStat :=
  Decode.record ["disk", "target", "status", "progress", "error", "started_at", "finished_at"]
    fun r =>
      CopyStat.mk <$> r.required "disk" Decode.text
        <*> r.required "target" Decode.text
        <*> r.required "status" TaskStatus.ofDraft
        <*> r.required "progress" Progress.ofDraft
        <*> r.optional "error" Decode.text
        <*> r.optional "started_at" Timestamp.ofDraft
        <*> r.optional "finished_at" Timestamp.ofDraft

end CopyStat

namespace Config

/-- The data form of a configuration. -/
def toJson (c : Config) : Json :=
  .obj [("qmp_socket_dir", .str c.socketDir), ("state_dir", .str c.stateDir),
    ("poll_interval", .word c.pollInterval), ("job_start_timeout", .word c.jobStartTimeout),
    ("job_finish_timeout", .word c.jobFinishTimeout),
    ("monitor_connect_timeout", .word c.connectTimeout), ("remote_timeout", .word c.remoteTimeout),
    ("incoming_timeout", .word c.incomingTimeout), ("max_bandwidth", .word c.maxBandwidth),
    ("xbzrle_cache_size", .word c.cacheSize), ("peer_port", .nat c.peerPort.toNat)]

/-- Interprets the data form of a configuration. -/
def ofDraft : Decoder Config :=
  Decode.record ["qmp_socket_dir", "state_dir", "poll_interval", "job_start_timeout",
      "job_finish_timeout", "monitor_connect_timeout", "remote_timeout", "incoming_timeout",
      "max_bandwidth", "xbzrle_cache_size", "peer_port"] fun r =>
    Config.mk <$> r.withDefault "qmp_socket_dir" Decode.text default.socketDir
      <*> r.withDefault "state_dir" Decode.text default.stateDir
      <*> r.withDefault "poll_interval" Decode.word64 default.pollInterval
      <*> r.withDefault "job_start_timeout" Decode.word64 default.jobStartTimeout
      <*> r.withDefault "job_finish_timeout" Decode.word64 default.jobFinishTimeout
      <*> r.withDefault "monitor_connect_timeout" Decode.word64 default.connectTimeout
      <*> r.withDefault "remote_timeout" Decode.word64 default.remoteTimeout
      <*> r.withDefault "incoming_timeout" Decode.word64 default.incomingTimeout
      <*> r.withDefault "max_bandwidth" Decode.word64 default.maxBandwidth
      <*> r.withDefault "xbzrle_cache_size" Decode.word64 default.cacheSize
      <*> r.withDefault "peer_port" Decode.word16 default.peerPort

end Config

end VmControl
