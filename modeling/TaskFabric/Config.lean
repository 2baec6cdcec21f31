import TaskFabric.Disk
import TaskFabric.Duration
import TaskFabric.Json.Record
import TaskFabric.SocketAddress
import TaskFabric.Toml.Parser

/-! The configuration of a node. Every setting has a default; spans are written in milliseconds. The
settings are grouped in three tables, each of which may also be an array of its settings in order of
declaration, and unknown keys are ignored.
-/

namespace TaskFabric

/-- Where a node listens, what it persists, and how many workers it starts. -/
structure NodeSettings where
  caseFile : String
  workers : UInt64
  listen : SocketAddress
  externalIp : Option String
deriving DecidableEq

/-- How many peers a gossip round contacts, and how often gossip and reaping run. -/
structure GossipSettings where
  fanout : UInt64
  synIntervalMs : UInt64
  expiryIntervalMs : UInt64
deriving DecidableEq

/-- How long tasks, remote calls and dialling may take. -/
structure TaskSettings where
  taskExpireMs : UInt64
  remoteTimeoutMs : UInt64
  dialTimeoutMs : UInt64
deriving DecidableEq

/-- The configuration of a node. -/
structure Config where
  node : NodeSettings
  gossip : GossipSettings
  tasks : TaskSettings
deriving DecidableEq

-----------------------------------------------------------------------------------------
-- Defaults
-----------------------------------------------------------------------------------------

/-- Four workers, on port 8080 of every local address. -/
def NodeSettings.default : NodeSettings := ⟨"collab.json", 4, .v4 ⟨0, 0, 0, 0⟩ 8080, none⟩

/-- Three peers a round, every five seconds, and reaping every fifteen. -/
def GossipSettings.default : GossipSettings := ⟨3, 5000, 15000⟩

/-- Five seconds for a task, thirty for a remote call, two for dialling. -/
def TaskSettings.default : TaskSettings := ⟨5000, 30000, 2000⟩

/-- The configuration of an empty text. -/
def Config.default : Config := ⟨.default, .default, .default⟩

instance : Inhabited Config := ⟨.default⟩

-----------------------------------------------------------------------------------------
-- Reading
-----------------------------------------------------------------------------------------

namespace Toml

/-- The settings of a table that have the given names, in their order. -/
def settings? (names : List String) : Toml → Option (List (Option Toml))
  | .table _ members => some (names.map fun name => members.lookup name)
  | .array items => some ((List.range names.length).map (items[·]?))
  | .tables elements =>
      some ((List.range names.length).map fun i => elements[i]?.map (.table .header))
  | .moment => some (names.map fun _ => none)
  | _ => none

/-- Reads a setting that has a default. -/
def setting {α : Type} (default : α) (read? : Toml → Option α) : Option Toml → Option α
  | none => some default
  | some value => read? value

/-- The text of a setting. -/
def text? : Toml → Option String
  | .text value => some value
  | _ => none

/-- The number of a setting that cannot be negative. -/
def count? : Toml → Option UInt64
  | .integer (.ofNat n) => some n.toUInt64
  | _ => none

/-- The address of a setting. -/
def address? (value : Toml) : Option SocketAddress := value.text?.bind SocketAddress.parse?

end Toml

/-- The node table. -/
def NodeSettings.ofToml? (table : Toml) : Option NodeSettings :=
  match table.settings? ["case_file", "workers", "listen", "external_ip"] with
  | some [caseFile, workers, listen, externalIp] => do
      return {
        caseFile := ← Toml.setting default.caseFile Toml.text? caseFile,
        workers := ← Toml.setting default.workers Toml.count? workers,
        listen := ← Toml.setting default.listen Toml.address? listen,
        externalIp := ← Toml.setting default.externalIp (·.text?.map some) externalIp }
  | _ => none

/-- The gossip table. -/
def GossipSettings.ofToml? (table : Toml) : Option GossipSettings :=
  match table.settings? ["gossip_num", "syn_interval_ms", "collaborator_expiry_ms"] with
  | some [fanout, synInterval, expiryInterval] => do
      return {
        fanout := ← Toml.setting default.fanout Toml.count? fanout,
        synIntervalMs := ← Toml.setting default.synIntervalMs Toml.count? synInterval,
        expiryIntervalMs := ← Toml.setting default.expiryIntervalMs Toml.count? expiryInterval }
  | _ => none

/-- The task table. -/
def TaskSettings.ofToml? (table : Toml) : Option TaskSettings :=
  match table.settings? ["task_expire_ms", "remote_timeout_ms", "dial_timeout_ms"] with
  | some [taskExpire, remoteTimeout, dialTimeout] => do
      return {
        taskExpireMs := ← Toml.setting default.taskExpireMs Toml.count? taskExpire,
        remoteTimeoutMs := ← Toml.setting default.remoteTimeoutMs Toml.count? remoteTimeout,
        dialTimeoutMs := ← Toml.setting default.dialTimeoutMs Toml.count? dialTimeout }
  | _ => none

/-- Why a configuration is not to be had. -/
inductive ConfigError where
  | read (path reason : String)
  | parse
deriving DecidableEq

/-- The wording of a configuration error, up to what a text was refused for. -/
def ConfigError.message : ConfigError → String
  | .read path reason => s!"failed to read config {path}: {reason}"
  | .parse => "failed to parse config:"

namespace Config

/-- The configuration of a root table. -/
def ofToml? (root : Toml.Members) : Option Config := do
  return {
    node := ← Toml.setting NodeSettings.default NodeSettings.ofToml? (root.lookup "node"),
    gossip := ← Toml.setting GossipSettings.default GossipSettings.ofToml? (root.lookup "gossip"),
    tasks := ← Toml.setting TaskSettings.default TaskSettings.ofToml? (root.lookup "tasks") }

/-- The configuration of a text. -/
def parse (text : String) : Except ConfigError Config :=
  match (Toml.parse? text).bind ofToml? with
  | some config => .ok config
  | none => .error .parse

/-- The configuration that a file holds. -/
def ofFile (path : Path) (disk : Disk) : Except ConfigError Config :=
  match disk.read path with
  | .error e => .error (.read path.text e.message)
  | .ok text => parse text

/-- The time between two gossip rounds. -/
def synInterval (c : Config) : Duration := .ofMillis c.gossip.synIntervalMs

/-- The time between two reapings. -/
def expiryInterval (c : Config) : Duration := .ofMillis c.gossip.expiryIntervalMs

/-- The base expiry of tasks. -/
def taskExpire (c : Config) : Duration := .ofMillis c.tasks.taskExpireMs

/-- How long a remote call may take. -/
def remoteTimeout (c : Config) : Duration := .ofMillis c.tasks.remoteTimeoutMs

/-- How long dialling may take. -/
def dialTimeout (c : Config) : Duration := .ofMillis c.tasks.dialTimeoutMs

/-- The document of a configuration. -/
def toJson (c : Config) : Json :=
  .obj
    [("node", .obj
        [("case_file", .str c.node.caseFile),
          ("workers", .ofUInt64 c.node.workers),
          ("listen", .str c.node.listen.text),
          ("external_ip", (c.node.externalIp.map Json.str).getD .null)]),
      ("gossip", .obj
        [("gossip_num", .ofUInt64 c.gossip.fanout),
          ("syn_interval_ms", .ofUInt64 c.gossip.synIntervalMs),
          ("collaborator_expiry_ms", .ofUInt64 c.gossip.expiryIntervalMs)]),
      ("tasks", .obj
        [("task_expire_ms", .ofUInt64 c.tasks.taskExpireMs),
          ("remote_timeout_ms", .ofUInt64 c.tasks.remoteTimeoutMs),
          ("dial_timeout_ms", .ofUInt64 c.tasks.dialTimeoutMs)])]

end Config

end TaskFabric
