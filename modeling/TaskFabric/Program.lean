import TaskFabric.CommandLine
import TaskFabric.Handler.Builtin
import TaskFabric.Http.Client
import TaskFabric.Http.Pattern
import TaskFabric.Node

/-! The program: what each command does to the files and the network around it. A run ends with an
exit code, or goes on as a node that serves its peers. The configuration is read before the command
is looked at, so a configuration that cannot be had stops every command.
-/

namespace TaskFabric

-----------------------------------------------------------------------------------------
-- Endings
-----------------------------------------------------------------------------------------

/-- Why a command fails. -/
inductive CommandError where
  | config (cause : ConfigError)
  | caseExists (path : Path)
  | caseNotWritten (path : Path)
  | caseNotLoaded
  | notListening (address : SocketAddress)
  | cluster (cause : ClusterError)

/-- The wording of a failure. -/
def CommandError.message : CommandError → String
  | .config cause => cause.message
  | .caseExists path => s!"{path.text} already exists, pass --force to overwrite"
  | .caseNotWritten path => s!"write case file {path.text}"
  | .caseNotLoaded => "cannot start without a valid case file, run `collabd init` first"
  | .notListening address => s!"bind {address.text}"
  | .cluster cause => cause.message

/-- How a run ends: with nothing more to say, with a document, with a failure, broken off because a
node cannot serve behind the route of its card, or without a command that could be carried out.
-/
inductive Ending where
  | done
  | printed (doc : Json)
  | failed (cause : CommandError)
  | brokenOff
  | stopped (reason : CommandLine.Stop)

namespace Ending

/-- The exit code. -/
def code : Ending → UInt8
  | .done => 0
  | .printed _ => 0
  | .failed _ => 1
  | .brokenOff => 101
  | .stopped .help => 0
  | .stopped .usage => 2

/-- What is printed. -/
def output : Ending → Option String
  | .printed doc => some doc.indented
  | _ => none

/-- What is reported. -/
def complaint : Ending → Option String
  | .failed cause => some s!"Error: {cause.message}"
  | _ => none

end Ending

/-- What comes of a run: its end, or a node that listens as its configuration says. -/
inductive Run where
  | ended (ending : Ending)
  | serving (node : Node) (config : Config)

-----------------------------------------------------------------------------------------
-- Commands
-----------------------------------------------------------------------------------------

/-- So many tasks of one kind, under the first indices. -/
def Batch.copies (count : UInt64) (task : Task) : Batch :=
  SortedMap.ofList ((List.range count.toNat).reverse.map fun i => (i.toUInt64, task))

namespace Program

/-- A payload on the command line: a document, or else a text. -/
def payload (text : String) : Value := ((Json.parse? text).bind Value.ofJson?).getD (.str text)

/-- The card of an address with the route that was given for it. -/
def withRoute (card : Card) (api : Option String) : Card := (api.map card.withApi).getD card

/-- Writes a first case file. -/
def initialise (path : Path) (id : String) (own : Card) (seeds : List Card) (force : Bool)
    (clock : Int64) (disk : Disk)
    : Ending × Disk :=
  if disk.pathExists path && !force then
    (.failed (.caseExists path), disk)
  else
    match Case.create path id own seeds clock disk with
    | (.ok _, disk) => (.done, disk)
    | (.error _, disk) => (.failed (.caseNotWritten path), disk)

/-- The node of a configuration: the case from its file, and a scheduler with the handlers that
every node has.
-/
def nodeOf (config : Config) (disk : Disk) : Except CommandError Node :=
  match Case.load ⟨config.node.caseFile⟩ disk with
  | .error _ => .error .caseNotLoaded
  | .ok loaded =>
      let case := (config.node.externalIp.map loaded.withExternalIp).getD loaded
      let registry :=
        Handler.builtins.foldl (fun r (name, handler) => r.register name handler) .empty
      let scheduler := Scheduler.started registry config.taskExpire config.node.workers.toNat
      .ok ⟨case, scheduler, config.knobs, 0⟩

/-- The batch of a submission. -/
def submission (consumable : String) (sources : List String) (count : UInt64)
    (priority type : UInt8)
    : Batch :=
  Batch.copies count
    { Task.named consumable with
      priority := Priority.ofLevel priority,
      type := TaskType.ofLevel type,
      source := sources.map payload }

/-- The configuration with the settings that the command line replaces. -/
def overridden (config : Config) (listen : Option SocketAddress) (workers : Option UInt64)
    : Config :=
  { config with node := { config.node with
    listen := listen.getD config.node.listen,
    workers := workers.getD config.node.workers } }

/-- The configuration of an invocation. -/
def configOf (invocation : Invocation) (disk : Disk) : Except ConfigError Config :=
  match invocation.config with
  | some path => Config.ofFile path disk
  | none => .ok .default

variable {m : Type → Type} [Monad m]

/-- The end of a call whose result is a document. -/
def report {α : Type} (write : α → Json) : Except ClusterError α → Ending
  | .ok value => .printed (write value)
  | .error e => .failed (.cluster e)

/-- Carries out a command. -/
def execute (network : Http.Network m) (clock : Int64) (config : Config) (command : Command)
    (disk : Disk)
    : m (Run × Disk) := do
  let client : Http.Client m := ⟨network, config.dialTimeout⟩
  match command with
  | .init caseId ip port seeds api force =>
      let own := withRoute (Card.ofAddress ip port) api
      let (ending, disk) := initialise ⟨config.node.caseFile⟩ caseId own seeds force clock disk
      return (.ended ending, disk)
  | .run listen workers =>
      let config := overridden config listen workers
      match nodeOf config disk with
      | .error e => return (.ended (.failed e), disk)
      | .ok node =>
          if (Http.Pattern.parse? node.case.state.own.route).isNone then
            return (.ended .brokenOff, disk)
          else if ← network.listen config.node.listen then return (.serving node config, disk)
          else return (.ended (.failed (.notListening config.node.listen)), disk)
  | .submit peer api consumable sources count priority type =>
      let tasks := submission consumable sources count priority type
      let results ← client.dispatch (withRoute peer api) tasks
      return (.ended (report Batch.toJson results), disk)
  | .status peer api =>
      let view ← client.digest (withRoute peer api)
      return (.ended (report Digest.toJson view), disk)

/-- Runs the program with a list of arguments. -/
def run (network : Http.Network m) (clock : Int64) (arguments : List String) (disk : Disk)
    : m (Run × Disk) :=
  match CommandLine.parse arguments with
  | .error stop => return (.ended (.stopped stop), disk)
  | .ok invocation =>
      match configOf invocation disk with
      | .error e => return (.ended (.failed (.config e)), disk)
      | .ok config => execute network clock config invocation.command disk

end Program

end TaskFabric
