import TaskFabric.Card
import TaskFabric.CommandLine.Options
import TaskFabric.Path
import TaskFabric.SocketAddress

/-! The command line of the program: options that every command has, a command, and its own options.
The options of all commands may stand before the command or behind it; the one behind it counts.
-/

namespace TaskFabric

/-- What the program is told to do. -/
inductive Command where
  | init (caseId ip : String) (port : UInt16) (seeds : List Card) (api : Option String)
      (force : Bool)
  | run (listen : Option SocketAddress) (workers : Option UInt64)
  | submit (peer : Card) (api : Option String) (consumable : String) (sources : List String)
      (count : UInt64) (priority type : UInt8)
  | status (peer : Card) (api : Option String)

/-- A command, the file of the configuration, and whether the log is written as documents. -/
structure Invocation where
  config : Option Path
  logsDocuments : Bool
  command : Command

namespace CommandLine

-----------------------------------------------------------------------------------------
-- Values
-----------------------------------------------------------------------------------------

/-- A number below a bound. Zero may have a minus sign. -/
def signedBelow? (bound : Nat) (text : String) : Option Nat :=
  match text.toList with
  | '-' :: rest => if Decimal.natural? rest = some 0 then some 0 else none
  | cs => Decimal.below? bound cs

/-- A port. -/
def port? (text : String) : Option UInt16 := (signedBelow? UInt16.size text).map (·.toUInt16)

/-- A level of a priority or of a type. -/
def level? (text : String) : Option UInt8 := (signedBelow? UInt8.size text).map (·.toUInt8)

/-- A number of things. -/
def count? (text : String) : Option UInt64 :=
  (Decimal.below? UInt64.size text.toList).map (·.toUInt64)

/-- A card of an address. -/
def card? (text : String) : Option Card := (Card.parse text).toOption

/-- A path, which has at least one character. -/
def path? (text : String) : Option Path := if text.isEmpty then none else some ⟨text⟩

-----------------------------------------------------------------------------------------
-- Options
-----------------------------------------------------------------------------------------

/-- A switch. -/
def switch (name : String) : Parameter := ⟨name, .switch, fun _ => false⟩

/-- An option with a value of a kind. -/
def option {α : Type} (name : String) (read? : String → Option α) : Parameter :=
  ⟨name, .once, fun text => (read? text).isSome⟩

/-- An option with a value of a kind that may be given again. -/
def repeatable {α : Type} (name : String) (read? : String → Option α) : Parameter :=
  ⟨name, .repeated, fun text => (read? text).isSome⟩

/-- The options of all commands. -/
def shared : List Parameter := [option "config" path?, switch "log-json"]

/-- The commands and their own options. -/
def commands : List (String × List Parameter) :=
  [("init",
      [option "case-id" some, option "ip" some, option "port" port?, repeatable "seed" card?,
        option "api" some, switch "force"]),
    ("run", [option "listen" SocketAddress.parse?, option "workers" count?]),
    ("submit",
      [option "peer" card?, option "api" some, option "consumable" some, repeatable "source" some,
        option "count" count?, option "priority" level?, option "type" level?]),
    ("status", [option "peer" card?, option "api" some])]

/-- The word that asks for help, perhaps with a command behind it. -/
def helpWord : String := "help"

-----------------------------------------------------------------------------------------
-- Commands
-----------------------------------------------------------------------------------------

namespace Findings

/-- The value of an option that has to be given. -/
def required {α : Type} (f : Findings) (name : String) (read? : String → Option α)
    : Except Stop α :=
  match (f.value? name).bind read? with
  | some value => .ok value
  | none => .error .usage

/-- The value of an option that may be left out. -/
def optional {α : Type} (f : Findings) (name : String) (read? : String → Option α) : Option α :=
  (f.value? name).bind read?

end Findings

/-- The command of a name with its options. -/
def commandOf (name : String) (f : Findings) : Except Stop Command :=
  match name with
  | "init" => do
      return .init (← f.required "case-id" some) (← f.required "ip" some)
        (← f.required "port" port?) ((f.valuesOf "seed").filterMap card?) (f.value? "api")
        (f.isOn "force")
  | "run" => .ok (.run (f.optional "listen" SocketAddress.parse?) (f.optional "workers" count?))
  | "submit" => do
      return .submit (← f.required "peer" card?) (f.value? "api") (← f.required "consumable" some)
        (f.valuesOf "source") ((f.optional "count" count?).getD 1)
        ((f.optional "priority" level?).getD 0) ((f.optional "type" level?).getD 0)
  | "status" => do return .status (← f.required "peer" card?) (f.value? "api")
  | _ => .error .usage

/-- What the words behind a request for help come to: at most one command may be named. -/
def helpStop (words : List String) : Stop :=
  match words with
  | [] => .help
  | [word] => if word = helpWord || (commands.lookup word).isSome then .help else .usage
  | _ => .usage

/-- The invocation of a list of arguments. -/
def parse (arguments : List String) : Except Stop Invocation := do
  let (before, found) ← scan shared (helpWord :: commands.map (·.1)) arguments .empty
  match found with
  | none => throw .usage
  | some (word, rest) =>
      match commands.lookup word with
      | none => throw (helpStop rest)
      | some parameters =>
          let (behind, _) ← scan (parameters ++ shared) [] rest .empty
          let behind ← behind.resolve
          let command ← commandOf word behind
          let before ← before.resolve
          return {
            config := (behind.optional "config" path?).or (before.optional "config" path?),
            logsDocuments := behind.isOn "log-json" || before.isOn "log-json",
            command }

end CommandLine

end TaskFabric
