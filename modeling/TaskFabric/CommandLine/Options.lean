/-! Options of a command line. An option is a switch, or a value follows it, behind an equals sign
in the same argument or as the next argument, which then must not look like an option itself. A
value is checked when the argument behind it is looked at; so an error stops the scan before a later
request for help does. Behind two hyphens nothing may follow, as there are no operands.
-/

namespace TaskFabric.CommandLine

/-- Why the arguments are not carried out: help is asked for, or they are wrong. -/
inductive Stop where
  | help
  | usage
deriving DecidableEq

/-- Whether a value follows an option, and whether the option may be given again. -/
inductive Arity where
  | switch
  | once
  | repeated
deriving DecidableEq

/-- An option: its name, its arity, and which values it accepts. -/
structure Parameter where
  name : String
  arity : Arity
  accepts : String → Bool

/-- What was found so far: the switches, the values of options in the order of the arguments, and
the option that stands last, if its value is not checked yet or still to come.
-/
structure Findings where
  switches : List String
  values : List (String × String)
  pending : Option (Parameter × Option String)

namespace Findings

/-- Nothing was found. -/
def empty : Findings := ⟨[], [], none⟩

/-- Enters a value. -/
def enter (f : Findings) (p : Parameter) (value : String) : Except Stop Findings :=
  let isRepeated := p.arity == .once && (f.values.lookup p.name).isSome
  if isRepeated || !p.accepts value then .error .usage
  else .ok { f with values := f.values ++ [(p.name, value)] }

/-- Enters the value of the option that stands last. -/
def resolve (f : Findings) : Except Stop Findings :=
  match f.pending with
  | none => .ok f
  | some (_, none) => .error .usage
  | some (p, some value) => { f with pending := none }.enter p value

/-- Whether a value has to come next. -/
def awaitsValue (f : Findings) : Bool :=
  match f.pending with
  | some (_, none) => true
  | _ => false

/-- Enters an argument that is no option. -/
def takeWord (f : Findings) (word : String) : Except Stop Findings :=
  match f.pending with
  | some (p, none) => .ok { f with pending := some (p, some word) }
  | _ => .error .usage

/-- Enters an option, perhaps with a value in the same argument. -/
def takeOption (parameters : List Parameter) (name : String) (attached : Option String)
    (f : Findings)
    : Except Stop Findings := do
  match parameters.find? (·.name == name), attached with
  | some p, attached =>
      let f ← f.resolve
      match p.arity, attached with
      | .switch, some _ => throw .usage
      | .switch, none =>
          if f.switches.contains name then throw .usage
          else return { f with switches := name :: f.switches }
      | _, some value => f.enter p value
      | _, none => return { f with pending := some (p, none) }
  | none, none =>
      let _ ← f.resolve
      throw (if name = "help" then .help else .usage)
  | none, some _ => throw .usage

/-- Whether a switch was given. -/
def isOn (f : Findings) (name : String) : Bool := f.switches.contains name

/-- The value of an option. -/
def value? (f : Findings) (name : String) : Option String := f.values.lookup name

/-- The values of an option that may be given again. -/
def valuesOf (f : Findings) (name : String) : List String :=
  (f.values.filter (·.1 == name)).map (·.2)

end Findings

/-- An argument, by its looks. -/
inductive Argument where
  | separator
  | option (name : String) (attached : Option String)
  | letters (cs : List Char)
  | word (text : String)

/-- What an argument looks like: two hyphens stand in front of a name, one in front of letters. A
lone hyphen is a word.
-/
def Argument.ofText (text : String) : Argument :=
  match text.toList with
  | ['-', '-'] => .separator
  | '-' :: '-' :: rest =>
      let name := rest.takeWhile (· != '=')
      match rest.dropWhile (· != '=') with
      | [] => .option (String.ofList name) none
      | _ :: value => .option (String.ofList name) (some (String.ofList value))
  | '-' :: c :: rest => .letters (c :: rest)
  | _ => .word text

/-- Scans arguments up to a word at which the scan is to end, unless a value has to come there.
Answers also that word and the arguments behind it.
-/
def scan (parameters : List Parameter) (ends : List String) : List String → Findings
    → Except Stop (Findings × Option (String × List String))
  | [], f => .ok (f, none)
  | text :: rest, f =>
      if ends.contains text && !f.awaitsValue then
        .ok (f, some (text, rest))
      else
        match Argument.ofText text with
        | .separator => if rest.isEmpty then .ok (f, none) else .error .usage
        | .option name attached =>
            match f.takeOption parameters name attached with
            | .ok f => scan parameters ends rest f
            | .error stop => .error stop
        | .letters cs =>
            match f.resolve with
            | .ok _ => .error (if cs.head? = some 'h' then .help else .usage)
            | .error stop => .error stop
        | .word text =>
            match f.takeWord text with
            | .ok f => scan parameters ends rest f
            | .error stop => .error stop

end TaskFabric.CommandLine
