import TaskFabric.Handler.Builtin

/-! Handlers that make the machinery visible: they fail and panic, count what they were given, note
when they run, and wait until they are let go.
-/

namespace TaskFabric.Handler

/-- Appends a text to the results and fails. -/
def fail : Handler :=
  plain fun _ result context => ⟨.failed, result ++ [.str "failed"], context⟩

/-- Writes to the results and the context, and panics. -/
def panicking : Handler :=
  plain fun _ result context =>
    ⟨.panicked, result ++ [.str "partial"], context.insert "panicked" (.bool true)⟩

/-- Appends the successor of the first source value, a value that is no integer counting as zero.
The successor of the greatest integer is the least one.
-/
def inc : Handler :=
  plain fun source result context =>
    let first := (source.head?.bind Value.int64?).getD 0
    ⟨.succeeded, result ++ [.num (.ofInt64 (first + 1))], context⟩

/-- Counts its runs in the context and appends the keys of the context. -/
def countRuns : Handler :=
  plain fun _ result context =>
    let runs := ((context.get? "seen").bind Value.uint64?).getD 0
    let context := context.insert "seen" (.num (.ofUInt64 (runs + 1)))
    ⟨.succeeded, result ++ [.list (context.keys.map Value.str)], context⟩

/-- A number of things, as a payload. -/
def sizeValue (n : Nat) : Value := .num (.ofUInt64 n.toUInt64)

/-- Appends the sizes of the source, the results and the context as it found them. -/
def count : Handler :=
  plain fun source result context =>
    let sizes := [source.length, result.length, context.size]
    ⟨.succeeded, result ++ [.list (sizes.map sizeValue)], context⟩

/-- Notes the first source value in the log. -/
def record : Handler :=
  { plain fun _ result context => ⟨.succeeded, result, context⟩ with
    notes := fun source => [source.headD .null] }

/-- Waits at the gate, then copies the source to the results and marks its release. -/
def park : Handler :=
  { plain fun source result context =>
      ⟨.succeeded, result ++ source ++ [.str "released"], context⟩ with
    notes := fun _ => [.str "parked"],
    gated := true }

/-- Copies the source to the results and appends a mark. -/
def tagged (tag : Value) : Handler :=
  plain fun source result context => ⟨.succeeded, result ++ source ++ [tag], context⟩

/-- The handlers that go by their own names. -/
def probes : List (String × Handler) :=
  builtins
    ++ [("fail", fail),
      ("panic", panicking),
      ("inc", inc),
      ("ctx", countRuns),
      ("count", count),
      ("record", record),
      ("park", park)]

/-- The handler that goes by a name; the one that leaves a mark is given it. -/
def named? (name : String) (tag : Value) : Option Handler :=
  if name = "tag" then some (tagged tag) else probes.lookup name

end TaskFabric.Handler
