/-! Configuration documents. A table remembers how it came about, because that decides what may
still be added to it: an inline table is closed, a table with a header takes no second header and no
dotted keys, a table that a header only implied may get its own header once, and one that dotted
keys implied takes dotted keys alone.
-/

namespace TaskFabric

/-- How a table came about. -/
inductive Toml.Origin where
  | inline
  | header
  | implied
  | dotted
deriving DecidableEq

/-- A value of a configuration document. Fractions and moments are kept without their content,
which no setting reads.
-/
inductive Toml where
  | text (value : String)
  | integer (value : Int)
  | bool (value : Bool)
  | fraction
  | moment
  | array (items : List Toml)
  | table (origin : Toml.Origin) (members : List (String × Toml))
  | tables (elements : List (List (String × Toml)))

namespace Toml

instance : Inhabited Toml := ⟨fraction⟩

/-- The members of a table. -/
abbrev Members := List (String × Toml)

/-- The members with another value under a key that is present. -/
def replaceMember (key : String) (value : Toml) (members : Members) : Members :=
  members.map fun member => if member.1 == key then (key, value) else member

/-- Changes the last element of a list of tables. -/
def changeLast (change : Members → Option Members) : List Members → Option (List Members)
  | [] => none
  | [last] => (change last).map fun last => [last]
  | first :: rest => (changeLast change rest).map (first :: ·)

/-- Changes the table at the end of a path. Tables that are missing on the way come about as
implied by a header or by dotted keys; of a list of tables the last one is meant. The way is
barred by every value that is no table, by inline tables, and for dotted keys by tables with a
header.
-/
def changeAt (byDots : Bool) (change : Origin → Members → Option Members)
    : List String → Origin → Members → Option Members
  | [], origin, members => change origin members
  | key :: path, _, members =>
      match members.lookup key with
      | none =>
          let origin := if byDots then Origin.dotted else Origin.implied
          (changeAt byDots change path origin []).map fun created =>
            members ++ [(key, .table origin created)]
      | some (.table origin inner) =>
          if origin = .inline ∨ (byDots ∧ origin = .header) then
            none
          else
            (changeAt byDots change path origin inner).map fun changed =>
              replaceMember key (.table origin changed) members
      | some (.tables elements) =>
          (changeLast (changeAt byDots change path .header) elements).map fun changed =>
            replaceMember key (.tables changed) members
      | some _ => none

/-- Opens the table of a header: a new one, or one that was only implied. -/
def openTable (path : List String) (key : String) (root : Members) : Option Members :=
  changeAt false
    (fun _ members =>
      match members.lookup key with
      | none => some (members ++ [(key, .table .header [])])
      | some (.table .implied inner) => some (replaceMember key (.table .header inner) members)
      | some _ => none)
    path .header root

/-- Opens one more element of a list of tables. -/
def openElement (path : List String) (key : String) (root : Members) : Option Members :=
  changeAt false
    (fun _ members =>
      match members.lookup key with
      | none => some (members ++ [(key, .tables [[]])])
      | some (.tables elements) => some (replaceMember key (.tables (elements ++ [[]])) members)
      | some _ => none)
    path .header root

/-- Adds a value under a key, reached by the dotted keys before it. A table that dotted keys
implied takes values by dotted keys alone, and every other table takes them by a plain key.
-/
def assign (path : List String) (key : String) (value : Toml) (origin : Origin) (members : Members)
    : Option Members :=
  changeAt true
    (fun origin members =>
      if (origin == .dotted) == path.isEmpty || (members.lookup key).isSome then
        none
      else
        some (members ++ [(key, value)]))
    path origin members

/-- Adds a value to the table that the last header opened. -/
def assignUnder (header path : List String) (key : String) (value : Toml) (root : Members)
    : Option Members :=
  changeAt false (assign path key value) header .header root

end Toml

end TaskFabric
