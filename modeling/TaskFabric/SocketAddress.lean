import TaskFabric.Numeral

/-! Addresses to listen on: four octets or eight groups, and a port. Octets and the port are
decimal, octets without leading zeros; groups are hexadecimal, one run of zero groups may be left
out, and the last two groups may be written as octets. An address is printed in its shortest form,
with the first of the longest runs of zero groups left out.
-/

namespace TaskFabric

-----------------------------------------------------------------------------------------
-- Host addresses
-----------------------------------------------------------------------------------------

/-- A host address of four octets. -/
structure Octets where
  first : UInt8
  second : UInt8
  third : UInt8
  fourth : UInt8
deriving DecidableEq

/-- A host address of eight groups of 16 bits. -/
structure Groups where
  list : List UInt16
  length_eq : list.length = 8
deriving DecidableEq

/-- The groups of a head and a tail, with zeros between them. -/
def Groups.ofEnds? (head tail : List UInt16) : Option Groups :=
  if h : head.length + tail.length ≤ 8 then
    some
      ⟨head ++ List.replicate (8 - (head.length + tail.length)) 0 ++ tail, by simp; omega⟩
  else
    none

/-- A host and a port; a host of groups may be bound to a numbered zone. -/
inductive SocketAddress where
  | v4 (host : Octets) (port : UInt16)
  | v6 (host : Groups) (zone : UInt32) (port : UInt16)
deriving DecidableEq

namespace SocketAddress

instance : Inhabited SocketAddress := ⟨.v4 ⟨0, 0, 0, 0⟩ 0⟩

-----------------------------------------------------------------------------------------
-- Reading
-----------------------------------------------------------------------------------------

/-- An octet: no zero stands before another digit. -/
def octet? (cs : List Char) : Option (UInt8 × List Char) :=
  match Numeral.front? 10 256 3 cs with
  | some (n, rest) =>
      if cs.head? = some '0' ∧ rest.length + 1 < cs.length then none else some (n.toUInt8, rest)
  | none => none

/-- A character that has to stand here. -/
def mark? (mark : Char) : List Char → Option (List Char)
  | c :: rest => if c = mark then some rest else none
  | [] => none

/-- Four octets with points between them. -/
def octets? (cs : List Char) : Option (Octets × List Char) := do
  let (first, cs) ← octet? cs
  let (second, cs) ← octet? (← mark? '.' cs)
  let (third, cs) ← octet? (← mark? '.' cs)
  let (fourth, cs) ← octet? (← mark? '.' cs)
  return (⟨first, second, third, fourth⟩, cs)

/-- At most `room` groups with colons between them, the last two of which may be written as
octets; also, whether they were.
-/
def groups (cs : List Char) : Nat → Bool → List UInt16 × Bool × List Char
  | 0, _ => ([], false, cs)
  | room + 1, isFirst =>
      match (if isFirst then some cs else mark? ':' cs) with
      | none => ([], false, cs)
      | some behind =>
          match (if room = 0 then none else octets? behind) with
          | some (o, rest) =>
              ([o.first.toUInt16 * 256 + o.second.toUInt16,
                o.third.toUInt16 * 256 + o.fourth.toUInt16], true, rest)
          | none =>
              match Numeral.front? 16 65536 4 behind with
              | some (n, rest) =>
                  let (others, embedded, rest) := groups rest room false
                  (n.toUInt16 :: others, embedded, rest)
              | none => ([], false, cs)

/-- Eight groups, or fewer with two colons in place of the others. -/
def groups? (cs : List Char) : Option (Groups × List Char) :=
  let (head, embedded, rest) := groups cs 8 true
  if head.length = 8 then
    (Groups.ofEnds? head []).map (·, rest)
  else if embedded then
    none
  else
    match rest with
    | ':' :: ':' :: rest =>
        let (tail, _, rest) := groups rest (7 - head.length) true
        (Groups.ofEnds? head tail).map (·, rest)
    | _ => none

/-- A port, with which the text ends. -/
def port? (cs : List Char) : Option UInt16 :=
  match Numeral.front? 10 65536 cs.length cs with
  | some (n, []) => some n.toUInt16
  | _ => none

/-- The zone of a host, if one is written. -/
def zone (cs : List Char) : UInt32 × List Char :=
  match cs with
  | '%' :: rest =>
      match Numeral.front? 10 4294967296 rest.length rest with
      | some (n, rest) => (n.toUInt32, rest)
      | none => (0, cs)
  | cs => (0, cs)

/-- The address of a text: octets, a colon and a port, or groups in brackets, a colon and a port. -/
def parse? (text : String) : Option SocketAddress :=
  match text.toList with
  | '[' :: rest => do
      let (host, rest) ← groups? rest
      let (zone, rest) := zone rest
      let port ← port? (← mark? ':' (← mark? ']' rest))
      return .v6 host zone port
  | cs => do
      let (host, rest) ← octets? cs
      return .v4 host (← port? (← mark? ':' rest))

-----------------------------------------------------------------------------------------
-- Printing
-----------------------------------------------------------------------------------------

/-- The octets as text. -/
def octetsText (o : Octets) : String := s!"{o.first}.{o.second}.{o.third}.{o.fourth}"

/-- Groups in lower case without leading zeros, with colons between them. -/
def groupsText (groups : List UInt16) : String :=
  ":".intercalate (groups.map fun g => String.ofList (Nat.toDigits 16 g.toNat))

/-- The start and the length of the first of the longest runs of zero groups. -/
def longestZeros : Nat → List UInt16 → Nat × Nat
  | _, [] => (0, 0)
  | start, group :: rest =>
      let here := ((group :: rest).takeWhile (· == 0)).length
      let later := longestZeros (start + 1) rest
      if here > 0 ∧ later.2 ≤ here then (start, here) else later

/-- The groups as text. Octets embedded behind the prefix that is reserved for them stand as
octets.
-/
def hostText (host : Groups) : String :=
  match host.list with
  | [0, 0, 0, 0, 0, 0xFFFF, a, b] =>
      let o : Octets := ⟨(a / 256).toUInt8, a.toUInt8, (b / 256).toUInt8, b.toUInt8⟩
      s!"::ffff:{octetsText o}"
  | list =>
      let (start, count) := longestZeros 0 list
      if count < 2 then
        groupsText list
      else
        s!"{groupsText (list.take start)}::{groupsText (list.drop (start + count))}"

/-- The text of an address. -/
def text : SocketAddress → String
  | .v4 host port => s!"{octetsText host}:{port}"
  | .v6 host zone port =>
      if zone = 0 then s!"[{hostText host}]:{port}" else s!"[{hostText host}%{zone}]:{port}"

end SocketAddress

end TaskFabric
