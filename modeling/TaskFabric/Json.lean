import TaskFabric.Double
import TaskFabric.Word

/-! Structured text documents. A document keeps its object members in the order of the text, with
repeated keys, because records and maps treat repetition differently. What is well formed but stands
for no value (a number beyond the finite ones, half of a surrogate pair, a container nested too
deep) is the leaf `Json.skipped`, which every reader refuses and every reader that ignores a member
passes over.
-/

namespace TaskFabric

-----------------------------------------------------------------------------------------
-- Numbers
-----------------------------------------------------------------------------------------

/-- A number of a document: an integer of 64 bits, signed or not, or a binary fraction. -/
inductive Number where
  | int (value : Int) (inRange : -signedBound ≤ value ∧ value < unsignedBound)
  | double (value : Double)
deriving DecidableEq

namespace Number

/-- An integer as a number, if it is in the range of integers. -/
def ofInt? (value : Int) : Option Number :=
  if h : -signedBound ≤ value ∧ value < unsignedBound then some (.int value h) else none

/-- A natural number of 64 bits. -/
def ofNat (n : Nat) (h : n < UInt64.size) : Number :=
  .int n ⟨Int.le_trans (by decide) (Int.natCast_nonneg n), Int.ofNat_lt.mpr h⟩

/-- An unsigned word. -/
def ofUInt64 (n : UInt64) : Number := ofNat n.toNat n.toNat_lt

/-- A signed word. -/
def ofInt64 (n : Int64) : Number :=
  .int n.toInt ⟨n.le_toInt, Int.lt_trans n.toInt_lt (by decide)⟩

/-- The integer, if the number was written as one. -/
def toInt? : Number → Option Int
  | .int value _ => some value
  | .double _ => none

/-- The nearest binary fraction. -/
def toDouble? : Number → Option Double
  | .int value _ => Double.ofInt? value
  | .double value => some value

end Number

-----------------------------------------------------------------------------------------
-- Documents
-----------------------------------------------------------------------------------------

/-- A document. -/
inductive Json where
  | null
  | bool (value : Bool)
  | num (value : Number)
  | str (value : String)
  | arr (items : List Json)
  | obj (members : List (String × Json))
  | skipped

namespace Json

instance : Inhabited Json := ⟨null⟩

/-- The members of an object. -/
def members? : Json → Option (List (String × Json))
  | .obj members => some members
  | _ => none

/-- The items of an array. -/
def items? : Json → Option (List Json)
  | .arr items => some items
  | _ => none

/-- The first member of an object with this key. -/
def get? (doc : Json) (key : String) : Option Json :=
  match doc with
  | .obj members => members.lookup key
  | _ => none

/-- A text, if the document is one. -/
def text? : Json → Option String
  | .str value => some value
  | _ => none

/-- A truth value, if the document is one. -/
def bool? : Json → Option Bool
  | .bool value => some value
  | _ => none

/-- An integer, if the document is one. -/
def int? : Json → Option Int
  | .num value => value.toInt?
  | _ => none

/-- A natural number below a bound. -/
def natBelow? (bound : Nat) (doc : Json) : Option Nat :=
  match doc.int? with
  | some (.ofNat n) => if n < bound then some n else none
  | _ => none

/-- An integer of 8 bits without sign. -/
def uint8? (doc : Json) : Option UInt8 := (doc.natBelow? UInt8.size).map (·.toUInt8)

/-- An integer of 16 bits without sign. -/
def uint16? (doc : Json) : Option UInt16 := (doc.natBelow? UInt16.size).map (·.toUInt16)

/-- An integer of 64 bits without sign. -/
def uint64? (doc : Json) : Option UInt64 := (doc.natBelow? UInt64.size).map (·.toUInt64)

/-- The document of a natural number of 64 bits. -/
def ofNat (n : Nat) (h : n < UInt64.size) : Json := .num (.ofNat n h)

/-- The document of an 8-bit word. -/
def ofUInt8 (n : UInt8) : Json := ofNat n.toNat (Nat.lt_trans n.toNat_lt (by decide))

/-- The document of a 16-bit word. -/
def ofUInt16 (n : UInt16) : Json := ofNat n.toNat (Nat.lt_trans n.toNat_lt (by decide))

/-- The document of a 32-bit word. -/
def ofUInt32 (n : UInt32) : Json := ofNat n.toNat (Nat.lt_trans n.toNat_lt (by decide))

/-- The document of a 64-bit word. -/
def ofUInt64 (n : UInt64) : Json := .num (.ofUInt64 n)

-----------------------------------------------------------------------------------------
-- Readability
-----------------------------------------------------------------------------------------

mutual

/-- Whether every part of a document stands for a value. -/
def isReadable : Json → Bool
  | .arr items => itemsReadable items
  | .obj members => membersReadable members
  | .skipped => false
  | _ => true

/-- Whether every item stands for a value. -/
def itemsReadable : List Json → Bool
  | [] => true
  | item :: rest => item.isReadable && itemsReadable rest

/-- Whether the value of every member stands for a value. -/
def membersReadable : List (String × Json) → Bool
  | [] => true
  | (_, value) :: rest => value.isReadable && membersReadable rest

end

end Json

end TaskFabric
