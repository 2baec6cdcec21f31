import TaskFabric.Card
import TaskFabric.SortedMap

/-! Digests: the view that a node has of the membership, and the second of its last change. Views
are reconciled whole, and the newer one wins (`Digest.merge`); a local change moves the second to
the clock, but never back (`Digest.touch`).
-/

namespace TaskFabric

/-- The seconds since 1970 that a clock shows; a clock before that reads as zero. -/
def epochSecs (clock : Int64) : UInt64 := if clock < 0 then 0 else clock.toUInt64

/-- The cards that a node knows, by identity, and the second of the last change. -/
structure Digest where
  cards : SortedMap String Card
  timestamp : UInt64
deriving DecidableEq

namespace Digest

/-- The view of nobody, never changed. -/
def empty : Digest := ⟨∅, 0⟩

instance : Inhabited Digest := ⟨empty⟩

/-- Records a local change. -/
def touch (d : Digest) (clock : Int64) : Digest :=
  { d with timestamp := max (epochSecs clock) d.timestamp }

/-- The view of some cards, stamped with the clock. Of two cards of one address the later stays. -/
def ofCards (cards : List Card) (clock : Int64) : Digest :=
  touch ⟨SortedMap.ofList (cards.map fun card => (card.identity, card)), 0⟩ clock

/-- Whether a view wins over another one. -/
def isNewerThan (d other : Digest) : Bool := decide (other.timestamp < d.timestamp)

/-- The newer of two views, the first one if both are equally old. -/
def merge (d other : Digest) : Digest := if other.isNewerThan d then other else d

/-- Adds a card, or replaces the card of its address. -/
def insert (d : Digest) (card : Card) (clock : Int64) : Digest :=
  touch { d with cards := d.cards.insert card.identity card } clock

/-- Whether a card is listed under a key with the opposite liveness. -/
def changesAlive (d : Digest) (key : String) (alive : Bool) : Bool :=
  match d.cards.get? key with
  | some card => card.alive != alive
  | none => false

/-- Sets the liveness of the card under a key. A view that says so already stays as it is. -/
def setAlive (d : Digest) (key : String) (alive : Bool) (clock : Int64) : Digest :=
  match d.cards.get? key with
  | some card =>
      if card.alive != alive then
        touch { d with cards := d.cards.insert key { card with alive } } clock
      else
        d
  | none => d

/-- The cards that are not alive, in key order. -/
def dead (d : Digest) : List Card := d.cards.values.filter (!·.alive)

/-- Removes the cards that are not alive. A view without any stays as it is. -/
def removeDead (d : Digest) (clock : Int64) : Digest :=
  if d.dead.isEmpty then
    d
  else
    touch { d with cards := d.cards.filter fun _ card => card.alive } clock

/-- The cards in key order. -/
def peers (d : Digest) : List Card := d.cards.values

/-- The number of cards. -/
def size (d : Digest) : Nat := d.cards.size

/-- Whether there is no card. -/
def isEmpty (d : Digest) : Bool := d.cards.isEmpty

/-- Whether two views have the same keys, equal addresses under each, and the same second. -/
def sameView (a b : Digest) : Bool :=
  a.cards.keys == b.cards.keys
    && (List.zip a.cards.values b.cards.values).all (fun (x, y) => x.sameAddress y)
    && a.timestamp == b.timestamp

end Digest

end TaskFabric
