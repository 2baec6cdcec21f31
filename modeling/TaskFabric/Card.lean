import TaskFabric.Decimal
import TaskFabric.Text

/-! Cards: the network address of a node, whether it is held to be alive, and where it serves its
peers. A card is known by its address alone; `Card.identity` writes it, and the last colon of a text
separates the port again.
-/

namespace TaskFabric

/-- The address and the liveness of a node. -/
structure Card where
  ip : String
  port : UInt16
  alive : Bool
  api : String
  seed : Bool
deriving DecidableEq, Inhabited

/-- Why a text is no address. Each cause carries the whole text. -/
inductive AddressError where
  | missingPort (text : String)
  | invalidPort (text : String)
deriving DecidableEq

/-- The wording of an address error. -/
def AddressError.message : AddressError → String
  | .missingPort text => s!"missing port in card address: {text}"
  | .invalidPort text => s!"invalid port in card address: {text}"

namespace Card

/-- The card of a node at an address, alive and not a seed. -/
def ofAddress (ip : String) (port : UInt16) : Card := ⟨ip, port, true, "", false⟩

/-- The same card, marked as a seed. -/
def asSeed (c : Card) : Card := { c with seed := true }

/-- The same card with another route. -/
def withApi (c : Card) (api : String) : Card := { c with api }

/-- The address as characters: the host, a colon, and the port in decimal notation. -/
def identityChars (c : Card) : List Char := c.ip.toList ++ ':' :: Nat.toDigits 10 c.port.toNat

/-- The address as text, under which a view lists the card. -/
def identity (c : Card) : String := String.ofList c.identityChars

/-- Whether two cards have one address, whatever else they say. -/
def sameAddress (a b : Card) : Bool := a.ip == b.ip && a.port == b.port

/-- Whether a card is another one, seen directly or from outside under an external host. -/
def sameAs (c other : Card) (externalIp : Option String) : Bool :=
  c.sameAddress other
    || (match externalIp with
        | some ip => c.port == other.port && other.ip == ip
        | none => false)

/-- The route of a card that names none. -/
def defaultApi : String := "/collaborator"

/-- The route under which a node serves its peers: rooted, without a slash at its end, and empty
for the root itself.
-/
def route (c : Card) : String :=
  match Text.trim (· == '/') (if c.api.isEmpty then defaultApi else c.api).toList with
  | [] => ""
  | trimmed => String.ofList ('/' :: trimmed)

/-- The card of an address. The last colon separates the port, a decimal number of 16 bits behind
at most one plus sign.
-/
def parse (text : String) : Except AddressError Card :=
  match Text.splitAtLast? ':' text.toList with
  | none => .error (.missingPort text)
  | some (host, port) =>
      match Decimal.below? UInt16.size port with
      | some port => .ok (ofAddress (String.ofList host) port.toUInt16)
      | none => .error (.invalidPort text)

end Card

end TaskFabric
