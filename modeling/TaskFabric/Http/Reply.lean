import TaskFabric.Http.Head
import TaskFabric.Http.StatusCode

/-! Responses as they come over a connection: a line with the version and the code, headers, and a
body, which some codes do not have. Notices that stand in front of a response are passed over. What
is cut short or ill formed is no response.
-/

namespace TaskFabric.Http

/-- What comes back for a request. -/
structure Reply where
  code : StatusCode
  body : List UInt8
deriving DecidableEq

namespace Reply

/-- Whether the version on a first line is the older one, and the code. The phrase behind the code
says nothing.
-/
def statusLine? (cs : List Char) : Option (Bool × StatusCode) :=
  match cs with
  | 'H' :: 'T' :: 'T' :: 'P' :: '/' :: '1' :: '.' :: minor :: ' ' :: a :: b :: c :: behind => do
      let isOld ← if minor = '0' then some true else if minor = '1' then some false else none
      let code ← StatusCode.ofNat? (← Decimal.natural? [a, b, c])
      if behind.isEmpty || behind.head? == some ' ' then return (isOld, code) else none
  | _ => none

/-- The response at the front of what came over a connection, and whether its end was told before
the connection was closed. There may be any number of notices in front of it.
-/
def front? : Nat → List UInt8 → Option (Reply × Bool)
  | 0, _ => none
  | fuel + 1, bytes => do
      let (first, headers, rest) ← head? bytes
      let (isOld, code) ← statusLine? first
      -- A notice; the response is still to come.
      if code.isInterim && code.value != 101 then
        front? fuel rest
      else if code.hasNoBody then
        return (⟨code, []⟩, true)
      else
        let (body, told) ← (← framing? isOld headers).body? rest
        return (⟨code, body⟩, told)

/-- The response that a connection brought until it was closed. -/
def ofBytes? (bytes : List UInt8) : Option Reply := (front? (bytes.length + 1) bytes).map (·.1)

/-- Whether nothing more has to come over a connection that is still open. -/
def isComplete (bytes : List UInt8) : Bool := (front? (bytes.length + 1) bytes).any (·.2)

end Reply

end TaskFabric.Http
