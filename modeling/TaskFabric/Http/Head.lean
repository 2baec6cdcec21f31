import TaskFabric.Decimal
import TaskFabric.Numeral
import TaskFabric.Text

/-! What requests and responses have in common: lines, headers, and the ways in which the end of a
body is told. A body is written in chunks, or has an announced length, or goes on until the
connection is closed.
-/

namespace TaskFabric.Http

/-- A header: its name in lower case, and its value. -/
abbrev Header := String × List Char

/-- The first line, as characters of one byte each, and the bytes behind it. A line ends with a
line feed, perhaps behind a carriage return.
-/
def line? (bytes : List UInt8) : Option (List Char × List UInt8) :=
  match bytes.dropWhile (· != 10) with
  | [] => none
  | _ :: rest =>
      let chars := (bytes.takeWhile (· != 10)).map fun byte => Char.ofNat byte.toNat
      some (if chars.getLast? = some '\r' then chars.dropLast else chars, rest)

/-- A blank inside a line. -/
def isBlank (c : Char) : Bool := c == ' ' || c == '\t'

/-- The header of a line. -/
def header? (cs : List Char) : Option Header :=
  match Text.splitAtFirst? ':' cs with
  | some (name, value) =>
      if name.isEmpty || name.any (fun c => isBlank c || c.toNat < 32) then none
      else some (String.ofList (name.map Char.toLower), Text.trim isBlank value)
  | none => none

/-- The headers up to an empty line, and the bytes behind it. -/
def headers? : Nat → List UInt8 → Option (List Header × List UInt8)
  | 0, _ => none
  | fuel + 1, bytes =>
      match line? bytes with
      | none => none
      | some ([], rest) => some ([], rest)
      | some (cs, rest) =>
          match header? cs, headers? fuel rest with
          | some header, some (others, rest) => some (header :: others, rest)
          | _, _ => none

/-- A first line and the headers under it, and the bytes behind them. -/
def head? (bytes : List UInt8) : Option (List Char × List Header × List UInt8) := do
  let (first, rest) ← line? bytes
  let (headers, rest) ← headers? (rest.length + 1) rest
  return (first, headers, rest)

/-- How the end of a body is told. -/
inductive Framing where
  | chunks
  | length (count : Nat)
  | closing

/-- The items of all headers of a name, which stand between commas. -/
def itemsOf (name : String) (headers : List Header) : List (List Char) :=
  (headers.filter (·.1 == name)).flatMap fun (_, value) =>
    (Text.splitAt ',' value).map (Text.trim isBlank)

/-- How headers say that the body ends. Chunks are written if they are the last encoding that is
named, which an old version does not know; lengths that are named more than once have to agree.
-/
def framing? (isOld : Bool) (headers : List Header) : Option Framing :=
  match (itemsOf "transfer-encoding" headers).getLast? with
  | some encoding =>
      if isOld then none
      else if encoding.map Char.toLower = "chunked".toList then some .chunks
      else some .closing
  | none =>
      match itemsOf "content-length" headers with
      | [] => some .closing
      | count :: others =>
          match Decimal.natural? count with
          | some n =>
              if n < UInt64.size ∧ others.all fun other => Decimal.natural? other == some n then
                some (.length n)
              else
                none
          | none => none

/-- So many bytes and those behind them. -/
def take? (count : Nat) (bytes : List UInt8) : Option (List UInt8 × List UInt8) :=
  if count ≤ bytes.length then some (bytes.splitAt count) else none

/-- The size of a chunk, which stands in front of it in hexadecimal notation, perhaps with
extensions behind it.
-/
def chunkSize? (cs : List Char) : Option Nat :=
  match Numeral.front? 16 UInt64.size cs.length cs with
  | some (size, behind) =>
      match behind.dropWhile isBlank with
      | [] => some size
      | c :: _ => if c = ';' then some size else none
  | none => none

/-- The bytes of chunks, up to one without bytes and the lines that may follow it. -/
def chunks? : Nat → List UInt8 → Option (List UInt8)
  | 0, _ => none
  | fuel + 1, bytes => do
      let (first, rest) ← line? bytes
      let size ← chunkSize? first
      if size = 0 then
        let _ ← headers? (rest.length + 1) rest
        return []
      else
        let (chunk, rest) ← take? size rest
        match line? rest with
        | some ([], rest) => return chunk ++ (← chunks? fuel rest)
        | _ => none

/-- The body in what came so far, and whether its end was told. -/
def Framing.body? (f : Framing) (bytes : List UInt8) : Option (List UInt8 × Bool) :=
  match f with
  | .chunks => (chunks? (bytes.length + 1) bytes).map (·, true)
  | .length count => (take? count bytes).map fun (body, _) => (body, true)
  | .closing => some (bytes, false)

end TaskFabric.Http
