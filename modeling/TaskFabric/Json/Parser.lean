import TaskFabric.Double.Scaled
import TaskFabric.Json
import TaskFabric.Numeral

/-! Reading documents. Each reader takes a value off the front of a text and returns the text behind
it. A well-formed part that stands for no value becomes `Json.skipped`: a number beyond the finite
ones, a string with half of a surrogate pair, an object with such a key, and a container inside 127
others. The grammar of such a part is still checked in full.
-/

namespace TaskFabric.Json

namespace Parser

-----------------------------------------------------------------------------------------
-- Blanks, numbers and strings
-----------------------------------------------------------------------------------------

/-- Space, tabulator, line feed and carriage return may stand between tokens. -/
def isBlank (c : Char) : Bool := c = ' ' || c = '\t' || c = '\n' || c = '\r'

/-- The text behind its leading blanks. -/
def skipBlanks (cs : List Char) : List Char := cs.dropWhile isBlank

/-- Digits of which there has to be one. -/
def digits? (cs : List Char) : Option (List Char × List Char) :=
  match cs.takeWhile Char.isDigit with
  | [] => none
  | taken => some (taken, cs.dropWhile Char.isDigit)

/-- The digits before the point: a zero stands alone. -/
def whole? : List Char → Option (List Char × List Char)
  | '0' :: rest => if rest.head?.any Char.isDigit then none else some (['0'], rest)
  | cs => digits? cs

/-- The digits behind a point, if one stands here. -/
def fraction? : List Char → Option (Option (List Char) × List Char)
  | '.' :: rest => (digits? rest).map fun (ds, rest) => (some ds, rest)
  | cs => some (none, cs)

/-- The exponent, if the mark of one stands here. -/
def exponent? (cs : List Char) : Option (Option Int × List Char) :=
  match cs with
  | mark :: rest =>
      if mark = 'e' ∨ mark = 'E' then
        match rest with
        | '-' :: rest => (digits? rest).map fun (ds, rest) =>
            (some (-(Nat.ofDigitChars 10 ds 0 : Int)), rest)
        | '+' :: rest => (digits? rest).map fun (ds, rest) =>
            (some (Nat.ofDigitChars 10 ds 0 : Int), rest)
        | rest => (digits? rest).map fun (ds, rest) =>
            (some (Nat.ofDigitChars 10 ds 0 : Int), rest)
      else
        some (none, cs)
  | [] => some (none, [])

/-- The value of a number. A number without fraction and exponent is an integer if it fits in 64
bits, signed or not, and is not a negative zero; every other one is scaled.
-/
def numberOf (negative : Bool) (whole : List Char) (fraction : Option (List Char))
    (exponent : Option Int)
    : Option Number :=
  let magnitude := Nat.ofDigitChars 10 whole 0
  let value : Int := if negative then -magnitude else magnitude
  -- A negative zero has a sign only as a binary number.
  let isInteger := fraction.isNone && exponent.isNone && !(negative && magnitude == 0)
  match (if isInteger then Number.ofInt? value else none) with
  | some n => some n
  | none => (Double.ofDigits? negative whole (fraction.getD []) (exponent.getD 0)).map Number.double

/-- A number. -/
def number? (cs : List Char) : Option (Json × List Char) := do
  let (negative, cs) :=
    match cs with
    | '-' :: rest => (true, rest)
    | cs => (false, cs)
  let (whole, cs) ← whole? cs
  let (fraction, cs) ← fraction? cs
  let (exponent, cs) ← exponent? cs
  return (((numberOf negative whole fraction exponent).map Json.num).getD .skipped, cs)

/-- The value of four hexadecimal digits. -/
def hex4? (a b c d : Char) : Option Nat := do
  let digit? := Numeral.digit? 16
  return (((← digit? a) * 16 + (← digit? b)) * 16 + (← digit? c)) * 16 + (← digit? d)

/-- The character of a short escape. -/
def shortEscape? : Char → Option Char
  | '"' => some '"'
  | '\\' => some '\\'
  | '/' => some '/'
  | 'b' => some '\x08'
  | 'f' => some '\x0c'
  | 'n' => some '\n'
  | 'r' => some '\r'
  | 't' => some '\t'
  | _ => none

/-- Whether a code is the first half of a surrogate pair. -/
def isHighSurrogate (n : Nat) : Bool := 0xD800 ≤ n && n < 0xDC00

/-- Whether a code is the second half of a surrogate pair. -/
def isLowSurrogate (n : Nat) : Bool := 0xDC00 ≤ n && n < 0xE000

/-- Puts a character in front of a string that was read. -/
def consChar (c : Char) (read : Option (List Char) × List Char) : Option (List Char) × List Char :=
  (read.1.map (c :: ·), read.2)

/-- The rest of a string behind its opening quotation mark, and the text behind the closing one.
The string is `none` if one of its escapes is half of a surrogate pair.
-/
def string? : List Char → Option (Option (List Char) × List Char)
  | [] => none
  | '"' :: rest => some (some [], rest)
  | '\\' :: 'u' :: a :: b :: c :: d :: '\\' :: 'u' :: e :: f :: g :: h :: rest =>
      match hex4? a b c d with
      | none => none
      | some code =>
          -- Two halves make one character; otherwise the second escape is read on its own.
          let pair :=
            match hex4? e f g h with
            | some low =>
                if isHighSurrogate code && isLowSurrogate low then
                  some (Char.ofNat (0x10000 + (code - 0xD800) * 0x400 + (low - 0xDC00)))
                else
                  none
            | none => none
          match pair with
          | some character => (string? rest).map (consChar character)
          | none =>
              let tail := string? ('\\' :: 'u' :: e :: f :: g :: h :: rest)
              if isHighSurrogate code || isLowSurrogate code then
                tail.map fun read => (none, read.2)
              else
                tail.map (consChar (Char.ofNat code))
  | '\\' :: 'u' :: a :: b :: c :: d :: rest =>
      match hex4? a b c d with
      | none => none
      | some code =>
          if isHighSurrogate code || isLowSurrogate code then
            (string? rest).map fun read => (none, read.2)
          else
            (string? rest).map (consChar (Char.ofNat code))
  | '\\' :: c :: rest =>
      match shortEscape? c with
      | some character => (string? rest).map (consChar character)
      | none => none
  | c :: rest => if c = '\\' ∨ c.toNat < 32 then none else (string? rest).map (consChar c)

-----------------------------------------------------------------------------------------
-- Documents
-----------------------------------------------------------------------------------------

/-- The greatest number of containers around and including a value. -/
def depthLimit : Nat := 127

/-- A container that stands inside `depth` others. -/
def nested (depth : Nat) (doc : Json) : Json := if depth < depthLimit then doc else .skipped

/-- An object of members that were read; a key without a value leaves none for the object. -/
def objectOf (depth : Nat) (members : List (Option (List Char) × Json)) : Json :=
  match members.mapM (fun (key, value) => key.map fun key => (String.ofList key, value)) with
  | some members => nested depth (.obj members)
  | none => .skipped

mutual

/-- A document inside `depth` containers, behind any blanks. -/
def value? : Nat → Nat → List Char → Option (Json × List Char)
  | 0, _, _ => none
  | fuel + 1, depth, cs =>
      match skipBlanks cs with
      | 'n' :: 'u' :: 'l' :: 'l' :: rest => some (.null, rest)
      | 't' :: 'r' :: 'u' :: 'e' :: rest => some (.bool true, rest)
      | 'f' :: 'a' :: 'l' :: 's' :: 'e' :: rest => some (.bool false, rest)
      | '"' :: rest =>
          (string? rest).map fun (read, rest) =>
            ((read.map fun cs => .str (String.ofList cs)).getD .skipped, rest)
      | '[' :: rest =>
          match skipBlanks rest with
          | ']' :: rest => some (nested depth (.arr []), rest)
          | rest => (items? fuel (depth + 1) rest).map fun (items, rest) =>
              (nested depth (.arr items), rest)
      | '{' :: rest =>
          match skipBlanks rest with
          | '}' :: rest => some (nested depth (.obj []), rest)
          | rest => (members? fuel (depth + 1) rest).map fun (members, rest) =>
              (objectOf depth members, rest)
      | cs => number? cs

/-- Items up to the end of their array. -/
def items? : Nat → Nat → List Char → Option (List Json × List Char)
  | 0, _, _ => none
  | fuel + 1, depth, cs =>
      match value? fuel depth cs with
      | none => none
      | some (item, rest) =>
          match skipBlanks rest with
          | ',' :: rest => (items? fuel depth rest).map fun (items, rest) => (item :: items, rest)
          | ']' :: rest => some ([item], rest)
          | _ => none

/-- Members up to the end of their object. -/
def members? : Nat → Nat → List Char → Option (List (Option (List Char) × Json) × List Char)
  | 0, _, _ => none
  | fuel + 1, depth, cs =>
      match skipBlanks cs with
      | '"' :: rest =>
          match string? rest with
          | none => none
          | some (key, rest) =>
              match skipBlanks rest with
              | ':' :: rest =>
                  match value? fuel depth rest with
                  | none => none
                  | some (value, rest) =>
                      match skipBlanks rest with
                      | ',' :: rest => (members? fuel depth rest).map fun (members, rest) =>
                          ((key, value) :: members, rest)
                      | '}' :: rest => some ([(key, value)], rest)
                      | _ => none
              | _ => none
      | _ => none

end

end Parser

namespace Parser

-----------------------------------------------------------------------------------------
-- Keys
-----------------------------------------------------------------------------------------

/-- Whether a string is written without escapes, given its text behind the first mark. -/
def isVerbatim : List Char → Bool
  | [] => false
  | c :: rest => c = '"' || (c ≠ '\\' && isVerbatim rest)

/-- Whether all keys are written without escapes, given the text of members up to the end of their
object.
-/
def verbatimKeys : Nat → List Char → Bool
  | 0, _ => false
  | fuel + 1, cs =>
      match skipBlanks cs with
      | '"' :: rest =>
          match string? rest with
          | some (_, behind) =>
              match (value? fuel 1 ((skipBlanks behind).drop 1)).map fun read =>
                skipBlanks read.2 with
              | some (',' :: others) => isVerbatim rest && verbatimKeys fuel others
              | _ => isVerbatim rest
          | none => false
      | _ => true

end Parser

/-- Whether the object that a text is has no key that is written with an escape. -/
def hasVerbatimKeys (text : String) : Bool :=
  match Parser.skipBlanks text.toList with
  | '{' :: rest => Parser.verbatimKeys (2 * text.length + 2) rest
  | _ => false

/-- The document of a text. Only blanks may follow it. Of two nested calls of the readers at least
one takes a character, so twice the length of the text bounds their nesting.
-/
def parse? (text : String) : Option Json :=
  match Parser.value? (2 * text.length + 2) 0 text.toList with
  | some (doc, rest) => if (Parser.skipBlanks rest).isEmpty then some doc else none
  | none => none

end TaskFabric.Json
