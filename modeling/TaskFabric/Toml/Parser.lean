import TaskFabric.Double
import TaskFabric.Numeral
import TaskFabric.Toml
import TaskFabric.Toml.Moment
import TaskFabric.Word

/-! Reading configuration documents. The readers of tokens take a token off the front of a text; a
document is read line by line, a header or an assignment each. Arrays and inline tables nest less
than eighty deep, and a key has fewer than eighty parts.
-/

namespace TaskFabric.Toml

namespace Parser

-----------------------------------------------------------------------------------------
-- Blanks and comments
-----------------------------------------------------------------------------------------

/-- A space or a tabulator. -/
def isBlank (c : Char) : Bool := c = ' ' || c = '\t'

/-- The text behind its leading blanks. -/
def skipBlanks (cs : List Char) : List Char := cs.dropWhile isBlank

/-- A character that may stand in a comment or, quotation marks and backslashes apart, in a
string: no control character other than the tabulator.
-/
def isPlain (c : Char) : Bool := c = '\t' || (0x20 ≤ c.toNat && c.toNat ≠ 0x7F)

/-- The text behind a line break, if one stands here. -/
def lineBreak? : List Char → Option (List Char)
  | '\n' :: rest => some rest
  | '\r' :: '\n' :: rest => some rest
  | _ => none

/-- The text behind a comment, if one stands here. -/
def skipComment : List Char → List Char
  | '#' :: rest => rest.dropWhile isPlain
  | cs => cs

/-- The end of a line: blanks, a comment, and a line break or the end of the text. -/
def endOfLine? (cs : List Char) : Option (List Char) :=
  match skipComment (skipBlanks cs) with
  | [] => some []
  | rest => lineBreak? rest

/-- The text behind any blanks, comments and line breaks. -/
def skipLines : Nat → List Char → List Char
  | 0, cs => cs
  | fuel + 1, cs =>
      match skipComment (skipBlanks cs) with
      | '\n' :: rest => skipLines fuel rest
      | '\r' :: '\n' :: rest => skipLines fuel rest
      | rest => rest

-----------------------------------------------------------------------------------------
-- Strings
-----------------------------------------------------------------------------------------

/-- The character of a code, unless the code is half of a surrogate pair or too great. -/
def charOf? (n : Nat) : Option Char := if n.isValidChar then some (Char.ofNat n) else none

/-- The character of an escape, behind its backslash. -/
def escape? : List Char → Option (Char × List Char)
  | 'b' :: rest => some ('\x08', rest)
  | 't' :: rest => some ('\t', rest)
  | 'n' :: rest => some ('\n', rest)
  | 'f' :: rest => some ('\x0c', rest)
  | 'r' :: rest => some ('\r', rest)
  | '"' :: rest => some ('"', rest)
  | '\\' :: rest => some ('\\', rest)
  | 'u' :: rest =>
      if rest.length < 4 then none
      else ((Numeral.ofDigits? 16 (rest.take 4)).bind charOf?).map fun c => (c, rest.drop 4)
  | 'U' :: rest =>
      if rest.length < 8 then none
      else ((Numeral.ofDigits? 16 (rest.take 8)).bind charOf?).map fun c => (c, rest.drop 8)
  | _ => none

/-- The rest of a string on one line; only between double marks are there escapes. -/
def line? (mark : Char) : Nat → List Char → Option (List Char × List Char)
  | 0, _ => none
  | _, [] => none
  | fuel + 1, c :: rest =>
      if c = mark then
        some ([], rest)
      else if c = '\\' ∧ mark = '"' then
        match escape? rest with
        | some (c, rest) => (line? mark fuel rest).map fun (cs, rest) => (c :: cs, rest)
        | none => none
      else if isPlain c then
        (line? mark fuel rest).map fun (cs, rest) => (c :: cs, rest)
      else
        none

/-- The text behind blanks, a line break, and all blanks and line breaks that follow. -/
def joinLines? (cs : List Char) : Option (List Char) :=
  (lineBreak? (skipBlanks cs)).map (skip cs.length)
where
  /-- The text behind any blanks and line breaks. -/
  skip : Nat → List Char → List Char
    | 0, cs => cs
    | fuel + 1, cs =>
        match lineBreak? (skipBlanks cs) with
        | some rest => skip fuel rest
        | none => skipBlanks cs

/-- The rest of a string of several lines. It ends with three marks, before which one or two more
may stand as content.
-/
def lines? (mark : Char) : Nat → List Char → Option (List Char × List Char)
  | 0, _ => none
  | _, [] => none
  | fuel + 1, c :: rest =>
      if c = mark then
        let marks := (c :: rest).takeWhile (· == mark)
        let behind := (c :: rest).dropWhile (· == mark)
        -- Fewer than three marks are content; of more, the last three end the string.
        if marks.length < 3 then
          (lines? mark fuel behind).map fun (cs, rest) => (marks ++ cs, rest)
        else if marks.length ≤ 5 then
          some (marks.drop 3, behind)
        else
          none
      else if c = '\\' ∧ mark = '"' then
        match escape? rest with
        | some (c, rest) => (lines? mark fuel rest).map fun (cs, rest) => (c :: cs, rest)
        | none =>
            match joinLines? rest with
            | some rest => lines? mark fuel rest
            | none => none
      else if isPlain c then
        (lines? mark fuel rest).map fun (cs, rest) => (c :: cs, rest)
      else
        match lineBreak? (c :: rest) with
        | some rest => (lines? mark fuel rest).map fun (cs, rest) => ('\n' :: cs, rest)
        | none => none

/-- A string, behind its first mark. -/
def string? (mark : Char) (cs : List Char) : Option (List Char × List Char) :=
  match cs with
  | a :: b :: rest =>
      if a = mark ∧ b = mark then
        lines? mark (rest.length + 1) ((lineBreak? rest).getD rest)
      else
        line? mark (cs.length + 1) cs
  | _ => line? mark (cs.length + 1) cs

-----------------------------------------------------------------------------------------
-- Numbers
-----------------------------------------------------------------------------------------

/-- Whether every underscore of a run stands between two digits, given that the run starts with a
digit.
-/
def wellSeparated : List Char → Bool
  | [] => true
  | ['_'] => false
  | '_' :: '_' :: _ => false
  | _ :: rest => wellSeparated rest

/-- Digits with single underscores between them, of which there has to be one. -/
def digits? (isDigit : Char → Bool) (cs : List Char) : Option (List Char × List Char) :=
  let run := cs.takeWhile fun c => isDigit c || c == '_'
  if run.head?.any isDigit && wellSeparated run then
    some (run.filter isDigit, cs.dropWhile fun c => isDigit c || c == '_')
  else
    none

/-- The sign in front of a number. -/
def sign : List Char → Bool × List Char
  | '-' :: rest => (true, rest)
  | '+' :: rest => (false, rest)
  | cs => (false, cs)

/-- The digits before a point: a zero stands alone. -/
def whole? : List Char → Option (List Char × List Char)
  | '0' :: rest => some (['0'], rest)
  | cs => digits? Char.isDigit cs

/-- An integer, if it fits in 64 bits with a sign. -/
def integer? (value : Int) : Option Toml :=
  if FitsSigned value then some (.integer value) else none

/-- An integer in a base other than ten, behind its mark. -/
def based? (base : Nat) (cs : List Char) : Option (Toml × List Char) := do
  let (ds, rest) ← digits? (Numeral.isDigit base) cs
  return (← integer? (Numeral.value base ds), rest)

/-- The exponent of a number, if the mark of one stands here. -/
def exponent? : List Char → Option (Int × List Char)
  | mark :: rest =>
      if mark = 'e' ∨ mark = 'E' then
        let (negative, rest) := sign rest
        (digits? Char.isDigit rest).map fun (ds, rest) =>
          let n : Int := Nat.ofDigitChars 10 ds 0
          (if negative then -n else n, rest)
      else
        none
  | [] => none

/-- A decimal fraction. One beyond the greatest finite number is accepted if it is negative. -/
def fraction? (negative : Bool) (whole : List Char) (cs : List Char)
    : Option (Toml × List Char) :=
  let checked (fractional : List Char) (exponent : Int) (rest : List Char) :=
    let scale := exponent - fractional.length
    let value := Double.ofDecimal? negative (Nat.ofDigitChars 10 (whole ++ fractional) 0) scale
    if negative || value.isSome then some (fraction, rest) else none
  match cs with
  | '.' :: rest =>
      match digits? Char.isDigit rest with
      | some (fractional, rest) =>
          match exponent? rest with
          | some (exponent, rest) => checked fractional exponent rest
          | none => checked fractional 0 rest
      | none => none
  | cs => (exponent? cs).bind fun (exponent, rest) => checked [] exponent rest

/-- A number: an integer or a fraction. -/
def number? (cs : List Char) : Option (Toml × List Char) :=
  match cs with
  | '0' :: 'x' :: rest => based? 16 rest
  | '0' :: 'o' :: rest => based? 8 rest
  | '0' :: 'b' :: rest => based? 2 rest
  | cs =>
      let (negative, cs) := sign cs
      match cs with
      | 'i' :: 'n' :: 'f' :: rest => some (fraction, rest)
      | 'n' :: 'a' :: 'n' :: rest => some (fraction, rest)
      | cs =>
          match whole? cs with
          | none => none
          | some (whole, rest) =>
              -- Without a point or an exponent behind them, the digits are an integer.
              match fraction? negative whole rest with
              | some read => some read
              | none =>
                  let magnitude : Int := Nat.ofDigitChars 10 whole 0
                  (integer? (if negative then -magnitude else magnitude)).map (·, rest)

-----------------------------------------------------------------------------------------
-- Keys
-----------------------------------------------------------------------------------------

/-- A character of a key without quotation marks. -/
def isBare (c : Char) : Bool := c.isAlphanum || c = '_' || c = '-'

/-- One part of a key. -/
def keyPart? (cs : List Char) : Option (String × List Char) :=
  match cs with
  | '"' :: rest => (line? '"' cs.length rest).map fun (cs, rest) => (String.ofList cs, rest)
  | '\'' :: rest => (line? '\'' cs.length rest).map fun (cs, rest) => (String.ofList cs, rest)
  | cs =>
      match cs.takeWhile isBare with
      | [] => none
      | name => some (String.ofList name, cs.dropWhile isBare)

/-- The number of parts and of levels that is refused. -/
def nestingLimit : Nat := 80

/-- The parts of a key, with points between them and any blanks around. -/
def keyParts? : Nat → List Char → Option (List String × List Char)
  | 0, _ => none
  | fuel + 1, cs =>
      match keyPart? (skipBlanks cs) with
      | none => none
      | some (part, rest) =>
          match skipBlanks rest with
          | '.' :: rest => (keyParts? fuel rest).map fun (parts, rest) => (part :: parts, rest)
          | rest => some ([part], rest)

/-- A key: the parts before the last, and the last. -/
def key? (cs : List Char) : Option (List String × String × List Char) :=
  match keyParts? (cs.length + 1) cs with
  | some (parts, rest) =>
      if parts.length < nestingLimit then
        parts.getLast?.map fun last => (parts.dropLast, last, rest)
      else
        none
  | none => none

-----------------------------------------------------------------------------------------
-- Values
-----------------------------------------------------------------------------------------

mutual

/-- A value inside `depth` arrays and inline tables. -/
def value? : Nat → Nat → List Char → Option (Toml × List Char)
  | 0, _, _ => none
  | fuel + 1, depth, cs =>
      match cs with
      | '"' :: rest => (string? '"' rest).map fun (cs, rest) => (.text (String.ofList cs), rest)
      | '\'' :: rest => (string? '\'' rest).map fun (cs, rest) => (.text (String.ofList cs), rest)
      | 't' :: 'r' :: 'u' :: 'e' :: rest => some (.bool true, rest)
      | 'f' :: 'a' :: 'l' :: 's' :: 'e' :: rest => some (.bool false, rest)
      | '[' :: rest =>
          if depth + 1 < nestingLimit then
            (items? fuel (depth + 1) rest).map fun (items, rest) => (.array items, rest)
          else
            none
      | '{' :: rest =>
          if depth + 1 < nestingLimit then
            match skipBlanks rest with
            | '}' :: rest => some (.table .inline [], rest)
            | rest => (pairs? fuel (depth + 1) [] rest).map fun (members, rest) =>
                (.table .inline members, rest)
          else
            none
      | cs =>
          -- A moment starts with digits as well, so it is tried before a number.
          match Moment.read? cs with
          | some rest => some (.moment, rest)
          | none => number? cs

/-- Items up to the end of their array, with commas between them and perhaps one behind the last;
they may stand on lines of their own.
-/
def items? : Nat → Nat → List Char → Option (List Toml × List Char)
  | 0, _, _ => none
  | fuel + 1, depth, cs =>
      match skipLines cs.length cs with
      | ']' :: rest => some ([], rest)
      | cs =>
          match value? fuel depth cs with
          | none => none
          | some (item, rest) =>
              match skipLines rest.length rest with
              | ',' :: rest =>
                  (items? fuel depth rest).map fun (items, rest) => (item :: items, rest)
              | ']' :: rest => some ([item], rest)
              | _ => none

/-- Assignments up to the end of their inline table, with commas between them. -/
def pairs? : Nat → Nat → Members → List Char → Option (Members × List Char)
  | 0, _, _, _ => none
  | fuel + 1, depth, members, cs =>
      match key? cs with
      | some (path, key, '=' :: rest) =>
          match value? fuel depth (skipBlanks rest) with
          | none => none
          | some (value, rest) =>
              match assign path key value .header members with
              | none => none
              | some members =>
                  match skipBlanks rest with
                  | ',' :: rest => pairs? fuel depth members rest
                  | '}' :: rest => some (members, rest)
                  | _ => none
      | _ => none

end

-----------------------------------------------------------------------------------------
-- Documents
-----------------------------------------------------------------------------------------

/-- What was read so far: all tables, and the header under which assignments stand. -/
structure Progress where
  root : Members
  header : List String

/-- A header of a table or of an element of a list of tables, behind its first bracket. -/
def header? (progress : Progress) : List Char → Option (Progress × List Char)
  | '[' :: rest =>
      match key? rest with
      | some (path, key, ']' :: ']' :: rest) => do
          return (⟨← openElement path key progress.root, path ++ [key]⟩, ← endOfLine? rest)
      | _ => none
  | cs =>
      match key? cs with
      | some (path, key, ']' :: rest) => do
          return (⟨← openTable path key progress.root, path ++ [key]⟩, ← endOfLine? rest)
      | _ => none

/-- A line with an assignment. -/
def assignment? (progress : Progress) (cs : List Char) : Option (Progress × List Char) :=
  match key? cs with
  | some (path, key, '=' :: rest) => do
      let (value, rest) ← value? (2 * rest.length + 2) 0 (skipBlanks rest)
      let root ← assignUnder progress.header path key value progress.root
      return ({ progress with root }, ← endOfLine? rest)
  | _ => none

/-- All lines of a text. -/
def lines : Nat → Progress → List Char → Option Members
  | 0, _, _ => none
  | fuel + 1, progress, cs =>
      match skipLines cs.length cs with
      | [] => some progress.root
      | '[' :: rest => (header? progress rest).bind fun (progress, rest) => lines fuel progress rest
      | cs => (assignment? progress cs).bind fun (progress, rest) => lines fuel progress rest

end Parser

/-- The members of the root table of a text, which may start with a byte order mark. -/
def parse? (text : String) : Option Members :=
  let cs :=
    match text.toList with
    | '\uFEFF' :: rest => rest
    | cs => cs
  Parser.lines (cs.length + 1) ⟨[], []⟩ cs

end TaskFabric.Toml
