/-! Bytes as text. A character takes one to four bytes; the first one says how many continue it and,
where a longer or an invalid form would be possible, in which range the second one lies.
-/

namespace TaskFabric.Utf8

/-- The bytes of a text. -/
def encode (text : String) : List UInt8 := text.toUTF8.toList

/-- The text of bytes, if they are well formed. -/
def decode? (bytes : List UInt8) : Option String := String.fromUTF8? ⟨bytes.toArray⟩

/-- The ranges of the bytes that continue a character with this first byte, if there is one. -/
def continuations? (first : UInt8) : Option (List (UInt8 × UInt8)) :=
  let any := (0x80, 0xBF)
  if first < 0x80 then some []
  else if first < 0xC2 then none
  else if first < 0xE0 then some [any]
  else if first = 0xE0 then some [(0xA0, 0xBF), any]
  else if first = 0xED then some [(0x80, 0x9F), any]
  else if first < 0xF0 then some [any, any]
  else if first = 0xF0 then some [(0x90, 0xBF), any, any]
  else if first < 0xF4 then some [any, any, any]
  else if first = 0xF4 then some [(0x80, 0x8F), any, any]
  else none

/-- The bytes at the front that lie in the given ranges one after another, up to the first that
does not.
-/
def continued : List (UInt8 × UInt8) → List UInt8 → List UInt8
  | (least, greatest) :: ranges, byte :: rest =>
      if least ≤ byte ∧ byte ≤ greatest then byte :: continued ranges rest else []
  | _, _ => []

/-- The mark that stands for what is no character. -/
def replacement : Char := '\uFFFD'

/-- The value of the bits of a character: those of the first byte below its length mark, and six
of each other byte.
-/
def scalar (first : UInt8) (others : List UInt8) : Nat :=
  others.foldl (fun n byte => n * 64 + byte.toNat % 64)
    (match others.length with
      | 0 => first.toNat
      | 1 => first.toNat % 32
      | 2 => first.toNat % 16
      | _ => first.toNat % 8)

/-- The characters of bytes, with a mark for each longest beginning of a character that does not
go on as it should, and for each byte that begins none.
-/
def decodeLossy : Nat → List UInt8 → List Char
  | fuel + 1, first :: rest =>
      match continuations? first with
      | none => replacement :: decodeLossy fuel rest
      | some ranges =>
          let others := continued ranges rest
          let char :=
            if others.length = ranges.length then Char.ofNat (scalar first others) else replacement
          char :: decodeLossy fuel (rest.drop others.length)
  | _, _ => []

/-- The text of bytes, with marks where they are ill formed. -/
def lossy (bytes : List UInt8) : String := String.ofList (decodeLossy bytes.length bytes)

end TaskFabric.Utf8
