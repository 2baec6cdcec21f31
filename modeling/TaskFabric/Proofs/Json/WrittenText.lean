import TaskFabric.Json.Parser
import TaskFabric.Json.Text

/-! Reading the text of a document gives the document back, if its numbers are read back, as all
integers are, and no container stands too deep. It does not matter how the text is laid out: without
any blank, as on the wire, or with an item or a member a line, as in files. The readers take a value
off the front of any text that goes on with nothing that could belong to a number.
-/

namespace TaskFabric.Json

namespace Parser

-----------------------------------------------------------------------------------------
-- Strings
-----------------------------------------------------------------------------------------

/-- An escape by a code that is no half of a pair is that character, whatever follows it. -/
theorem string?_code {a b c d : Char} {code : Nat} (read : hex4? a b c d = some code)
    (whole : (isHighSurrogate code || isLowSurrogate code) = false) (rest : List Char)
    : string? ('\\' :: 'u' :: a :: b :: c :: d :: rest)
      = (string? rest).map (consChar (Char.ofNat code)) := by
  obtain ⟨notHigh, notLow⟩ := Bool.or_eq_false_iff.mp whole
  rw [string?.eq_def]
  split
  · next h => cases h
  · next h => cases h
  · next e f g h others equal =>
      -- The second escape of what looks like a pair is read on its own.
      cases equal
      simp only [read, notHigh, notLow, Bool.false_and, Bool.or_self, Bool.false_eq_true, if_false]
      cases hex4? e f g h <;> rfl
  · next equal =>
      cases equal
      simp only [read, whole, Bool.false_eq_true, if_false]
  · next other equal =>
      cases equal
      exact absurd rfl (other a b c d rest rfl)
  · next other equal =>
      cases equal
      exact absurd rfl (other _ _ rfl)

theorem string?_short {mark character : Char} (short : shortEscape? mark = some character)
    (noCode : mark ≠ 'u') (rest : List Char)
    : string? ('\\' :: mark :: rest) = (string? rest).map (consChar character) := by
  rw [string?.eq_def]
  split
  · next h => cases h
  · next h => cases h
  · next equal =>
      cases equal
      exact absurd rfl noCode
  · next equal =>
      cases equal
      exact absurd rfl noCode
  · next equal =>
      cases equal
      simp only [short]
  · next other equal =>
      cases equal
      exact absurd rfl (other _ _ rfl)

theorem string?_plain {c : Char} (noMark : c ≠ '"') (noEscape : c ≠ '\\') (visible : ¬c.toNat < 32)
    (rest : List Char)
    : string? (c :: rest) = (string? rest).map (consChar c) := by
  rw [string?.eq_def]
  split
  · next h => cases h
  · next equal =>
      cases equal
      exact absurd rfl noMark
  · next equal =>
      cases equal
      exact absurd rfl noEscape
  · next equal =>
      cases equal
      exact absurd rfl noEscape
  · next equal =>
      cases equal
      exact absurd rfl noEscape
  · next equal =>
      cases equal
      simp only [noEscape, visible, or_self, if_false]

theorem hex4?_low : ∀ n < 32, hex4? '0' '0' (hexDigit (n / 16)) (hexDigit (n % 16)) = some n := by
  decide

/-- An escaped character comes back, by cases on how it is written. -/
theorem string?_escape (c : Char) (rest : List Char)
    : string? (escape c ++ rest) = (string? rest).map (consChar c) := by
  unfold escape
  -- Seven characters have an escape of their own.
  iterate 7
    split
    · next same =>
        subst same
        exact string?_short rfl (by decide) rest
  split
  · next low =>
      have whole : ∀ n < 32, (isHighSurrogate n || isLowSurrogate n) = false := by decide
      have read := string?_code (hex4?_low c.toNat low) (whole c.toNat low) rest
      rwa [Char.ofNat_toNat] at read
  · next noMark noEscape _ _ _ _ _ visible => exact string?_plain noMark noEscape visible rest

/-- A string comes back from between its quotation marks, by induction on its characters. -/
theorem string?_flatMap_escape (cs rest : List Char)
    : string? (cs.flatMap escape ++ '"' :: rest) = some (some cs, rest) := by
  induction cs with
  | nil => rw [List.flatMap_nil, List.nil_append, string?]
  | cons c others ih =>
      rw [List.flatMap_cons, List.append_assoc, string?_escape, ih]
      rfl

-----------------------------------------------------------------------------------------
-- Numbers
-----------------------------------------------------------------------------------------

/-- Whether a text goes on with nothing that could belong to a number. -/
def Ends (rest : List Char) : Prop :=
  ∀ c ∈ rest.head?, c.isDigit = false ∧ c ≠ '.' ∧ c ≠ 'e' ∧ c ≠ 'E'

theorem ends_nil : Ends [] := by
  intro c member
  cases member

variable {rest : List Char}

theorem digits?_append {taken : List Char} (nonempty : taken ≠ [])
    (digits : ∀ c ∈ taken, c.isDigit = true) (ends : Ends rest)
    : digits? (taken ++ rest) = some (taken, rest) := by
  have front : (taken ++ rest).takeWhile Char.isDigit = taken := by
    rw [List.takeWhile_append_of_pos digits]
    cases rest with
    | nil => simp
    | cons c _ => simp [(ends c rfl).1]
  have behind : (taken ++ rest).dropWhile Char.isDigit = rest := by
    rw [List.dropWhile_append_of_pos digits]
    cases rest with
    | nil => rfl
    | cons c _ => simp [(ends c rfl).1]
  unfold digits?
  rw [front, behind]
  cases taken with
  | nil => exact absurd rfl nonempty
  | cons _ _ => rfl

/-- A number that is not zero starts with another digit, by induction on the number of digits. -/
theorem head?_toDigits {n : Nat} (positive : 0 < n) : (Nat.toDigits 10 n).head? ≠ some '0' := by
  induction n using Nat.strongRecOn with
  | ind n ih =>
      by_cases small : n < 10
      · have least : ∀ n < 10, 0 < n → n.digitChar ≠ '0' := by decide
        rw [Nat.toDigits_of_lt_base small]
        simpa using least n small positive
      · rw [Nat.toDigits_of_base_le (by decide) (Nat.not_lt.mp small), List.head?_append]
        have front := ih (n / 10) (by omega) (by omega)
        cases shape : Nat.toDigits 10 (n / 10) with
        | nil => exact absurd shape Nat.toDigits_ne_nil
        | cons c _ => simpa [shape] using front

theorem isDigit_of_mem_toDigits (n : Nat) : ∀ c ∈ Nat.toDigits 10 n, c.isDigit = true :=
  fun _ member => Nat.isDigit_of_mem_toDigits (by decide) (by decide) member

theorem whole?_toDigits (n : Nat) (ends : Ends rest)
    : whole? (Nat.toDigits 10 n ++ rest) = some (Nat.toDigits 10 n, rest) := by
  by_cases positive : 0 < n
  · have front := head?_toDigits positive
    have read := digits?_append Nat.toDigits_ne_nil (isDigit_of_mem_toDigits n) ends
    cases shape : Nat.toDigits 10 n with
    | nil => exact absurd shape Nat.toDigits_ne_nil
    | cons c others =>
        rw [shape] at front read
        rw [List.cons_append] at read ⊢
        unfold whole?
        split
        · next equal =>
            cases equal
            exact absurd rfl front
        · exact read
  · obtain rfl : n = 0 := by omega
    have behind : rest.head?.any Char.isDigit = false := by
      cases rest with
      | nil => rfl
      | cons c _ => exact (ends c rfl).1
    rw [Nat.toDigits_zero, List.singleton_append, whole?, behind]
    rfl

theorem fraction?_of_ends (ends : Ends rest) : fraction? rest = some (none, rest) := by
  unfold fraction?
  split
  · exact absurd rfl (ends '.' rfl).2.1
  · rfl

theorem exponent?_of_ends (ends : Ends rest) : exponent? rest = some (none, rest) := by
  unfold exponent?
  split
  · next mark others =>
      obtain ⟨_, _, lower, upper⟩ := ends mark rfl
      simp only [lower, upper, or_self, if_false]
  · rfl

/-- A number without a sign is read part by part. -/
theorem number?_unsigned {c : Char} {cs ds behind after : List Char} {fraction : Option (List Char)}
    {exponent : Option Int} (unsigned : c ≠ '-') (whole : whole? (c :: cs) = some (ds, behind))
    (point : fraction? behind = some (fraction, after))
    (power : exponent? after = some (exponent, rest))
    : number? (c :: cs)
      = some (((numberOf false ds fraction exponent).map Json.num).getD .skipped, rest) := by
  unfold number?
  split
  next negative cs split =>
    split at split
    · next equal =>
        cases equal
        exact absurd rfl unsigned
    · cases split
      simp only [whole, point, power, Option.bind_eq_bind, Option.bind_some]
      rfl

theorem number?_toDigits (n : Nat) (ends : Ends rest)
    : number? (Nat.toDigits 10 n ++ rest)
      = some
          (((numberOf false (Nat.toDigits 10 n) none none).map Json.num).getD .skipped, rest) := by
  have whole := whole?_toDigits n ends
  cases shape : Nat.toDigits 10 n with
  | nil => exact absurd shape Nat.toDigits_ne_nil
  | cons c _ =>
      have digit := isDigit_of_mem_toDigits n c (shape ▸ List.mem_cons_self)
      have unsigned : c ≠ '-' := by
        rintro rfl
        cases digit
      rw [shape] at whole
      exact number?_unsigned unsigned whole (fraction?_of_ends ends) (exponent?_of_ends ends)

theorem number?_minus_toDigits (n : Nat) (ends : Ends rest)
    : number? ('-' :: Nat.toDigits 10 n ++ rest)
      = some
          (((numberOf true (Nat.toDigits 10 n) none none).map Json.num).getD .skipped, rest) := by
  simp only [number?, List.cons_append, whole?_toDigits n ends, fraction?_of_ends ends,
    exponent?_of_ends ends, Option.bind_eq_bind, Option.bind_some]
  rfl

theorem numberOf_toDigits {value : Int} (inRange : -signedBound ≤ value ∧ value < unsignedBound)
    {negative : Bool} {n : Nat} (signed : value = if negative then -(n : Int) else n)
    (notNegativeZero : (negative && n == 0) = false)
    : numberOf negative (Nat.toDigits 10 n) none none = some (.int value inRange) := by
  have fits : Number.ofInt? value = some (.int value inRange) := dif_pos inRange
  simp only [numberOf, Nat.ofDigitChars_ten_toDigits, ← signed, notNegativeZero,
    Option.isNone_none, Bool.not_false, Bool.and_self, if_true, fits]

/-- The text of an integer is read as that integer. -/
theorem number?_int {value : Int} (inRange : -signedBound ≤ value ∧ value < unsignedBound)
    (ends : Ends rest)
    : number? ((Number.int value inRange).chars ++ rest)
      = some (.num (.int value inRange), rest) := by
  cases value with
  | ofNat n =>
      have read := number?_toDigits n ends
      rw [numberOf_toDigits inRange rfl rfl] at read
      exact read
  | negSucc n =>
      have read := number?_minus_toDigits (n + 1) ends
      rw [numberOf_toDigits inRange rfl rfl] at read
      exact read

/-- Whether the text of a number is read as that number, wherever it ends. The last places of a
binary number may be lost.
-/
def ReadsBack (n : Number) : Prop :=
  ∀ rest, Ends rest → number? (n.chars ++ rest) = some (.num n, rest)

theorem readsBack_int {value : Int} (inRange : -signedBound ≤ value ∧ value < unsignedBound)
    : ReadsBack (.int value inRange) :=
  fun _ ends => number?_int inRange ends

end Parser

/-- What was written item by item is read back item by item. -/
theorem mapM_map_of_inverse {α β : Type} {write : α → β} {read? : β → Option α}
    (back : ∀ item, read? (write item) = some item) (items : List α)
    : (items.map write).mapM read? = some items := by
  have inverse : read? ∘ write = fun item => pure (id item) := funext back
  rw [List.mapM_map, inverse, List.mapM_pure, List.map_id]
  rfl

-----------------------------------------------------------------------------------------
-- Documents
-----------------------------------------------------------------------------------------

mutual

/-- Whether a document inside so many containers has only numbers that are read back, leaves nothing
out, and has no container that stands too deep.
-/
def Plain (depth : Nat) : Json → Prop
  | .num value => Parser.ReadsBack value
  | .skipped => False
  | .arr items => depth < Parser.depthLimit ∧ ItemsPlain (depth + 1) items
  | .obj members => depth < Parser.depthLimit ∧ MembersPlain (depth + 1) members
  | _ => True

/-- Whether every item is plain. -/
def ItemsPlain (depth : Nat) : List Json → Prop
  | [] => True
  | item :: rest => item.Plain depth ∧ ItemsPlain depth rest

/-- Whether the value of every member is plain. -/
def MembersPlain (depth : Nat) : List (String × Json) → Prop
  | [] => True
  | (_, value) :: rest => value.Plain depth ∧ MembersPlain depth rest

end

theorem itemsPlain_iff {depth : Nat} {items : List Json}
    : ItemsPlain depth items ↔ ∀ item ∈ items, item.Plain depth := by
  induction items with
  | nil => simp [ItemsPlain]
  | cons item rest ih => simp [ItemsPlain, ih]

theorem membersPlain_iff {depth : Nat} {members : List (String × Json)}
    : MembersPlain depth members ↔ ∀ member ∈ members, member.2.Plain depth := by
  induction members with
  | nil => simp [MembersPlain]
  | cons member rest ih => simp [MembersPlain, ih]

-----------------------------------------------------------------------------------------
-- Layouts
-----------------------------------------------------------------------------------------

/-- Where blanks stand in a text: before an item, a member or the end of a container, by the number
of containers around it, and behind the colon of a member.
-/
structure Layout where
  before : Nat → List Char
  gap : List Char
  blank_before : ∀ level, ∀ c ∈ before level, Parser.isBlank c = true
  blank_gap : ∀ c ∈ gap, Parser.isBlank c = true

namespace Layout

mutual

/-- The text of a document inside `level` containers. -/
def chars (l : Layout) (level : Nat) : Json → List Char
  | .arr (item :: rest) =>
      '[' :: l.before (level + 1) ++ l.chars (level + 1) item ++ l.items level rest
  | .obj ((key, value) :: rest) =>
      '{' :: l.before (level + 1) ++ quoted key ++ ':' :: l.gap ++ l.chars (level + 1) value
        ++ l.members level rest
  | leaf => leaf.chars

/-- The items after the first one, and the end of their array. -/
def items (l : Layout) (level : Nat) : List Json → List Char
  | [] => l.before level ++ [']']
  | item :: rest =>
      ',' :: l.before (level + 1) ++ l.chars (level + 1) item ++ l.items level rest

/-- The members after the first one, and the end of their object. -/
def members (l : Layout) (level : Nat) : List (String × Json) → List Char
  | [] => l.before level ++ ['}']
  | (key, value) :: rest =>
      ',' :: l.before (level + 1) ++ quoted key ++ ':' :: l.gap ++ l.chars (level + 1) value
        ++ l.members level rest

end

/-- A text without any blank. -/
def compact : Layout := ⟨fun _ => [], [], by simp, by simp⟩

/-- A text with an item or a member a line. -/
def indented : Layout where
  before := lineBreak
  gap := [' ']
  blank_before level c member := by
    rcases List.mem_cons.mp member with rfl | space
    · decide
    · rw [List.eq_of_mem_replicate space]
      decide
  blank_gap c member := by
    rw [List.mem_singleton.mp member]
    decide

mutual

theorem chars_compact (level : Nat) (doc : Json) : compact.chars level doc = doc.chars := by
  cases doc with
  | arr items =>
      cases items with
      | nil => simp only [chars, Json.chars]
      | cons item rest =>
          simp only [chars, Json.chars, chars_compact (level + 1) item, items_compact level rest]
          rfl
  | obj members =>
      cases members with
      | nil => simp only [chars, Json.chars]
      | cons member rest =>
          obtain ⟨key, value⟩ := member
          simp only [chars, Json.chars, chars_compact (level + 1) value,
            members_compact level rest, List.append_assoc]
          rfl
  | null | bool _ | num _ | str _ | skipped => simp only [chars]

theorem items_compact (level : Nat) (parts : List Json)
    : compact.items level parts = itemsChars parts := by
  match parts with
  | [] => rfl
  | item :: rest =>
      simp only [items, itemsChars, chars_compact (level + 1) item, items_compact level rest]
      rfl

theorem members_compact (level : Nat) (parts : List (String × Json))
    : compact.members level parts = membersChars parts := by
  match parts with
  | [] => rfl
  | (key, value) :: rest =>
      simp only [members, membersChars, chars_compact (level + 1) value,
        members_compact level rest, List.append_assoc]
      rfl

end

mutual

theorem chars_indented (level : Nat) (doc : Json)
    : indented.chars level doc = doc.indentedChars level := by
  cases doc with
  | arr items =>
      cases items with
      | nil => simp only [chars, indentedChars]
      | cons item rest =>
          simp only [chars, indentedChars, chars_indented (level + 1) item,
            items_indented level rest]
          rfl
  | obj members =>
      cases members with
      | nil => simp only [chars, indentedChars]
      | cons member rest =>
          obtain ⟨key, value⟩ := member
          simp only [chars, indentedChars, chars_indented (level + 1) value,
            members_indented level rest, List.append_assoc]
          rfl
  | null | bool _ | num _ | str _ | skipped => simp only [chars, indentedChars]

theorem items_indented (level : Nat) (parts : List Json)
    : indented.items level parts = indentedItems level parts := by
  match parts with
  | [] => rfl
  | item :: rest =>
      simp only [items, indentedItems, chars_indented (level + 1) item, items_indented level rest]
      rfl

theorem members_indented (level : Nat) (parts : List (String × Json))
    : indented.members level parts = indentedMembers level parts := by
  match parts with
  | [] => rfl
  | (key, value) :: rest =>
      simp only [members, indentedMembers, chars_indented (level + 1) value,
        members_indented level rest, List.append_assoc]
      rfl

end

end Layout

namespace Parser

variable {cs rest : List Char}

/-- Neither a blank nor a mark that stands behind a value could belong to a number. -/
theorem ends_cons {c : Char} (mark : isBlank c = true ∨ c = ',' ∨ c = ']' ∨ c = '}')
    : Ends (c :: rest) := by
  intro first same
  cases same
  simp only [isBlank, Bool.or_eq_true, decide_eq_true_eq] at mark
  rcases mark with (((rfl | rfl) | rfl) | rfl) | rfl | rfl | rfl <;> decide

theorem ends_before {c : Char} (l : Layout) (level : Nat) (mark : c = ']' ∨ c = '}')
    : Ends (l.before level ++ (c :: rest)) := by
  cases blanks : l.before level with
  | nil => exact ends_cons (.inr (.inr mark))
  | cons first _ =>
      exact ends_cons (.inl (l.blank_before level first (blanks ▸ List.mem_cons_self)))

/-- Of several members, the keys as they are read, each with the value. -/
def keyed (members : List (String × Json)) : List (Option (List Char) × Json) :=
  members.map fun (key, value) => (some key.toList, value)

theorem objectOf_keyed {depth : Nat} (shallow : depth < depthLimit) (members : List (String × Json))
    : objectOf depth (keyed members) = .obj members := by
  rw [objectOf, keyed, mapM_map_of_inverse]
  · simp only [nested, shallow, if_true]
  · intro member
    simp

theorem ends_items (l : Layout) (level : Nat) (items : List Json) (rest : List Char)
    : Ends (l.items level items ++ rest) := by
  cases items with
  | nil =>
      rw [Layout.items, List.append_assoc]
      exact ends_before l level (.inl rfl)
  | cons _ _ => exact ends_cons (.inr (.inl rfl))

theorem ends_members (l : Layout) (level : Nat) (members : List (String × Json))
    (rest : List Char)
    : Ends (l.members level members ++ rest) := by
  cases members with
  | nil =>
      rw [Layout.members, List.append_assoc]
      exact ends_before l level (.inr rfl)
  | cons _ _ => exact ends_cons (.inr (.inl rfl))

theorem ne_of_isDigit {c other : Char} (digit : c.isDigit = true) (mark : other.isDigit = false)
    : c ≠ other := by
  rintro rfl
  rw [digit] at mark
  cases mark

/-- What is read as a number starts with a minus sign or a digit. -/
theorem exists_head_of_number? {read : Json × List Char} (h : number? cs = some read)
    : ∃ c others, cs = c :: others ∧ (c = '-' ∨ c.isDigit = true) := by
  cases cs with
  | nil => cases h
  | cons c others =>
      refine ⟨c, others, rfl, ?_⟩
      by_cases minus : c = '-'
      · exact .inl minus
      · cases digit : c.isDigit with
        | true => exact .inr rfl
        | false =>
            have noZero : c ≠ '0' := by
              rintro rfl
              cases digit
            have unread : whole? (c :: others) = none := by
              simp [whole?, digits?, digit, noZero]
            simp [number?, minus, unread] at h

theorem exists_head_of_readsBack {n : Number} (back : ReadsBack n)
    : ∃ c others, n.chars = c :: others ∧ (c = '-' ∨ c.isDigit = true) := by
  have read := back [] ends_nil
  rw [List.append_nil] at read
  exact exists_head_of_number? read

/-- The text of a document starts with no blank and not with the end of an array. -/
theorem exists_head {depth : Nat} {doc : Json} (plain : doc.Plain depth) (l : Layout) (level : Nat)
    : ∃ c others, l.chars level doc = c :: others ∧ isBlank c = false ∧ c ≠ ']' := by
  cases doc with
  | null => exact ⟨'n', _, rfl, by decide, by decide⟩
  | bool value => cases value <;> exact ⟨_, _, rfl, by decide, by decide⟩
  | num value =>
      obtain ⟨c, others, text, minus | digit⟩ := exists_head_of_readsBack plain
      · subst minus
        exact ⟨'-', others, text, by decide, by decide⟩
      · refine ⟨c, others, text, ?_, ne_of_isDigit digit rfl⟩
        have other (mark : Char) (noDigit : mark.isDigit = false) : decide (c = mark) = false :=
          decide_eq_false (ne_of_isDigit digit noDigit)
        simp only [isBlank, other ' ' rfl, other '\t' rfl, other '\n' rfl, other '\r' rfl,
          Bool.or_self]
  | str value => exact ⟨'"', _, rfl, by decide, by decide⟩
  | arr items => cases items <;> exact ⟨'[', _, rfl, by decide, by decide⟩
  | obj members => cases members <;> exact ⟨'{', _, rfl, by decide, by decide⟩
  | skipped => cases plain

theorem skipBlanks_cons {c : Char} (visible : isBlank c = false) (rest : List Char)
    : skipBlanks (c :: rest) = c :: rest := by
  simp [skipBlanks, visible]

theorem skipBlanks_before (l : Layout) (level : Nat) (rest : List Char)
    : skipBlanks (l.before level ++ rest) = skipBlanks rest :=
  List.dropWhile_append_of_pos (l.blank_before level)

theorem skipBlanks_gap (l : Layout) (rest : List Char)
    : skipBlanks (l.gap ++ rest) = skipBlanks rest :=
  List.dropWhile_append_of_pos l.blank_gap

/-- A number is read where one stands. -/
theorem value?_number {fuel depth : Nat} {n : Number} (back : ReadsBack n) (ends : Ends rest)
    (text : skipBlanks cs = n.chars ++ rest)
    : value? (fuel + 1) depth cs = some (.num n, rest) := by
  have read := back rest ends
  obtain ⟨c, others, shape, first⟩ := exists_head_of_readsBack back
  have never {mark : Char} {behind : List Char} (noDigit : mark.isDigit = false)
      (noMinus : mark ≠ '-') (equal : skipBlanks cs = mark :: behind)
      : False := by
    rw [text, shape] at equal
    cases equal
    rcases first with minus | digit
    · exact noMinus minus
    · exact ne_of_isDigit digit noDigit rfl
  rw [value?]
  split
  -- Six marks stand for other values.
  iterate 6
    · next equal => exact (never rfl (by decide) equal).elim
  · rw [text, read]

section Layout

variable {l : Layout} {level depth : Nat} {item value : Json} {items : List Json} {key : String}
  {members : List (String × Json)}

theorem skipBlanks_chars (plain : value.Plain depth) (behind : List Char)
    : skipBlanks (l.chars level value ++ behind) = l.chars level value ++ behind := by
  obtain ⟨c, others, shape, visible, _⟩ := exists_head plain l level
  rw [shape]
  exact skipBlanks_cons visible _

theorem skipBlanks_item (plain : item.Plain depth) (behind : List Char)
    : skipBlanks (l.before level ++ (l.chars level item ++ behind))
      = l.chars level item ++ behind :=
  (skipBlanks_before l level _).trans (skipBlanks_chars plain behind)

theorem skipBlanks_value (plain : value.Plain depth) (behind : List Char)
    : skipBlanks (l.gap ++ (l.chars level value ++ behind)) = l.chars level value ++ behind :=
  (skipBlanks_gap l _).trans (skipBlanks_chars plain behind)

theorem skipBlanks_key (key : String) (behind : List Char)
    : skipBlanks (l.before level ++ (quoted key ++ behind))
      = '"' :: (key.toList.flatMap escape ++ '"' :: behind) := by
  rw [skipBlanks_before]
  simp only [quoted, List.cons_append, List.append_assoc, List.nil_append]
  exact skipBlanks_cons rfl _

-----------------------------------------------------------------------------------------
-- Containers
-----------------------------------------------------------------------------------------

theorem chars_array
    : l.chars level (.arr (item :: items)) ++ rest
      = '[' :: (l.before (level + 1)
        ++ (l.chars (level + 1) item ++ (l.items level items ++ rest))) := by
  simp only [Layout.chars, List.cons_append, List.append_assoc]

theorem chars_object
    : l.chars level (.obj ((key, value) :: members)) ++ rest
      = '{' :: (l.before (level + 1)
        ++ (quoted key
          ++ (':' :: (l.gap ++ (l.chars (level + 1) value
            ++ (l.members level members ++ rest)))))) := by
  simp only [Layout.chars, List.cons_append, List.append_assoc]

theorem skipBlanks_items_nil : skipBlanks (l.items level [] ++ rest) = ']' :: rest := by
  rw [Layout.items, List.append_assoc, skipBlanks_before]
  rfl

theorem skipBlanks_items_cons
    : skipBlanks (l.items level (item :: items) ++ rest)
      = ',' :: (l.before (level + 1)
        ++ (l.chars (level + 1) item ++ (l.items level items ++ rest))) := by
  simp only [Layout.items, List.cons_append, List.append_assoc]
  exact skipBlanks_cons rfl _

theorem skipBlanks_members_nil : skipBlanks (l.members level [] ++ rest) = '}' :: rest := by
  rw [Layout.members, List.append_assoc, skipBlanks_before]
  rfl

theorem skipBlanks_members_cons
    : skipBlanks (l.members level ((key, value) :: members) ++ rest)
      = ',' :: (l.before (level + 1)
        ++ (quoted key
          ++ (':' :: (l.gap ++ (l.chars (level + 1) value
            ++ (l.members level members ++ rest)))))) := by
  simp only [Layout.members, List.cons_append, List.append_assoc]
  exact skipBlanks_cons rfl _

end Layout

-----------------------------------------------------------------------------------------
-- Rules of the readers
-----------------------------------------------------------------------------------------

section Rules

variable {fuel depth : Nat} {inside start after next : List Char} {item value : Json} {key : String}

theorem value?_string {read : String}
    (text : skipBlanks cs = '"' :: (read.toList.flatMap escape ++ '"' :: rest))
    : value? (fuel + 1) depth cs = some (.str read, rest) := by
  rw [value?, text]
  simp only [string?_flatMap_escape, Option.map_some, Option.getD_some, String.ofList_toList]

/-- An array in which something stands is read item by item. -/
theorem value?_array {items : List Json} (shallow : depth < depthLimit)
    (text : skipBlanks cs = '[' :: inside) (front : skipBlanks inside = start)
    (occupied : ∀ others, start ≠ ']' :: others)
    (read : items? fuel (depth + 1) start = some (items, rest))
    : value? (fuel + 1) depth cs = some (.arr items, rest) := by
  rw [value?, text]
  simp only [front]
  -- What stands there is no end of the array, so the other branch is taken.
  rw [read]
  simp only [Option.map_some, nested, shallow, if_true]

/-- An object in which a key stands is read member by member. -/
theorem value?_object {members : List (String × Json)} (shallow : depth < depthLimit)
    (text : skipBlanks cs = '{' :: inside) (front : skipBlanks inside = '"' :: start)
    (read : members? fuel (depth + 1) ('"' :: start) = some (keyed members, rest))
    : value? (fuel + 1) depth cs = some (.obj members, rest) := by
  rw [value?, text]
  simp only [front]
  split
  · next equal => cases equal
  · simp only [read, Option.map_some, objectOf_keyed shallow]

theorem items?_last (first : value? fuel depth cs = some (item, after))
    (behind : skipBlanks after = ']' :: rest)
    : items? (fuel + 1) depth cs = some ([item], rest) := by
  rw [items?, first]
  simp only [behind]

theorem items?_more {items : List Json} (first : value? fuel depth cs = some (item, after))
    (behind : skipBlanks after = ',' :: next) (read : items? fuel depth next = some (items, rest))
    : items? (fuel + 1) depth cs = some (item :: items, rest) := by
  rw [items?, first]
  simp only [behind, read, Option.map_some]

theorem members?_last
    (text : skipBlanks cs = '"' :: (key.toList.flatMap escape ++ '"' :: ':' :: start))
    (first : value? fuel depth start = some (value, after))
    (behind : skipBlanks after = '}' :: rest)
    : members? (fuel + 1) depth cs = some (keyed [(key, value)], rest) := by
  rw [members?, text]
  simp only [string?_flatMap_escape, skipBlanks_cons (c := ':') rfl, first, behind]
  rfl

theorem members?_more {members : List (String × Json)}
    (text : skipBlanks cs = '"' :: (key.toList.flatMap escape ++ '"' :: ':' :: start))
    (first : value? fuel depth start = some (value, after))
    (behind : skipBlanks after = ',' :: next)
    (read : members? fuel depth next = some (keyed members, rest))
    : members? (fuel + 1) depth cs = some (keyed ((key, value) :: members), rest) := by
  rw [members?, text]
  simp only [string?_flatMap_escape, skipBlanks_cons (c := ':') rfl, first, behind, read,
    Option.map_some]
  rfl

end Rules

-----------------------------------------------------------------------------------------
-- Reading back
-----------------------------------------------------------------------------------------

-- Each reader calls the others with one unit of fuel less, which is what the induction is on. An
-- item takes a unit besides those of its value, so twice the length of the text is enough.
mutual

/-- The text of a document is read as that document, wherever something else may follow it. -/
theorem value?_chars {l : Layout} {doc : Json} {level fuel depth : Nat} {cs rest : List Char}
    (plain : doc.Plain depth) (enough : 2 * (l.chars level doc).length ≤ fuel)
    (ends : Ends rest) (text : skipBlanks cs = l.chars level doc ++ rest)
    : value? fuel depth cs = some (doc, rest) := by
  obtain ⟨c, others, shape, _⟩ := exists_head plain l level
  obtain ⟨fuel, rfl⟩ : ∃ less, fuel = less + 1 := by
    refine ⟨fuel - 1, ?_⟩
    simp only [shape, List.length_cons] at enough
    omega
  cases doc with
  | null =>
      rw [value?, text]
      rfl
  | bool value =>
      rw [value?, text]
      cases value <;> rfl
  | num value => exact value?_number plain ends text
  | str value =>
      exact value?_string
        (text.trans (List.append_assoc ('"' :: value.toList.flatMap escape) ['"'] rest))
  | arr items =>
      obtain ⟨shallow, parts⟩ := plain
      cases items with
      | nil =>
          have front : skipBlanks cs = '[' :: ']' :: rest := text
          rw [value?, front]
          simp only [skipBlanks_cons (c := ']') rfl, nested, shallow, if_true]
      | cons item items =>
          obtain ⟨first, others⟩ := parts
          have bound : 2 * ((l.chars (level + 1) item).length
              + (l.items level items).length) < fuel := by
            simp only [Layout.chars, List.length_cons, List.length_append] at enough
            omega
          have read
              : items? fuel (depth + 1)
                  (l.chars (level + 1) item ++ (l.items level items ++ rest))
                = some (item :: items, rest) :=
            items?_items first others bound (skipBlanks_chars first _)
          refine value?_array shallow (text.trans chars_array) (skipBlanks_item first _) ?_ read
          intro behind equal
          obtain ⟨_, _, start, _, notEnd⟩ := exists_head first l (level + 1)
          rw [start] at equal
          cases equal
          exact notEnd rfl
  | obj members =>
      obtain ⟨shallow, parts⟩ := plain
      cases members with
      | nil =>
          have front : skipBlanks cs = '{' :: '}' :: rest := text
          rw [value?, front]
          simp only [skipBlanks_cons (c := '}') rfl, nested, shallow, if_true]
      | cons member members =>
          obtain ⟨key, value⟩ := member
          obtain ⟨first, others⟩ := parts
          have bound : 2 * ((l.chars (level + 1) value).length
              + (l.members level members).length) < fuel := by
            simp only [Layout.chars, List.length_cons, List.length_append] at enough
            omega
          have read : members? fuel (depth + 1)
                ('"' :: (key.toList.flatMap escape
                  ++ '"' :: ':' :: (l.gap ++ (l.chars (level + 1) value
                    ++ (l.members level members ++ rest)))))
              = some (keyed ((key, value) :: members), rest) :=
            members?_members first others bound (skipBlanks_cons rfl _)
          exact value?_object shallow (text.trans chars_object) (skipBlanks_key key _) read
  | skipped => cases plain
termination_by fuel

/-- The text of items behind the start of their array is read as those items. -/
theorem items?_items {l : Layout} {item : Json} {items : List Json} {level fuel depth : Nat}
    {cs rest : List Char} (plain : item.Plain depth) (others : ItemsPlain depth items)
    (enough : 2 * ((l.chars (level + 1) item).length + (l.items level items).length) < fuel)
    (text : skipBlanks cs = l.chars (level + 1) item ++ (l.items level items ++ rest))
    : items? fuel depth cs = some (item :: items, rest) := by
  obtain ⟨fuel, rfl⟩ : ∃ less, fuel = less + 1 := ⟨fuel - 1, by omega⟩
  have first : value? fuel depth cs = some (item, l.items level items ++ rest) :=
    value?_chars plain (by omega) (ends_items l level items rest) text
  cases items with
  | nil => exact items?_last first skipBlanks_items_nil
  | cons next items =>
      obtain ⟨second, others⟩ := others
      have bound : 2 * ((l.chars (level + 1) next).length + (l.items level items).length)
          < fuel := by
        simp only [Layout.items, List.length_cons, List.length_append] at enough
        omega
      exact items?_more first skipBlanks_items_cons
        (items?_items second others bound (skipBlanks_item second _))
termination_by fuel

/-- The text of members behind the start of their object is read as those members. -/
theorem members?_members {l : Layout} {key : String} {value : Json}
    {members : List (String × Json)} {level fuel depth : Nat} {cs rest : List Char}
    (plain : value.Plain depth) (others : MembersPlain depth members)
    (enough : 2 * ((l.chars (level + 1) value).length + (l.members level members).length) < fuel)
    (text
      : skipBlanks cs
        = '"' :: (key.toList.flatMap escape
          ++ '"' :: ':' :: (l.gap ++ (l.chars (level + 1) value
            ++ (l.members level members ++ rest)))))
    : members? fuel depth cs = some (keyed ((key, value) :: members), rest) := by
  obtain ⟨fuel, rfl⟩ : ∃ less, fuel = less + 1 := ⟨fuel - 1, by omega⟩
  have first
      : value? fuel depth
          (l.gap ++ (l.chars (level + 1) value ++ (l.members level members ++ rest)))
        = some (value, l.members level members ++ rest) :=
    value?_chars plain (by omega) (ends_members l level members rest) (skipBlanks_value plain _)
  cases members with
  | nil => exact members?_last text first skipBlanks_members_nil
  | cons next members =>
      obtain ⟨next, other⟩ := next
      obtain ⟨second, others⟩ := others
      have bound : 2 * ((l.chars (level + 1) other).length + (l.members level members).length)
          < fuel := by
        simp only [Layout.members, List.length_cons, List.length_append] at enough
        omega
      exact members?_more text first skipBlanks_members_cons
        (members?_members second others bound (skipBlanks_key next _))
termination_by fuel

end

end Parser

/-- A text in which a document is laid out is read as that document. -/
theorem parse?_chars {doc : Json} (plain : doc.Plain 0) (l : Layout)
    : parse? (String.ofList (l.chars 0 doc)) = some doc := by
  have enough : 2 * (l.chars 0 doc).length ≤ 2 * (String.ofList (l.chars 0 doc)).length + 2 := by
    simp
  have text : Parser.skipBlanks (l.chars 0 doc) = l.chars 0 doc ++ [] := by
    have visible : Parser.skipBlanks (l.chars 0 doc ++ []) = l.chars 0 doc ++ [] :=
      Parser.skipBlanks_chars plain []
    rwa [List.append_nil] at visible ⊢
  simp only [parse?, String.toList_ofList, Parser.value?_chars plain enough Parser.ends_nil text]
  rfl

theorem parse?_indented {doc : Json} (plain : doc.Plain 0) : parse? doc.indented = some doc := by
  rw [indented, ← Layout.chars_indented]
  exact parse?_chars plain _

theorem parse?_compact {doc : Json} (plain : doc.Plain 0) : parse? doc.compact = some doc := by
  rw [compact, ← Layout.chars_compact 0]
  exact parse?_chars plain _

end TaskFabric.Json
