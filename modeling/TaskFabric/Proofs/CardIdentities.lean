import Mathlib.Data.List.Induction
import TaskFabric.Card

/-! The identity of a card says its address: the last colon separates the port again, since the
digits of a port hold none. A text is an address exactly if such a port stands behind its last
colon, with leading zeros or a plus sign where they may be.
-/

namespace TaskFabric

namespace Text

variable {mark : Char} {cs before behind : List Char}

theorem splitAtLast?_eq_none (noMark : mark ∉ behind) : splitAtLast? mark behind = none := by
  induction behind with
  | nil => rfl
  | cons c rest ih =>
      obtain ⟨different, others⟩ := not_or.mp (mt List.mem_cons.mpr noMark)
      simp only [splitAtLast?, ih others, if_neg (Ne.symm different)]

/-- A text is cut at a mark that does not occur behind it, by induction on what stands before. -/
theorem splitAtLast?_append (noMark : mark ∉ behind)
    : splitAtLast? mark (before ++ mark :: behind) = some (before, behind) := by
  induction before with
  | nil => simp only [List.nil_append, splitAtLast?, splitAtLast?_eq_none noMark, if_true]
  | cons c rest ih => simp only [List.cons_append, splitAtLast?, ih]

/-- A text in which a mark occurs has a last occurrence of it. -/
theorem exists_last_mark (occurs : mark ∈ cs)
    : ∃ before behind, cs = before ++ mark :: behind ∧ mark ∉ behind := by
  induction cs with
  | nil => cases occurs
  | cons c rest ih =>
      by_cases later : mark ∈ rest
      · obtain ⟨before, behind, rfl, noMark⟩ := ih later
        exact ⟨c :: before, behind, rfl, noMark⟩
      · obtain rfl : mark = c := (List.mem_cons.mp occurs).resolve_right later
        exact ⟨[], rest, rfl, later⟩

theorem splitAtLast?_eq_none_iff : splitAtLast? mark cs = none ↔ mark ∉ cs := by
  constructor
  · intro uncut occurs
    obtain ⟨before, behind, rfl, noMark⟩ := exists_last_mark occurs
    rw [splitAtLast?_append noMark] at uncut
    cases uncut
  · exact splitAtLast?_eq_none

theorem splitAtLast?_eq_some_iff
    : splitAtLast? mark cs = some (before, behind)
      ↔ cs = before ++ mark :: behind ∧ mark ∉ behind := by
  constructor
  · intro cut
    have occurs : mark ∈ cs := by
      by_contra noMark
      rw [splitAtLast?_eq_none noMark] at cut
      cases cut
    obtain ⟨_, _, rfl, noMark⟩ := exists_last_mark occurs
    rw [splitAtLast?_append noMark] at cut
    cases cut
    exact ⟨rfl, noMark⟩
  · rintro ⟨rfl, noMark⟩
    exact splitAtLast?_append noMark

end Text

-----------------------------------------------------------------------------------------
-- Decimal notation
-----------------------------------------------------------------------------------------

namespace Decimal

/-- What digits stand for: a digit for itself, and one behind others for itself and ten times what
those stand for.
-/
inductive Denotes : List Char → Nat → Prop
  | digit {c : Char} (digit : c.isDigit = true) : Denotes [c] (c.toNat - '0'.toNat)
  | more {cs : List Char} {n : Nat} {c : Char} (front : Denotes cs n) (digit : c.isDigit = true)
    : Denotes (cs ++ [c]) (10 * n + (c.toNat - '0'.toNat))

variable {cs : List Char} {n bound : Nat}

theorem Denotes.ne_nil (number : Denotes cs n) : cs ≠ [] := by
  cases number <;> simp

theorem Denotes.isDigit (number : Denotes cs n) : ∀ c ∈ cs, c.isDigit = true := by
  induction number with
  | digit digit => exact List.forall_mem_singleton.mpr digit
  | more _ digit ih => exact List.forall_mem_append.mpr ⟨ih, List.forall_mem_singleton.mpr digit⟩

theorem Denotes.value (number : Denotes cs n) : Nat.ofDigitChars 10 cs 0 = n := by
  induction number with
  | digit _ => simp [Nat.ofDigitChars]
  | more _ _ ih =>
      rw [Nat.ofDigitChars_append, ih]
      rfl

/-- Digits denote their value, by induction from the last one. -/
theorem denotes_of_isDigit (digits : ∀ c ∈ cs, c.isDigit = true) (some : cs ≠ [])
    : Denotes cs (Nat.ofDigitChars 10 cs 0) := by
  induction cs using List.reverseRecOn with
  | nil => exact absurd rfl some
  | append_singleton front c ih =>
      obtain ⟨others, last⟩ := List.forall_mem_append.mp digits
      have digit : c.isDigit = true := last c List.mem_cons_self
      cases front with
      | nil =>
          have alone := Denotes.digit digit
          rwa [← alone.value] at alone
      | cons first rest =>
          have longer := (ih others (List.cons_ne_nil _ _)).more digit
          rwa [← longer.value] at longer

theorem natural?_eq_some_iff : natural? cs = some n ↔ Denotes cs n := by
  have read : natural? cs = some n
      ↔ (cs ≠ [] ∧ ∀ c ∈ cs, c.isDigit = true) ∧ Nat.ofDigitChars 10 cs 0 = n := by
    simp [natural?]
  rw [read]
  constructor
  · rintro ⟨⟨some, digits⟩, rfl⟩
    exact denotes_of_isDigit digits some
  · intro number
    exact ⟨⟨number.ne_nil, number.isDigit⟩, number.value⟩

/-- A plus sign is no digit, so a sign before digits can be told from none. -/
theorem signedNatural?_eq_some_iff
    : signedNatural? cs = some n
      ↔ ∃ sign digits, cs = sign ++ digits ∧ (sign = [] ∨ sign = ['+']) ∧ Denotes digits n := by
  constructor
  · intro read
    unfold signedNatural? at read
    split at read
    · next rest => exact ⟨['+'], rest, rfl, .inr rfl, natural?_eq_some_iff.mp read⟩
    · exact ⟨[], cs, rfl, .inl rfl, natural?_eq_some_iff.mp read⟩
  · rintro ⟨_, digits, rfl, rfl | rfl, number⟩
    · have unsigned : signedNatural? digits = natural? digits := by
        unfold signedNatural?
        split
        · have plus := number.isDigit '+' List.mem_cons_self
          cases plus
        · rfl
      exact unsigned.trans (natural?_eq_some_iff.mpr number)
    · exact natural?_eq_some_iff.mpr number

theorem below?_eq_some_iff : below? bound cs = some n ↔ signedNatural? cs = some n ∧ n < bound := by
  unfold below?
  cases signedNatural? cs with
  | none => simp
  | some m => grind

end Decimal

namespace Card

variable {a b : Card}

theorem splitAtLast?_identityChars (c : Card)
    : Text.splitAtLast? ':' c.identityChars
      = some (c.ip.toList, Nat.toDigits 10 c.port.toNat) := by
  refine Text.splitAtLast?_append ?_
  intro colon
  have digit : Char.isDigit ':' = true :=
    Nat.isDigit_of_mem_toDigits (by decide) (by decide) colon
  cases digit

/-- Cards of one identity have one address. -/
theorem sameAddress_of_identity_eq (same : a.identity = b.identity) : a.sameAddress b = true := by
  have chars : a.identityChars = b.identityChars := String.ofList_inj.mp same
  have parts := congrArg (Text.splitAtLast? ':') chars
  simp only [splitAtLast?_identityChars, Option.some.injEq, Prod.mk.injEq] at parts
  obtain ⟨hosts, digits⟩ := parts
  have host : a.ip = b.ip := String.toList_inj.mp hosts
  have number : a.port.toNat = b.port.toNat :=
    calc
      a.port.toNat = Nat.ofDigitChars 10 (Nat.toDigits 10 a.port.toNat) 0 :=
        Nat.ofDigitChars_ten_toDigits.symm
      _ = Nat.ofDigitChars 10 (Nat.toDigits 10 b.port.toNat) 0 := by rw [digits]
      _ = b.port.toNat := Nat.ofDigitChars_ten_toDigits
  simp [sameAddress, host, UInt16.toNat_inj.mp number]

theorem identity_eq_of_sameAddress (same : a.sameAddress b = true) : a.identity = b.identity := by
  simp only [sameAddress, Bool.and_eq_true, beq_iff_eq] at same
  obtain ⟨ip, port⟩ := same
  simp only [identity, identityChars, ip, port]

-----------------------------------------------------------------------------------------
-- Addresses
-----------------------------------------------------------------------------------------

/-- Whether a text is the address of a host and a port. The port stands behind the last colon, in
decimal digits behind at most one plus sign.
-/
inductive IsAddress (text host : String) (port : UInt16) : Prop
  | written {sign digits : List Char}
    (parts : text.toList = host.toList ++ ':' :: (sign ++ digits)) (last : ':' ∉ sign ++ digits)
    (signed : sign = [] ∨ sign = ['+']) (number : Decimal.Denotes digits port.toNat)
    : IsAddress text host port

variable {text : String} {card : Card}

theorem isAddress_iff {host : String} {port : UInt16}
    : IsAddress text host port
      ↔ ∃ behind,
          Text.splitAtLast? ':' text.toList = some (host.toList, behind)
          ∧ Decimal.below? UInt16.size behind = some port.toNat := by
  constructor
  · rintro ⟨parts, last, signed, number⟩
    refine ⟨_, Text.splitAtLast?_eq_some_iff.mpr ⟨parts, last⟩, ?_⟩
    refine Decimal.below?_eq_some_iff.mpr ⟨?_, port.toNat_lt⟩
    exact Decimal.signedNatural?_eq_some_iff.mpr ⟨_, _, rfl, signed, number⟩
  · rintro ⟨_, cut, read⟩
    obtain ⟨parts, last⟩ := Text.splitAtLast?_eq_some_iff.mp cut
    obtain ⟨_, _, rfl, signed, number⟩ :=
      Decimal.signedNatural?_eq_some_iff.mp (Decimal.below?_eq_some_iff.mp read).1
    exact .written parts last signed number

theorem parse_of_isAddress {host : String} {port : UInt16} (address : IsAddress text host port)
    : parse text = .ok (ofAddress host port) := by
  obtain ⟨behind, cut, read⟩ := isAddress_iff.mp address
  simp only [parse, cut, read, String.ofList_toList, Nat.toUInt16_eq, UInt16.ofNat_toNat]

theorem IsAddress.colon_mem {host : String} {port : UInt16} (address : IsAddress text host port)
    : ':' ∈ text.toList := by
  cases address with
  | written parts _ _ _ =>
      rw [parts]
      exact List.mem_append_right _ List.mem_cons_self

/-- What comes of reading a text. There is no colon, or no port behind the last one, or the text is
an address.
-/
inductive Reading (text : String) : Except AddressError Card → Prop
  | noColon (none : ':' ∉ text.toList) : Reading text (.error (.missingPort text))
  | noPort (colon : ':' ∈ text.toList) (never : ∀ host port, ¬IsAddress text host port)
    : Reading text (.error (.invalidPort text))
  | found {host : String} {port : UInt16} (address : IsAddress text host port)
    : Reading text (.ok (ofAddress host port))

theorem reading_parse (text : String) : Reading text (parse text) := by
  unfold parse
  split
  · next uncut => exact .noColon (Text.splitAtLast?_eq_none_iff.mp uncut)
  · next host behind cut =>
      split
      · next n read =>
          have small : n.toUInt16.toNat = n := by
            have below : n < UInt16.size := (Decimal.below?_eq_some_iff.mp read).2
            simpa using below
          refine .found (isAddress_iff.mpr ⟨behind, ?_, ?_⟩)
          · rw [String.toList_ofList, cut]
          · rw [small, read]
      · next unread =>
          refine .noPort ?_ ?_
          · rw [(Text.splitAtLast?_eq_some_iff.mp cut).1]
            exact List.mem_append_right _ List.mem_cons_self
          · intro host' port address
            obtain ⟨behind', cut', read⟩ := isAddress_iff.mp address
            rw [cut] at cut'
            cases cut'
            rw [unread] at read
            cases read

theorem isAddress_identity (card : Card) : IsAddress card.identity card.ip card.port := by
  refine isAddress_iff.mpr ⟨Nat.toDigits 10 card.port.toNat, ?_, ?_⟩
  · rw [identity, String.toList_ofList, splitAtLast?_identityChars]
  · refine Decimal.below?_eq_some_iff.mpr ⟨?_, card.port.toNat_lt⟩
    have number := Decimal.natural?_eq_some_iff.mp (Decimal.natural?_toDigits card.port.toNat)
    exact Decimal.signedNatural?_eq_some_iff.mpr ⟨[], _, rfl, .inl rfl, number⟩

/-- Addresses are read and written alike. A text is read as a card exactly if it is an address, and
then as the card of its host and port; a text without a colon lacks a port, and any other one has an
invalid port. The identity of every card, whatever its host looks like, is read as its host and
port, and two cards have one identity exactly if they have one address.
-/
theorem addresses_parse_and_print
    : (∀ text card,
        parse text = .ok card
          ↔ IsAddress text card.ip card.port ∧ card = ofAddress card.ip card.port)
      ∧ (∀ text e,
        parse text = .error e
          ↔ ':' ∉ text.toList ∧ e = .missingPort text
            ∨ ':' ∈ text.toList ∧ (∀ host port, ¬IsAddress text host port) ∧ e = .invalidPort text)
      ∧ (∀ card : Card, parse card.identity = .ok (ofAddress card.ip card.port))
      ∧ ∀ a b : Card, a.sameAddress b = true ↔ a.identity = b.identity := by
  refine ⟨?accepted, ?refused, ?printed, ?known⟩
  case accepted =>
    intro text card
    constructor
    · intro read
      have reading := reading_parse text
      rw [read] at reading
      cases reading with
      | found address => exact ⟨address, rfl⟩
    · rintro ⟨address, same⟩
      rw [same]
      exact parse_of_isAddress address
  case refused =>
    intro text e
    have reading := reading_parse text
    generalize parse text = result at reading
    cases reading with
    | noColon none => grind
    | noPort colon never => grind
    | found address =>
        have colon := address.colon_mem
        have some : ¬∀ host port, ¬IsAddress text host port := fun never => never _ _ address
        grind
  case printed => exact fun card => parse_of_isAddress card.isAddress_identity
  case known => exact fun a b => ⟨identity_eq_of_sameAddress, sameAddress_of_identity_eq⟩

example : parse "::1:+0080" = .ok (ofAddress "::1" 80) := by rfl

end Card

end TaskFabric
