import TaskFabric.Http.Client
import TaskFabric.Pipeline.Wire
import TaskFabric.Proofs.Persistence.Restart

/-! The forms in which values travel and are kept lose nothing. Every record comes back from its
document in every field, whether a field is renamed, left out when it is empty, kept as a level or
spread out in another record, and every payload comes back as it is. Texts are read as the documents
that they were written from, so texts lose nothing either.
-/

namespace TaskFabric

-----------------------------------------------------------------------------------------
-- Payloads
-----------------------------------------------------------------------------------------

namespace Json

mutual

/-- A document in normal form is its own normal form. -/
theorem normalize?_of_normal {doc : Json} (normal : doc.Normal) : doc.normalize? = some doc := by
  cases doc with
  | null | bool _ | num _ | str _ => rw [normalize?] <;> simp
  | arr items => rw [normalize?, normalizeItems?_of_normal normal, Option.map_some]
  | obj members =>
      obtain ⟨increasing, values⟩ := normal
      rw [normalize?, normalizeMembers?_of_normal increasing values, Option.map_some]
  | skipped => cases normal

theorem normalizeItems?_of_normal {items : List Json} (normal : ItemsNormal items)
    : normalizeItems? items = some items := by
  match items, normal with
  | [], _ => rw [normalizeItems?]
  | _ :: _, ⟨first, others⟩ =>
      rw [normalizeItems?, normalize?_of_normal first, normalizeItems?_of_normal others]

/-- No member gives way to a later one, and each is placed in front of those that follow it. -/
theorem normalizeMembers?_of_normal {members : List (String × Json)}
    (increasing : Entries.Increasing members) (normal : MembersNormal members)
    : normalizeMembers? members = some members := by
  match members, normal with
  | [], _ => rw [normalizeMembers?]
  | (key, value) :: rest, ⟨first, others⟩ =>
      obtain ⟨below, ordered⟩ := List.pairwise_cons.mp increasing
      have absent : Entries.get? key rest = none := Entries.get?_eq_none_of_lt below
      have front : Entries.insert key value rest = (key, value) :: rest := by
        cases rest with
        | nil => rfl
        | cons next _ => rw [Entries.insert, below next List.mem_cons_self]
      simp only [normalizeMembers?, normalize?_of_normal first,
        normalizeMembers?_of_normal ordered others, absent, Option.isSome_none,
        Bool.false_eq_true, if_false, front]

end

theorem plain_map {α : Type} {write : α → Json} {items : List α} {depth : Nat}
    (shallow : depth < Parser.depthLimit)
    (parts : ∀ item ∈ items, (write item).Plain (depth + 1))
    : (arr (items.map write)).Plain depth := by
  refine ⟨shallow, itemsPlain_iff.mpr fun doc listed => ?_⟩
  obtain ⟨item, among, rfl⟩ := List.mem_map.mp listed
  exact parts item among

/-- A list comes back from its document if its items do. -/
theorem list?_map {α : Type} {read? : Json → Option α} {write : α → Json}
    (back : ∀ item, read? (write item) = some item) (items : List α)
    : list? read? (.arr (items.map write)) = some items :=
  mapM_map_of_inverse back items

end Json

@[simp] theorem Value.ofJson?_doc (v : Value) : Value.ofJson? v.doc = some v := by
  unfold Value.ofJson?
  split
  · next form read =>
      cases (Json.normalize?_of_normal v.normal).symm.trans read
      rfl
  · next unread => cases (Json.normalize?_of_normal v.normal).symm.trans unread

-----------------------------------------------------------------------------------------
-- Levels and codes
-----------------------------------------------------------------------------------------

@[simp] theorem TaskType.ofLevel_level (t : TaskType) : ofLevel t.level = t := by
  cases t <;> rfl

@[simp] theorem Priority.ofLevel_level (p : Priority) : ofLevel p.level = p := by
  cases p <;> rfl

/-- A code that stands for no step is kept, as the others are. -/
theorem MessageType.code_ofCode (code : UInt8) : (ofCode code).code = code := by
  unfold ofCode
  split_ifs with zero one two three
  · exact zero.symm
  · exact one.symm
  · exact two.symm
  · exact three.symm
  · rfl
  · -- No code is left.
    grind

@[simp] theorem MessageType.ofCode_code (t : MessageType) : ofCode t.code = t := by
  cases t with
  | sync | ack | ack2 | ack3 => rfl
  | unknown code noStep =>
      have other (step : UInt8) (low : step ≤ 3) : code ≠ step := by
        rintro rfl
        exact absurd noStep (UInt8.not_lt.mpr low)
      simp [ofCode, MessageType.code, other 0 (by decide), other 1 (by decide),
        other 2 (by decide), other 3 (by decide), noStep]

@[simp] theorem StatusCode.ofJson?_name (c : StatusCode) : ofJson? (.str c.name) = some c := by
  cases c <;> decide

-----------------------------------------------------------------------------------------
-- Tasks
-----------------------------------------------------------------------------------------

namespace Task

/-- Whether the payloads of a task whose document stands inside so many containers can be written
out and read again: their numbers are read back, and no container of theirs stands too deep.
-/
def Legible (depth : Nat) (t : Task) : Prop :=
  ∀ value ∈ t.source ++ t.result ++ t.context.values, value.doc.Plain (depth + 2)

theorem plain_toJson (t : Task) {depth : Nat} (legible : t.Legible depth)
    (shallow : depth + 1 < Json.Parser.depthLimit)
    : t.toJson.Plain depth := by
  have outer : depth < Json.Parser.depthLimit := by omega
  have payloads {values : List Value} (among : values ⊆ t.source ++ t.result ++ t.context.values)
      : (payloadsToJson values).Plain (depth + 1) :=
    Json.plain_map shallow fun value listed => legible value (among listed)
  have context : (Json.ofMap id Value.doc t.context).Plain (depth + 1) :=
    Json.plain_ofMap shallow fun value listed =>
      legible value (List.mem_append_right _ listed)
  exact ⟨outer, Json.plain_ofNat _, Json.plain_ofNat _, .intro, payloads (by simp),
    payloads (by simp), context, Json.plain_ofNat _, .intro⟩

/-- A task comes back from its document, with its payloads. -/
@[simp] theorem ofJson?_toJson (t : Task) : ofJson? t.toJson = some t := by
  have payloads (values : List Value)
      : Json.list? Value.ofJson? (payloadsToJson values) = some values :=
    Json.list?_map Value.ofJson?_doc values
  have context : Json.map? some Value.ofJson? (Json.ofMap id Value.doc t.context)
      = some t.context :=
    Json.map?_ofMap (fun _ => rfl) Value.ofJson?_doc t.context
  simp [ofJson?, toJson, Json.fields?, fieldNames, Json.field?, Json.optional, Json.text?,
    payloads, context]

end Task

namespace Batch

theorem plain_toJson {b : Batch} (legible : ∀ t ∈ b.values, t.Legible 1) : (toJson b).Plain 0 :=
  Json.plain_ofMap (by decide) fun t listed => t.plain_toJson (legible t listed) (by decide)

theorem toList_keyOf (index : UInt64) : (keyOf index).toList = Nat.toDigits 10 index.toNat :=
  String.toList_ofList

@[simp] theorem index?_keyOf (index : UInt64) : index? (keyOf index) = some index := by
  have small : index.toNat < UInt64.size := index.toNat_lt
  simp [index?, toList_keyOf, Decimal.natural?_toDigits, small]

@[simp] theorem ofJson?_toJson (b : Batch) : ofJson? (toJson b) = some b :=
  Json.map?_ofMap index?_keyOf Task.ofJson?_toJson b

end Batch

-----------------------------------------------------------------------------------------
-- Pipelines
-----------------------------------------------------------------------------------------

@[simp] theorem Stage.ofJson?_toJson (s : Stage) : ofJson? s.toJson = some s := by
  simp [ofJson?, toJson, Json.fields?, fieldNames, Json.field?, Json.required, Json.optional,
    Json.text?]

theorem Stage.plain_toJson (s : Stage) {depth : Nat} (shallow : depth < Json.Parser.depthLimit)
    : s.toJson.Plain depth :=
  ⟨shallow, .intro, .intro, Json.plain_ofNat _, Json.plain_ofNat _, .intro⟩

@[simp] theorem Pipeline.ofJson?_toJson (p : Pipeline) : ofJson? p.toJson = some p := by
  have stages : Json.list? Stage.ofJson? (.arr (p.stages.map Stage.toJson)) = some p.stages :=
    Json.list?_map Stage.ofJson?_toJson p.stages
  simp [ofJson?, toJson, Json.fields?, Json.field?, Json.required, stages]

theorem Pipeline.plain_toJson (p : Pipeline) : p.toJson.Plain 0 :=
  ⟨by decide, Json.plain_map (by decide) fun stage _ => stage.plain_toJson (by decide), .intro⟩

-----------------------------------------------------------------------------------------
-- Messages
-----------------------------------------------------------------------------------------

/-- A status comes back from its document; a detail that is left out was empty. -/
@[simp] theorem Status.ofJson?_toJson (s : Status) : ofJson? s.toJson = some s := by
  obtain ⟨code, detail⟩ := s
  by_cases noDetail : detail = ""
  · subst noDetail
    simp [ofJson?, toJson, Json.fields?, fieldNames, Json.field?, Json.required, Json.optional]
  · simp [ofJson?, toJson, Json.fields?, fieldNames, Json.field?, Json.required, Json.optional,
      Json.text?, noDetail]

theorem Status.plain_toJson (s : Status) {depth : Nat} (shallow : depth < Json.Parser.depthLimit)
    : s.toJson.Plain depth := by
  refine ⟨shallow, .intro, ?_⟩
  -- A detail is among the members or left out.
  split
  · exact .intro
  · exact ⟨.intro, .intro⟩

/-- A message comes back from its document: the members of its view stand among its own, and no two
of them have one name.
-/
@[simp] theorem Message.ofJson?_toJson (m : Message) : ofJson? m.toJson = some m := by
  have timestamp : (Json.ofUInt64 m.digest.timestamp).isReadable = true := rfl
  simp [ofJson?, toJson, Json.flattenedFields?, fieldNames, Digest.fieldNames, Digest.members,
    Json.field?, Json.required, Json.optional, Json.text?, m.digest.isReadable_cards, timestamp,
    m.digest.ofFields?_members]

theorem Message.plain_toJson (m : Message) : m.toJson.Plain 0 := by
  have view : Json.MembersPlain 1 m.digest.members := m.digest.plain_members (by decide)
  obtain ⟨cards, timestamp, _⟩ := view
  exact ⟨by decide, .intro, m.sender.plain_toJson (by decide), m.addressee.plain_toJson (by decide),
    cards, timestamp, m.status.plain_toJson (by decide), Json.plain_ofNat _, .intro⟩

-----------------------------------------------------------------------------------------
-- Keys without escapes
-----------------------------------------------------------------------------------------

namespace Json

namespace Parser

theorem escape_of_isDigit {c : Char} (digit : c.isDigit = true) : escape c = [c] := by
  have visible : ¬c.toNat < 32 := by
    simp only [Char.isDigit, Bool.and_eq_true, decide_eq_true_eq] at digit
    have low : 48 ≤ c.toNat := digit.1
    omega
  have other (mark : Char) (noDigit : mark.isDigit = false) : c ≠ mark :=
    ne_of_isDigit digit noDigit
  simp only [escape, other '"' rfl, other '\\' rfl, other '\x08' rfl, other '\x0c' rfl,
    other '\n' rfl, other '\r' rfl, other '\t' rfl, visible, if_false]

/-- A key of digits is written without escapes, by induction on its characters. -/
theorem isVerbatim_of_isDigit {cs : List Char} (digits : ∀ c ∈ cs, c.isDigit = true)
    (rest : List Char)
    : isVerbatim (cs.flatMap escape ++ '"' :: rest) = true := by
  induction cs with
  | nil => rfl
  | cons c others ih =>
      obtain ⟨digit, digits⟩ := List.forall_mem_cons.mp digits
      have noEscape : c ≠ '\\' := ne_of_isDigit digit rfl
      rw [List.flatMap_cons, escape_of_isDigit digit, List.append_assoc, List.singleton_append,
        isVerbatim, ih digits]
      simp [noEscape]

section Rules

variable {fuel : Nat} {cs start after rest : List Char} {key : String} {value : Json}

theorem verbatimKeys_last
    (text : skipBlanks cs = '"' :: (key.toList.flatMap escape ++ '"' :: ':' :: start))
    (first : value? fuel 1 start = some (value, after)) (behind : skipBlanks after = '}' :: rest)
    : verbatimKeys (fuel + 1) cs
      = isVerbatim (key.toList.flatMap escape ++ '"' :: ':' :: start) := by
  rw [verbatimKeys, text]
  simp only [string?_flatMap_escape, skipBlanks_cons (c := ':') rfl, List.drop_one, List.tail_cons,
    first, Option.map_some, behind]
  rfl

theorem verbatimKeys_more
    (text : skipBlanks cs = '"' :: (key.toList.flatMap escape ++ '"' :: ':' :: start))
    (first : value? fuel 1 start = some (value, after)) (behind : skipBlanks after = ',' :: rest)
    : verbatimKeys (fuel + 1) cs
      = (isVerbatim (key.toList.flatMap escape ++ '"' :: ':' :: start)
        && verbatimKeys fuel rest) := by
  rw [verbatimKeys, text]
  simp only [string?_flatMap_escape, skipBlanks_cons (c := ':') rfl, List.drop_one, List.tail_cons,
    first, Option.map_some, behind]

end Rules

/-- Members with keys of digits have verbatim keys. The values are read as when the members are. -/
theorem verbatimKeys_members {l : Layout} {key : String} {value : Json}
    {members : List (String × Json)} {level fuel : Nat} {cs rest : List Char}
    (plain : value.Plain 1) (others : MembersPlain 1 members)
    (digits : ∀ member ∈ (key, value) :: members, ∀ c ∈ member.1.toList, c.isDigit = true)
    (enough : 2 * ((l.chars (level + 1) value).length + (l.members level members).length) < fuel)
    (text
      : skipBlanks cs
        = '"' :: (key.toList.flatMap escape
          ++ '"' :: ':' :: (l.gap ++ (l.chars (level + 1) value
            ++ (l.members level members ++ rest)))))
    : verbatimKeys fuel cs = true := by
  obtain ⟨fuel, rfl⟩ : ∃ less, fuel = less + 1 := ⟨fuel - 1, by omega⟩
  obtain ⟨own, followed⟩ := List.forall_mem_cons.mp digits
  have first
      : value? fuel 1 (l.gap ++ (l.chars (level + 1) value ++ (l.members level members ++ rest)))
        = some (value, l.members level members ++ rest) :=
    value?_chars plain (by omega) (ends_members l level members rest) (skipBlanks_value plain _)
  cases members with
  | nil => rw [verbatimKeys_last text first skipBlanks_members_nil, isVerbatim_of_isDigit own]
  | cons next members =>
      obtain ⟨next, other⟩ := next
      obtain ⟨second, others⟩ := others
      have bound : 2 * ((l.chars (level + 1) other).length + (l.members level members).length)
          < fuel := by
        simp only [Layout.members, List.length_cons, List.length_append] at enough
        omega
      rw [verbatimKeys_more text first skipBlanks_members_cons, isVerbatim_of_isDigit own,
        Bool.true_and]
      exact verbatimKeys_members second others followed bound (skipBlanks_key next _)
termination_by fuel

end Parser

/-- An object with keys of digits has verbatim keys in its text, however it is laid out. -/
theorem hasVerbatimKeys_chars {members : List (String × Json)} (plain : (obj members).Plain 0)
    (digits : ∀ member ∈ members, ∀ c ∈ member.1.toList, c.isDigit = true) (l : Layout)
    : hasVerbatimKeys (String.ofList (l.chars 0 (.obj members))) = true := by
  obtain ⟨_, parts⟩ := plain
  cases members with
  | nil =>
      simp only [hasVerbatimKeys, String.toList_ofList]
      rfl
  | cons member members =>
      obtain ⟨key, value⟩ := member
      obtain ⟨first, others⟩ := parts
      have text := (List.append_nil (l.chars 0 (.obj ((key, value) :: members)))).symm.trans
        Parser.chars_object
      simp only [hasVerbatimKeys, String.toList_ofList, text, Parser.skipBlanks_cons (c := '{') rfl]
      refine Parser.verbatimKeys_members first others digits ?_ (Parser.skipBlanks_key key _)
      simp only [String.length_ofList, List.length_cons, List.length_append, List.length_nil]
      omega

theorem hasVerbatimKeys_ofMap {κ α : Type} [Ord κ] {writeKey : κ → String} {write : α → Json}
    (digits : ∀ key, ∀ c ∈ (writeKey key).toList, c.isDigit = true) {m : SortedMap κ α}
    (plain : (ofMap writeKey write m).Plain 0)
    : hasVerbatimKeys (ofMap writeKey write m).compact = true := by
  rw [compact, ← Layout.chars_compact 0]
  refine hasVerbatimKeys_chars plain (fun member listed => ?_) .compact
  obtain ⟨entry, _, rfl⟩ := List.mem_map.mp listed
  exact digits entry.1

end Json

namespace Batch

/-- A batch comes back from its text, in which no index is written with an escape. -/
theorem ofText?_compact {b : Batch} (legible : ∀ t ∈ b.values, t.Legible 1)
    : ofText? (toJson b).compact = some b := by
  have plain : (toJson b).Plain 0 := plain_toJson legible
  have digits (key : UInt64) : ∀ c ∈ (keyOf key).toList, c.isDigit = true := by
    rw [toList_keyOf]
    exact Json.Parser.isDigit_of_mem_toDigits _
  have verbatim : Json.hasVerbatimKeys (toJson b).compact = true :=
    Json.hasVerbatimKeys_ofMap digits plain
  rw [ofText?, verbatim, Json.parse?_compact plain, if_pos rfl, Option.bind_some, ofJson?_toJson]

end Batch

-----------------------------------------------------------------------------------------
-- What is written comes back
-----------------------------------------------------------------------------------------

/-- Whether reading undoes writing. Every value comes back as it was, equal in every field. -/
def Lossless {α β : Type} (write : α → β) (read? : β → Option α) : Prop :=
  ∀ value, read? (write value) = some value

/-- Reads the document of a text. -/
def Json.readText? {α : Type} (read? : Json → Option α) (text : String) : Option α :=
  (parse? text).bind read?

theorem Lossless.readText? {α : Type} {write : α → Json} {read? : Json → Option α}
    (back : Lossless write read?) {value : α} (plain : (write value).Plain 0)
    : Json.readText? read? (write value).compact = some value := by
  rw [Json.readText?, Json.parse?_compact plain, Option.bind_some, back value]

theorem Lossless.compact {α : Type} {write : α → Json} {read? : Json → Option α}
    (back : Lossless write read?) (plain : ∀ value, (write value).Plain 0)
    : Lossless (fun value => (write value).compact) (Json.readText? read?) :=
  fun value => back.readText? (plain value)

/-- The body of no reply is that of no value. -/
theorem readReply?_compact
    : Lossless (fun reply : Option Message => ((reply.map Message.toJson).getD .null).compact)
        Http.Client.readReply? := by
  intro reply
  cases reply with
  | none =>
      have read : Json.parse? Json.null.compact = some .null := Json.parse?_compact .intro
      simp only [Http.Client.readReply?, Option.map_none, Option.getD_none, read]
  | some m =>
      have read : Json.parse? m.toJson.compact = some m.toJson := Json.parse?_compact m.plain_toJson
      have back : (Message.ofJson? m.toJson).map some = some (some m) := by
        rw [Message.ofJson?_toJson, Option.map_some]
      simp only [Http.Client.readReply?, Option.map_some, Option.getD_some, read]
      exact back

/-- No wire or file form loses anything. Every record comes back from its document equal in every
field, with the codes of messages that stand for no step. It also comes back from its text, without
any blank on the wire and with a member a line in a case file; the text of a task or batch has to
give its payloads back, which may be any documents.
-/
theorem wire_forms_lose_nothing
    : (Lossless Card.toJson Card.ofJson?
        ∧ Lossless Digest.toJson Digest.ofJson?
        ∧ Lossless Task.toJson Task.ofJson?
        ∧ Lossless Batch.toJson Batch.ofJson?
        ∧ Lossless Stage.toJson Stage.ofJson?
        ∧ Lossless Pipeline.toJson Pipeline.ofJson?
        ∧ Lossless Status.toJson Status.ofJson?
        ∧ Lossless Message.toJson Message.ofJson?
        ∧ (∀ code, (MessageType.ofCode code).code = code)
        ∧ Lossless CaseState.toJson CaseState.ofJson?)
      ∧ (Lossless (fun card : Card => card.toJson.compact) (Json.readText? Card.ofJson?)
        ∧ Lossless (fun view : Digest => view.toJson.compact) (Json.readText? Digest.ofJson?)
        ∧ Lossless (fun stage : Stage => stage.toJson.compact) (Json.readText? Stage.ofJson?)
        ∧ Lossless (fun p : Pipeline => p.toJson.compact) (Json.readText? Pipeline.ofJson?)
        ∧ Lossless (fun status : Status => status.toJson.compact) (Json.readText? Status.ofJson?)
        ∧ Lossless (fun m : Message => m.toJson.compact) (Json.readText? Message.ofJson?)
        ∧ Lossless (fun reply : Option Message => ((reply.map Message.toJson).getD .null).compact)
          Http.Client.readReply?
        ∧ Lossless CaseState.fileText CaseState.ofFileText?)
      ∧ (∀ t : Task, t.Legible 0 → Json.readText? Task.ofJson? t.toJson.compact = some t)
      ∧ ∀ b : Batch,
        (∀ t ∈ b.values, t.Legible 1) → Batch.ofText? (Batch.toJson b).compact = some b := by
  have card : Lossless Card.toJson Card.ofJson? := Card.ofJson?_toJson
  have view : Lossless Digest.toJson Digest.ofJson? := Digest.ofJson?_toJson
  have task : Lossless Task.toJson Task.ofJson? := Task.ofJson?_toJson
  have stage : Lossless Stage.toJson Stage.ofJson? := Stage.ofJson?_toJson
  have pipeline : Lossless Pipeline.toJson Pipeline.ofJson? := Pipeline.ofJson?_toJson
  have status : Lossless Status.toJson Status.ofJson? := Status.ofJson?_toJson
  have message : Lossless Message.toJson Message.ofJson? := Message.ofJson?_toJson
  refine ⟨?documents, ?texts, ?tasks, ?batches⟩
  case documents =>
    exact ⟨card, view, task, Batch.ofJson?_toJson, stage, pipeline, status, message,
      MessageType.code_ofCode, CaseState.ofJson?_toJson⟩
  case texts =>
    exact ⟨card.compact fun c => c.plain_toJson (by decide),
      view.compact Digest.plain_toJson,
      stage.compact fun s => s.plain_toJson (by decide),
      pipeline.compact Pipeline.plain_toJson,
      status.compact fun s => s.plain_toJson (by decide),
      message.compact Message.plain_toJson,
      readReply?_compact,
      CaseState.ofFileText?_fileText⟩
  case tasks => exact fun t legible => task.readText? (t.plain_toJson legible (by decide))
  case batches => exact fun b legible => Batch.ofText?_compact legible

/-- A fraction that needs one digit behind the point. -/
def Double.half : Double := ⟨false, 1022 * Double.fractionCount, by decide⟩

open Json.Parser in
theorem Double.readsBack_half : ReadsBack (.double half) := by
  intro rest ends
  have chars : (Number.double half).chars = ['0', '.', '5'] := by decide +kernel
  have value : numberOf false ['0'] (some ['5']) none = some (.double half) := by decide +kernel
  have whole : whole? ('0' :: '.' :: '5' :: rest) = some (['0'], '.' :: '5' :: rest) := rfl
  have point : fraction? ('.' :: '5' :: rest) = some (some ['5'], rest) := by
    have digit : ∀ c ∈ ['5'], c.isDigit = true := List.forall_mem_singleton.mpr rfl
    rw [fraction?, ← List.singleton_append, digits?_append (List.cons_ne_nil _ _) digit ends]
    rfl
  have read := number?_unsigned (by decide) whole point (exponent?_of_ends ends)
  rwa [value] at read

/-- A task for a handler whose name has to be escaped, with payloads of many kinds. -/
def mixedTask : Task where
  type := .permanent
  priority := .urgent
  consumable := "a\"b\\c\n"
  source := [.null, .num (.double .half), .list [.str "", .num (.ofInt64 (-1))]]
  result := []
  context := SortedMap.empty.insert "" (.num (.ofUInt64 18446744073709551615))
  stage := 18446744073709551615

theorem legible_mixedTask {depth : Nat} (shallow : depth + 2 < Json.Parser.depthLimit)
    : mixedTask.Legible depth := by
  have payloads : mixedTask.source ++ mixedTask.result ++ mixedTask.context.values
      = [.null, .num (.double .half), .list [.str "", .num (.ofInt64 (-1))],
        .num (.ofUInt64 18446744073709551615)] :=
    rfl
  intro value listed
  rw [payloads] at listed
  simp only [List.mem_cons, List.not_mem_nil, or_false] at listed
  rcases listed with rfl | rfl | rfl | rfl
  · exact .intro
  · exact Double.readsBack_half
  · exact ⟨shallow, .intro, Json.Parser.readsBack_int _, .intro⟩
  · exact Json.Parser.readsBack_int _

/-- A task and a batch with the greatest stage and index come back from their texts. -/
theorem mixed_batch_comes_back
    : mixedTask.Legible 0
      ∧ Json.readText? Task.ofJson? mixedTask.toJson.compact = some mixedTask
      ∧ let batch : Batch := SortedMap.empty.insert 18446744073709551615 mixedTask
        (∀ t ∈ batch.values, t.Legible 1)
        ∧ Batch.ofText? (Batch.toJson batch).compact = some batch := by
  have alone : mixedTask.Legible 0 := legible_mixedTask (by decide)
  have batched : ∀ t ∈ [mixedTask], t.Legible 1 := by
    intro t listed
    rw [List.mem_singleton.mp listed]
    exact legible_mixedTask (by decide)
  exact ⟨alone, wire_forms_lose_nothing.2.2.1 mixedTask alone, batched,
    wire_forms_lose_nothing.2.2.2 _ batched⟩

end TaskFabric
