import TaskFabric.Digest.Wire
import TaskFabric.Proofs.Json.WrittenText
import TaskFabric.Proofs.SortedMapLookups

/-! Cards and views come back from their documents in every field, whatever their texts, keys and
numbers are, and their documents can be written out and read again.
-/

namespace TaskFabric

namespace Json

-----------------------------------------------------------------------------------------
-- Words
-----------------------------------------------------------------------------------------

theorem natBelow?_ofNat {n bound : Nat} (fits : n < UInt64.size) (below : n < bound)
    : (ofNat n fits).natBelow? bound = some n :=
  if_pos below

@[simp] theorem uint8?_ofUInt8 (n : UInt8) : (ofUInt8 n).uint8? = some n := by
  have fits : n.toNat < UInt64.size := Nat.lt_trans n.toNat_lt (by decide)
  have read : (ofUInt8 n).natBelow? UInt8.size = some n.toNat := natBelow?_ofNat fits n.toNat_lt
  rw [uint8?, read, Option.map_some]
  exact congrArg some UInt8.ofNat_toNat

@[simp] theorem uint16?_ofUInt16 (n : UInt16) : (ofUInt16 n).uint16? = some n := by
  have fits : n.toNat < UInt64.size := Nat.lt_trans n.toNat_lt (by decide)
  have read : (ofUInt16 n).natBelow? UInt16.size = some n.toNat := natBelow?_ofNat fits n.toNat_lt
  rw [uint16?, read, Option.map_some]
  exact congrArg some UInt16.ofNat_toNat

@[simp] theorem uint64?_ofUInt64 (n : UInt64) : (ofUInt64 n).uint64? = some n := by
  have read : (ofUInt64 n).natBelow? UInt64.size = some n.toNat :=
    natBelow?_ofNat n.toNat_lt n.toNat_lt
  rw [uint64?, read, Option.map_some]
  exact congrArg some UInt64.ofNat_toNat

theorem plain_ofNat {n depth : Nat} (fits : n < UInt64.size) : (ofNat n fits).Plain depth :=
  Parser.readsBack_int _

-----------------------------------------------------------------------------------------
-- Maps
-----------------------------------------------------------------------------------------

/-- A map comes back from its document if its keys and values do. -/
theorem map?_ofMap {κ α : Type} [Ord κ] [Std.TransOrd κ] [Std.LawfulEqOrd κ] [DecidableEq κ]
    {readKey? : String → Option κ} {writeKey : κ → String} {read? : Json → Option α}
    {write : α → Json} (keys : ∀ key, readKey? (writeKey key) = some key)
    (values : ∀ value, read? (write value) = some value) (m : SortedMap κ α)
    : map? readKey? read? (ofMap writeKey write m) = some m := by
  simp only [ofMap, map?]
  rw [mapM_map_of_inverse]
  · exact congrArg some m.ofList_toList
  · intro entry
    simp [keys, values]

theorem plain_ofMap {κ α : Type} [Ord κ] {writeKey : κ → String} {write : α → Json}
    {m : SortedMap κ α} {depth : Nat} (shallow : depth < Parser.depthLimit)
    (values : ∀ value ∈ m.values, (write value).Plain (depth + 1))
    : (ofMap writeKey write m).Plain depth := by
  refine ⟨shallow, membersPlain_iff.mpr fun member listed => ?_⟩
  obtain ⟨entry, among, rfl⟩ := List.mem_map.mp listed
  exact values entry.2 (List.mem_map_of_mem among)

-----------------------------------------------------------------------------------------
-- Readable documents
-----------------------------------------------------------------------------------------

mutual

/-- A document that can be written out and read again stands for a value. -/
theorem isReadable_of_plain {doc : Json} {depth : Nat} (plain : doc.Plain depth)
    : doc.isReadable = true := by
  cases doc with
  | null | bool _ | num _ | str _ => rfl
  | arr items => exact itemsReadable_of_plain plain.2
  | obj members => exact membersReadable_of_plain plain.2
  | skipped => cases plain

theorem itemsReadable_of_plain {items : List Json} {depth : Nat} (plain : ItemsPlain depth items)
    : itemsReadable items = true := by
  match items, plain with
  | [], _ => rfl
  | _ :: _, ⟨first, others⟩ =>
      rw [itemsReadable, isReadable_of_plain first, itemsReadable_of_plain others]
      rfl

theorem membersReadable_of_plain {members : List (String × Json)} {depth : Nat}
    (plain : MembersPlain depth members)
    : membersReadable members = true := by
  match members, plain with
  | [], _ => rfl
  | (_, _) :: _, ⟨first, others⟩ =>
      rw [membersReadable, isReadable_of_plain first, membersReadable_of_plain others]
      rfl

end

end Json

-----------------------------------------------------------------------------------------
-- Cards
-----------------------------------------------------------------------------------------

namespace Card

variable {depth : Nat}

theorem plain_toJson (c : Card) (shallow : depth < Json.Parser.depthLimit)
    : c.toJson.Plain depth := by
  refine ⟨shallow, ?_⟩
  -- A route is among the members or left out.
  split
  · exact ⟨.intro, Json.plain_ofNat _, .intro, .intro, .intro⟩
  · exact ⟨.intro, Json.plain_ofNat _, .intro, .intro, .intro, .intro⟩

/-- A card comes back from its document; a route that is left out was empty. -/
@[simp] theorem ofJson?_toJson (c : Card) : ofJson? c.toJson = some c := by
  obtain ⟨ip, port, alive, api, seed⟩ := c
  by_cases noRoute : api = ""
  · subst noRoute
    simp [ofJson?, toJson, Json.fields?, fieldNames, Json.field?, Json.required, Json.optional,
      Json.text?, Json.bool?]
  · simp [ofJson?, toJson, Json.fields?, fieldNames, Json.field?, Json.required, Json.optional,
      Json.text?, Json.bool?, noRoute]

end Card

-----------------------------------------------------------------------------------------
-- Views
-----------------------------------------------------------------------------------------

namespace Digest

variable {depth : Nat}

theorem plain_members (d : Digest) (shallow : depth + 1 < Json.Parser.depthLimit)
    : Json.MembersPlain depth d.members :=
  ⟨Json.plain_ofMap (by omega) fun card _ => card.plain_toJson shallow, Json.plain_ofNat _,
    True.intro⟩

theorem plain_toJson (d : Digest) : d.toJson.Plain 0 :=
  ⟨by decide, d.plain_members (by decide)⟩

theorem isReadable_cards (d : Digest)
    : (Json.ofMap id Card.toJson d.cards).isReadable = true := by
  have plain : Json.MembersPlain 0 d.members := d.plain_members (by decide)
  exact Json.isReadable_of_plain plain.1

/-- A view comes back from the fields of its document, with the keys under which it lists its cards.
-/
theorem ofFields?_members (d : Digest)
    : ofFields? (some (Json.ofMap id Card.toJson d.cards)) (some (Json.ofUInt64 d.timestamp))
      = some d := by
  have cards : Json.map? some Card.ofJson? (Json.ofMap id Card.toJson d.cards) = some d.cards :=
    Json.map?_ofMap (fun _ => rfl) Card.ofJson?_toJson d.cards
  simp [ofFields?, Json.optional, cards]

/-- A view comes back from a document of its own. -/
@[simp] theorem ofJson?_toJson (d : Digest) : ofJson? d.toJson = some d := by
  simp [ofJson?, toJson, members, Json.fields?, fieldNames, Json.field?, d.ofFields?_members]

end Digest

end TaskFabric
