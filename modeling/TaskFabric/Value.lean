import TaskFabric.Json
import TaskFabric.SortedMap

/-! Payload values: documents in normal form. The members of an object stand in increasing key order
without repetition and every part stands for a value, so a payload has one representation. Reading
back what was written gives the same payload where its numbers are integers; a binary number may
come back changed in its last places (`Double.scaled?`).
-/

namespace TaskFabric

-----------------------------------------------------------------------------------------
-- Normal documents
-----------------------------------------------------------------------------------------

namespace Json

mutual

/-- Every part stands for a value and the members of every object are in increasing key order. -/
def Normal : Json → Prop
  | .arr items => ItemsNormal items
  | .obj members => Entries.Increasing members ∧ MembersNormal members
  | .skipped => False
  | _ => True

/-- Every item is normal. -/
def ItemsNormal : List Json → Prop
  | [] => True
  | item :: rest => item.Normal ∧ ItemsNormal rest

/-- The value of every member is normal. -/
def MembersNormal : List (String × Json) → Prop
  | [] => True
  | (_, value) :: rest => value.Normal ∧ MembersNormal rest

end

mutual

/-- The normal form of a document: of the members with one key the last one stays. There is none
if a part stands for no value, be it the value of a member that another one replaces.
-/
def normalize? : Json → Option Json
  | .arr items => (normalizeItems? items).map Json.arr
  | .obj members => (normalizeMembers? members).map Json.obj
  | .skipped => none
  | leaf => some leaf

/-- The normal forms of items. -/
def normalizeItems? : List Json → Option (List Json)
  | [] => some []
  | item :: rest =>
      match item.normalize?, normalizeItems? rest with
      | some item, some rest => some (item :: rest)
      | _, _ => none

/-- The normal forms of members, in increasing key order. A member gives way to a later one. -/
def normalizeMembers? : List (String × Json) → Option (List (String × Json))
  | [] => some []
  | (key, value) :: rest =>
      match value.normalize?, normalizeMembers? rest with
      | some value, some rest =>
          if (Entries.get? key rest).isSome then some rest
          else some (Entries.insert key value rest)
      | _, _ => none

end

theorem itemsNormal_iff {items : List Json} : ItemsNormal items ↔ ∀ item ∈ items, item.Normal := by
  induction items with
  | nil => simp [ItemsNormal]
  | cons item rest ih => simp [ItemsNormal, ih]

theorem membersNormal_iff {members : List (String × Json)}
    : MembersNormal members ↔ ∀ member ∈ members, member.2.Normal := by
  induction members with
  | nil => simp [MembersNormal]
  | cons member rest ih => obtain ⟨key, value⟩ := member; simp [MembersNormal, ih]

mutual

theorem normal_of_normalize? {doc form : Json} (h : doc.normalize? = some form) : form.Normal := by
  cases doc with
  | arr items =>
      rw [normalize?] at h
      obtain ⟨items', hi, rfl⟩ := Option.map_eq_some_iff.mp h
      exact itemsNormal_of_normalizeItems? hi
  | obj members =>
      rw [normalize?] at h
      obtain ⟨members', hm, rfl⟩ := Option.map_eq_some_iff.mp h
      exact increasing_of_normalizeMembers? hm
  | skipped => simp [normalize?] at h
  | null => simp [normalize?] at h; subst h; simp [Normal]
  | bool value => simp [normalize?] at h; subst h; simp [Normal]
  | num value => simp [normalize?] at h; subst h; simp [Normal]
  | str value => simp [normalize?] at h; subst h; simp [Normal]

theorem itemsNormal_of_normalizeItems? {items forms : List Json}
    (h : normalizeItems? items = some forms)
    : ItemsNormal forms := by
  cases items with
  | nil => simp [normalizeItems?] at h; subst h; simp [ItemsNormal]
  | cons item rest =>
      rw [normalizeItems?] at h
      split at h
      · next item' rest' hi hr =>
          simp only [Option.some.injEq] at h
          subst h
          exact ⟨normal_of_normalize? hi, itemsNormal_of_normalizeItems? hr⟩
      · simp at h

theorem increasing_of_normalizeMembers? {members forms : List (String × Json)}
    (h : normalizeMembers? members = some forms)
    : Entries.Increasing forms ∧ MembersNormal forms := by
  cases members with
  | nil => simp [normalizeMembers?] at h; subst h; simp [MembersNormal, Entries.Increasing]
  | cons member rest =>
      obtain ⟨key, value⟩ := member
      rw [normalizeMembers?] at h
      split at h
      · next value' rest' hv hr =>
          have ih := increasing_of_normalizeMembers? hr
          split at h
          · simp only [Option.some.injEq] at h
            exact h ▸ ih
          · simp only [Option.some.injEq] at h
            subst h
            refine ⟨Entries.increasing_insert _ _ ih.1, membersNormal_iff.mpr fun member hm => ?_⟩
            rcases Entries.mem_of_mem_insert hm with rfl | hm
            · exact normal_of_normalize? hv
            · exact membersNormal_iff.mp ih.2 member hm
      · simp at h

end

end Json

-----------------------------------------------------------------------------------------
-- Payload values
-----------------------------------------------------------------------------------------

/-- A payload: a document in normal form. -/
structure Value where
  doc : Json
  normal : doc.Normal

namespace Value

/-- The payload with no content. -/
def null : Value := ⟨.null, by simp [Json.Normal]⟩

instance : Inhabited Value := ⟨null⟩

/-- A truth value. -/
def bool (b : Bool) : Value := ⟨.bool b, by simp [Json.Normal]⟩

/-- A number. -/
def num (n : Number) : Value := ⟨.num n, by simp [Json.Normal]⟩

/-- A text. -/
def str (s : String) : Value := ⟨.str s, by simp [Json.Normal]⟩

/-- A list of payloads. -/
def list (items : List Value) : Value :=
  ⟨.arr (items.map (·.doc)), by
    rw [Json.Normal, Json.itemsNormal_iff]
    intro item hi
    obtain ⟨value, _, rfl⟩ := List.mem_map.mp hi
    exact value.normal⟩

/-- A binary fraction, or no content where a computation left the finite numbers. -/
def ofDouble? (d : Option Double) : Value := (d.map fun d => num (.double d)).getD null

/-- The payload of a document, unless a part of it stands for no value. -/
def ofJson? (doc : Json) : Option Value :=
  match h : doc.normalize? with
  | some form => some ⟨form, Json.normal_of_normalize? h⟩
  | none => none

/-- The number, if the payload is one. -/
def number? (v : Value) : Option Number :=
  match v.doc with
  | .num n => some n
  | _ => none

/-- The payload as a signed 64-bit integer, if it is a number written as one in this range. -/
def int64? (v : Value) : Option Int64 :=
  match v.doc.int? with
  | some i => if FitsSigned i then some (Int64.ofInt i) else none
  | none => none

/-- The payload as an unsigned 64-bit integer, if it is a number written as one in this range. -/
def uint64? (v : Value) : Option UInt64 := v.doc.uint64?

end Value

end TaskFabric
