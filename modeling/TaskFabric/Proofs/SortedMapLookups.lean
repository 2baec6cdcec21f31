import TaskFabric.SortedMap
import Mathlib.Data.List.Perm.Subperm

/-! Look-ups decide everything about a sorted map: which entries it has, which keys, and how many.
The operations on maps are described by what they do to look-ups.
-/

universe u v w

namespace TaskFabric

open Std (TransOrd LawfulEqOrd)

namespace Entries

variable {κ : Type u} {α : Type v} {β : Type w} [Ord κ]

/-- In increasing entries a look-up finds exactly the entry that is listed, by induction on the
entries; the keys behind a smaller one differ from it.
-/
theorem mem_iff_get?_eq_some [TransOrd κ] [LawfulEqOrd κ] {entries : List (κ × α)}
    (increasing : Increasing entries) {key : κ} {value : α}
    : (key, value) ∈ entries ↔ get? key entries = some value := by
  induction entries with
  | nil => simp [get?]
  | cons entry rest ih =>
      obtain ⟨below, tail⟩ := List.pairwise_cons.mp increasing
      by_cases same : compare key entry.1 = .eq
      · have equal := LawfulEqOrd.eq_of_compare same
        subst equal
        have absent : (entry.1, value) ∉ rest := by
          intro member
          have lower := below _ member
          simp at lower
        rw [get?, if_pos same, List.mem_cons]
        constructor
        · rintro (found | member)
          · rw [← found]
          · exact absurd member absent
        · intro found
          exact .inl (Prod.ext rfl (Option.some.inj found).symm)
      · have different : (key, value) ≠ entry := by
          rintro rfl
          exact same Std.ReflCmp.compare_self
        rw [get?, if_neg same, List.mem_cons, ← ih tail]
        exact or_iff_right different

theorem get?_map [LawfulEqOrd κ] (f : κ → α → β) (key : κ) (entries : List (κ × α))
    : get? key (entries.map fun entry => (entry.1, f entry.1 entry.2))
      = (get? key entries).map (f key) := by
  induction entries with
  | nil => rfl
  | cons entry rest ih =>
      by_cases same : compare key entry.1 = .eq
      · have equal := LawfulEqOrd.eq_of_compare same
        subst equal
        simp only [List.map_cons, get?, if_pos same, Option.map_some]
      · simp only [List.map_cons, get?, if_neg same, ih]

end Entries

namespace SortedMap

variable {κ : Type u} {α : Type v} {β : Type w} [Ord κ]

theorem length_keys (m : SortedMap κ α) : m.keys.length = m.size := by
  simp [keys, size]

@[simp]
theorem get?_map [LawfulEqOrd κ] (f : κ → α → β) (m : SortedMap κ α) (key : κ)
    : (m.map f).get? key = (m.get? key).map (f key) :=
  Entries.get?_map f key m.toList

/-- No key stands twice, since each is below those behind it. -/
theorem keys_nodup [LawfulEqOrd κ] (m : SortedMap κ α) : m.keys.Nodup := by
  apply List.pairwise_map.mpr
  refine m.increasing.imp ?_
  intro a b lower same
  rw [same] at lower
  simp at lower

variable [TransOrd κ] [LawfulEqOrd κ]

-----------------------------------------------------------------------------------------
-- Entries and keys
-----------------------------------------------------------------------------------------

theorem mem_toList_iff {m : SortedMap κ α} {key : κ} {value : α}
    : (key, value) ∈ m.toList ↔ m.get? key = some value :=
  Entries.mem_iff_get?_eq_some m.increasing

theorem mem_keys_iff {m : SortedMap κ α} {key : κ}
    : key ∈ m.keys ↔ ∃ value, m.get? key = some value := by
  simp only [keys, List.mem_map, Prod.exists, exists_and_right, exists_eq_right, mem_toList_iff]

theorem get?_eq_none_iff {m : SortedMap κ α} {key : κ} : m.get? key = none ↔ key ∉ m.keys := by
  rw [mem_keys_iff]
  cases m.get? key <;> simp

/-- Maps with the same keys list them alike: both lists are in increasing order. -/
theorem keys_eq_of_mem_iff {a : SortedMap κ α} {b : SortedMap κ β}
    (same : ∀ key, key ∈ a.keys ↔ key ∈ b.keys)
    : a.keys = b.keys := by
  -- Forgetting the values turns the maps of one key set into one map.
  have equal : a.map (fun _ _ => ()) = b.map (fun _ _ => ()) := by
    apply ext_get?
    intro key
    have here := same key
    simp only [mem_keys_iff] at here
    rw [get?_map, get?_map]
    cases ha : a.get? key <;> cases hb : b.get? key <;> simp_all
  have lists := congrArg (fun m => m.keys) equal
  simpa only [keys, map, List.map_map, Function.comp_def] using lists

/-- A map that has only keys of another one, but not fewer, has all of them, by counting. -/
theorem keys_eq_of_subset {a : SortedMap κ α} {b : SortedMap κ β} (subset : a.keys ⊆ b.keys)
    (size : b.size ≤ a.size)
    : a.keys = b.keys := by
  have perm : a.keys.Perm b.keys := by
    apply (List.subperm_of_subset a.keys_nodup subset).perm_of_length_le
    simpa only [length_keys] using size
  exact keys_eq_of_mem_iff fun key => perm.mem_iff

theorem get?_insert [DecidableEq κ] (m : SortedMap κ α) (key other : κ) (value : α)
    : (m.insert key value).get? other = if other = key then some value else m.get? other := by
  split
  · next same => rw [same, get?_insert_self]
  · next different => exact m.get?_insert_of_ne different value

theorem get?_filter_eq_some {m : SortedMap κ α} {keep : κ → α → Bool} {key : κ} {value : α}
    : (m.filter keep).get? key = some value ↔ m.get? key = some value ∧ keep key value = true := by
  rw [← mem_toList_iff, ← mem_toList_iff]
  simp only [filter, List.mem_filter]

/-- Entries put into a map one after another leave the other keys as they are, and an entry whose
key comes only once is found, by induction on the entries.
-/
theorem get?_foldl_insert [DecidableEq κ] (entries : List (κ × α)) (m : SortedMap κ α) (key : κ)
    (unique : (entries.map Prod.fst).Nodup)
    : (entries.foldl (fun m entry => m.insert entry.1 entry.2) m).get? key
      = (entries.lookup key).or (m.get? key) := by
  induction entries generalizing m with
  | nil => simp
  | cons entry rest ih =>
      obtain ⟨fresh, distinct⟩ := List.nodup_cons.mp unique
      rw [List.foldl_cons, ih _ distinct, get?_insert, List.lookup_cons]
      by_cases same : key = entry.1
      · subst same
        have absent : rest.lookup entry.1 = none := by
          apply List.lookup_eq_none_iff.mpr
          intro other member
          have different : entry.1 ≠ other.1 := fun equal =>
            fresh (List.mem_map.mpr ⟨other, member, equal.symm⟩)
          simpa using different
        simp [absent]
      · simp [beq_false_of_ne same, same]

theorem get?_ofList [DecidableEq κ] {entries : List (κ × α)}
    (unique : (entries.map Prod.fst).Nodup) (key : κ)
    : (ofList entries).get? key = entries.lookup key := by
  rw [ofList, get?_foldl_insert entries ∅ key unique]
  simp

theorem get?_ofList_of_mem [DecidableEq κ] {entries : List (κ × α)}
    (unique : (entries.map Prod.fst).Nodup) {key : κ} {value : α} (member : (key, value) ∈ entries)
    : (ofList entries).get? key = some value := by
  rw [get?_ofList unique]
  obtain ⟨before, after, parts⟩ := List.append_of_mem member
  refine List.lookup_eq_some_iff.mpr ⟨before, after, parts, ?_⟩
  intro other earlier
  rw [parts, List.map_append, List.map_cons] at unique
  have different := (List.nodup_append.mp unique).2.2 other.1 (List.mem_map_of_mem earlier) key
    List.mem_cons_self
  exact bne_iff_ne.mpr different.symm

/-- What is found after entries were put into a map is one of them or was there before, by induction
on the entries.
-/
theorem mem_of_get?_foldl_insert [DecidableEq κ] {entries : List (κ × α)} {m : SortedMap κ α}
    {key : κ} {value : α}
    (found : (entries.foldl (fun m entry => m.insert entry.1 entry.2) m).get? key = some value)
    : (key, value) ∈ entries ∨ m.get? key = some value := by
  induction entries generalizing m with
  | nil => exact .inr found
  | cons entry rest ih =>
      rcases ih found with later | before
      · exact .inl (List.mem_cons_of_mem _ later)
      · rw [get?_insert] at before
        split at before
        · next same =>
            cases before
            exact .inl (same ▸ List.mem_cons_self)
        · exact .inr before

theorem mem_of_get?_ofList [DecidableEq κ] {entries : List (κ × α)} {key : κ} {value : α}
    (found : (ofList entries).get? key = some value)
    : (key, value) ∈ entries :=
  (mem_of_get?_foldl_insert found).resolve_right (by simp)

/-- Every key that comes with an entry is there in the end, by induction on the entries. -/
theorem exists_get?_foldl_insert [DecidableEq κ] {entries : List (κ × α)} {m : SortedMap κ α}
    {key : κ} (present : key ∈ entries.map Prod.fst ∨ ∃ value, m.get? key = some value)
    : ∃ value,
        (entries.foldl (fun m entry => m.insert entry.1 entry.2) m).get? key = some value := by
  induction entries generalizing m with
  | nil => exact present.resolve_left (by simp)
  | cons entry rest ih =>
      apply ih
      rw [get?_insert]
      rcases present with listed | ⟨value, found⟩
      · rcases List.mem_cons.mp listed with same | later
        · exact .inr ⟨entry.2, if_pos same⟩
        · exact .inl later
      · split
        · exact .inr ⟨entry.2, rfl⟩
        · exact .inr ⟨value, found⟩

theorem exists_get?_ofList [DecidableEq κ] {entries : List (κ × α)} {key : κ}
    (listed : key ∈ entries.map Prod.fst)
    : ∃ value, (ofList entries).get? key = some value :=
  exists_get?_foldl_insert (.inl listed)

/-- A map is the map of its own entries. -/
theorem ofList_toList [DecidableEq κ] (m : SortedMap κ α) : ofList m.toList = m := by
  apply ext_get?
  intro key
  cases found : m.get? key with
  | some value => exact get?_ofList_of_mem m.keys_nodup (mem_toList_iff.mpr found)
  | none =>
      refine Option.eq_none_iff_forall_ne_some.mpr ?_
      intro value listed
      have present := mem_toList_iff.mp (mem_of_get?_ofList listed)
      rw [found] at present
      cases present

theorem map_congr {m : SortedMap κ α} {f g : κ → α → β}
    (same : ∀ key value, m.get? key = some value → f key value = g key value)
    : m.map f = m.map g := by
  refine ext (List.map_congr_left ?_)
  intro entry member
  rw [same entry.1 entry.2 (mem_toList_iff.mp member)]

@[simp]
theorem get?_ofList_singleton (key : κ) (value : α)
    : (ofList [(key, value)]).get? key = some value := by
  simp [ofList]

end SortedMap

end TaskFabric
