/-! Finite maps kept as an association list in strictly increasing key order. The order is part of
the type, so a map has one representation: two maps that look up alike are equal
(`SortedMap.ext_get?`), and a walk over the entries meets the keys from the least to the greatest,
which is the order in which wire texts, peer lists and batches are written.
-/

universe u v w

namespace TaskFabric

open Std (TransOrd LawfulEqOrd)

-----------------------------------------------------------------------------------------
-- Association lists
-----------------------------------------------------------------------------------------

namespace Entries

variable {κ : Type u} {α : Type v} [Ord κ]

/-- Each key is below all keys that follow it. -/
def Increasing (entries : List (κ × α)) : Prop :=
  entries.Pairwise (fun a b => compare a.1 b.1 = .lt)

/-- Places an entry before the first greater key, replacing an entry of the same key. -/
def insert (key : κ) (value : α) : List (κ × α) → List (κ × α)
  | [] => [(key, value)]
  | entry :: rest =>
      match compare key entry.1 with
      | .lt => (key, value) :: entry :: rest
      | .eq => (key, value) :: rest
      | .gt => entry :: insert key value rest

/-- The value of the first entry with this key. -/
def get? (key : κ) : List (κ × α) → Option α
  | [] => none
  | entry :: rest => if compare key entry.1 = .eq then some entry.2 else get? key rest

theorem mem_of_mem_insert {key : κ} {value : α} {entries : List (κ × α)} {a : κ × α}
    (h : a ∈ insert key value entries)
    : a = (key, value) ∨ a ∈ entries := by
  induction entries with
  | nil => simpa [insert] using h
  | cons entry rest ih =>
      rw [insert] at h
      split at h <;> grind

theorem increasing_insert [TransOrd κ] [LawfulEqOrd κ] (key : κ) (value : α)
    {entries : List (κ × α)} (h : Increasing entries)
    : Increasing (insert key value entries) := by
  induction entries with
  | nil => simp [insert, Increasing]
  | cons entry rest ih =>
      have hrest := List.pairwise_cons.mp h
      rw [insert]
      split
      · next hlt =>
          refine List.pairwise_cons.mpr ⟨fun a ha => ?_, h⟩
          rcases List.mem_cons.mp ha with rfl | ha
          · exact hlt
          · exact Std.TransCmp.lt_trans hlt (hrest.1 a ha)
      · next heq =>
          have hkey := LawfulEqOrd.eq_of_compare heq
          exact List.pairwise_cons.mpr ⟨fun a ha => hkey ▸ hrest.1 a ha, hrest.2⟩
      · next hgt =>
          refine List.pairwise_cons.mpr ⟨fun a ha => ?_, ih hrest.2⟩
          rcases mem_of_mem_insert ha with rfl | ha
          · exact Std.OrientedCmp.lt_of_gt hgt
          · exact hrest.1 a ha

theorem get?_eq_none_of_lt [TransOrd κ] {key : κ} {entries : List (κ × α)}
    (h : ∀ a ∈ entries, compare key a.1 = .lt)
    : get? key entries = none := by
  induction entries with
  | nil => rfl
  | cons entry rest ih =>
      have hne := h entry (by simp)
      rw [get?, if_neg (by simp [hne]), ih fun a ha => h a (by simp [ha])]

theorem get?_insert_self [TransOrd κ] (key : κ) (value : α) (entries : List (κ × α))
    : get? key (insert key value entries) = some value := by
  induction entries with
  | nil => simp [insert, get?]
  | cons entry rest ih =>
      rw [insert]
      split
      · simp [get?]
      · simp [get?]
      · next hgt => simp [get?, hgt, ih]

theorem get?_insert_of_ne [TransOrd κ] [LawfulEqOrd κ] {key other : κ} (h : other ≠ key)
    (value : α) (entries : List (κ × α))
    : get? other (insert key value entries) = get? other entries := by
  have hne : compare other key ≠ .eq := fun heq => h (LawfulEqOrd.eq_of_compare heq)
  induction entries with
  | nil => simp [insert, get?, hne]
  | cons entry rest ih =>
      rw [insert]
      split
      · simp [get?, hne]
      · next heq =>
          have hkey := LawfulEqOrd.eq_of_compare heq
          simp [get?, ← hkey, hne]
      · simp [get?, ih]

end Entries

-----------------------------------------------------------------------------------------
-- Maps
-----------------------------------------------------------------------------------------

/-- A finite map whose entries stand in strictly increasing key order. -/
structure SortedMap (κ : Type u) (α : Type v) [Ord κ] where
  toList : List (κ × α)
  increasing : Entries.Increasing toList

namespace SortedMap

variable {κ : Type u} {α : Type v} {β : Type w} [Ord κ]

theorem ext {a b : SortedMap κ α} (h : a.toList = b.toList) : a = b := by
  cases a; cases b; simp_all

instance [DecidableEq κ] [DecidableEq α] : DecidableEq (SortedMap κ α) := fun a b =>
  decidable_of_iff (a.toList = b.toList) ⟨ext, fun h => h ▸ rfl⟩

/-- The map without entries. -/
def empty : SortedMap κ α := ⟨[], List.Pairwise.nil⟩

instance : EmptyCollection (SortedMap κ α) := ⟨empty⟩

instance : Inhabited (SortedMap κ α) := ⟨empty⟩

/-- The number of entries. -/
def size (m : SortedMap κ α) : Nat := m.toList.length

/-- Whether there is no entry. -/
def isEmpty (m : SortedMap κ α) : Bool := m.toList.isEmpty

/-- The keys, in increasing order. -/
def keys (m : SortedMap κ α) : List κ := m.toList.map (·.1)

/-- The values, in the order of their keys. -/
def values (m : SortedMap κ α) : List α := m.toList.map (·.2)

/-- The value stored under a key. -/
def get? (m : SortedMap κ α) (key : κ) : Option α := Entries.get? key m.toList

/-- Whether a key is present. -/
def contains (m : SortedMap κ α) (key : κ) : Bool := (m.get? key).isSome

/-- Stores a value under a key, replacing the value that was there. -/
def insert [TransOrd κ] [LawfulEqOrd κ] (m : SortedMap κ α) (key : κ) (value : α)
    : SortedMap κ α :=
  ⟨Entries.insert key value m.toList, Entries.increasing_insert key value m.increasing⟩

/-- The entries that satisfy a test. -/
def filter (m : SortedMap κ α) (keep : κ → α → Bool) : SortedMap κ α :=
  ⟨m.toList.filter (fun entry => keep entry.1 entry.2),
    List.Pairwise.sublist List.filter_sublist m.increasing⟩

/-- Removes the entry of a key, if there is one. -/
def erase (m : SortedMap κ α) (key : κ) : SortedMap κ α :=
  m.filter fun other _ => compare key other != .eq

/-- Applies a function to every value. -/
def map (f : κ → α → β) (m : SortedMap κ α) : SortedMap κ β :=
  ⟨m.toList.map (fun entry => (entry.1, f entry.1 entry.2)),
    by simpa [Entries.Increasing, List.pairwise_map] using m.increasing⟩

/-- The map of a list of entries; of two entries with one key the later one stays. -/
def ofList [TransOrd κ] [LawfulEqOrd κ] (entries : List (κ × α)) : SortedMap κ α :=
  entries.foldl (fun m entry => m.insert entry.1 entry.2) ∅

-----------------------------------------------------------------------------------------
-- What the operations do to look-ups
-----------------------------------------------------------------------------------------

@[simp]
theorem get?_empty (key : κ) : (∅ : SortedMap κ α).get? key = none := rfl

@[simp]
theorem get?_insert_self [TransOrd κ] [LawfulEqOrd κ] (m : SortedMap κ α) (key : κ) (value : α)
    : (m.insert key value).get? key = some value :=
  Entries.get?_insert_self key value m.toList

theorem get?_insert_of_ne [TransOrd κ] [LawfulEqOrd κ] (m : SortedMap κ α) {key other : κ}
    (h : other ≠ key) (value : α)
    : (m.insert key value).get? other = m.get? other :=
  Entries.get?_insert_of_ne h value m.toList

/-- Maps that look up alike are equal: the order leaves one list for each set of entries. -/
theorem ext_get? [TransOrd κ] [LawfulEqOrd κ] {a b : SortedMap κ α}
    (h : ∀ key, a.get? key = b.get? key)
    : a = b := by
  obtain ⟨a, ha⟩ := a
  obtain ⟨b, hb⟩ := b
  refine ext ?_
  simp only [get?] at h
  induction a generalizing b with
  | nil =>
      cases b with
      | nil => rfl
      | cons entry rest => simpa [Entries.get?] using h entry.1
  | cons entry rest ih =>
      cases b with
      | nil => simpa [Entries.get?] using h entry.1
      | cons entry' rest' =>
          have hr := List.pairwise_cons.mp ha
          have hr' := List.pairwise_cons.mp hb
          have hkey : entry.1 = entry'.1 := by
            have h1 := h entry.1
            have h2 := h entry'.1
            rcases hc : compare entry.1 entry'.1 with _ | _ | _
            · have hnone : Entries.get? entry.1 (entry' :: rest') = none := by
                refine Entries.get?_eq_none_of_lt fun x hx => ?_
                rcases List.mem_cons.mp hx with rfl | hx
                · exact hc
                · exact Std.TransCmp.lt_trans hc (hr'.1 x hx)
              rw [hnone] at h1
              simp [Entries.get?] at h1
            · exact LawfulEqOrd.eq_of_compare hc
            · have hc' := Std.OrientedCmp.lt_of_gt hc
              have hnone : Entries.get? entry'.1 (entry :: rest) = none := by
                refine Entries.get?_eq_none_of_lt fun x hx => ?_
                rcases List.mem_cons.mp hx with rfl | hx
                · exact hc'
                · exact Std.TransCmp.lt_trans hc' (hr.1 x hx)
              rw [hnone] at h2
              simp [Entries.get?] at h2
          have hvalue : entry.2 = entry'.2 := by
            simpa [Entries.get?, hkey] using h entry.1
          have hentry : entry = entry' := Prod.ext hkey hvalue
          subst hentry
          refine congrArg (entry :: ·) (ih hr.2 rest' hr'.2 fun key => ?_)
          by_cases hk : compare key entry.1 = .eq
          · have hk' := LawfulEqOrd.eq_of_compare hk
            subst hk'
            rw [Entries.get?_eq_none_of_lt hr.1, Entries.get?_eq_none_of_lt hr'.1]
          · simpa [Entries.get?, hk] using h key

end SortedMap

end TaskFabric
