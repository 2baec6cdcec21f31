import TaskFabric.Proofs.Gossip.Provenance
import TaskFabric.Proofs.Gossip.Unreached

/-! The history of the view of a case that is kept in memory. Its second only ever moves to that of
a reported change or of an adopted view, and only forward, whatever the clock does; and what an
operation answers is what became of the view.
-/

namespace TaskFabric

-----------------------------------------------------------------------------------------
-- What cleaning takes away
-----------------------------------------------------------------------------------------

namespace Digest

/-- Cleaning leaves a key exactly if its card is alive. -/
theorem contains_removeDead {d : Digest} {key : String} {card : Card}
    (listed : d.cards.get? key = some card) (clock : Int64)
    : (d.removeDead clock).cards.contains key = card.alive := by
  rw [cards_removeDead, SortedMap.contains]
  cases alive : card.alive with
  | true => rw [SortedMap.get?_filter_eq_some.mpr ⟨listed, alive⟩, Option.isSome_some]
  | false =>
      refine Option.isSome_eq_false_iff.mpr (Option.isNone_iff_eq_none.mpr ?_)
      refine Option.eq_none_iff_forall_ne_some.mpr ?_
      intro other found
      obtain ⟨same, lives⟩ := SortedMap.get?_filter_eq_some.mp found
      obtain rfl : card = other := Option.some.inj (listed.symm.trans same)
      rw [alive] at lives
      cases lives

/-- The dead are the cards whose keys are gone after cleaning. -/
theorem dead_eq_gone (d : Digest) (clock : Int64)
    : d.dead
      = (d.cards.filter fun key _ => !(d.removeDead clock).cards.contains key).values := by
  have gone : ∀ entry ∈ d.cards.toList,
      (!entry.2.alive) = !(d.removeDead clock).cards.contains entry.1 := by
    intro entry member
    rw [contains_removeDead (SortedMap.mem_toList_iff.mp member) clock]
  simp only [dead, SortedMap.values, SortedMap.filter, List.filter_map, Function.comp_def,
    List.filter_congr gone]

end Digest

namespace Case

-----------------------------------------------------------------------------------------
-- Histories
-----------------------------------------------------------------------------------------

/-- What is done to a case: an operation on its view, or a message for it to handle. -/
inductive Deed where
  | edit (e : Edit)
  | exchange (m : Message)

/-- Does something to a case. Of what becomes of a message only the peer is told. -/
def act (c : Case) (clock : Int64) (disk : Disk)
    : Deed → Except ClusterError Edit.Answer × Case × Disk
  | .edit e => c.edit clock disk e
  | .exchange m => (.ok .done, (c.exchange m disk).2)

/-- Something that was done to a case: what the clock showed, the view that was found, the answer,
and the view that was left.
-/
structure Passage where
  clock : Int64
  deed : Deed
  before : Digest
  answer : Except ClusterError Edit.Answer
  after : Digest

/-- What is done to a case at some time. -/
def passage (c : Case) (clock : Int64) (disk : Disk) (deed : Deed) : Passage where
  clock
  deed
  before := c.digest
  answer := (c.act clock disk deed).1
  after := (c.act clock disk deed).2.1.digest

/-- Does one thing after another, each at a reading of the clock of its own. -/
def actEach : List (Int64 × Deed) → Case → Disk → List Passage × Case × Disk
  | [], c, disk => ([], c, disk)
  | (clock, deed) :: rest, c, disk =>
      let (_, next, left) := c.act clock disk deed
      let (passages, last, final) := actEach rest next left
      (c.passage clock disk deed :: passages, last, final)

namespace Passage

/-- The second that comes with a passage: that of the clock where a change of the cards is answered,
and that of another view where it took the place of the one before.
-/
def second? (p : Passage) : Option UInt64 :=
  match p.deed, p.answer with
  | .edit (.insert _), _ => some (epochSecs p.clock)
  | .edit (.merge other), .ok (.changed true) => some other.timestamp
  | .edit (.markDown _), .ok (.changed true) => some (epochSecs p.clock)
  | .edit .clean, .ok (.removed (_ :: _)) => some (epochSecs p.clock)
  | .exchange m, _ => if p.after = p.before then none else some m.digest.timestamp
  | _, _ => none

end Passage

/-- Whether the answer to a deed says what became of the view. -/
inductive Truthful (before after : Digest) : Deed → Except ClusterError Edit.Answer → Prop
  | inserted {card : Card} (added : after.cards = before.cards.insert card.identity card)
    : Truthful before after (.edit (.insert card)) (.ok .done)
  | merged {other : Digest} {did : Bool}
    (replaced : did = true ↔ after = other ∧ before.timestamp < other.timestamp)
    (idle : did = false → after = before)
    : Truthful before after (.edit (.merge other)) (.ok (.changed did))
  | markedDown {key : String} {did : Bool}
    (fell : did = true
      ↔ (∃ card,
          before.cards.get? key = some card
          ∧ card.alive = true
          ∧ after.cards.get? key = some card.asDown)
        ∧ ∀ other, other ≠ key → after.cards.get? other = before.cards.get? other)
    (idle : did = false → after = before)
    : Truthful before after (.edit (.markDown key)) (.ok (.changed did))
  | cleaned {removed : List Card}
    (gone : removed = (before.cards.filter fun key _ => !after.cards.contains key).values)
    (kept : ∀ key card,
      after.cards.get? key = some card ↔ before.cards.get? key = some card ∧ card.alive = true)
    (idle : removed = [] → after = before)
    : Truthful before after (.edit .clean) (.ok (.removed removed))
  | handled {m : Message}
    (adopted : after = before ∨ after = m.digest ∧ before.timestamp < m.digest.timestamp)
    : Truthful before after (.exchange m) (.ok .done)

-----------------------------------------------------------------------------------------
-- One passage
-----------------------------------------------------------------------------------------

section Passages

variable {c : Case} {d : Digest} {key : String}

theorem path_act (c : Case) (clock : Int64) (disk : Disk) (deed : Deed)
    : (c.act clock disk deed).2.1.path = c.path := by
  cases deed with
  | edit e => rw [act, edit_case, withDigest]
  | exchange m =>
      rw [act, exchange_case]
      split <;> rfl

/-- Marking down lowers the flag of the card that was alive, and no other one. -/
theorem fell_iff (clock : Int64)
    : d.changesAlive key false = true
      ↔ (∃ card,
          d.cards.get? key = some card
          ∧ card.alive = true
          ∧ (d.setAlive key false clock).cards.get? key = some card.asDown)
        ∧ ∀ other, other ≠ key
          → (d.setAlive key false clock).cards.get? other = d.cards.get? other := by
  have others : ∀ other, other ≠ key
      → (d.setAlive key false clock).cards.get? other = d.cards.get? other := by
    intro other different
    simp [Digest.get?_setAlive, different]
  refine (iff_of_eq ?_).trans (and_iff_left others).symm
  rw [Digest.changesAlive_eq, Digest.get?_setAlive]
  cases d.cards.get? key <;> simp

/-- The answer to an operation that is carried out says what became of the view. -/
theorem truthful_edit (d : Digest) (clock : Int64) (e : Edit)
    : Truthful d ((e.view? d clock).getD d) (.edit e) (.ok (e.answer d)) := by
  cases e with
  | insert card => exact .inserted rfl
  | merge other =>
      simp only [Edit.view?, Edit.answer]
      cases newer : other.isNewerThan d with
      | true =>
          have later : d.timestamp < other.timestamp := by simpa [Digest.isNewerThan] using newer
          exact .merged (iff_of_true rfl ⟨rfl, later⟩) fun idle =>
            absurd idle.symm Bool.false_ne_true
      | false =>
          refine .merged (iff_of_false Bool.false_ne_true fun replaced => ?_) fun _ => rfl
          simp [Digest.isNewerThan, replaced.2] at newer
  | markDown key =>
      have fell : d.changesAlive key false = true ↔ _ := fell_iff clock
      simp only [Edit.view?, Edit.answer]
      cases changes : d.changesAlive key false with
      | true =>
          rw [changes] at fell
          exact .markedDown fell fun idle => absurd idle.symm Bool.false_ne_true
      | false =>
          rw [Digest.setAlive_of_not_changes changes, changes] at fell
          exact .markedDown fell fun _ => rfl
  | clean =>
      have cleaned : (Edit.clean.view? d clock).getD d = d.removeDead clock := by
        rw [Edit.view?, Digest.removeDead]
        split <;> rfl
      rw [cleaned]
      refine .cleaned (d.dead_eq_gone clock) ?_ ?_
      · intro key card
        rw [Digest.cards_removeDead, SortedMap.get?_filter_eq_some]
      · intro noOne
        rw [Digest.removeDead, noOne]
        rfl

theorem truthful_exchange (c : Case) (m : Message) (disk : Disk)
    : Truthful c.digest (c.exchange m disk).2.1.digest (.exchange m) (.ok .done) := by
  rcases (c.digest_exchange m disk).2 with same | ⟨_, newer, same⟩
  · exact .handled (.inl same)
  · exact .handled (.inr ⟨same, newer⟩)

/-- On a case that is kept in memory nothing fails, and every answer is true. -/
theorem truthful_act (noFile : c.path = none) (clock : Int64) (disk : Disk) (deed : Deed)
    : Truthful c.digest (c.act clock disk deed).2.1.digest deed (c.act clock disk deed).1 := by
  cases deed with
  | edit e =>
      have writes : c.Writes clock disk e := .of_no_file noFile
      rw [act, writes.edit, edit_case]
      exact truthful_edit c.digest clock e
  | exchange m => exact truthful_exchange c m disk

-----------------------------------------------------------------------------------------
-- Seconds
-----------------------------------------------------------------------------------------

theorem max_comm_second (a b : UInt64) : max a b = max b a := by
  simp only [UInt64.max_def]
  grind

/-- The second of a view behind an operation is its second before, or that which comes with the
answer if it is later.
-/
theorem timestamp_edit (d : Digest) (clock : Int64) (e : Edit)
    : let after := (e.view? d clock).getD d
      let passage : Passage := ⟨clock, .edit e, d, .ok (e.answer d), after⟩
      after.timestamp = newest d.timestamp passage.second?.toList := by
  cases e with
  | insert card => exact max_comm_second _ _
  | merge other =>
      simp only [Edit.view?, Edit.answer]
      cases newer : other.isNewerThan d with
      | true =>
          have merged := d.timestamp_merge other
          rw [Digest.merge, newer] at merged
          exact merged
      | false => rfl
  | markDown key =>
      simp only [Edit.view?, Edit.answer]
      cases changes : d.changesAlive key false with
      | true => exact (Digest.timestamp_setAlive changes clock).trans (max_comm_second _ _)
      | false => rfl
  | clean =>
      simp only [Edit.view?, Edit.answer]
      cases dead : d.dead with
      | nil => rfl
      | cons card rest =>
          have someone : d.dead.isEmpty = false := by rw [dead]; rfl
          exact (Digest.timestamp_removeDead someone clock).trans (max_comm_second _ _)

theorem timestamp_exchange (c : Case) (clock : Int64) (m : Message) (disk : Disk)
    : let after := (c.exchange m disk).2.1.digest
      let passage : Passage := ⟨clock, .exchange m, c.digest, .ok .done, after⟩
      after.timestamp = newest c.digest.timestamp passage.second?.toList := by
  simp only [Passage.second?]
  rcases (c.digest_exchange m disk).2 with same | ⟨_, newer, same⟩
  · rw [if_pos same, same]
    rfl
  · have different : m.digest ≠ c.digest := by
      intro equal
      rw [equal] at newer
      exact UInt64.lt_irrefl _ newer
    have merged := c.digest.timestamp_merge m.digest
    rw [Digest.merge_eq_of_lt newer] at merged
    rw [same, if_neg different]
    exact merged

/-- The second of a view moves exactly with what comes of a deed. -/
theorem timestamp_act (noFile : c.path = none) (clock : Int64) (disk : Disk) (deed : Deed)
    : (c.act clock disk deed).2.1.digest.timestamp
      = newest c.digest.timestamp (c.passage clock disk deed).second?.toList := by
  cases deed with
  | edit e =>
      have writes : c.Writes clock disk e := .of_no_file noFile
      simp only [passage, act, writes.edit, edit_case]
      exact timestamp_edit c.digest clock e
  | exchange m => exact timestamp_exchange c clock m disk

theorem le_newest (first : UInt64) (stamps : List UInt64) : first ≤ newest first stamps := by
  induction stamps generalizing first with
  | nil => exact UInt64.le_refl _
  | cons stamp rest ih =>
      refine UInt64.le_trans ?_ (ih (max first stamp))
      simp only [UInt64.max_def]
      grind

-----------------------------------------------------------------------------------------
-- Whole histories
-----------------------------------------------------------------------------------------

theorem actEach_cons (clock : Int64) (deed : Deed) (rest : List (Int64 × Deed)) (c : Case)
    (disk : Disk)
    : actEach ((clock, deed) :: rest) c disk
      = (c.passage clock disk deed
            :: (actEach rest (c.act clock disk deed).2.1 (c.act clock disk deed).2.2).1,
          (actEach rest (c.act clock disk deed).2.1 (c.act clock disk deed).2.2).2) :=
  rfl

/-- Views change as reported. Whatever is done to a case that is kept in memory, and however the
clock jumps meanwhile, the second of its view is the greatest of the first one, the readings of the
clock at changes of its own, and the seconds of the views that it has adopted, so it never goes
back. No operation fails, and each answers what became of the view: adopting a view, that it is
newer and has taken the place of the whole view before; marking down, that the card under the key
was alive and no longer is, and nothing else happened to the cards; cleaning, which cards are gone.
An operation that answers that nothing changed leaves the whole view as it was.
-/
theorem views_change_as_reported (noFile : c.path = none) (deeds : List (Int64 × Deed))
    (disk : Disk)
    : let run := actEach deeds c disk
      run.2.1.digest.timestamp
          = newest c.digest.timestamp (run.1.filterMap Passage.second?)
        ∧ ∀ p ∈ run.1,
            p.before.timestamp ≤ p.after.timestamp ∧ Truthful p.before p.after p.deed p.answer := by
  induction deeds generalizing c disk with
  | nil => exact ⟨rfl, List.forall_mem_nil _⟩
  | cons first rest ih =>
      obtain ⟨clock, deed⟩ := first
      have moved := timestamp_act noFile clock disk deed
      have told := truthful_act noFile clock disk deed
      have stillNone := (path_act c clock disk deed).trans noFile
      obtain ⟨dated, later⟩ := ih stillNone (c.act clock disk deed).2.2
      rw [actEach_cons]
      refine ⟨?_, List.forall_mem_cons.mpr ⟨⟨?_, told⟩, later⟩⟩
      · simp only [List.filterMap_eq_flatMap_toList, newest] at dated moved ⊢
        rw [dated, moved, List.flatMap_cons, List.foldl_append]
      · exact moved ▸ le_newest _ _

end Passages

/-- With a clock that is set back, stands before 1970 and then runs ahead, a node adds a card, marks
another one down, cleans its view, takes over a newer one, and finds nothing to mark down.
-/
def jumpingDay : List (Int64 × Deed) :=
  let caller := (desk "office" 2 [1] 1700000009).message (Card.ofAddress "127.0.0.1" 1) .sync
  [(1600000000, .edit (.insert (Card.ofAddress "127.0.0.1" 3))),
    (-1, .edit (.markDown "127.0.0.1:2")),
    (1700000007, .edit .clean),
    (0, .exchange caller),
    (1800000000, .edit (.markDown "127.0.0.1:9"))]

/-- The view of that node ends with the second of the one that it took over. -/
theorem jumping_clock_leaves_newest_second
    : let node := desk "office" 1 [2] 1700000000
      let run := actEach jumpingDay node .empty
      node.path = none
      ∧ run.1.filterMap Passage.second? = [1600000000, 0, 1700000007, 1700000009]
      ∧ run.2.1.digest.timestamp = 1700000009
      ∧ ∀ p ∈ run.1, Truthful p.before p.after p.deed p.answer := by
  intro node run
  obtain ⟨dated, told⟩ := views_change_as_reported (c := node) rfl jumpingDay .empty
  have seconds : run.1.filterMap Passage.second? = [1600000000, 0, 1700000007, 1700000009] := by
    decide
  have last : run.2.1.digest.timestamp = newest 1700000000 _ := dated
  rw [seconds] at last
  exact ⟨rfl, seconds, last, fun p member => (told p member).2⟩

end Case

end TaskFabric
