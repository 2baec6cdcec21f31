import TaskFabric.Proofs.Gossip.LocalChanges
import TaskFabric.Proofs.Persistence.Replacement

/-! What a change of a case comes to when it cannot be written. The change is made in memory first
and nothing takes it back, so the file stays behind until something else is written.
-/

namespace TaskFabric

namespace Digest

variable {d : Digest} {key : String}

theorem isNewerThan_self (d : Digest) : d.isNewerThan d = false := by
  simp [isNewerThan]

/-- A node that has been marked down is not marked down again. -/
theorem changesAlive_setAlive (changes : d.changesAlive key false = true) (clock : Int64)
    : (d.setAlive key false clock).changesAlive key false = false := by
  obtain ⟨card, _, _, down⟩ := setAlive_eq changes clock
  simp [down, changesAlive, touch]

/-- Nobody is left to be removed. -/
theorem dead_removeDead (d : Digest) (clock : Int64) : (d.removeDead clock).dead = [] := by
  unfold removeDead
  split
  · next noOne => simpa using noOne
  · refine List.filter_eq_nil_iff.mpr ?_
    intro card listed
    obtain ⟨entry, member, rfl⟩ := List.mem_map.mp listed
    obtain ⟨_, alive⟩ := List.mem_filter.mp member
    simpa using alive

end Digest

namespace Case

-----------------------------------------------------------------------------------------
-- Changes
-----------------------------------------------------------------------------------------

/-- The operations that change the view of a case. -/
inductive Edit where
  | insert (card : Card)
  | merge (other : Digest)
  | markDown (key : String)
  | clean

namespace Edit

/-- What an operation answers: nothing, whether it changed something, or what it removed. -/
inductive Answer where
  | done
  | changed (did : Bool)
  | removed (cards : List Card)
deriving DecidableEq

/-- The view that an operation makes of a view, if it has anything to write. -/
def view? (d : Digest) (clock : Int64) : Edit → Option Digest
  | .insert card => some (d.insert card clock)
  | .merge other => if other.isNewerThan d then some other else none
  | .markDown key => if d.changesAlive key false then some (d.setAlive key false clock) else none
  | .clean => if d.dead.isEmpty then none else some (d.removeDead clock)

/-- The answer of an operation to a view. -/
def answer (d : Digest) : Edit → Answer
  | .insert _ => .done
  | .merge other => .changed (other.isNewerThan d)
  | .markDown key => .changed (d.changesAlive key false)
  | .clean => .removed d.dead

/-- The answer of an operation that finds nothing to do. -/
def nothing : Edit → Answer
  | .insert _ => .done
  | .merge _ | .markDown _ => .changed false
  | .clean => .removed []

end Edit

/-- An operation on a case. -/
def edit (c : Case) (clock : Int64) (disk : Disk)
    : Edit → Except ClusterError Edit.Answer × Case × Disk
  | .insert card => Prod.map (Except.map fun _ => .done) id (c.insert card clock disk)
  | .merge other => Prod.map (Except.map .changed) id (c.merge other disk)
  | .markDown key => Prod.map (Except.map .changed) id (c.markDown key clock disk)
  | .clean => Prod.map (Except.map .removed) id (c.clean clock disk)

variable {c after : Case} {clock : Int64} {disk later : Disk} {e : Edit} {view : Digest}

/-- An operation with something to write changes the view and writes it, whatever the disk says. -/
theorem edit_of_view (writes : e.view? c.digest clock = some view) (disk : Disk)
    : c.edit clock disk e
      = (((c.withDigest view).persist disk).1.map fun _ => e.answer c.digest,
          c.withDigest view,
          ((c.withDigest view).persist disk).2) := by
  cases e with
  | insert card =>
      cases writes
      simp only [edit, insert, Edit.answer]
      rcases persist _ disk with ⟨_ | _, _⟩ <;> rfl
  | merge other =>
      obtain ⟨newer, ⟨⟩⟩ := Option.ite_none_right_eq_some.mp writes
      simp only [edit, merge, newer, if_true, Edit.answer]
      rcases persist _ disk with ⟨_ | _, _⟩ <;> rfl
  | markDown key =>
      obtain ⟨changes, ⟨⟩⟩ := Option.ite_none_right_eq_some.mp writes
      simp only [edit, markDown, changes, if_true, Edit.answer]
      rcases persist _ disk with ⟨_ | _, _⟩ <;> rfl
  | clean =>
      obtain ⟨someone, ⟨⟩⟩ := Option.ite_none_left_eq_some.mp writes
      simp only [edit, clean, someone, Edit.answer]
      rcases persist _ disk with ⟨_ | _, _⟩ <;> rfl

/-- An operation with nothing to write leaves everything as it is. -/
theorem edit_of_no_view (idle : e.view? c.digest clock = none) (disk : Disk)
    : c.edit clock disk e = (.ok e.nothing, c, disk) := by
  cases e with
  | insert card => cases idle
  | merge other =>
      have old : other.isNewerThan c.digest = false := by simpa [Edit.view?] using idle
      simp [edit, merge, old, Edit.nothing, Except.map]
  | markDown key =>
      have same : c.digest.changesAlive key false = false := by simpa [Edit.view?] using idle
      simp [edit, markDown, same, Edit.nothing, Except.map]
  | clean =>
      have noOne : c.digest.dead.isEmpty = true := by simpa [Edit.view?] using idle
      simp [edit, clean, noOne, Edit.nothing, Except.map]

/-- An operation changes nothing of a case but its view. -/
theorem edit_case (c : Case) (clock : Int64) (disk : Disk) (e : Edit)
    : (c.edit clock disk e).2.1 = c.withDigest ((e.view? c.digest clock).getD c.digest) := by
  cases writes : e.view? c.digest clock with
  | none =>
      rw [edit_of_no_view writes]
      rfl
  | some view =>
      rw [edit_of_view writes]
      rfl

/-- An operation that has changed the view finds nothing more to do there, unless it sets a card. -/
theorem Edit.view?_again {d : Digest} (writes : e.view? d clock = some view)
    (noInsert : ∀ card, e ≠ .insert card) (again : Int64)
    : e.view? view again = none := by
  cases e with
  | insert card => exact absurd rfl (noInsert card)
  | merge other =>
      obtain ⟨_, ⟨⟩⟩ := Option.ite_none_right_eq_some.mp writes
      simp [view?, Digest.isNewerThan_self]
  | markDown key =>
      obtain ⟨changes, ⟨⟩⟩ := Option.ite_none_right_eq_some.mp writes
      simp [view?, Digest.changesAlive_setAlive changes]
  | clean =>
      obtain ⟨_, ⟨⟩⟩ := Option.ite_none_left_eq_some.mp writes
      simp [view?, Digest.dead_removeDead]

/-- An operation that changes the view tells so, unless it sets a card. -/
theorem Edit.answer_ne_nothing {d : Digest} (writes : e.view? d clock = some view)
    (noInsert : ∀ card, e ≠ .insert card)
    : e.answer d ≠ e.nothing := by
  cases e with
  | insert card => exact absurd rfl (noInsert card)
  | merge other | markDown key =>
      obtain ⟨changes, _⟩ := Option.ite_none_right_eq_some.mp writes
      simp [answer, nothing, changes]
  | clean =>
      obtain ⟨someone, _⟩ := Option.ite_none_left_eq_some.mp writes
      simpa [answer, nothing] using someone

-----------------------------------------------------------------------------------------
-- Failures
-----------------------------------------------------------------------------------------

theorem persist_withDigest {path : Path} (file : c.path = some path) (view : Digest) (disk : Disk)
    : (c.withDigest view).persist disk = replaceFile path (c.withDigest view).state disk := by
  simp only [persist, withDigest, file]

/-- An operation fails only at writing the view that it has made. -/
theorem edit_eq_error {path : Path} {failure : ClusterError} (file : c.path = some path)
    (failed : c.edit clock disk e = (.error failure, after, later))
    : ∃ view,
        e.view? c.digest clock = some view
        ∧ after = c.withDigest view
        ∧ replaceFile path after.state disk = (.error failure, later) := by
  cases writes : e.view? c.digest clock with
  | none =>
      rw [edit_of_no_view writes] at failed
      cases failed
  | some view =>
      rw [edit_of_view writes, persist_withDigest file] at failed
      refine ⟨view, rfl, ?_⟩
      cases written : replaceFile path (c.withDigest view).state disk with
      | mk result disk =>
          rw [written] at failed
          cases result with
          | ok _ => cases failed
          | error _ =>
              cases failed
              exact ⟨rfl, written⟩

/-- With nothing in the way an operation that has something to write brings the file up to date. -/
theorem edit_of_replaceable {path : Path} (file : c.path = some path)
    (writes : e.view? c.digest clock = some view) (free : Replaceable disk path)
    : ∃ final,
        c.edit clock disk e = (.ok (e.answer c.digest), c.withDigest view, final)
        ∧ final.read path = .ok (c.withDigest view).state.fileText := by
  obtain ⟨final, replaced⟩ := replaceFile_of_replaceable free (c.withDigest view).state
  refine ⟨final, ?_, read_of_replaced replaced⟩
  rw [edit_of_view writes, persist_withDigest file, replaced]
  rfl

/-- A change that cannot be written is made all the same. The operation fails with the failure to
write, its change is in memory as if it had been written, and the file keeps its content if the
sibling is another file. Doing the operation again finds nothing to do, says so and writes nothing,
unless it sets a card; and the next operation that does write brings the file up to date.
-/
theorem failed_edit_stays_in_memory {path : Path} {failure : ClusterError}
    (file : c.path = some path) (failed : c.edit clock disk e = (.error failure, after, later))
    : (∃ reason, failure = .persist reason)
      ∧ (∀ other, (c.edit clock other e).2.1 = after)
      ∧ (∀ text, disk.locate (sibling path) ≠ disk.locate path
          → disk.read path = .ok text → later.read path = .ok text)
      ∧ ((∀ card, e ≠ .insert card)
          → after.digest ≠ c.digest
            ∧ e.answer c.digest ≠ e.nothing
            ∧ ∀ again other, after.edit again other e = (.ok e.nothing, after, other))
      ∧ (∀ next again other view, next.view? after.digest again = some view
          → Replaceable other path
          → ∃ final,
              after.edit again other next
                = (.ok (next.answer after.digest), after.withDigest view, final)
              ∧ final.read path = .ok (after.withDigest view).state.fileText) := by
  obtain ⟨view, writes, rfl, notReplaced⟩ := edit_eq_error file failed
  refine ⟨persist_of_not_replaced notReplaced, ?_, ?_, ?_, ?_⟩
  · intro other
    rw [edit_of_view writes]
  · intro text apart content
    exact read_of_not_replaced notReplaced apart content
  · intro noInsert
    have idle : ∀ again, e.view? view again = none := Edit.view?_again writes noInsert
    refine ⟨?_, Edit.answer_ne_nothing writes noInsert,
      fun again other => edit_of_no_view (c := c.withDigest view) (idle again) other⟩
    intro same
    -- Were the view the old one, the operation would have had nothing to do in the first place.
    have none : e.view? c.digest clock = none := same ▸ idle clock
    rw [writes] at none
    cases none
  · intro next again other view writes free
    exact edit_of_replaceable file writes free

-----------------------------------------------------------------------------------------
-- A directory in the way
-----------------------------------------------------------------------------------------

/-- A node whose view holds itself and another node, kept in a file. -/
def office : Case where
  state :=
    let card := Card.ofAddress "127.0.0.1"
    ⟨"office", Digest.ofCards [card 1, card 2] 1700000000, card 1, card 1⟩
  path := some ⟨"case.json"⟩
  externalIp := none

/-- A disk with the file of that node, and a directory where its sibling would be written. -/
def blocked : Disk :=
  ⟨[(["case.tmp"], .directory), (["case.json"], .file office.state.fileText)], [], []⟩

/-- The disk without the directory. -/
def cleared : Disk := blocked.remove ["case.tmp"]

theorem sibling_office : sibling ⟨"case.json"⟩ = ⟨"case.tmp"⟩ := by
  decide

theorem locate_sibling (d : Disk) (root : d.workingDirectory = [])
    : d.locate (sibling ⟨"case.json"⟩) = .ok ["case.tmp"] := by
  rw [sibling_office, Disk.locate_eq_follow (by simp) (by decide) (by decide), root]
  rfl

theorem locate_file (d : Disk) (root : d.workingDirectory = [])
    : d.locate ⟨"case.json"⟩ = .ok ["case.json"] := by
  rw [Disk.locate_eq_follow (by simp) (by decide) (by decide), root]
  rfl

/-- The view of the node once it has marked the other one down. -/
def withoutOther : Digest := office.digest.setAlive "127.0.0.1:2" false 1700000001

theorem view?_office
    : (Edit.markDown "127.0.0.1:2").view? office.digest 1700000001 = some withoutOther := by
  have alive : office.digest.changesAlive "127.0.0.1:2" false = true := by decide
  simp only [Edit.view?, alive, if_true]
  rfl

theorem edit_office_blocked
    : office.edit 1700000001 blocked (.markDown "127.0.0.1:2")
      = (.error (.persist "case.tmp: Is a directory (os error 21)"),
          office.withDigest withoutOther,
          blocked) := by
  have located := locate_sibling blocked rfl
  rw [sibling_office] at located
  have refused : blocked.writable ⟨"case.tmp"⟩ = .error .isDirectory := by
    have noSlash : (Path.mk "case.tmp").endsWithSlash = false := by decide
    simp only [Disk.writable, located, noSlash]
    rfl
  have failed (state : CaseState) : replaceFile ⟨"case.json"⟩ state blocked
      = (.error (.persist "case.tmp: Is a directory (os error 21)"), blocked) := by
    simp only [replaceFile_eq, sibling_office, Disk.write, refused]
    rfl
  rw [edit_of_view view?_office, persist_withDigest rfl, failed]
  rfl

theorem replaceable_cleared : Replaceable cleared ⟨"case.json"⟩ where
  sound := by simp [Disk.Sound, cleared, blocked, Disk.remove]
  place := by
    refine ⟨["case.tmp"], Disk.writable_eq_ok.mpr ⟨by decide, locate_sibling cleared rfl, ?_⟩⟩
    rw [cleared, Disk.entry?_remove_self _ (by decide)]
    simp
  target := by
    refine ⟨["case.json"], Disk.writable_eq_ok.mpr ⟨by decide, locate_file cleared rfl, ?_⟩⟩
    have isFile : blocked.entry? ["case.json"] = some (.file office.state.fileText) := rfl
    rw [cleared, Disk.entry?_remove_of_ne _ (by decide), isFile]
    simp
  named := by decide

/-- The node is marked down in memory though the file could not be written, and marking it down
again does not write it either.
-/
theorem mark_behind_directory_stays_in_memory
    : ∃ after,
        office.edit 1700000001 blocked (.markDown "127.0.0.1:2")
          = (.error (.persist "case.tmp: Is a directory (os error 21)"), after, blocked)
        ∧ after.digest ≠ office.digest
        ∧ ∀ again other,
            after.edit again other (.markDown "127.0.0.1:2")
              = (.ok (.changed false), after, other) := by
  obtain ⟨_, _, _, repeated, _⟩ :=
    failed_edit_stays_in_memory (c := office) rfl edit_office_blocked
  obtain ⟨changed, _, idle⟩ := repeated nofun
  exact ⟨_, edit_office_blocked, changed, idle⟩

/-- The failed operation has changed the view; done again with the directory out of the way it does
not answer what it would have answered before, and the file still holds what it held before.
-/
theorem failed_mark_is_not_undone
    : ∃ after,
        office.edit 1700000001 blocked (.markDown "127.0.0.1:2")
          = (.error (.persist "case.tmp: Is a directory (os error 21)"), after, blocked)
        ∧ after.digest ≠ office.digest
        ∧ Replaceable cleared ⟨"case.json"⟩
        ∧ (office.edit 1700000001 cleared (.markDown "127.0.0.1:2")).1 = .ok (.changed true)
        ∧ after.edit 1700000001 cleared (.markDown "127.0.0.1:2")
          = (.ok (.changed false), after, cleared)
        ∧ cleared.read ⟨"case.json"⟩ = .ok office.state.fileText := by
  obtain ⟨_, written, _⟩ := edit_of_replaceable rfl view?_office replaceable_cleared
  have again := Edit.view?_again view?_office nofun 1700000001
  refine ⟨_, edit_office_blocked, by decide, replaceable_cleared, ?_, ?_, ?_⟩
  · rw [written]
    rfl
  · exact edit_of_no_view (c := office.withDigest withoutOther) again cleared
  · refine Disk.read_eq_ok.mpr ⟨by decide, ["case.json"], locate_file cleared rfl, ?_⟩
    rw [cleared, Disk.entry?_remove_of_ne _ (by decide)]
    rfl

end Case

end TaskFabric
