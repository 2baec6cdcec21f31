import TaskFabric.Proofs.Gossip.Isolation
import TaskFabric.Proofs.Json.ViewDocuments
import TaskFabric.Proofs.Persistence.FailedChanges

/-! A case that is kept in a file comes back from it. The content of the file determines the state
that it was written from, and as long as every write succeeds and nobody else writes the file, it
is the state in memory.
-/

namespace TaskFabric

-----------------------------------------------------------------------------------------
-- Case files
-----------------------------------------------------------------------------------------

namespace CaseState

theorem plain_toJson (s : CaseState) : s.toJson.Plain 0 := by
  have view : Json.MembersPlain 1 s.digest.members := s.digest.plain_members (by decide)
  obtain ⟨cards, timestamp, _⟩ := view
  exact ⟨by decide, .intro, cards, timestamp, s.own.plain_toJson (by decide),
    s.coordinator.plain_toJson (by decide), .intro⟩

/-- A state comes back from its document: the members of its view stand among its own, and no two
of them have one name.
-/
theorem ofJson?_toJson (s : CaseState) : ofJson? s.toJson = some s := by
  have timestamp : (Json.ofUInt64 s.digest.timestamp).isReadable = true := rfl
  simp [ofJson?, toJson, Json.flattenedFields?, fieldNames, Digest.fieldNames, Digest.members,
    Json.field?, Json.required, Json.text?, s.digest.isReadable_cards, timestamp,
    s.digest.ofFields?_members]

/-- A case file holds the state that it was written from. -/
theorem ofFileText?_fileText (s : CaseState) : ofFileText? s.fileText = some s := by
  rw [ofFileText?, fileText, Json.parse?_indented s.plain_toJson, Option.bind_some, ofJson?_toJson]

end CaseState

namespace Case

variable {path : Path} {c after : Case} {disk later : Disk}

theorem load_of_read {state : CaseState} (content : disk.read path = .ok state.fileText)
    : load path disk = .ok ⟨state, some path, none⟩ := by
  simp only [load, content, CaseState.ofFileText?_fileText]

-----------------------------------------------------------------------------------------
-- Kept cases
-----------------------------------------------------------------------------------------

/-- How a node comes by a case that is kept in a file. -/
inductive Opened (path : Path) : Case → Disk → Prop
  | created {id : String} {own : Card} {seeds : List Card} {clock : Int64} {before disk : Disk}
    {c : Case} (result : create path id own seeds clock before = (.ok c, disk))
    : Opened path c disk
  | loaded {c : Case} {disk : Disk} (result : load path disk = .ok c) : Opened path c disk
  | known {c : Case} {disk : Disk} (opened : Opened path c disk) (ip : String)
    : Opened path (c.withExternalIp ip) disk

/-- What happens to a case and the disk. The view is changed, a message is handled or built, or
others write other files. No write of the node fails.
-/
inductive Happens (path : Path) : Case × Disk → Case × Disk → Prop
  | changed {c after : Case} {disk later : Disk} {clock e answer}
    (result : c.edit clock disk e = (.ok answer, after, later))
    : Happens path (c, disk) (after, later)
  | handled {c : Case} {m : Message} {disk : Disk}
    (written : c.Meant m → m.type.merges = true → ∃ did, (c.merge m.digest disk).1 = .ok did)
    : Happens path (c, disk) (c.exchange m disk).2
  | told {c : Case} {disk : Disk} {m : Message} {addressee : Card} {type : MessageType}
    (built : m = c.message addressee type)
    : Happens path (c, disk) (c, disk)
  | elsewhere {c : Case} {disk later : Disk} (untouched : later.read path = disk.read path)
    : Happens path (c, disk) (c, later)

/-- Whether a case has a file and what is loaded from there is the state in memory. -/
structure Kept (path : Path) (c : Case) (disk : Disk) : Prop where
  file : c.path = some path
  content : load path disk = .ok ⟨c.state, some path, none⟩

theorem Opened.kept (opened : Opened path c disk) : Kept path c disk := by
  induction opened with
  | created result =>
      simp only [create] at result
      split at result
      · next replaced =>
          cases result
          exact ⟨rfl, load_of_read (read_of_replaced replaced)⟩
      · cases result
  | loaded result =>
      have loaded := result
      unfold load at loaded
      split at loaded
      · cases loaded
      · split at loaded
        · cases loaded
          exact ⟨rfl, result⟩
        · cases loaded
  | known _ _ kept => exact ⟨kept.file, kept.content⟩

/-- An operation that does not fail has written what it made, or has made nothing. -/
theorem Kept.edit {clock : Int64} {e : Edit} {answer : Edit.Answer} (kept : Kept path c disk)
    (result : c.edit clock disk e = (.ok answer, after, later))
    : Kept path after later := by
  cases writes : e.view? c.digest clock with
  | none =>
      rw [edit_of_no_view writes] at result
      cases result
      exact kept
  | some view =>
      rw [edit_of_view writes, persist_withDigest kept.file] at result
      cases replaced : replaceFile path (c.withDigest view).state disk with
      | mk outcome final =>
          rw [replaced] at result
          cases outcome with
          | error _ => cases result
          | ok _ =>
              cases result
              exact ⟨kept.file, load_of_read (read_of_replaced replaced)⟩

theorem edit_of_merge {other : Digest} {did : Bool} (written : (c.merge other disk).1 = .ok did)
    (clock : Int64)
    : c.edit clock disk (.merge other) = (.ok (.changed did), (c.merge other disk).2) :=
  Prod.ext (congrArg (Except.map Edit.Answer.changed) written) rfl

/-- A message changes a case, if at all, by the operation that adopts views. -/
theorem Kept.exchange {m : Message} (kept : Kept path c disk)
    (written : c.Meant m → m.type.merges = true → ∃ did, (c.merge m.digest disk).1 = .ok did)
    : Kept path (c.exchange m disk).2.1 (c.exchange m disk).2.2 := by
  have outcome := c.exchange_outcome m disk
  generalize c.exchange m disk = result at outcome
  cases outcome with
  | refused _ _ | acknowledged _ _ | ended _ _ => exact kept
  | adopted meant _ merges =>
      obtain ⟨did, success⟩ := written meant merges
      have adopted : Kept path (c.merge m.digest disk).2.1 (c.merge m.digest disk).2.2 :=
        kept.edit (edit_of_merge success 0)
      rwa [merge_eq] at adopted

theorem Kept.step {now next : Case × Disk} (kept : Kept path now.1 now.2)
    (happens : Happens path now next)
    : Kept path next.1 next.2 := by
  cases happens with
  | changed result => exact kept.edit result
  | handled written => exact kept.exchange written
  | told _ => exact kept
  | elsewhere untouched =>
      refine ⟨kept.file, ?_⟩
      rw [← kept.content]
      simp only [load, untouched]

open Relation in
/-- A restart loses nothing. Whatever operations a node does on a case that it has created in or
loaded from a file, as long as no write fails and nobody else writes the file, loading it gives at
any time the cluster, the view, the own card and the coordinator that are in memory.
-/
theorem restart_loses_nothing {opened now : Case × Disk} (start : Opened path opened.1 opened.2)
    (run : ReflTransGen (Happens path) opened now)
    : load path now.2 = .ok ⟨now.1.state, some path, none⟩ := by
  have kept : Kept path now.1 now.2 := by
    induction run with
    | refl => exact start.kept
    | tail _ happens kept => exact kept.step happens
  exact kept.content

theorem opened_office : Opened ⟨"case.json"⟩ office cleared := by
  refine .loaded (load_of_read (Disk.read_eq_ok.mpr ⟨by decide, ["case.json"], ?_, ?_⟩))
  · exact locate_file cleared rfl
  · rw [cleared, Disk.entry?_remove_of_ne _ (by decide)]
    rfl

open Relation in
/-- A node that has marked another one down since it was loaded, and was then called from another
cluster, finds the other one down after a restart.
-/
theorem mark_survives_restart
    : ∃ later,
        Opened ⟨"case.json"⟩ office cleared
        ∧ ReflTransGen (Happens ⟨"case.json"⟩) (office, cleared)
          (office.withDigest withoutOther, later)
        ∧ withoutOther ≠ office.digest
        ∧ load ⟨"case.json"⟩ later = .ok (office.withDigest withoutOther) := by
  obtain ⟨later, marked, _⟩ := edit_of_replaceable rfl view?_office replaceable_cleared
  have marking : Happens ⟨"case.json"⟩ (office, cleared) (office.withDigest withoutOther, later) :=
    .changed marked
  let foreign := (desk "home" 4 [] 1800000000).message (Card.ofAddress "127.0.0.1" 1) .sync
  have ignored : ((office.withDigest withoutOther).exchange foreign later).2
      = (office.withDigest withoutOther, later) :=
    exchange_of_inert (.foreign (by decide)) later
  have called : Happens ⟨"case.json"⟩ (office.withDigest withoutOther, later)
      ((office.withDigest withoutOther).exchange foreign later).2 :=
    .handled fun meant => absurd meant.1 (by decide)
  have run := ReflTransGen.tail (.single marking) called
  rw [ignored] at run
  exact ⟨later, opened_office, run, by decide, restart_loses_nothing opened_office run⟩

end Case

end TaskFabric
