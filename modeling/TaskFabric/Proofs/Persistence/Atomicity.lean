import TaskFabric.Proofs.Gossip.ViewHistories
import TaskFabric.Proofs.Persistence.Restart
import TaskFabric.Proofs.Persistence.SiblingPaths

/-! Whether a case file can be half written. What a write leaves half done stands at the sibling,
and the rename does not do things by halves; so the file is safe exactly where the sibling is
another file. It is the file itself if the name of the file has the extension of the sibling.
-/

namespace TaskFabric

-----------------------------------------------------------------------------------------
-- Contents
-----------------------------------------------------------------------------------------

namespace Disk

variable {d : Disk} {p : Path} {here there : Location} {text : String}

/-- The content of the file at the place that a path leads to. -/
def content? (d : Disk) (p : Path) : Option String :=
  match d.locate p with
  | .error _ => none
  | .ok here =>
      match d.entry? here with
      | some (.file text) => some text
      | _ => none

@[simp] theorem content?_withFaults (d : Disk) (faults : List Fault) (p : Path)
    : (d.withFaults faults).content? p = d.content? p := by
  simp only [content?, locate_withFaults, entry?_withFaults]

@[simp] theorem writable_withFaults (d : Disk) (faults : List Fault) (p : Path)
    : (d.withFaults faults).writable p = d.writable p := by
  simp only [writable, locate_withFaults, entry?_withFaults]

/-- What is read is the content, unless the path claims to be that of a directory. -/
theorem read_eq_ok_iff_content?
    : d.read p = .ok text ↔ p.endsWithSlash = false ∧ d.content? p = some text := by
  rw [read_eq_ok]
  refine and_congr_right fun _ => ?_
  unfold content?
  cases d.locate p with
  | error e => simp
  | ok here =>
      cases found : d.entry? here with
      | none => simp [found]
      | some entry => cases entry <;> simp [found]

/-- No path leads through a file, be it an old or a new one. -/
theorem locate_put_file (noDirectory : d.entry? here ≠ some .directory) (text : String)
    : (d.put here (.file text)).locate p = .ok there ↔ d.locate p = .ok there := by
  have back : (d.put here (.file text)).KeepsDirectories d := by
    refine ⟨rfl, ?_⟩
    intro other directory
    by_cases same : other = here
    · rw [same, entry?_put_self d (ne_root noDirectory)] at directory
      cases directory
    · rwa [entry?_put_of_ne d same] at directory
  exact ⟨back.locate, (KeepsDirectories.put noDirectory _).locate⟩

theorem content?_put_self (noDirectory : d.entry? here ≠ some .directory)
    (located : d.locate p = .ok here)
    : (d.put here (.file text)).content? p = some text := by
  simp only [content?, (locate_put_file noDirectory text).mpr located,
    entry?_put_self d (ne_root noDirectory)]

theorem content?_put_of_ne (noDirectory : d.entry? here ≠ some .directory)
    (elsewhere : d.locate p ≠ .ok here)
    : (d.put here (.file text)).content? p = d.content? p := by
  unfold content?
  cases located : d.locate p with
  | error e =>
      cases relocated : (d.put here (.file text)).locate p with
      | error _ => rfl
      | ok there =>
          have before := (locate_put_file noDirectory text).mp relocated
          rw [located] at before
          cases before
  | ok there =>
      have other : there ≠ here := by
        rintro rfl
        exact elsewhere located
      simp only [(locate_put_file noDirectory text).mpr located, entry?_put_of_ne d other]

/-- A file is not renamed to what claims to be a directory. -/
theorem rename_of_slash {source target : Path} (found : d.locate source = .ok here)
    (file : d.entry? here = some (.file text)) (located : d.locate target = .ok there)
    (named : (source.endsWithDots || target.endsWithDots) = false)
    (slash : target.endsWithSlash = true)
    : d.rename source target = (.error .notDirectory, d) := by
  simp only [rename, renamable, found, located, named, file, slash, Bool.or_true, if_true,
    Bool.false_eq_true, if_false]

end Disk

namespace Case

open TaskFabric.Path

variable {path : Path} {state : CaseState} {disk later : Disk}

-----------------------------------------------------------------------------------------
-- One replacement
-----------------------------------------------------------------------------------------

/-- Whether replacing a file is all or nothing, whatever faults there are: it succeeds, and the file
holds the whole of the new content; or it fails to write, and the file holds what it held before.
-/
def Atomic (path : Path) (state : CaseState) (disk : Disk) : Prop :=
  ∀ faults,
    (∃ later,
      replaceFile path state (disk.withFaults faults) = (.ok (), later)
      ∧ later.content? path = some state.fileText)
    ∨ ∃ reason later,
        replaceFile path state (disk.withFaults faults) = (.error (.persist reason), later)
        ∧ later.content? path = disk.content? path

/-- Whether the new content is written to the place of the file itself. -/
def OwnSibling (path : Path) (disk : Disk) : Prop :=
  ∃ here, disk.writable (sibling path) = .ok here ∧ disk.locate path = .ok here

theorem atomic_of_not_ownSibling (apart : ¬ OwnSibling path disk) : Atomic path state disk := by
  intro faults
  have spec := replaceFile_spec path state (disk.withFaults faults)
  cases outcome : replaceFile path state (disk.withFaults faults) with
  | mk result later =>
      rw [outcome] at spec
      cases spec with
      | refused => exact .inr ⟨_, _, rfl, by simp⟩
      | @halted here kept faults' reason place =>
          rw [Disk.writable_withFaults] at place
          have noDirectory : Disk.entry? (disk.withFaults faults) here ≠ some .directory :=
            (Disk.writable_eq_ok.mp place).2.2
          have elsewhere : (disk.withFaults faults).locate path ≠ .ok here := by
            rw [Disk.locate_withFaults]
            exact fun located => apart ⟨here, place, located⟩
          refine .inr ⟨_, _, rfl, ?_⟩
          rw [Disk.content?_withFaults, Disk.content?_put_of_ne noDirectory elsewhere,
            Disk.content?_withFaults]
      | replaced place content target =>
          exact .inl ⟨_, rfl, (Disk.read_eq_ok_iff_content?.mp (read_of_replaced outcome)).2⟩

/-- A write to a place fails with part of the content there. -/
theorem replaceFile_torn {here : Location} (place : disk.writable (sibling path) = .ok here)
    (state : CaseState) (kept : Nat)
    : replaceFile path state (disk.withFaults [.fails kept])
      = (.error (.persist s!"{(sibling path).text}: {OsError.deviceFailure.message}"),
          (disk.put here (.file (String.ofList (state.fileText.toList.take kept)))).withFaults
            []) := by
  have written : (disk.withFaults [.fails kept]).writable (sibling path) = .ok here := by
    rw [Disk.writable_withFaults, place]
  simp only [replaceFile_eq, Disk.write, written]
  rfl

theorem ofFileText?_empty : CaseState.ofFileText? "" = none := by
  decide

/-- A node does not start from an empty file. -/
theorem load_of_empty (content : disk.read path = .ok "")
    : load path disk = .error (.load s!"{path.text}: invalid case file") := by
  simp only [load, content, ofFileText?_empty]

theorem fileText_ne_empty (state : CaseState) : state.fileText ≠ "" := by
  intro empty
  have read := CaseState.ofFileText?_fileText state
  rw [empty, ofFileText?_empty] at read
  cases read

/-- Content that is written to the file itself is gone if the write fails too early, unless there
was none; and then what there is afterwards is more than that if it fails later.
-/
theorem not_atomic_of_ownSibling (own : OwnSibling path disk) : ¬ Atomic path state disk := by
  intro atomic
  obtain ⟨here, place, located⟩ := own
  obtain ⟨_, _, noDirectory⟩ := Disk.writable_eq_ok.mp place
  have kept (n : Nat)
      : disk.content? path = some (String.ofList (state.fileText.toList.take n)) := by
    have torn := replaceFile_torn place state n
    obtain ⟨_, replaced, _⟩ | ⟨_, later, failed, content⟩ := atomic [.fails n]
    · cases (Prod.mk.inj (torn.symm.trans replaced)).1
    · obtain rfl := (Prod.mk.inj (torn.symm.trans failed)).2
      rw [← content, Disk.content?_withFaults, Disk.content?_put_self noDirectory located]
  have same := (kept 0).symm.trans (kept 1)
  have nothing := String.ofList_injective (Option.some.inj same)
  cases text : state.fileText.toList with
  | nil => exact fileText_ne_empty state (String.toList_eq_nil_iff.mp text)
  | cons c rest =>
      rw [text] at nothing
      cases nothing

/-- A file whose name has another extension than siblings have is never its own sibling. -/
theorem not_ownSibling {before name : List Char} (named : path.Named before name)
    (other : (splitExtension name).2 ≠ "tmp".toList)
    : ¬ OwnSibling path disk := by
  rintro ⟨here, place, located⟩
  obtain ⟨_, found, _⟩ := Disk.writable_eq_ok.mp place
  exact Disk.locate_ne_of_extension_ne named other (by decide) (by decide) found located

theorem ownSibling_of_extension {before name : List Char} (named : path.Named before name)
    (extension : (splitExtension name).2 = "tmp".toList) (stem : (splitExtension name).1 ≠ ['.'])
    (writes : ∃ here, disk.writable path = .ok here)
    : OwnSibling path disk := by
  obtain ⟨here, place⟩ := writes
  refine ⟨here, ?_, (Disk.writable_eq_ok.mp place).2.1⟩
  rw [sibling, withExtension_self named stem (by decide) extension, place]

/-- A file is replaced atomically exactly if its sibling is another file. It is, on every disk, if
the name of the file has another extension than siblings have; with that one, and more than a dot in
front of it, the file is its own sibling wherever it can be written at all. A replacement that
succeeds leaves the whole of the new content in any case.
-/
theorem atomic_iff_sibling_elsewhere (path : Path) (state : CaseState) (disk : Disk)
    : (Atomic path state disk
        ↔ ¬ ∃ here, disk.writable (sibling path) = .ok here ∧ disk.locate path = .ok here)
      ∧ (∀ before name, path.Named before name
          → ((splitExtension name).2 ≠ "tmp".toList → Atomic path state disk)
            ∧ ((splitExtension name).2 = "tmp".toList → (splitExtension name).1 ≠ ['.']
                → (∃ here, disk.writable path = .ok here) → ¬ Atomic path state disk))
      ∧ ∀ later, replaceFile path state disk = (.ok (), later)
          → later.content? path = some state.fileText := by
  refine ⟨⟨fun atomic own => not_atomic_of_ownSibling own atomic, atomic_of_not_ownSibling⟩, ?_, ?_⟩
  · intro before name named
    constructor
    · intro other
      exact atomic_of_not_ownSibling (not_ownSibling named other)
    · intro extension stem writes
      exact not_atomic_of_ownSibling (ownSibling_of_extension named extension stem writes)
  · intro later replaced
    exact (Disk.read_eq_ok_iff_content?.mp (read_of_replaced replaced)).2

theorem named_office : (Path.mk "case.json").Named [] "case.json".toList where
  text := rfl
  directory := .current
  isName := ⟨⟨by decide, by decide⟩, by decide, by decide⟩

/-- The file of the node is replaced as a whole or not at all, with no directory in the way. -/
theorem office_is_replaced_whole
    : (splitExtension "case.json".toList).2 ≠ "tmp".toList
      ∧ (∃ here, cleared.writable (sibling ⟨"case.json"⟩) = .ok here)
      ∧ Atomic ⟨"case.json"⟩ (office.withDigest withoutOther).state cleared := by
  have other : (splitExtension "case.json".toList).2 ≠ "tmp".toList := by decide
  obtain ⟨_, byName, _⟩ :=
    atomic_iff_sibling_elsewhere ⟨"case.json"⟩ (office.withDigest withoutOther).state cleared
  exact ⟨other, replaceable_cleared.place, (byName [] _ named_office).1 other⟩

-----------------------------------------------------------------------------------------
-- Whole runs
-----------------------------------------------------------------------------------------

variable {c kept : Case}

theorem load_of_same_content (same : later.content? path = disk.content? path)
    (loaded : load path disk = .ok c)
    : load path later = .ok c := by
  unfold load at loaded ⊢
  cases content : disk.read path with
  | error e =>
      rw [content] at loaded
      cases loaded
  | ok text =>
      have again : later.read path = .ok text := by
        rw [Disk.read_eq_ok_iff_content?] at content ⊢
        exact ⟨content.1, same.trans content.2⟩
      rw [content] at loaded
      rw [again]
      exact loaded

/-- Whatever a node does, it writes the file of its case from the state that it then has, or it
leaves the disk alone.
-/
theorem act_disk (c : Case) (clock : Int64) (disk : Disk) (deed : Deed)
    : (c.act clock disk deed).2 = (c, disk)
      ∨ ∃ view, (c.act clock disk deed).2
          = (c.withDigest view, ((c.withDigest view).persist disk).2) := by
  have edited (e : Edit) : (c.edit clock disk e).2 = (c, disk)
      ∨ ∃ view, (c.edit clock disk e).2
          = (c.withDigest view, ((c.withDigest view).persist disk).2) := by
    cases writes : e.view? c.digest clock with
    | none => exact .inl (by rw [edit_of_no_view writes])
    | some view => exact .inr ⟨view, by rw [edit_of_view writes]⟩
  cases deed with
  | edit e => exact edited e
  | exchange m =>
      have outcome := c.exchange_outcome m disk
      simp only [act]
      generalize c.exchange m disk = result at outcome ⊢
      cases outcome with
      | refused _ _ | acknowledged _ _ | ended _ _ => exact .inl rfl
      | adopted _ _ _ =>
          rw [← merge_eq c m.digest disk]
          exact edited (.merge m.digest)

/-- A deed leaves the file as it was or writes it whole. -/
theorem load_act (apart : ¬ OwnSibling path disk) (file : c.path = some path)
    (loaded : load path disk = .ok kept) (clock : Int64) (faults : List Fault) (deed : Deed)
    : let next := (c.act clock (disk.withFaults faults) deed).2
      load path next.2 = .ok kept ∨ load path next.2 = .ok ⟨next.1.state, some path, none⟩ := by
  have untouched : load path (disk.withFaults faults) = .ok kept :=
    load_of_same_content (Disk.content?_withFaults disk faults path) loaded
  rcases c.act_disk clock (disk.withFaults faults) deed with same | ⟨view, written⟩
  · simp only [same]
    exact .inl untouched
  · rw [persist_withDigest file] at written
    simp only [written]
    rcases atomic_of_not_ownSibling apart faults with ⟨_, replaced, _⟩ | ⟨_, _, failed, content⟩
    · rw [replaced]
      exact .inr (load_of_read (read_of_replaced replaced))
    · rw [failed]
      exact .inl (load_of_same_content content loaded)

/-- What a node does next, with whatever faults of its disk. -/
inductive Does : Case × Disk → Case × Disk → Prop
  | deed {c : Case} {disk : Disk} (clock : Int64) (faults : List Fault) (deed : Deed)
    : Does (c, disk) (c.act clock (disk.withFaults faults) deed).2

open Relation in
/-- A node starts again from its file whatever faults there were, unless the name of the file has
the extension of siblings: with a state that it was in before.
-/
theorem loads_a_past_state {before name : List Char} {opened now : Case × Disk}
    (named : path.Named before name) (other : (splitExtension name).2 ≠ "tmp".toList)
    (start : Opened path opened.1 opened.2) (run : ReflTransGen Does opened now)
    : ∃ past,
        ReflTransGen Does opened past
        ∧ ReflTransGen Does past now
        ∧ load path now.2 = .ok ⟨past.1.state, some path, none⟩ := by
  have kept : now.1.path = some path ∧ ∃ past,
      ReflTransGen Does opened past
      ∧ ReflTransGen Does past now
      ∧ load path now.2 = .ok ⟨past.1.state, some path, none⟩ := by
    induction run with
    | refl => exact ⟨start.kept.file, opened, .refl, .refl, start.kept.content⟩
    | @tail now next run step ih =>
        obtain ⟨file, past, reached, since, loaded⟩ := ih
        cases step with
        | @deed c disk clock faults deed =>
            refine ⟨(path_act c clock _ deed).trans file, ?_⟩
            have step : Does (c, disk) (c.act clock (disk.withFaults faults) deed).2 :=
              .deed clock faults deed
            have outcome := load_act (not_ownSibling named other) file loaded clock faults deed
            rcases outcome with old | new
            · exact ⟨past, reached, since.tail step, old⟩
            · exact ⟨_, run.tail step, .refl, new⟩
  exact kept.2

-----------------------------------------------------------------------------------------
-- Files with the extension of siblings
-----------------------------------------------------------------------------------------

/-- The file of a node under a name with the extension of siblings. -/
def temporary : Disk := ⟨[(["case.tmp"], .file office.state.fileText)], [], []⟩

theorem locate_temporary (d : Disk) (root : d.workingDirectory = [])
    : d.locate ⟨"case.tmp"⟩ = .ok ["case.tmp"] := by
  rw [← sibling_office]
  exact locate_sibling d root

theorem writable_temporary : temporary.writable ⟨"case.tmp"⟩ = .ok ["case.tmp"] :=
  Disk.writable_eq_ok.mpr ⟨by decide, locate_temporary temporary rfl, nofun⟩

theorem read_put_temporary (text : String)
    : (temporary.put ["case.tmp"] (.file text)).read ⟨"case.tmp"⟩ = .ok text := by
  have noDirectory := (Disk.writable_eq_ok.mp writable_temporary).2.2
  exact Disk.read_eq_ok_iff_content?.mpr
    ⟨by decide, Disk.content?_put_self noDirectory (locate_temporary temporary rfl)⟩

theorem sibling_temporary : sibling ⟨"case.tmp"⟩ = ⟨"case.tmp"⟩ := by
  decide

theorem replaceFile_temporary_torn (state : CaseState)
    : replaceFile ⟨"case.tmp"⟩ state (temporary.withFaults [.fails 0])
      = (.error (.persist "case.tmp: Input/output error (os error 5)"),
          (temporary.put ["case.tmp"] (.file "")).withFaults []) := by
  have place := writable_temporary
  rw [← sibling_temporary] at place
  have torn := replaceFile_torn place state 0
  rw [sibling_temporary] at torn
  exact torn

/-- With a slash behind its name the file is overwritten before the rename finds no directory. -/
theorem replaceFile_temporary_slash (state : CaseState)
    : replaceFile ⟨"case.tmp/"⟩ state temporary
      = (.error (.persist "case.tmp/: Not a directory (os error 20)"),
          temporary.put ["case.tmp"] (.file state.fileText)) := by
  let overwritten := temporary.put ["case.tmp"] (.file state.fileText)
  have written : temporary.write ⟨"case.tmp"⟩ state.fileText = (.ok (), overwritten) := by
    simp only [Disk.write, writable_temporary]
    rfl
  have located : overwritten.locate ⟨"case.tmp/"⟩ = .ok ["case.tmp"] := by
    rw [Disk.locate_eq_follow (by simp) (by decide) (by decide)]
    rfl
  have refused
      : overwritten.rename ⟨"case.tmp"⟩ ⟨"case.tmp/"⟩ = (.error .notDirectory, overwritten) :=
    Disk.rename_of_slash (locate_temporary overwritten rfl) (Disk.entry?_put_self _ (by simp) _)
      located (by decide) (by decide)
  have cut : sibling ⟨"case.tmp/"⟩ = ⟨"case.tmp"⟩ := by decide
  simp only [replaceFile_eq, cut, written, refused]
  rfl

/-- Such a file is its own sibling. A write that fails at once leaves nothing of what it held, and
the node does not start again; with a slash behind the name there need be no fault for the file to
be overwritten by a replacement that fails.
-/
theorem file_with_sibling_name_is_destroyed
    : temporary.read ⟨"case.tmp"⟩ = .ok office.state.fileText
      ∧ ¬ Atomic ⟨"case.tmp"⟩ (office.withDigest withoutOther).state temporary
      ∧ (∃ later,
          replaceFile ⟨"case.tmp"⟩ (office.withDigest withoutOther).state
              (temporary.withFaults [.fails 0])
            = (.error (.persist "case.tmp: Input/output error (os error 5)"), later)
          ∧ later.read ⟨"case.tmp"⟩ = .ok ""
          ∧ load ⟨"case.tmp"⟩ later = .error (.load "case.tmp: invalid case file"))
      ∧ ∃ later,
          replaceFile ⟨"case.tmp/"⟩ (office.withDigest withoutOther).state temporary
            = (.error (.persist "case.tmp/: Not a directory (os error 20)"), later)
          ∧ later.read ⟨"case.tmp"⟩ = .ok (office.withDigest withoutOther).state.fileText
          ∧ (office.withDigest withoutOther).state.fileText ≠ office.state.fileText := by
  refine ⟨Disk.read_eq_ok.mpr ⟨by decide, _, locate_temporary temporary rfl, rfl⟩, ?_, ?_, ?_⟩
  · apply not_atomic_of_ownSibling
    refine ⟨["case.tmp"], ?_, locate_temporary temporary rfl⟩
    rw [sibling_temporary, writable_temporary]
  · have emptied := read_put_temporary ""
    rw [← Disk.read_withFaults _ []] at emptied
    exact ⟨_, replaceFile_temporary_torn _, emptied, load_of_empty emptied⟩
  · refine ⟨_, replaceFile_temporary_slash _, read_put_temporary _, ?_⟩
    intro same
    have states := congrArg CaseState.ofFileText? same
    rw [CaseState.ofFileText?_fileText, CaseState.ofFileText?_fileText] at states
    have views := congrArg CaseState.digest (Option.some.inj states)
    exact absurd views (show withoutOther ≠ office.digest by decide)

end Case

end TaskFabric
