import TaskFabric.Case

/-! What replacing a file leaves on the disk. The new content goes to a sibling first, so the file
itself changes only by the rename, and only to the whole of the new content.
-/

namespace TaskFabric

-----------------------------------------------------------------------------------------
-- Entries and paths
-----------------------------------------------------------------------------------------

namespace Disk

variable {d later : Disk} {p : Path} {here there : Location} {entry : Entry}

theorem lookup_filter_ne (entries : List (Location × Entry)) (here there : Location)
    : (entries.filter (·.1 != here)).lookup there
      = if there = here then none else entries.lookup there := by
  induction entries with
  | nil => simp
  | cons first rest ih =>
      obtain ⟨place, entry⟩ := first
      by_cases removed : place = here
      · subst removed
        simp only [List.filter_cons, bne_self_eq_false, Bool.false_eq_true, if_false, ih]
        split
        · rfl
        · next other => rw [List.lookup_cons, beq_eq_false_iff_ne.mpr other]
      · have kept : (place != here) = true := bne_iff_ne.mpr removed
        simp only [List.filter_cons, kept, if_true, List.lookup_cons, ih]
        split
        · next same => rw [if_neg (eq_of_beq same ▸ removed)]
        · rfl

@[simp] theorem entry?_put_self (d : Disk) (place : here ≠ []) (entry : Entry)
    : entry? (d.put here entry) here = some entry := by
  simp [put, entry?, place]

theorem entry?_put_of_ne (d : Disk) (other : there ≠ here) (entry : Entry)
    : entry? (d.put here entry) there = d.entry? there := by
  simp [put, entry?, List.lookup_cons, beq_eq_false_iff_ne.mpr other, lookup_filter_ne, other]

theorem entry?_remove_self (d : Disk) (place : here ≠ []) : entry? (d.remove here) here = none := by
  simp [remove, entry?, place, lookup_filter_ne]

theorem entry?_remove_of_ne (d : Disk) (other : there ≠ here)
    : entry? (d.remove here) there = d.entry? there := by
  simp [remove, entry?, lookup_filter_ne, other]

theorem ne_root (noDirectory : d.entry? here ≠ some .directory) : here ≠ [] := by
  rintro rfl
  exact noDirectory rfl

/-- The same files under other faults to come. -/
def withFaults (d : Disk) (faults : List Fault) : Disk := { d with faults }

@[simp] theorem entry?_withFaults (d : Disk) (faults : List Fault) (here : Location)
    : entry? (d.withFaults faults) here = d.entry? here :=
  rfl

theorem follow_withFaults (d : Disk) (faults : List Fault) (names : List String) (here : Location)
    : (d.withFaults faults).follow names here = d.follow names here := by
  induction names generalizing here with
  | nil => rfl
  | cons name rest ih => simp only [follow, entry?_withFaults, ih]

@[simp] theorem locate_withFaults (d : Disk) (faults : List Fault) (p : Path)
    : (d.withFaults faults).locate p = d.locate p := by
  simp only [locate, follow_withFaults]
  rfl

@[simp] theorem read_withFaults (d : Disk) (faults : List Fault) (p : Path)
    : (d.withFaults faults).read p = d.read p := by
  simp only [read, locate_withFaults, entry?_withFaults]

@[simp] theorem renamable_withFaults (d : Disk) (faults : List Fault) (source target : Path)
    : (d.withFaults faults).renamable source target = d.renamable source target := by
  simp only [renamable, locate_withFaults, entry?_withFaults]
  rfl

/-- A path that can be one of a file is followed. -/
theorem locate_eq_follow (noNul : p.text.contains '\x00' = false) (nonempty : p.text ≠ "")
    (short : p.text.utf8ByteSize < pathLimit)
    : d.locate p = d.follow p.names (if p.isAbsolute then [] else d.workingDirectory) := by
  simp only [locate, noNul, nonempty, Bool.false_eq_true, if_false, if_neg (Nat.not_le.mpr short)]

/-- Whatever is a directory on one disk is one on another disk, too. -/
structure KeepsDirectories (d later : Disk) : Prop where
  workingDirectory : later.workingDirectory = d.workingDirectory
  directory {here : Location} (directory : d.entry? here = some .directory)
    : later.entry? here = some .directory

namespace KeepsDirectories

theorem trans {last : Disk} (first : d.KeepsDirectories later)
    (second : later.KeepsDirectories last)
    : d.KeepsDirectories last :=
  ⟨second.1.trans first.1, fun directory => second.2 (first.2 directory)⟩

theorem put (noDirectory : d.entry? here ≠ some .directory) (entry : Entry)
    : d.KeepsDirectories (d.put here entry) := by
  refine ⟨rfl, ?_⟩
  intro other directory
  rw [entry?_put_of_ne d (by rintro rfl; exact noDirectory directory) entry]
  exact directory

theorem remove (noDirectory : d.entry? here ≠ some .directory)
    : d.KeepsDirectories (d.remove here) := by
  refine ⟨rfl, ?_⟩
  intro other directory
  rw [entry?_remove_of_ne d (by rintro rfl; exact noDirectory directory)]
  exact directory

theorem follow {names : List String} (kept : d.KeepsDirectories later)
    (leads : d.follow names here = .ok there)
    : later.follow names here = .ok there := by
  induction names generalizing here with
  | nil => exact leads
  | cons name rest ih =>
      unfold Disk.follow at leads ⊢
      split at leads
      · next directory =>
          simp only [kept.directory directory]
          split at leads
          · next dot => rw [if_pos dot]; exact ih leads
          · next notDot =>
              rw [if_neg notDot]
              split at leads
              · next dots => rw [if_pos dots]; exact ih leads
              · next notDots =>
                  rw [if_neg notDots]
                  split at leads
                  · cases leads
                  · next short => rw [if_neg short]; exact ih leads
      · cases leads
      · cases leads

/-- A path that leads somewhere leads to the same place as long as the directories stay. -/
theorem locate (kept : d.KeepsDirectories later) (leads : d.locate p = .ok there)
    : later.locate p = .ok there := by
  unfold Disk.locate at leads ⊢
  split at leads
  · cases leads
  · next noNul =>
      rw [if_neg noNul]
      split at leads
      · cases leads
      · next nonempty =>
          rw [if_neg nonempty]
          split at leads
          · cases leads
          · next short =>
              rw [if_neg short, kept.workingDirectory]
              exact kept.follow leads

end KeepsDirectories

theorem read_eq_ok {content : String}
    : d.read p = .ok content
      ↔ p.endsWithSlash = false
        ∧ ∃ here, d.locate p = .ok here ∧ d.entry? here = some (.file content) := by
  unfold read
  cases d.locate p with
  | error e => simp
  | ok here =>
      cases found : d.entry? here with
      | none => simp [found]
      | some entry =>
          cases entry with
          | directory => simp [found]
          | file text => cases p.endsWithSlash <;> simp [found]

/-- A place where a path lets a file be written is no directory. -/
theorem writable_eq_ok
    : d.writable p = .ok here
      ↔ p.endsWithSlash = false ∧ d.locate p = .ok here ∧ d.entry? here ≠ some .directory := by
  constructor
  · intro writes
    unfold writable at writes
    split at writes
    · cases writes
    · next place located =>
        split at writes
        · cases writes
        · next noSlash =>
            split at writes
            · cases writes
            · next noDirectory =>
                cases writes
                exact ⟨Bool.eq_false_iff.mpr noSlash, located, noDirectory⟩
  · rintro ⟨noSlash, located, noDirectory⟩
    simp only [writable, located, noSlash, Bool.false_eq_true, if_false]

theorem renamable_eq_ok {source target : Path} {content : String}
    (moves : d.renamable source target = .ok (here, content, there))
    : d.locate source = .ok here
      ∧ d.entry? here = some (.file content)
      ∧ d.writable target = .ok there := by
  unfold renamable at moves
  split at moves
  · cases moves
  · cases moves
  · next place goal from_ to_ =>
      split at moves
      · cases moves
      · split at moves
        · next text found =>
            split at moves
            · cases moves
            · next plain =>
                split at moves
                · cases moves
                · next free =>
                    cases moves
                    simp only [Bool.or_eq_true, not_or, Bool.not_eq_true] at plain
                    exact ⟨from_, found, writable_eq_ok.mpr ⟨plain.2, to_, free⟩⟩
        · cases moves
        · cases moves

theorem renamable_of_writable {source target : Path} {content : String}
    (named : (source.endsWithDots || target.endsWithDots) = false)
    (noSlash : source.endsWithSlash = false) (found : d.locate source = .ok here)
    (file : d.entry? here = some (.file content)) (writes : d.writable target = .ok there)
    : d.renamable source target = .ok (here, content, there) := by
  obtain ⟨noSlash', located, noDirectory⟩ := writable_eq_ok.mp writes
  simp only [renamable, found, located, named, file, noSlash, noSlash', noDirectory, Bool.or_self,
    Bool.false_eq_true, if_false]

theorem nextFault_eq (d : Disk) : ∃ fault faults, d.nextFault = (fault, d.withFaults faults) := by
  unfold nextFault
  cases d.faults with
  | nil => exact ⟨.none, d.faults, rfl⟩
  | cons fault rest => exact ⟨fault, rest, rfl⟩

/-- A write that gets to the device leaves the content or a part of it. -/
theorem write_of_writable (writes : d.writable p = .ok here) (content : String)
    : ∃ faults,
        d.write p content = (.ok (), (d.put here (.file content)).withFaults faults)
        ∨ ∃ kept,
            d.write p content
              = (.error .deviceFailure, (d.put here (.file kept)).withFaults faults) := by
  obtain ⟨fault, faults, next⟩ := d.nextFault_eq
  refine ⟨faults, ?_⟩
  simp only [write, writes, next]
  cases fault with
  | none => exact .inl rfl
  | fails kept => exact .inr ⟨_, rfl⟩

/-- A rename moves a whole file or nothing. -/
theorem rename_eq (d : Disk) (source target : Path)
    : (∃ e faults, d.rename source target = (.error e, d.withFaults faults))
      ∨ ∃ here content there faults,
          d.renamable source target = .ok (here, content, there)
          ∧ d.rename source target
            = (.ok (), ((d.remove here).put there (.file content)).withFaults faults) := by
  unfold rename
  cases moves : d.renamable source target with
  | error e => exact .inl ⟨e, d.faults, rfl⟩
  | ok places =>
      obtain ⟨here, content, there⟩ := places
      obtain ⟨fault, faults, next⟩ := d.nextFault_eq
      simp only [next]
      cases fault with
      | none => exact .inr ⟨here, content, there, faults, rfl, rfl⟩
      | fails _ => exact .inl ⟨.deviceFailure, faults, rfl⟩

/-- Whether none of the next writes and renames, so many of them, is hit by a fault. -/
def Sound (d : Disk) (n : Nat) : Prop := ∀ fault ∈ d.faults.take n, fault = .none

theorem Sound.nextFault {n : Nat} (sound : d.Sound (n + 1))
    : ∃ faults, d.nextFault = (.none, d.withFaults faults) ∧ (d.withFaults faults).Sound n := by
  unfold Disk.nextFault
  cases upcoming : d.faults with
  | nil => exact ⟨d.faults, rfl, by simp [Sound, withFaults, upcoming]⟩
  | cons fault rest =>
      simp only [Sound, upcoming, List.take_succ_cons, List.mem_cons, forall_eq_or_imp] at sound
      obtain ⟨rfl, later⟩ := sound
      exact ⟨rest, rfl, later⟩

theorem write_of_sound {n : Nat} (sound : d.Sound (n + 1)) (writes : d.writable p = .ok here)
    (content : String)
    : ∃ faults,
        d.write p content = (.ok (), (d.put here (.file content)).withFaults faults)
        ∧ ((d.put here (.file content)).withFaults faults).Sound n := by
  obtain ⟨faults, next, later⟩ := sound.nextFault
  refine ⟨faults, ?_, later⟩
  simp only [write, writes, next]
  rfl

theorem rename_of_sound {n : Nat} {source target : Path} {content : String}
    (sound : d.Sound (n + 1)) (moves : d.renamable source target = .ok (here, content, there))
    : ∃ later, d.rename source target = (.ok (), later) := by
  obtain ⟨faults, next, _⟩ := sound.nextFault
  simp only [rename, moves, next]
  exact ⟨_, rfl⟩

end Disk

-----------------------------------------------------------------------------------------
-- Outcomes
-----------------------------------------------------------------------------------------

namespace Case

variable {path : Path} {state : CaseState} {disk later : Disk}

/-- Where the content of a file is written before it takes the place of the file. -/
def sibling (path : Path) : Path := path.withExtension "tmp"

/-- What comes of replacing a file. Nothing is written; or something is put at the sibling, and it
stays there; or the whole content is, and it moves to the file.
-/
inductive Replacement (path : Path) (state : CaseState) (disk : Disk)
    : Except ClusterError Unit × Disk → Prop
  | refused {reason} : Replacement path state disk (.error (.persist reason), disk)
  | halted {here kept faults reason} (place : disk.writable (sibling path) = .ok here)
    : Replacement path state disk
        (.error (.persist reason), (disk.put here (.file kept)).withFaults faults)
  | replaced {here there written faults} (place : disk.writable (sibling path) = .ok here)
    (content : written = disk.put here (.file state.fileText))
    (target : written.writable path = .ok there)
    : Replacement path state disk
        (.ok (), ((written.remove here).put there (.file state.fileText)).withFaults faults)

theorem replaceFile_eq (path : Path) (state : CaseState) (disk : Disk)
    : replaceFile path state disk
      = match disk.write (sibling path) state.fileText with
        | (.error e, disk) => (.error (.persist s!"{(sibling path).text}: {e.message}"), disk)
        | (.ok (), disk) =>
            match disk.rename (sibling path) path with
            | (.error e, disk) => (.error (.persist s!"{path.text}: {e.message}"), disk)
            | (.ok (), disk) => (.ok (), disk) :=
  rfl

theorem replaceFile_spec (path : Path) (state : CaseState) (disk : Disk)
    : Replacement path state disk (replaceFile path state disk) := by
  rw [replaceFile_eq]
  cases place : disk.writable (sibling path) with
  | error e =>
      have refused : disk.write (sibling path) state.fileText = (.error e, disk) := by
        simp only [Disk.write, place]
      rw [refused]
      exact .refused
  | ok here =>
      obtain ⟨_, located, noDirectory⟩ := Disk.writable_eq_ok.mp place
      obtain ⟨faults, written | ⟨kept, torn⟩⟩ := Disk.write_of_writable place state.fileText
      · rw [written]
        rcases Disk.rename_eq ((disk.put here (.file state.fileText)).withFaults faults)
          (sibling path) path with ⟨e, _, failed⟩ | ⟨found, content, there, last, moves, renamed⟩
        · simp only [failed]
          exact .halted place
        · simp only [renamed]
          -- The sibling is found where it was written, so that is what moves.
          rw [Disk.renamable_withFaults] at moves
          obtain ⟨relocated, entry, target⟩ := Disk.renamable_eq_ok moves
          have again :=
            (Disk.KeepsDirectories.put noDirectory (.file state.fileText)).locate located
          obtain rfl : here = found := Except.ok.inj (again.symm.trans relocated)
          rw [Disk.entry?_put_self disk (Disk.ne_root noDirectory)] at entry
          obtain rfl : state.fileText = content := Entry.file.inj (Option.some.inj entry)
          have whole : Replacement path state disk (.ok (), (Disk.put _ there _).withFaults last) :=
            .replaced place rfl target
          exact whole
      · rw [torn]
        exact .halted place

/-- A replaced file holds the whole of the new content. -/
theorem read_of_replaced (replaced : replaceFile path state disk = (.ok (), later))
    : later.read path = .ok state.fileText := by
  have spec := replaceFile_spec path state disk
  rw [replaced] at spec
  cases spec with
  | @replaced here there written faults place content target =>
      obtain ⟨noSlash, located, noDirectory⟩ := Disk.writable_eq_ok.mp target
      have root : here ≠ [] := Disk.ne_root (Disk.writable_eq_ok.mp place).2.2
      have file : written.entry? here ≠ some .directory := by
        simp [content, Disk.entry?_put_self disk root]
      have free : Disk.entry? (written.remove here) there ≠ some .directory := by
        by_cases same : there = here
        · simp [same, Disk.entry?_remove_self written root]
        · rwa [Disk.entry?_remove_of_ne written same]
      have kept := (Disk.KeepsDirectories.remove file).trans (.put free (.file state.fileText))
      rw [Disk.read_withFaults]
      exact Disk.read_eq_ok.mpr
        ⟨noSlash, there, kept.locate located, Disk.entry?_put_self _ (Disk.ne_root noDirectory) _⟩

/-- A file whose sibling is another file keeps its content unless it is replaced. -/
theorem read_of_not_replaced {e : ClusterError} {text : String}
    (failed : replaceFile path state disk = (.error e, later))
    (apart : disk.locate (sibling path) ≠ disk.locate path) (content : disk.read path = .ok text)
    : later.read path = .ok text := by
  have spec := replaceFile_spec path state disk
  rw [failed] at spec
  cases spec with
  | refused => exact content
  | @halted here kept faults reason place =>
      obtain ⟨_, located, noDirectory⟩ := Disk.writable_eq_ok.mp place
      obtain ⟨noSlash, there, target, entry⟩ := Disk.read_eq_ok.mp content
      have other : there ≠ here := by
        rintro rfl
        exact apart (located.trans target.symm)
      rw [Disk.read_withFaults]
      exact Disk.read_eq_ok.mpr
        ⟨noSlash, there, (Disk.KeepsDirectories.put noDirectory _).locate target,
          (Disk.entry?_put_of_ne disk other _).trans entry⟩

/-- The only failure to replace a file is a failure to write. -/
theorem persist_of_not_replaced {e : ClusterError}
    (failed : replaceFile path state disk = (.error e, later))
    : ∃ reason, e = .persist reason := by
  have spec := replaceFile_spec path state disk
  rw [failed] at spec
  cases spec with
  | refused | halted => exact ⟨_, rfl⟩

/-- Nothing on a disk is in the way of replacing a file: no fault hits the write or the rename, and
the path and that of the sibling name files that may be written.
-/
structure Replaceable (disk : Disk) (path : Path) : Prop where
  sound : disk.Sound 2
  place : ∃ here, disk.writable (sibling path) = .ok here
  target : ∃ there, disk.writable path = .ok there
  named : ((sibling path).endsWithDots || path.endsWithDots) = false

theorem replaceFile_of_replaceable (free : Replaceable disk path) (state : CaseState)
    : ∃ later, replaceFile path state disk = (.ok (), later) := by
  obtain ⟨here, place⟩ := free.place
  obtain ⟨there, target⟩ := free.target
  obtain ⟨noSlash, located, noDirectory⟩ := Disk.writable_eq_ok.mp place
  obtain ⟨faults, written, sound⟩ := Disk.write_of_sound free.sound place state.fileText
  have kept := Disk.KeepsDirectories.put noDirectory (.file state.fileText)
  have entry := Disk.entry?_put_self disk (Disk.ne_root noDirectory) (.file state.fileText)
  have still : (disk.put here (.file state.fileText)).writable path = .ok there := by
    obtain ⟨noSlash, located, noDirectory⟩ := Disk.writable_eq_ok.mp target
    refine Disk.writable_eq_ok.mpr ⟨noSlash, kept.locate located, ?_⟩
    by_cases same : there = here
    · simp [same, entry]
    · rwa [Disk.entry?_put_of_ne disk same]
  have moves := Disk.renamable_of_writable free.named noSlash (kept.locate located) entry still
  rw [← Disk.renamable_withFaults _ faults] at moves
  obtain ⟨later, renamed⟩ := Disk.rename_of_sound sound moves
  exact ⟨later, by simp only [replaceFile_eq, written, renamed]⟩

end Case

end TaskFabric
