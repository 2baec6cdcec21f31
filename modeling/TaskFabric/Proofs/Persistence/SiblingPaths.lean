import TaskFabric.Proofs.CardIdentities
import TaskFabric.Proofs.Persistence.Replacement

/-! Where the sibling of a file is. It stands in the same directory under the name that the file has
up to its extension, with an extension of its own; so it is another file unless the extension is the
same.
-/

namespace TaskFabric

namespace Text

variable {mark : Char} {cs : List Char}

theorem splitAt_ne_nil (mark : Char) (cs : List Char) : splitAt mark cs ≠ [] := by
  cases cs with
  | nil => nofun
  | cons c rest =>
      unfold splitAt
      split
      · nofun
      · split <;> nofun

theorem splitAt_of_not_mem (noMark : mark ∉ cs) : splitAt mark cs = [cs] := by
  induction cs with
  | nil => rfl
  | cons c rest ih =>
      obtain ⟨different, others⟩ := not_or.mp (mt List.mem_cons.mpr noMark)
      simp only [splitAt, if_neg (Ne.symm different), ih others]

theorem splitAt_append (before behind : List Char)
    : splitAt mark (before ++ mark :: behind) = splitAt mark before ++ splitAt mark behind := by
  induction before with
  | nil => simp [splitAt]
  | cons c rest ih =>
      by_cases cut : c = mark
      · simp [splitAt, cut, ih]
      · obtain ⟨part, parts, parted⟩ := List.exists_cons_of_ne_nil (splitAt_ne_nil mark rest)
        simp [splitAt, cut, ih, parted]

end Text

namespace Path

variable {p : Path} {cs before name stem extension : List Char}

-----------------------------------------------------------------------------------------
-- Names
-----------------------------------------------------------------------------------------

/-- A text that may stand between the slashes of a path. -/
structure IsPart (part : List Char) : Prop where
  nonempty : part ≠ []
  noSlash : '/' ∉ part

/-- A text that may be the name of an entry: it does not say to stay or to go back. -/
structure IsName (name : List Char) : Prop extends IsPart name where
  noDot : name ≠ ['.']
  noDots : name ≠ ['.', '.']

theorem isPart_dots : IsPart ['.', '.'] := ⟨by simp, by decide⟩

/-- What may stand before a name: nothing, or the path of a directory and a slash. -/
inductive Directory : List Char → Prop
  | current : Directory []
  | inside (others : List Char) : Directory (others ++ ['/'])

/-- How the text of a path is made up that ends with a name. -/
structure Named (p : Path) (before name : List Char) : Prop where
  text : p.text.toList = before ++ name
  directory : Directory before
  isName : IsName name

/-- There is nothing to leave out behind a name. -/
theorem trim_reverse (isPart : IsPart name) (noDot : name ≠ ['.']) (n : Nat)
    : splitName.trim n (name.reverse ++ cs) = name.reverse ++ cs := by
  obtain ⟨nonempty, noSlash⟩ := isPart
  cases n with
  | zero => rfl
  | succ n =>
      rcases name.eq_nil_or_concat with rfl | ⟨front, last, rfl⟩
      · exact absurd rfl nonempty
      · unfold splitName.trim
        split
        · next first =>
            simp at first
            simp [first] at noSlash
        · next first =>
            -- The name is more than this dot, so the slash behind it would belong to the name.
            rcases front.eq_nil_or_concat with rfl | ⟨_, other, rfl⟩
            · simp at first
              simp [first] at noDot
            · simp at first
              simp [first] at noSlash
        · rfl

theorem splitName_append (directory : Directory before) (isPart : IsPart name)
    (noDot : name ≠ ['.'])
    : splitName (before ++ name) = (before, name) := by
  have inName : ∀ c ∈ name.reverse, (c != '/') = true := by
    intro c member
    simp only [bne_iff_ne, ne_eq]
    rintro rfl
    exact isPart.noSlash (List.mem_reverse.mp member)
  simp only [splitName, List.reverse_append, trim_reverse isPart noDot,
    List.dropWhile_append_of_pos inName, List.takeWhile_append_of_pos inName]
  cases directory <;> simp

/-- A name and its extension: there is none, or a dot stands between the two. -/
theorem splitExtension_eq (name : List Char)
    : splitExtension name = (name, [])
      ∨ ∃ stem extension,
          stem ≠ []
          ∧ '.' ∉ extension
          ∧ name = stem ++ '.' :: extension
          ∧ splitExtension name = (stem, extension) := by
  unfold splitExtension
  split
  · exact .inl rfl
  · next stem extension named cut =>
      obtain ⟨split, noDot⟩ := Text.splitAtLast?_eq_some_iff.mp cut
      exact .inr ⟨stem, extension, named, noDot, split, rfl⟩
  · exact .inl rfl

theorem splitExtension_fst_ne_nil (nonempty : name ≠ []) : (splitExtension name).1 ≠ [] := by
  rcases splitExtension_eq name with none | ⟨_, _, nonempty, _, _, cut⟩
  · rwa [none]
  · rwa [cut]

theorem splitExtension_append (nonempty : stem ≠ []) (noDot : '.' ∉ extension)
    : splitExtension (stem ++ '.' :: extension) = (stem, extension) := by
  have cut : Text.splitAtLast? '.' (stem ++ '.' :: extension) = some (stem, extension) :=
    Text.splitAtLast?_append noDot
  unfold splitExtension
  rw [cut]
  cases stem with
  | nil => exact absurd rfl nonempty
  | cons _ _ => rfl

/-- The part of a name before its extension, with another extension, is a name. -/
theorem IsName.withExtension (isName : IsName name) (other : (splitExtension name).1 ≠ ['.'])
    (noSlash : '/' ∉ extension)
    : IsName ((splitExtension name).1 ++ '.' :: extension) := by
  have nonempty := splitExtension_fst_ne_nil isName.nonempty
  have stemNoSlash : '/' ∉ (splitExtension name).1 := by
    have noSlash := isName.noSlash
    rcases splitExtension_eq name with none | ⟨stem, old, _, _, rfl, cut⟩
    · rwa [none]
    · rw [cut]
      exact fun member => noSlash (List.mem_append_left _ member)
  refine ⟨⟨by simp, ?_⟩, ?_, ?_⟩
  · simp only [List.mem_append, List.mem_cons, not_or]
    exact ⟨stemNoSlash, by decide, noSlash⟩
  · simp [List.append_eq_cons_iff, nonempty]
  · intro dots
    generalize (splitExtension name).1 = stem at *
    rcases stem with _ | ⟨c, _ | ⟨_, _⟩⟩
    · exact nonempty rfl
    · cases dots
      exact other rfl
    · simp at dots

/-- An extension is cut off behind its dot. -/
theorem take_extension (before stem extension : List Char)
    : (before ++ (stem ++ '.' :: extension)).take
        ((before ++ (stem ++ '.' :: extension)).length - extension.length)
      = before ++ (stem ++ ['.']) := by
  have parted : before ++ (stem ++ '.' :: extension) = before ++ (stem ++ ['.']) ++ extension := by
    simp
  rw [parted, List.length_append, Nat.add_sub_cancel, List.take_left]

/-- What setting an extension does to a name, whatever it has for an extension. -/
theorem setExtension_append (directory : Directory before) (isName : IsName name)
    (extension : List Char)
    : setExtension (before ++ name) extension
      = before ++ ((splitExtension name).1 ++ '.' :: extension) := by
  simp only [setExtension, splitName_append directory isName.toIsPart isName.noDot,
    isName.nonempty, isName.noDot, isName.noDots, or_self, if_false, List.append_assoc]

/-- The sibling stands where the path does, under the name up to its extension. A single dot in
front of the extension would make it the parent directory.
-/
theorem withExtension_eq (named : p.Named before name) (other : (splitExtension name).1 ≠ ['.'])
    (extension : String)
    : p.withExtension extension
      = ⟨String.ofList (before ++ ((splitExtension name).1 ++ '.' :: extension.toList))⟩ := by
  obtain ⟨text, directory, isName⟩ := named
  have split := splitName_append directory isName.toIsPart isName.noDot
  simp only [withExtension, text, split]
  rcases splitExtension_eq name with none | ⟨stem, old, nonempty, noDot, rfl, cut⟩
  · simp only [none, List.length_nil, Nat.sub_zero, List.take_length]
    rw [setExtension_append directory isName, none]
  · have shorter := isName.withExtension other List.not_mem_nil
    rw [cut] at shorter ⊢
    rw [take_extension, setExtension_append directory shorter,
      splitExtension_append nonempty (by simp)]

/-- A file with the same extension is its own sibling. -/
theorem withExtension_self {extension : String} (named : p.Named before name)
    (other : (splitExtension name).1 ≠ ['.']) (nonempty : extension ≠ "")
    (same : (splitExtension name).2 = extension.toList)
    : p.withExtension extension = p := by
  rw [withExtension_eq named other]
  rcases splitExtension_eq name with none | ⟨stem, old, _, _, rfl, cut⟩
  · rw [none] at same
    exact absurd (String.toList_eq_nil_iff.mp same.symm) nonempty
  · rw [cut] at same ⊢
    rw [← same, ← named.text, String.ofList_toList]

/-- A name of two dots and an extension leaves the parent directory. -/
theorem withExtension_parent (named : p.Named before name) (dot : (splitExtension name).1 = ['.'])
    (extension : String)
    : p.withExtension extension = ⟨String.ofList (before ++ ['.', '.'])⟩ := by
  obtain ⟨text, directory, isName⟩ := named
  have split := splitName_append directory isName.toIsPart isName.noDot
  simp only [withExtension, text, split]
  rcases splitExtension_eq name with none | ⟨stem, old, nonempty, noDot, rfl, cut⟩
  · rw [none] at dot
    exact absurd dot isName.noDot
  · rw [cut] at dot ⊢
    obtain rfl : stem = ['.'] := dot
    have parent : splitName (before ++ (['.'] ++ ['.'])) = (before, ['.', '.']) :=
      splitName_append directory isPart_dots (by decide)
    rw [take_extension]
    simp only [setExtension, parent, or_true, if_true]
    rfl

-----------------------------------------------------------------------------------------
-- Ways
-----------------------------------------------------------------------------------------

/-- The way to a name goes through a directory that does not depend on it. -/
theorem names_append (directory : Directory before)
    : ∃ front, ∀ part, IsPart part →
        (Path.mk (String.ofList (before ++ part))).names = front ++ [String.ofList part] := by
  have kept {part : List Char} (isPart : IsPart part) : (String.ofList part != "") = true := by
    refine bne_iff_ne.mpr fun empty => isPart.nonempty ?_
    simpa using congrArg String.toList empty
  cases directory with
  | current =>
      refine ⟨[], ?_⟩
      intro part isPart
      simp [names, Text.splitAt_of_not_mem isPart.noSlash, kept isPart]
  | inside others =>
      refine ⟨(Path.mk (String.ofList others)).names, ?_⟩
      intro part isPart
      simp [names, Text.splitAt_append, Text.splitAt_of_not_mem isPart.noSlash, kept isPart]

theorem isAbsolute_append (isPart : IsPart name)
    : (Path.mk (String.ofList (before ++ name))).isAbsolute = (before.head? == some '/') := by
  cases before with
  | nil =>
      cases name with
      | nil => exact absurd rfl isPart.nonempty
      | cons c rest =>
          have different : c ≠ '/' := fun same => isPart.noSlash (same ▸ List.mem_cons_self)
          simpa [isAbsolute] using different
  | cons c rest => simp [isAbsolute]

theorem Named.eq (named : p.Named before name) : p = ⟨String.ofList (before ++ name)⟩ := by
  rw [← named.text, String.ofList_toList]

end Path

-----------------------------------------------------------------------------------------
-- Places
-----------------------------------------------------------------------------------------

namespace Disk

open TaskFabric.Path

variable {d : Disk} {p : Path} {here folder : Location} {before name : List Char}

theorem follow_append (front last : List String) (start : Location)
    : d.follow (front ++ last) start = (d.follow front start).bind (d.follow last) := by
  induction front generalizing start with
  | nil => rfl
  | cons first rest ih =>
      simp only [List.cons_append, follow, ih]
      split
      · split
        · rfl
        · split
          · rfl
          · split <;> rfl
      · rfl
      · rfl

/-- The paths to the names in one directory lead there first. -/
theorem locate_append (d : Disk) (directory : Directory before)
    : ∃ found : Except OsError Location, ∀ part here, IsPart part
        → d.locate ⟨String.ofList (before ++ part)⟩ = .ok here
        → ∃ folder, found = .ok folder ∧ d.follow [String.ofList part] folder = .ok here := by
  obtain ⟨front, way⟩ := names_append directory
  refine ⟨d.follow front (if before.head? == some '/' then [] else d.workingDirectory), ?_⟩
  intro part here isPart located
  unfold locate at located
  split at located
  · cases located
  · split at located
    · cases located
    · split at located
      · cases located
      · rw [way part isPart, isAbsolute_append isPart, follow_append] at located
        cases entered : d.follow front
            (if before.head? == some '/' then [] else d.workingDirectory) with
        | error e =>
            rw [entered] at located
            cases located
        | ok folder =>
            rw [entered] at located
            exact ⟨folder, rfl, located⟩

theorem follow_isName (isName : IsName name)
    (leads : d.follow [String.ofList name] folder = .ok here)
    : here = folder ++ [String.ofList name] := by
  have noDot : String.ofList name ≠ "." := fun same =>
    isName.noDot (by simpa using congrArg String.toList same)
  have noDots : String.ofList name ≠ ".." := fun same =>
    isName.noDots (by simpa using congrArg String.toList same)
  simp only [follow, noDot, noDots, if_false] at leads
  split at leads
  · split at leads
    · cases leads
    · cases leads
      rfl
  · cases leads
  · cases leads

theorem follow_parent (leads : d.follow [".."] folder = .ok here) : here = folder.dropLast := by
  simp only [follow, String.reduceEq, if_false, if_true] at leads
  split at leads
  · cases leads
    rfl
  · cases leads
  · cases leads

/-- On no disk is the sibling with another extension the file itself. -/
theorem locate_ne_of_extension_ne {extension : String} (named : p.Named before name)
    (other : (splitExtension name).2 ≠ extension.toList) (noDot : '.' ∉ extension.toList)
    (noSlash : '/' ∉ extension.toList) (sibling : d.locate (p.withExtension extension) = .ok here)
    : d.locate p ≠ .ok here := by
  intro same
  have isName := named.isName
  obtain ⟨found, entered⟩ := d.locate_append named.directory
  rw [named.eq] at same
  obtain ⟨folder, rfl, leads⟩ := entered name here isName.toIsPart same
  have here_eq := follow_isName isName leads
  by_cases dot : (splitExtension name).1 = ['.']
  · rw [withExtension_parent named dot] at sibling
    obtain ⟨_, ⟨⟩, leads⟩ := entered ['.', '.'] here isPart_dots sibling
    -- The parent of the directory is no place in it.
    have lengths := congrArg List.length (here_eq.symm.trans (follow_parent leads))
    simp at lengths
    omega
  · have renamed := isName.withExtension dot noSlash
    rw [withExtension_eq named dot] at sibling
    obtain ⟨_, ⟨⟩, leads'⟩ := entered _ here renamed.toIsPart sibling
    have sameName : name = (splitExtension name).1 ++ '.' :: extension.toList := by
      have places := here_eq.symm.trans (follow_isName renamed leads')
      exact String.ofList_injective (List.singleton_inj.mp (List.append_cancel_left places))
    apply other
    rw [sameName, splitExtension_append (splitExtension_fst_ne_nil isName.nonempty) noDot]

end Disk

end TaskFabric
