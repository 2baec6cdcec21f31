import TaskFabric.Path

/-! Files and directories. A location is the list of names that leads to it from the root; a path is
followed name by name, and each name on the way has to be a directory. Writing a file and renaming
one may also fail for no reason that the disk shows: a failed write leaves some part of the new
content behind, a failed rename changes nothing.
-/

namespace TaskFabric

/-- Why an operation on files fails. -/
inductive OsError where
  | notFound
  | notDirectory
  | isDirectory
  | busy
  | nameTooLong
  | nulCharacter
  | deviceFailure
deriving DecidableEq

/-- The wording of a failure. -/
def OsError.message : OsError → String
  | .notFound => "No such file or directory (os error 2)"
  | .notDirectory => "Not a directory (os error 20)"
  | .isDirectory => "Is a directory (os error 21)"
  | .busy => "Device or resource busy (os error 16)"
  | .nameTooLong => "File name too long (os error 36)"
  | .nulCharacter => "file name contained an unexpected NUL byte"
  | .deviceFailure => "Input/output error (os error 5)"

/-- The names that lead from the root to a place. -/
abbrev Location := List String

/-- What is found at a place. -/
inductive Entry where
  | directory
  | file (content : String)
deriving DecidableEq

/-- What the device does to the next write or rename: nothing, or it fails, a write having put so
many characters down.
-/
inductive Fault where
  | none
  | fails (kept : Nat)
deriving DecidableEq

/-- The entries of a disk other than its root, the directory at which paths that do not start at
the root begin, and the faults to come.
-/
structure Disk where
  entries : List (Location × Entry)
  workingDirectory : Location
  faults : List Fault
deriving DecidableEq

namespace Disk

/-- A disk with no entries. -/
def empty : Disk := ⟨[], [], []⟩

instance : Inhabited Disk := ⟨empty⟩

/-- What is at a place. -/
def entry? (d : Disk) (location : Location) : Option Entry :=
  if location = [] then some .directory else d.entries.lookup location

/-- Puts an entry at a place, instead of the one that was there. -/
def put (d : Disk) (location : Location) (entry : Entry) : Disk :=
  { d with entries := (location, entry) :: d.entries.filter (·.1 != location) }

/-- Removes the entry at a place. -/
def remove (d : Disk) (location : Location) : Disk :=
  { d with entries := d.entries.filter (·.1 != location) }

-----------------------------------------------------------------------------------------
-- Following paths
-----------------------------------------------------------------------------------------

/-- The greatest size of a name, in bytes. -/
def nameLimit : Nat := 255

/-- The first size of a path that is too great, in bytes. -/
def pathLimit : Nat := 4096

/-- The place that names lead to from another one. Every name has to stand in a directory. -/
def follow (d : Disk) : List String → Location → Except OsError Location
  | [], here => .ok here
  | name :: rest, here =>
      match d.entry? here with
      | some .directory =>
          -- The parent of the root is the root.
          if name = "." then follow d rest here
          else if name = ".." then follow d rest here.dropLast
          else if nameLimit < name.utf8ByteSize then .error .nameTooLong
          else follow d rest (here ++ [name])
      | some (.file _) => .error .notDirectory
      | none => .error .notFound

/-- The place that a path leads to. There need not be anything, but the directory around it is. -/
def locate (d : Disk) (p : Path) : Except OsError Location :=
  if p.text.contains '\x00' then .error .nulCharacter
  else if p.text = "" then .error .notFound
  else if pathLimit ≤ p.text.utf8ByteSize then .error .nameTooLong
  else d.follow p.names (if p.isAbsolute then [] else d.workingDirectory)

-----------------------------------------------------------------------------------------
-- Operations
-----------------------------------------------------------------------------------------

/-- Whether a path leads to an entry. -/
def pathExists (d : Disk) (p : Path) : Bool :=
  match d.locate p with
  | .ok location =>
      match d.entry? location with
      | some .directory => true
      | some (.file _) => !p.endsWithSlash
      | none => false
  | .error _ => false

/-- The content of a file. -/
def read (d : Disk) (p : Path) : Except OsError String :=
  match d.locate p with
  | .error e => .error e
  | .ok location =>
      match d.entry? location with
      | some .directory => .error .isDirectory
      | some (.file content) => if p.endsWithSlash then .error .notDirectory else .ok content
      | none => .error .notFound

/-- The next fault, and the disk that has it behind it. -/
def nextFault (d : Disk) : Fault × Disk :=
  match d.faults with
  | [] => (.none, d)
  | fault :: rest => (fault, { d with faults := rest })

/-- The place at which a path lets a file be written. -/
def writable (d : Disk) (p : Path) : Except OsError Location :=
  match d.locate p with
  | .error e => .error e
  | .ok location =>
      if p.endsWithSlash then
        .error .isDirectory
      else
        match d.entry? location with
        | some .directory => .error .isDirectory
        | _ => .ok location

/-- Writes a file anew. A device failure leaves the first part of the content in it. -/
def write (d : Disk) (p : Path) (content : String) : Except OsError Unit × Disk :=
  match d.writable p with
  | .error e => (.error e, d)
  | .ok location =>
      match d.nextFault with
      | (.none, d) => (.ok (), d.put location (.file content))
      | (.fails kept, d) =>
          (.error .deviceFailure,
            d.put location (.file (String.ofList (content.toList.take kept))))

/-- The places that a rename of a file moves it from and to. Neither may be named by dots, and the
new one not with a slash behind it.
-/
def renamable (d : Disk) (source target : Path) : Except OsError (Location × String × Location) :=
  match d.locate source, d.locate target with
  | .error e, _ => .error e
  | _, .error e => .error e
  | .ok here, .ok there =>
      if source.endsWithDots || target.endsWithDots then
        .error .busy
      else
        match d.entry? here with
        | some (.file content) =>
            if source.endsWithSlash || target.endsWithSlash then .error .notDirectory
            else if d.entry? there = some .directory then .error .isDirectory
            else .ok (here, content, there)
        | some .directory => .error .isDirectory
        | none => .error .notFound

/-- Moves a file to another place in one step, replacing a file that is there. A device failure
changes nothing.
-/
def rename (d : Disk) (source target : Path) : Except OsError Unit × Disk :=
  match d.renamable source target with
  | .error e => (.error e, d)
  | .ok (here, content, there) =>
      match d.nextFault with
      | (.none, d) => (.ok (), (d.remove here).put there (.file content))
      | (.fails _, d) => (.error .deviceFailure, d)

/-- Makes a directory at a place, with those that lead to it. -/
def makeDirectory (d : Disk) (location : Location) : Disk :=
  (List.range location.length).foldl
    (fun d n =>
      let here := location.take (n + 1)
      match d.entry? here with
      | none => d.put here .directory
      | some _ => d)
    d

/-- Removes an entry with everything below it. -/
def removeAll (d : Disk) (location : Location) : Disk :=
  { d with entries := d.entries.filter fun (other, _) => !location.isPrefixOf other }

/-- The names in a directory, in order. -/
def list (d : Disk) (location : Location) : List String :=
  let names := d.entries.filterMap fun (other, _) =>
    match other.getLast? with
    | some name => if other.dropLast = location then some name else none
    | none => none
  names.mergeSort (fun a b => decide (a ≤ b))

end Disk

end TaskFabric
