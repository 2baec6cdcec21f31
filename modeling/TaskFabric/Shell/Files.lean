import TaskFabric.Disk

/-! Files of the machine. What stands at the places on the way to a path is looked at before a
command runs, and the files that the command changed are written afterwards, each to a sibling that
then takes its place.
-/

namespace TaskFabric.Shell

/-- The text of the path that leads from the root to a place. -/
def pathText (location : Location) : String := "/" ++ "/".intercalate location

/-- What stands at a place. A file that is no text reads as one that nothing can be read from, and
what cannot be opened counts as a directory.
-/
def look (location : Location) : IO (Option Entry) := do
  try
    let bytes ← IO.FS.readBinFile (pathText location)
    return some (.file ((String.fromUTF8? bytes).getD "\x00"))
  catch e =>
    match e with
    | .noFileOrDirectory _ _ _ => return none
    | _ => return some .directory

/-- Enters what stands at the places on the way to a path. -/
def observe (path : Path) (disk : Disk) : IO Disk := do
  let mut here := if path.isAbsolute then [] else disk.workingDirectory
  let mut seen := disk
  for name in path.names do
    here :=
      if name = "." then here
      else if name = ".." then here.dropLast
      else here ++ [name]
    if (seen.entry? here).isNone then
      if let some entry ← look here then
        seen := seen.put here entry
  return seen

/-- The disk of which only the working directory is known. -/
def emptyDisk : IO Disk := do
  let location := (⟨(← IO.currentDir).toString⟩ : Path).names
  return { Disk.empty.makeDirectory location with workingDirectory := location }

/-- Writes the files that differ between two disks. -/
def save (before after : Disk) : IO Unit := do
  for (location, entry) in after.entries do
    if let .file content := entry then
      if before.entry? location ≠ some entry then
        let path : Path := ⟨pathText location⟩
        let sibling := path.withExtension "tmp"
        IO.FS.writeFile sibling.text content
        IO.FS.rename sibling.text path.text

end TaskFabric.Shell
