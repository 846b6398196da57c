import FlightRule.Storage.DiskPath

/-!
# Disks

A disk says what stands at each location, where a location is the list of directory names from the
root.  A path is first resolved to a location, `Disk.follow`, and then looked up or changed there.

Making directories and writing files happen step by step: when such an attempt fails, the
directories that were made before stay.  A disk also says where the system permits changes.  It may
refuse any change for reasons of its own, and then nothing changes; looking things up is never
refused.
-/

namespace FlightRule

/-- What can stand at a location. -/
inductive DiskEntry where
  | directory
  /-- A file with some bytes. -/
  | file (bytes : ByteArray)

instance : DecidableEq DiskEntry
  | .directory, .directory => isTrue rfl
  | .directory, .file _ => isFalse nofun
  | .file _, .directory => isFalse nofun
  | .file left, .file right =>
    decidable_of_iff (left.data = right.data) (by rw [DiskEntry.file.injEq, ByteArray.ext_iff])

/-- The text of a file, if its bytes are a text. -/
def DiskEntry.text? : DiskEntry → Option String
  | directory => none
  | file bytes => String.fromUTF8? bytes

/-- Why a path cannot be followed. -/
inductive PathError where
  /-- Nothing stands at some name on the way. -/
  | missing
  /-- A file stands on the way, the path itself is not admitted, or the system refuses. -/
  | refused
deriving DecidableEq, Repr

/-- A disk, with what stands at each location and where the system lets it be changed. -/
structure Disk where
  /-- What stands at a location, given by the directory names from the root. -/
  entryAt : List String → Option DiskEntry
  /-- The system permits a change at a location; it does not where a file may only be read. -/
  permits : List String → Bool := fun _ => true

/-- The result of an attempt to change a disk. -/
structure Attempt where
  /-- The attempt was successful. -/
  done : Bool
  /-- The disk after the attempt. -/
  disk : Disk

namespace Disk

/-- A disk with one directory of the given name in its root. -/
def withDirectory (name : String) : Disk where
  entryAt location :=
    if location = [] ∨ location = [name] then some .directory else none

/-- The disk with something else, or nothing, at a location. -/
def put (disk : Disk) (location : List String) (entry : Option DiskEntry) : Disk :=
  { disk with entryAt := fun other => if other = location then entry else disk.entryAt other }

/-- The disk with changes permitted at other locations. -/
def permitting (disk : Disk) (permits : List String → Bool) : Disk :=
  { disk with permits }

@[simp] theorem entryAt_put
    (disk : Disk)
    (location other : List String)
    (entry : Option DiskEntry) :
    (disk.put location entry).entryAt other =
      if other = location then entry else disk.entryAt other :=
  rfl

/-! ### Resolution of paths -/

/-- The location of the directory that names lead to from another directory. -/
def follow (disk : Disk) (location : List String) : List String → Except PathError (List String)
  | [] => .ok location
  | name :: names =>
    if name = ".." then disk.follow location.dropLast names
    else
      match disk.entryAt (location ++ [name]) with
      | some .directory => disk.follow (location ++ [name]) names
      | some (.file _) => .error .refused
      | none => .error (if DiskPath.nameFits name then .missing else .refused)

/-- The location of the directory that all names of a path lead to. -/
def directoryOf (disk : Disk) (path : DiskPath) : Except PathError (List String) :=
  if path.isValid then disk.follow [] path.names else .error .refused

/--
The location of the last name of a path in the directory of the names before it.  Whether anything
stands there does not matter.
-/
def placeOf (disk : Disk) (path : DiskPath) : Except PathError (List String) := do
  if path.isValid then
    let directory ← disk.follow [] path.names.dropLast
    match path.names.getLast? with
    | some name =>
      if DiskPath.nameFits name then .ok (directory ++ [name]) else .error .refused
    | none => .error .refused
  else .error .refused

/-- The path is that of a directory. -/
def hasDirectory (disk : Disk) (path : DiskPath) : Bool :=
  (disk.directoryOf path).toBool

/-- What stands at a path. -/
def find? (disk : Disk) (path : DiskPath) : Option DiskEntry :=
  if path.isOfDirectory then
    if disk.hasDirectory path then some .directory else none
  else (disk.placeOf path).toOption.bind disk.entryAt

/-! ### Changes -/

/-- Write a file in a directory that is there, in place of a file that was there. -/
def write? (disk : Disk) (path : DiskPath) (bytes : ByteArray) : Option Disk :=
  if path.isOfDirectory then none
  else
    (disk.placeOf path).toOption.bind fun location =>
      if disk.entryAt location = some .directory || !disk.permits location then none
      else some (disk.put location (some (.file bytes)))

/-- Remove the file at a path. -/
def delete? (disk : Disk) (path : DiskPath) : Option Disk :=
  match disk.find? path with
  | some (.file _) =>
    (disk.placeOf path).toOption.bind fun location =>
      if disk.permits location then some (disk.put location none) else none
  | _ => none

/-- Make a directory in a directory that is there. -/
def makeDirectory (disk : Disk) (path : DiskPath) : Except PathError Disk := do
  if path.endsInDots then
    let _ ← disk.directoryOf path
    .error .refused
  else
    let location ← disk.placeOf path
    if (disk.entryAt location).isSome || !disk.permits location then .error .refused
    else .ok (disk.put location (some .directory))

/-- Make a directory, or be content with one that is there. -/
def ensureDirectory (disk : Disk) (path : DiskPath) : Attempt :=
  match disk.makeDirectory path with
  | .ok disk => ⟨true, disk⟩
  | .error _ => ⟨disk.hasDirectory path, disk⟩

/--
Ensure that the path is that of a directory.  The directories above it are ensured only when the
path cannot be followed because something is missing.
-/
def ensureDirectories (disk : Disk) (path : DiskPath) : Attempt :=
  if path.names = [] then disk.ensureDirectory path
  else
    match disk.makeDirectory path with
    | .error .missing =>
      let above := disk.ensureDirectories path.parent
      if above.done then above.disk.ensureDirectory path else above
    | _ => disk.ensureDirectory path
termination_by path.names.length
decreasing_by
  have := List.length_pos_iff.2 ‹¬path.names = []›
  simp only [DiskPath.names_parent, List.length_dropLast]
  omega

/-- Write a file, with the directories above it. -/
def store (disk : Disk) (path : DiskPath) (bytes : ByteArray) : Attempt :=
  let above := disk.ensureDirectories path.parent
  if above.done then
    match above.disk.write? path bytes with
    | some disk => ⟨true, disk⟩
    | none => ⟨false, above.disk⟩
  else above

end Disk

/-- An attempt that leaves the disk as it is unless it succeeds. -/
def Attempt.ofOption (disk : Disk) (next : Option Disk) : Attempt :=
  ⟨next.isSome, next.getD disk⟩

end FlightRule
