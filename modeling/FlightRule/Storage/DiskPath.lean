/-!
# Paths on a disk

A path is a list of parts.  Most parts are names to follow from the root, each inside the directory
that the names before it lead to; the name `..` leads back to the directory above.  Empty parts and
dots lead nowhere, but they count for the size of a path, and at its end they tell that the path is
that of a directory.
-/

namespace FlightRule

/-- A path from the root of a disk, as the parts between its slashes. -/
structure DiskPath where
  /-- The parts in order, with empty ones and dots. -/
  parts : List String
deriving DecidableEq, Repr

namespace DiskPath

/-- The path that a text denotes. -/
def ofText (text : String) : DiskPath where
  parts := text.splitOn "/"

/-- The text of a path. -/
def text (path : DiskPath) : String :=
  "/".intercalate path.parts

/-- The text of a path below a directory; a path from the root stays as it is. -/
def join (directory path : String) : String :=
  if path.startsWith "/" then path
  else if directory = "" || directory.endsWith "/" then directory ++ path
  else directory ++ "/" ++ path

/-! ### Names -/

/-- A part that leads somewhere. -/
def isName (part : String) : Bool :=
  part != "" && part != "."

/-- The names on a path, in order. -/
def names (path : DiskPath) : List String :=
  path.parts.filter isName

/-- The parts up to the last name among them. -/
def upToName (parts : List String) : List String :=
  (parts.reverse.dropWhile fun part => !isName part).reverse

/-- The path up to the last name but one. -/
def parent (path : DiskPath) : DiskPath where
  parts := upToName (upToName path.parts).dropLast

theorem filter_isName_dropWhile (parts : List String) :
    (parts.dropWhile fun part => !isName part).filter isName = parts.filter isName := by
  induction parts with
  | nil => rfl
  | cons part parts ih => cases named : isName part <;> simp [named, ih]

theorem filter_isName_tail_dropWhile (parts : List String) :
    (parts.dropWhile fun part => !isName part).tail.filter isName =
      (parts.filter isName).tail := by
  induction parts with
  | nil => rfl
  | cons part parts ih => cases named : isName part <;> simp [named, ih]

theorem filter_isName_upToName (parts : List String) :
    (upToName parts).filter isName = parts.filter isName := by
  simp [upToName, List.filter_reverse, filter_isName_dropWhile]

/-- The names on the way to the parent are those before the last. -/
@[simp] theorem names_parent (path : DiskPath) :
    path.parent.names = path.names.dropLast := by
  simp only [names, parent, filter_isName_upToName]
  rw [upToName, List.dropLast_reverse, List.filter_reverse, filter_isName_tail_dropWhile,
    List.filter_reverse, List.tail_reverse, List.reverse_reverse]

/-! ### What a path can denote -/

/-- The path ends in a slash. -/
def endsInSlash (path : DiskPath) : Bool :=
  path.parts.getLast? == some ""

/-- The path ends in a dot or in `..`, slashes behind it apart, or has no parts but slashes. -/
def endsInDots (path : DiskPath) : Bool :=
  (path.parts.reverse.find? (· != "")).all fun part => part == "." || part == ".."

/-- The path can only be that of a directory. -/
def isOfDirectory (path : DiskPath) : Bool :=
  path.endsInSlash || path.endsInDots

/-- The number of bytes that a name may have. -/
def nameLimit : Nat := 255

/-- The number of bytes that the text of a path may have. -/
def pathLimit : Nat := 4095

/-- The name is not too long. -/
def nameFits (name : String) : Bool :=
  decide (name.utf8ByteSize ≤ nameLimit)

/-- The path can be looked up at all: it is not too long, and no part holds the null character. -/
def isValid (path : DiskPath) : Bool :=
  decide (path.text.utf8ByteSize ≤ pathLimit) && !path.text.contains '\x00'

end DiskPath

end FlightRule
