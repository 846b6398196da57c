import FlightRule.Format.Reference
import FlightRule.Journal
import FlightRule.Storage.Disk

/-!
# Stored reference data

Reference data are loaded from a file that holds a reference document.
-/

namespace FlightRule

/-- The message for reference data that cannot be loaded, where it does not depend on the text. -/
def ReferenceError.message? : ReferenceError → Option String
  | malformed => none
  | duplicateTable key =>
    some ("重复的承运人航班表 " ++ key.vendor ++ "/" ++ toString key.itemNo.toNat)
  | duplicateGeoItem key =>
    some ("重复的地理项 " ++ key.vendor ++ "/" ++ toString key.itemNo.toNat)

/-- Why a file of reference data cannot be loaded. -/
inductive ReferenceFileError where
  /-- What stands at the path is no file, or its bytes are no text. -/
  | unreadable
  /-- The text of the file cannot be loaded. -/
  | rejected (cause : ReferenceError)
deriving DecidableEq, Repr

/-- The message for an error at a path. -/
def ReferenceFileError.message (path : String) : ReferenceFileError → String
  | unreadable => "读取参考数据失败: " ++ path
  | rejected _ => "载入参考数据失败: " ++ path

/-- The reference data in what stands at a path, if anything does. -/
def ReferenceData.ofFile (found : Option DiskEntry) : Except ReferenceFileError ReferenceData :=
  match found.bind DiskEntry.text? with
  | none => .error .unreadable
  | some text => (ReferenceData.ofText text).mapError .rejected

/-- The journal of loading the file at a path: reference data are reported when they are loaded. -/
def ReferenceData.fileJournal (found : Option DiskEntry) : List Event :=
  match ReferenceData.ofFile found with
  | .ok data => [.referenceLoaded data]
  | .error _ => []

end FlightRule
