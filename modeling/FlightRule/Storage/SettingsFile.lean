import FlightRule.Format.Summary
import FlightRule.Journal
import FlightRule.Json.Value
import FlightRule.Storage.Disk

/-!
# Stored settings

Settings are stored as an indented JSON record.  A path where nothing stands gives the default
settings; what cannot be read or understood is an error and stays as it is.

The life of a settings file is a sequence of steps, some by this library and some by others.  Each
step has a reply and leads from one state of the disk to the next, `SettingsStep.perform`.  A step
that changes something is refused where the system does not permit the change; between the steps it
may come to permit other changes.
-/

namespace FlightRule

/-- Why stored settings cannot be loaded. -/
inductive SettingsError where
  /-- What stands at the path is no file, or its bytes are no text. -/
  | unreadable
  /-- The text is no settings record. -/
  | malformed
deriving DecidableEq, Repr

/-- The message for an error at a path. -/
def SettingsError.message (path : String) : SettingsError → String
  | unreadable => "读取配置文件失败: " ++ path
  | malformed => "解析配置文件失败: " ++ path

namespace Settings

/-- The settings stored in what stands at a path, if anything does. -/
def load : Option DiskEntry → Except SettingsError Settings
  | none => .ok {}
  | some entry =>
    match entry.text? with
    | none => .error .unreadable
    | some text =>
      match Json.recordOfText? Settings text with
      | none => .error .malformed
      | some settings => .ok settings

/-- The text that settings are stored as. -/
def storedText (settings : Settings) : String :=
  (Json.encode settings).indentedText

/-- Store settings at a path. -/
def save (settings : Settings) (disk : Disk) (path : DiskPath) : Attempt :=
  disk.store path settings.storedText.toUTF8

/-- The path of the settings from a place for settings. -/
def fileName : String := "flightapp/engine.json"

/-- The path of the settings below a place for settings. -/
def pathBelow (directory : String) : String :=
  DiskPath.join directory fileName

/--
The path of a user's settings: below the place chosen for settings if that is an absolute path,
and else below the usual place in the home directory.
-/
def defaultPath (home : String) (chosen : Option String) : String :=
  let usual := DiskPath.join home ".config"
  match chosen with
  | some directory => pathBelow (if directory.startsWith "/" then directory else usual)
  | none => pathBelow usual

end Settings

/-- A step in the life of a settings file. -/
inductive SettingsStep where
  /-- The settings are loaded. -/
  | load
  /-- Settings are stored. -/
  | save (settings : Settings)
  /-- The default settings are stored. -/
  | reset
  /-- Someone else writes the file. -/
  | write (bytes : ByteArray)
  /-- Someone else removes the file. -/
  | delete
  /-- Someone else makes the path a directory. -/
  | makeDirectory
  /-- Someone else puts a file where the parent of the path should be. -/
  | blockParent
  /-- Someone else reads the file. -/
  | read
  /-- The system comes to permit changes at other locations. -/
  | permit (permits : List String → Bool)

/-- The reply to a step. -/
inductive SettingsReply where
  /-- The step is done. -/
  | done
  /-- The settings that were loaded. -/
  | loaded (settings : Settings)
  /-- The text that was read. -/
  | text (text : String)
  /-- The settings cannot be loaded. -/
  | refused (error : SettingsError)
  /-- The file system refuses the step. -/
  | failed
deriving DecidableEq, Repr

namespace SettingsStep

/-- The reply to an attempt to change the disk, and the disk after it. -/
def attempted (attempt : Attempt) : SettingsReply × Disk :=
  (if attempt.done then .done else .failed, attempt.disk)

/-- The reply to a step at a path, and the disk after it. -/
def perform (path : DiskPath) (disk : Disk) : SettingsStep → SettingsReply × Disk
  | load =>
    match Settings.load (disk.find? path) with
    | .ok settings => (.loaded settings, disk)
    | .error error => (.refused error, disk)
  | save settings => attempted (settings.save disk path)
  | reset => attempted (Settings.save {} disk path)
  | write bytes => attempted (disk.store path bytes)
  | delete => attempted (.ofOption disk (disk.delete? path))
  | makeDirectory => attempted (disk.ensureDirectories path)
  | blockParent => attempted (.ofOption disk (disk.write? path.parent .empty))
  | read => (((disk.find? path).bind DiskEntry.text?).elim .failed .text, disk)
  | permit permits => (.done, disk.permitting permits)

/--
The journal of a step at a path with the given text: storing is reported when it is done, loading
when nothing is there.
-/
def journal (text : String) (disk : Disk) (step : SettingsStep) : List Event :=
  match step, (step.perform (.ofText text) disk).1 with
  | load, .loaded _ =>
    if (disk.find? (.ofText text)).isSome then [] else [.settingsAbsent text]
  | save _, .done => [.settingsSaved text]
  | reset, .done => [.settingsSaved text]
  | _, _ => []

end SettingsStep

end FlightRule
