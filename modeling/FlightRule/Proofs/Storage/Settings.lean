import FlightRule.Proofs.Json.Record
import FlightRule.Proofs.Storage.Attempt
import FlightRule.Storage.SettingsFile

/-!
# The life of a settings file

Settings that were stored are loaded again until someone changes the file.  Any attempt to store
settings may fail, since the system may refuse any change.  Directories may have been made by then;
they change what is loaded only if nothing was found, the path leads back by `..`, and they let it
lead to one of them or to a file that the system does not let be changed
(`SettingsStep.perform_load_of_failed_store`).  `load_over_runs` says so for all runs.
-/

namespace FlightRule

open Json

/-! ## Stored settings -/

instance : LawfulCoding Settings where
  decode_encode settings fits :=
    readRecord_ofFields (by simp) fits fun legible =>
      .bind (legible.fieldOr (by simp)) <|
      .bind (legible.fieldOr (by simp)) <|
      .bind (legible.fieldOr (by simp)) <|
      FieldReader.reads_pure settings
  written_encode settings := written_ofFields (by simp [written_encode])

/-- The bytes of a text are the text. -/
theorem DiskEntry.text?_toUTF8 (text : String) :
    (DiskEntry.file text.toUTF8).text? = some text := by
  have valid : text.toUTF8.IsValidUTF8 := text.isValidUTF8
  rw [text?, String.fromUTF8?, dif_pos valid]
  rfl

/-- Stored settings are loaded as they are. -/
theorem Settings.load_storedText (settings : Settings) :
    Settings.load (some (.file settings.storedText.toUTF8)) = .ok settings := by
  have depth_le : (encode settings).depth ≤ 1 := depth_ofFields_le_iff.2 ⟨0, rfl, by simp⟩
  have read : recordOfText? Settings settings.storedText = some settings :=
    recordOfText?_indentedText settings (Nat.le_trans depth_le (by decide))
  simp only [load, DiskEntry.text?_toUTF8, read]

/-- The bytes are a text that denotes settings. -/
def Settings.AreIn (bytes : ByteArray) : Prop :=
  ∃ text ∈ (DiskEntry.file bytes).text?, (recordOfText? Settings text).isSome = true

namespace SettingsStep

variable
  {path : DiskPath}
  {disk : Disk}
  {step : SettingsStep}
  {steps : List SettingsStep}
  {settings : Settings}
  {bytes : ByteArray}

/-! ## Steps -/

/-- The settings that a step stores. -/
def stored? : SettingsStep → Option Settings
  | save settings => some settings
  | reset => some {}
  | _ => none

/-- The step stores, writes or removes the file when it is done. -/
def changesFile : SettingsStep → Bool
  | save _ | reset | write _ | delete => true
  | load | makeDirectory | blockParent | read | permit _ => false

theorem perform_of_stored? (stores : step.stored? = some settings) :
    step.perform path disk = attempted (settings.save disk path) := by
  cases step <;> cases stores <;> rfl

theorem attempted_fst_eq_done_iff {attempt : Attempt} :
    (attempted attempt).1 = .done ↔ attempt.done = true := by
  cases done : attempt.done <;> simp [attempted, done]

/-- What is loaded depends on what is found and on nothing else. -/
theorem perform_load_congr
    {other : Disk}
    (same : other.find? path = disk.find? path) :
    (load.perform path other).1 = (load.perform path disk).1 := by
  unfold perform
  rw [same]
  cases Settings.load (disk.find? path) <;> rfl

/-- Loading never changes the disk. -/
@[simp] theorem perform_load_snd : (load.perform path disk).2 = disk := by
  unfold perform
  cases Settings.load (disk.find? path) <;> rfl

theorem perform_load_of_ok (loaded : Settings.load (disk.find? path) = .ok settings) :
    (load.perform path disk).1 = .loaded settings := by
  simp [perform, loaded]

theorem perform_load_of_error
    {error : SettingsError}
    (refused : Settings.load (disk.find? path) = .error error) :
    load.perform path disk = (.refused error, disk) := by
  simp [perform, refused]

/-- A file without settings in it is refused. -/
theorem perform_load_of_not_areIn
    (isFile : disk.find? path = some (.file bytes))
    (noSettings : ¬Settings.AreIn bytes) :
    ∃ error, load.perform path disk = (.refused error, disk) := by
  cases text_eq : (DiskEntry.file bytes).text? with
  | none => exact ⟨.unreadable, perform_load_of_error (by simp [isFile, Settings.load, text_eq])⟩
  | some text =>
      cases read : recordOfText? Settings text with
      | none =>
          exact ⟨.malformed, perform_load_of_error (by simp [isFile, Settings.load, text_eq, read])⟩
      | some settings => exact absurd ⟨text, text_eq, by rw [read, Option.isSome_some]⟩ noSettings

theorem sound_ofOption
    {next : Option Disk}
    (sound : disk.Sound)
    (nextSound : ∀ other, next = some other → other.Sound) :
    (attempted (.ofOption disk next)).2.Sound := by
  cases next with
  | none => exact sound
  | some other => exact nextSound other rfl

/-- Every step leads from sound disks to sound disks. -/
theorem sound_perform (sound : disk.Sound) (step : SettingsStep) :
    (step.perform path disk).2.Sound := by
  cases step with
  | load => rwa [perform_load_snd]
  | save | reset | write => exact sound.store
  | delete => exact sound_ofOption sound fun other deleted => sound.delete? deleted
  | makeDirectory => exact sound.ensureDirectories path
  | blockParent => exact sound_ofOption sound fun other written => sound.write? written
  | read => exact sound
  | permit permits => exact sound.permitting permits

/-- A file stays as it is when an attempt to store another in its place fails. -/
theorem find?_of_refused_store
    {newBytes : ByteArray}
    (isFile : disk.find? path = some (.file bytes))
    (notDone : (attempted (disk.store path newBytes)).1 ≠ .done) :
    (attempted (disk.store path newBytes)).2.find? path = some (.file bytes) := by
  rw [ne_eq, attempted_fst_eq_done_iff, Bool.not_eq_true] at notDone
  have found : (disk.find? path).isSome = true := by rw [isFile, Option.isSome_some]
  change (disk.store path newBytes).disk.find? path = _
  rw [Disk.disk_of_failed_store_of_isSome found notDone, isFile]

/-- An attempt that is not done because nothing could be changed leaves the disk as it is. -/
theorem attempted_ofOption_of_not_done
    {next : Option Disk}
    (notDone : (attempted (.ofOption disk next)).1 ≠ .done) :
    (attempted (.ofOption disk next)).2 = disk := by
  cases next with
  | none => rfl
  | some other => exact absurd rfl notDone

/-- A file stays as it is unless a step that changes files is done. -/
theorem find?_perform_of_file
    (isFile : disk.find? path = some (.file bytes))
    (spared : step.changesFile = true → (step.perform path disk).1 ≠ .done) :
    (step.perform path disk).2.find? path = some (.file bytes) := by
  cases step with
  | load => rwa [perform_load_snd]
  | save | reset | write => exact find?_of_refused_store isFile (spared rfl)
  | delete =>
      have unchanged := attempted_ofOption_of_not_done (spared rfl)
      change (attempted (.ofOption disk (disk.delete? path))).2.find? path = _
      rw [unchanged, isFile]
  | makeDirectory =>
      have unchanged := Disk.ensureDirectories_of_file isFile
      change (disk.ensureDirectories path).disk.find? path = _
      rw [unchanged, isFile]
  | blockParent =>
      have refused := Disk.write?_of_hasDirectory (Disk.hasDirectory_parent_of_find? isFile) .empty
      change (Attempt.ofOption disk (disk.write? path.parent .empty)).disk.find? path = _
      rw [refused]
      exact isFile
  | read => exact isFile
  | permit permits => exact (Disk.find?_permitting permits path).trans isFile

/-- Settings that were stored are in the file. -/
theorem find?_of_stored
    (stores : step.stored? = some settings)
    (done : (step.perform path disk).1 = .done) :
    (step.perform path disk).2.find? path = some (.file settings.storedText.toUTF8) := by
  rw [perform_of_stored? stores] at done ⊢
  exact Disk.find?_of_store (attempted_fst_eq_done_iff.1 done)

/--
An attempt to store settings that fails does not change what is loaded, unless the directories made
on the way led the path elsewhere.
-/
theorem perform_load_of_failed_store
    (sound : disk.Sound)
    (stores : step.stored? = some settings)
    (failed : (step.perform path disk).1 ≠ .done) :
    let afterwards := (step.perform path disk).2
    (load.perform path afterwards).1 = (load.perform path disk).1 ∨
      disk.LedElsewhere afterwards path := by
  intro afterwards
  have afterwards_eq : afterwards = (settings.save disk path).disk := by
    simp only [afterwards, perform_of_stored? stores]
    rfl
  rw [perform_of_stored? stores, ne_eq, attempted_fst_eq_done_iff, Bool.not_eq_true] at failed
  rw [afterwards_eq]
  exact (Disk.find?_of_failed_store sound failed).imp_left perform_load_congr

/-! ## Runs -/

/-- The disk after some steps. -/
def after (path : DiskPath) (disk : Disk) (steps : List SettingsStep) : Disk :=
  steps.foldl (fun disk step => (step.perform path disk).2) disk

/-- None of the steps changes the file with success. -/
def SpareFile (path : DiskPath) : Disk → List SettingsStep → Prop
  | _, [] => True
  | disk, step :: steps =>
    (step.changesFile = true → (step.perform path disk).1 ≠ .done) ∧
      SpareFile path (step.perform path disk).2 steps

/-- Every run leads from sound disks to sound disks. -/
theorem sound_after (sound : disk.Sound) (steps : List SettingsStep) :
    (after path disk steps).Sound := by
  induction steps generalizing disk with
  | nil => exact sound
  | cons step steps inductionHypothesis => exact inductionHypothesis (sound_perform sound step)

/-- A file stays as it is in a run in which no step changes it with success. -/
theorem find?_after_of_file
    (isFile : disk.find? path = some (.file bytes))
    (spared : SpareFile path disk steps) :
    (after path disk steps).find? path = some (.file bytes) := by
  induction steps generalizing disk with
  | nil => exact isFile
  | cons step steps inductionHypothesis =>
      obtain ⟨stepSpares, stepsSpare⟩ := spared
      exact inductionHypothesis (find?_perform_of_file isFile stepSpares) stepsSpare

end SettingsStep

/--
The life of a settings file, on a sound disk and after any steps, with any changes refused by the
system.  Loading never changes the disk, and gives the default settings where nothing is found.
Settings that were stored, by saving or by resetting, are loaded until a step changes the file.  An
attempt to store settings that fails leaves what is loaded as it was, unless nothing was found at a
path with a way back and the directories made on the way let it lead to a directory, or to a file
that stood on the disk before and that the system does not let be changed.  A file without settings
in it is refused and stays.
-/
theorem load_over_runs
    (path : DiskPath)
    (start : Disk)
    (sound : start.Sound)
    (past : List SettingsStep) :
    let now := SettingsStep.after path start past
    (SettingsStep.load.perform path now).2 = now ∧
    (now.find? path = none → (SettingsStep.load.perform path now).1 = .loaded {}) ∧
    (∀ step settings, SettingsStep.stored? step = some settings →
      (step.perform path now).1 = .done →
      ∀ later, SettingsStep.SpareFile path (step.perform path now).2 later →
        (SettingsStep.load.perform path
          (SettingsStep.after path (step.perform path now).2 later)).1 = .loaded settings) ∧
    (∀ step settings, SettingsStep.stored? step = some settings →
      (step.perform path now).1 ≠ .done →
      let afterwards := (step.perform path now).2
      (SettingsStep.load.perform path afterwards).1 = (SettingsStep.load.perform path now).1 ∨
        now.LedElsewhere afterwards path) ∧
    ∀ bytes, now.find? path = some (.file bytes) → ¬Settings.AreIn bytes →
      ∃ error, SettingsStep.load.perform path now = (.refused error, now) := by
  intro now
  have soundNow : now.Sound := SettingsStep.sound_after sound past
  refine ⟨SettingsStep.perform_load_snd, ?_, ?_, ?_, ?_⟩
  · intro nothing
    exact SettingsStep.perform_load_of_ok (by rw [nothing, Settings.load])
  · intro step settings stores done later spared
    have stored := SettingsStep.find?_of_stored stores done
    refine SettingsStep.perform_load_of_ok ?_
    rw [SettingsStep.find?_after_of_file stored spared, Settings.load_storedText]
  · intro step settings stores failed
    exact SettingsStep.perform_load_of_failed_store soundNow stores failed
  · intro bytes isFile noSettings
    exact SettingsStep.perform_load_of_not_areIn isFile noSettings

/-! ## Settings in the one directory of a disk -/

/-- A path in the one directory of a disk. -/
def engineSettings : DiskPath where
  parts := ["d", "engine.json"]

/-- A path into a directory and back. -/
def inAndBack : DiskPath where
  parts := ["d", "x", ".."]

/-- Another path to the same place, into a directory and back. -/
def engineSettingsByDetour : DiskPath where
  parts := ["d", "x", "..", "engine.json"]

theorem isValid_inAndBack : inAndBack.isValid = true :=
  DiskPath.isValid_iff.2 (by decide)

theorem placeOf_engineSettings :
    (Disk.withDirectory "d").placeOf engineSettings = .ok ["d", "engine.json"] :=
  Disk.placeOf_eq_ok_iff.2 ⟨DiskPath.isValid_iff.2 (by decide), ["d"], "engine.json", by decide,
    by decide, by decide, rfl⟩

/-- The directory to go into can be made if nothing stands there and the system permits it. -/
theorem makeDirectory_parent_inAndBack
    (disk : Disk)
    (followed : disk.follow [] ["d"] = .ok ["d"])
    (nothing : disk.entryAt ["d", "x"] = none)
    (permitted : disk.permits ["d", "x"] = true) :
    disk.makeDirectory inAndBack.parent = .ok (disk.put ["d", "x"] (some .directory)) := by
  have placed : disk.placeOf inAndBack.parent = .ok ["d", "x"] :=
    Disk.placeOf_eq_ok_iff.2 ⟨DiskPath.isValid_parent isValid_inAndBack, ["d"], "x", followed,
      by decide, by decide, rfl⟩
  exact Disk.makeDirectory_eq_ok_iff.2
    ⟨by decide, ["d", "x"], placed, ⟨nothing, permitted⟩, rfl⟩

/-- Storing settings in the one directory of a disk is possible. -/
theorem perform_save_engineSettings (settings : Settings) :
    ((SettingsStep.save settings).perform engineSettings (.withDirectory "d")).1 = .done := by
  have parentFound := Disk.hasDirectory_parent_of_placeOf placeOf_engineSettings
  refine SettingsStep.attempted_fst_eq_done_iff.2 ?_
  rw [Settings.save, Disk.store_of_hasDirectory parentFound]
  exact Option.isSome_iff_exists.2 ⟨_, Disk.write?_eq_some_iff.2
    ⟨by decide, _, placeOf_engineSettings, by decide, rfl⟩⟩

/-- Storing settings at the way back makes a directory and fails. -/
theorem perform_save_inAndBack (settings : Settings) :
    (SettingsStep.save settings).perform inAndBack (.withDirectory "d") =
      (.failed, (Disk.withDirectory "d").put ["d", "x"] (some .directory)) := by
  have made := makeDirectory_parent_inAndBack (.withDirectory "d") rfl rfl rfl
  have ofDirectory : inAndBack.isOfDirectory = true := by decide
  simp [SettingsStep.perform, SettingsStep.attempted, Settings.save, Disk.store,
    Disk.ensureDirectories_of_makeDirectory made, Disk.write?, ofDirectory]

/--
In the one directory of a disk, settings that were stored are loaded after attempts to put something
else at the path, also when the system refuses to store others; at the way back, storing fails and
makes a directory.
-/
theorem load_of_saved_settings :
    let settings : Settings := { softPassAsSkip := false }
    let saving := SettingsStep.save settings
    let disk := Disk.withDirectory "d"
    let saved := (saving.perform engineSettings disk).2
    let later : List SettingsStep :=
      [.makeDirectory, .blockParent, .load, .permit fun _ => false, .reset]
    disk.Sound ∧
      (saving.perform engineSettings disk).1 = .done ∧
      SettingsStep.SpareFile engineSettings saved later ∧
      (SettingsStep.load.perform engineSettings
        (SettingsStep.after engineSettings saved later)).1 = .loaded settings ∧
      (saving.perform inAndBack disk).1 ≠ .done ∧
      ((SettingsStep.load.perform inAndBack (saving.perform inAndBack disk).2).1 =
          (SettingsStep.load.perform inAndBack disk).1 ∨
        disk.LedElsewhere (saving.perform inAndBack disk).2 inAndBack) := by
  intro settings saving disk saved later
  have sound : disk.Sound := Disk.sound_withDirectory "d"
  have done : (saving.perform engineSettings disk).1 = .done :=
    perform_save_engineSettings settings
  have resetRefused (before : Disk) :
      (SettingsStep.reset.perform engineSettings (before.permitting fun _ => false)).1 ≠ .done := by
    rw [SettingsStep.perform_of_stored? rfl, ne_eq, SettingsStep.attempted_fst_eq_done_iff,
      Bool.not_eq_true]
    exact Disk.done_store_of_refused fun _ => rfl
  have spared : SettingsStep.SpareFile engineSettings saved later :=
    ⟨nofun, nofun, nofun, nofun, fun _ => resetRefused _, trivial⟩
  have failed : (saving.perform inAndBack disk).1 ≠ .done := by
    simp [saving, disk, perform_save_inAndBack]
  obtain ⟨-, -, loadsStored, -, -⟩ := load_over_runs engineSettings disk sound []
  obtain ⟨-, -, -, keepsLoad, -⟩ := load_over_runs inAndBack disk sound []
  exact ⟨sound, done, spared, loadsStored saving settings rfl done later spared, failed,
    keepsLoad saving settings rfl failed⟩

/-- At the way back, a failed attempt to store settings makes the path that of a directory. -/
theorem load_inAndBack_after_failed_save (settings : Settings) :
    let disk := Disk.withDirectory "d"
    let saved := (SettingsStep.save settings).perform inAndBack disk
    (SettingsStep.load.perform inAndBack disk).1 = .loaded {} ∧ saved.1 = .failed ∧
      (SettingsStep.load.perform inAndBack saved.2).1 = .refused .unreadable := by
  intro disk saved
  let turned : Disk := disk.put ["d", "x"] (some .directory)
  have saved_eq : saved = (.failed, turned) := perform_save_inAndBack settings
  have ofDirectory : inAndBack.isOfDirectory = true := by decide
  have notFollowed : disk.follow [] inAndBack.names = .error .missing := rfl
  have followed : turned.follow [] inAndBack.names = .ok ["d"] := rfl
  have missing : disk.find? inAndBack = none := by
    rw [Disk.find?, if_pos ofDirectory, if_neg]
    rw [Disk.hasDirectory_iff, notFollowed]
    rintro ⟨-, location, found⟩
    cases found
  have found : turned.find? inAndBack = some .directory := by
    rw [Disk.find?, if_pos ofDirectory, if_pos]
    exact Disk.hasDirectory_iff.2 ⟨isValid_inAndBack, ["d"], followed⟩
  have refused : SettingsStep.load.perform inAndBack turned = (.refused .unreadable, turned) :=
    SettingsStep.perform_load_of_error (by rw [found, Settings.load, DiskEntry.text?])
  rw [saved_eq]
  exact ⟨SettingsStep.perform_load_of_ok (by rw [missing, Settings.load]), rfl, by rw [refused]⟩

/-- A disk with stored settings in its one directory that the system does not let be changed. -/
def Disk.withFixedSettings (settings : Settings) : Disk where
  entryAt := ((withDirectory "d").put ["d", "engine.json"]
    (some (.file settings.storedText.toUTF8))).entryAt
  permits location := decide (location ≠ ["d", "engine.json"])

/--
By the detour, a failed attempt to store settings makes the directory in it, so that the path leads
to settings that it did not lead to before.
-/
theorem load_by_detour_after_failed_save (fixed settings : Settings) :
    let disk := Disk.withFixedSettings fixed
    let saved := (SettingsStep.save settings).perform engineSettingsByDetour disk
    (SettingsStep.load.perform engineSettingsByDetour disk).1 = .loaded {} ∧ saved.1 = .failed ∧
      (SettingsStep.load.perform engineSettingsByDetour saved.2).1 = .loaded fixed := by
  intro disk saved
  let turned : Disk := disk.put ["d", "x"] (some .directory)
  have parent_eq : engineSettingsByDetour.parent = inAndBack := by decide
  have valid : engineSettingsByDetour.isValid = true := DiskPath.isValid_iff.2 (by decide)
  have notFollowed : disk.follow [] inAndBack.names = .error .missing := rfl
  have followed : turned.follow [] inAndBack.names = .ok ["d"] := rfl
  have missing : disk.find? engineSettingsByDetour = none := by
    have notPlaced : disk.placeOf engineSettingsByDetour = .error .missing := by
      rw [Disk.placeOf, if_pos valid, ← DiskPath.names_parent, parent_eq, notFollowed]
      rfl
    rw [Disk.find?, if_neg (by decide), notPlaced]
    rfl
  have placed : turned.placeOf engineSettingsByDetour = .ok ["d", "engine.json"] :=
    Disk.placeOf_eq_ok_iff.2 ⟨valid, ["d"], "engine.json", followed, by decide, by decide, rfl⟩
  have found : turned.find? engineSettingsByDetour = some (.file fixed.storedText.toUTF8) :=
    Disk.find?_eq_some_file_iff.2 ⟨by decide, _, placed, rfl⟩
  have directoryMissing : disk.makeDirectory inAndBack = .error .missing := by
    rw [Disk.makeDirectory, if_pos (by decide), Disk.directoryOf, if_pos isValid_inAndBack,
      notFollowed]
    rfl
  have parentMade : disk.ensureDirectories inAndBack = ⟨true, turned⟩ :=
    Disk.ensureDirectories_of_missing (by decide) directoryMissing
      (makeDirectory_parent_inAndBack disk rfl rfl rfl)
      (Disk.hasDirectory_iff.2 ⟨isValid_inAndBack, _, followed⟩)
  have notWritten : turned.write? engineSettingsByDetour settings.storedText.toUTF8 = none := by
    rw [Disk.write?, if_neg (by decide), placed]
    rfl
  have notStored : settings.save disk engineSettingsByDetour = ⟨false, turned⟩ := by
    rw [Settings.save, Disk.store, parent_eq, parentMade, if_pos rfl, notWritten]
  have saved_eq : saved = (.failed, turned) := by
    change SettingsStep.attempted (settings.save disk engineSettingsByDetour) = _
    rw [notStored]
    rfl
  rw [saved_eq]
  refine ⟨SettingsStep.perform_load_of_ok (by rw [missing, Settings.load]), rfl, ?_⟩
  exact SettingsStep.perform_load_of_ok (by rw [found, Settings.load_storedText])

/--
An attempt to store settings may fail and yet change what is loaded, which was the default settings.
Nothing can be read at a path that came to be that of a directory, and settings that the system does
not let be changed are loaded at a path that came to lead to them.
-/
theorem load_after_failed_save :
    let saving := SettingsStep.save { showDemand := true }
    let disk := Disk.withDirectory "d"
    let fixed : Settings := { softPassAsSkip := false }
    let fixedDisk := Disk.withFixedSettings fixed
    ((SettingsStep.load.perform inAndBack disk).1 = .loaded {} ∧
      (saving.perform inAndBack disk).1 = .failed ∧
      (SettingsStep.load.perform inAndBack (saving.perform inAndBack disk).2).1 =
        .refused .unreadable) ∧
    (SettingsStep.load.perform engineSettingsByDetour fixedDisk).1 = .loaded {} ∧
      (saving.perform engineSettingsByDetour fixedDisk).1 = .failed ∧
      (SettingsStep.load.perform engineSettingsByDetour
        (saving.perform engineSettingsByDetour fixedDisk).2).1 = .loaded fixed := by
  intro saving disk fixed fixedDisk
  exact ⟨load_inAndBack_after_failed_save { showDemand := true },
    load_by_detour_after_failed_save fixed { showDemand := true }⟩

end FlightRule
