import FlightRule.Proofs.Storage.Path
import FlightRule.Storage.Disk

/-!
# Paths on a disk

Names lead where they led as long as no directory is lost (`KeepsDirectories.follow`).  On a sound
disk, names that never lead back lead to the location that they spell, exactly when a directory is
there (`eq_append_of_follow`, `Sound.follow_of_entryAt`), so that what is found at a path without a
way back depends on what stands at one location (`Sound.find?_congr`).
-/

namespace FlightRule.Disk

variable
  {disk other : Disk}
  {path : DiskPath}
  {location place result names : List String}
  {name : String}

/-! ## Following names -/

/-- The names in front are followed first. -/
theorem follow_append (location names more : List String) :
    disk.follow location (names ++ more) =
      disk.follow location names >>= fun reached => disk.follow reached more := by
  fun_induction disk.follow location names with
  | case1 => rfl
  | case2 location names inductionHypothesis =>
      rw [List.cons_append, follow, if_pos rfl, inductionHypothesis]
  | case3 location name names notBack found inductionHypothesis =>
      rw [List.cons_append, follow, if_neg notBack, found]
      exact inductionHypothesis
  | case4 location name names notBack bytes found =>
      rw [List.cons_append, follow, if_neg notBack, found]
      rfl
  | case5 location name names notBack found =>
      rw [List.cons_append, follow, if_neg notBack, found]
      rfl

/-- A name that does not lead back leads to a directory. -/
theorem follow_singleton_eq_ok_iff (notBack : name ≠ "..") :
    disk.follow location [name] = .ok result ↔
      disk.entryAt (location ++ [name]) = some .directory ∧ result = location ++ [name] := by
  rw [follow, if_neg notBack]
  split
  next found => simp [follow, found, eq_comm]
  next found => simp [found]
  next found => simp [found]

/-- Names that never lead back lead to the location that they spell. -/
theorem eq_append_of_follow
    (noBack : ".." ∉ names)
    (followed : disk.follow location names = .ok result) :
    result = location ++ names := by
  fun_induction disk.follow location names with
  | case1 =>
      cases followed
      rw [List.append_nil]
  | case2 => simp at noBack
  | case3 location name names _ _ inductionHypothesis =>
      rw [inductionHypothesis (fun member => noBack (List.mem_cons_of_mem _ member)) followed]
      simp
  | case4 => cases followed
  | case5 => cases followed

/-- Every directory of one disk is also one of the other. -/
def KeepsDirectories (disk other : Disk) : Prop :=
  ∀ location, disk.entryAt location = some .directory → other.entryAt location = some .directory

/--
Names lead where they led before.  On the way only directories are looked at, and at names that lead
back nothing is.
-/
theorem KeepsDirectories.follow
    (keeps : disk.KeepsDirectories other)
    (followed : disk.follow location names = .ok result) :
    other.follow location names = .ok result := by
  fun_induction disk.follow location names with
  | case1 => exact followed
  | case2 location names inductionHypothesis =>
      rw [Disk.follow, if_pos rfl]
      exact inductionHypothesis followed
  | case3 location name names notBack found inductionHypothesis =>
      rw [Disk.follow, if_neg notBack, keeps _ found]
      exact inductionHypothesis followed
  | case4 => cases followed
  | case5 => cases followed

/-- Only a directory can be lost, and only from the place where something else is put. -/
theorem keepsDirectories_put
    {entry : Option DiskEntry}
    (notDirectory : disk.entryAt place ≠ some .directory) :
    disk.KeepsDirectories (disk.put place entry) := by
  intro location found
  have elsewhere : location ≠ place := by
    rintro rfl
    exact notDirectory found
  rw [entryAt_put, if_neg elsewhere, found]

/-- Where names lead does not depend on what the system permits. -/
theorem follow_permitting (permits : List String → Bool) (location names : List String) :
    (disk.permitting permits).follow location names = disk.follow location names := by
  induction names generalizing location with
  | nil => rfl
  | cons name names inductionHypothesis =>
      simp only [follow, inductionHypothesis]
      rfl

/-! ## Looking up paths -/

/-- A path is that of a directory when all its names lead on. -/
theorem hasDirectory_iff :
    disk.hasDirectory path = true ↔
      path.isValid = true ∧ ∃ location, disk.follow [] path.names = .ok location := by
  unfold hasDirectory directoryOf
  split
  next valid => cases followed : disk.follow [] path.names <;> simp [valid, Except.toBool]
  next invalid => simp [invalid, Except.toBool]

/-- A path has a place in the directory that all its names but the last lead to. -/
theorem placeOf_eq_ok_iff :
    disk.placeOf path = .ok location ↔
      path.isValid = true ∧ ∃ directory name, disk.follow [] path.names.dropLast = .ok directory ∧
        path.names.getLast? = some name ∧ DiskPath.nameFits name = true ∧
          location = directory ++ [name] := by
  unfold placeOf
  split
  next valid =>
    cases disk.follow [] path.names.dropLast with
    | error error => simp [valid, bind, Except.bind]
    | ok directory =>
        cases path.names.getLast? with
        | none => simp [valid, bind, Except.bind]
        | some name =>
            cases fits : DiskPath.nameFits name with
            | false => simp [valid, bind, Except.bind, fits]
            | true =>
                simp only [valid, bind, Except.bind, fits, if_true, Except.ok.injEq,
                  Option.some.injEq, exists_eq_left', exists_and_left, true_and]
                exact eq_comm
  next invalid => simp [invalid]

/-- A path keeps its place as long as no directory is lost. -/
theorem KeepsDirectories.placeOf
    (keeps : disk.KeepsDirectories other)
    (placed : disk.placeOf path = .ok location) :
    other.placeOf path = .ok location := by
  obtain ⟨valid, directory, name, followed, last⟩ := placeOf_eq_ok_iff.1 placed
  exact placeOf_eq_ok_iff.2 ⟨valid, directory, name, keeps.follow followed, last⟩

/-- Without a way back, the place of a path is the location that its names spell. -/
theorem eq_names_of_placeOf
    (noBack : ".." ∉ path.names)
    (placed : disk.placeOf path = .ok location) :
    location = path.names := by
  obtain ⟨-, directory, name, followed, last, -, rfl⟩ := placeOf_eq_ok_iff.1 placed
  have noBackBefore : ".." ∉ path.names.dropLast :=
    fun member => noBack (List.dropLast_subset _ member)
  rw [eq_append_of_follow noBackBefore followed, List.nil_append]
  exact List.dropLast_append_getLast? name last

/-- A path has a place only in a directory that is there. -/
theorem hasDirectory_parent_of_placeOf (placed : disk.placeOf path = .ok location) :
    disk.hasDirectory path.parent = true := by
  obtain ⟨valid, directory, name, followed, -⟩ := placeOf_eq_ok_iff.1 placed
  rw [hasDirectory_iff, DiskPath.names_parent]
  exact ⟨DiskPath.isValid_parent valid, directory, followed⟩

/-- The path of a directory leads by that of its parent. -/
theorem hasDirectory_parent (found : disk.hasDirectory path = true) :
    disk.hasDirectory path.parent = true := by
  obtain ⟨valid, location, followed⟩ := hasDirectory_iff.1 found
  rw [hasDirectory_iff, DiskPath.names_parent]
  refine ⟨DiskPath.isValid_parent valid, ?_⟩
  rcases List.eq_nil_or_concat path.names with noNames | ⟨before, name, names_eq⟩
  · exact ⟨[], by rw [noNames, List.dropLast_nil, follow]⟩
  · rw [names_eq, List.concat_eq_append, follow_append] at followed
    rw [names_eq, List.concat_eq_append, List.dropLast_concat]
    cases reached : disk.follow [] before with
    | error error => simp [reached, bind, Except.bind] at followed
    | ok directory => exact ⟨directory, rfl⟩

/-- Where a path has a place, it is the path of a directory if one stands there. -/
theorem hasDirectory_iff_of_placeOf
    (notDots : path.endsInDots = false)
    (placed : disk.placeOf path = .ok location) :
    disk.hasDirectory path = true ↔ disk.entryAt location = some .directory := by
  obtain ⟨valid, directory, last, followed, isLast, -, rfl⟩ := placeOf_eq_ok_iff.1 placed
  obtain ⟨name, notBack, names_eq⟩ := DiskPath.exists_lastName notDots
  obtain rfl : last = name := by
    rw [names_eq, List.getLast?_concat] at isLast
    exact (Option.some.inj isLast).symm
  rw [hasDirectory_iff, names_eq, follow_append, followed]
  change (_ ∧ ∃ location, disk.follow directory [last] = .ok location) ↔ _
  simp [follow_singleton_eq_ok_iff notBack, valid]

/-- A file is found at the place of a path that does not ask for a directory. -/
theorem find?_eq_some_file_iff {bytes : ByteArray} :
    disk.find? path = some (.file bytes) ↔
      path.isOfDirectory = false ∧
        ∃ location, disk.placeOf path = .ok location ∧
          disk.entryAt location = some (.file bytes) := by
  unfold find?
  cases ofDirectory : path.isOfDirectory with
  | true => simp
  | false => cases placed : disk.placeOf path <;> simp [Except.toOption]

/-- What is found as a directory is one. -/
theorem hasDirectory_of_find? (found : disk.find? path = some .directory) :
    disk.hasDirectory path = true := by
  unfold find? at found
  cases ofDirectory : path.isOfDirectory with
  | true => simpa [ofDirectory] using found
  | false =>
      cases placed : disk.placeOf path with
      | error error => simp [ofDirectory, placed, Except.toOption] at found
      | ok location =>
          have notDots := DiskPath.endsInDots_of_not_isOfDirectory ofDirectory
          rw [hasDirectory_iff_of_placeOf notDots placed]
          simpa [ofDirectory, placed, Except.toOption] using found

/-- What is found does not depend on what the system permits. -/
theorem find?_permitting (permits : List String → Bool) (path : DiskPath) :
    (disk.permitting permits).find? path = disk.find? path := by
  simp only [find?, hasDirectory, directoryOf, placeOf, follow_permitting]
  rfl

/-! ## Sound disks -/

/-- The root is a directory, and whatever else stands on the disk stands in a directory. -/
structure Sound (disk : Disk) : Prop where
  root : disk.entryAt [] = some .directory
  inside : ∀ location name, (disk.entryAt (location ++ [name])).isSome = true →
    disk.entryAt location = some .directory

/-- The disk with one directory in its root is sound. -/
theorem sound_withDirectory (name : String) : (withDirectory name).Sound where
  root := by simp [withDirectory]
  inside location other found := by
    have standsInRoot : location = [] := by
      simp only [withDirectory, List.append_eq_nil_iff, List.cons_ne_nil, and_false, false_or,
        Option.isSome_ite] at found
      cases location with
      | nil => rfl
      | cons first rest => simp at found
    simp [withDirectory, standsInRoot]

namespace Sound

/-- Names lead from directories to directories. -/
theorem entryAt_of_follow
    (sound : disk.Sound)
    (start : disk.entryAt location = some .directory)
    (followed : disk.follow location names = .ok result) :
    disk.entryAt result = some .directory := by
  fun_induction disk.follow location names with
  | case1 =>
      cases followed
      exact start
  | case2 location names inductionHypothesis =>
      refine inductionHypothesis ?_ followed
      rcases List.eq_nil_or_concat location with rfl | ⟨above, name, rfl⟩
      · exact sound.root
      · rw [List.concat_eq_append] at start ⊢
        rw [List.dropLast_concat]
        exact sound.inside above name (by rw [start, Option.isSome_some])
  | case3 location name names _ found inductionHypothesis =>
      exact inductionHypothesis found followed
  | case4 => cases followed
  | case5 => cases followed

/-- What the system permits has no part in soundness. -/
theorem permitting (sound : disk.Sound) (permits : List String → Bool) :
    (disk.permitting permits).Sound :=
  ⟨sound.root, sound.inside⟩

/--
Something may take a place in a directory, if no directory is there that would be lost.  What stands
elsewhere stood in a directory before, and all directories are kept.
-/
theorem put
    {entry : Option DiskEntry}
    (sound : disk.Sound)
    (placed : disk.placeOf path = .ok location)
    (notDirectory : disk.entryAt location ≠ some .directory) :
    (disk.put location entry).Sound := by
  obtain ⟨-, directory, name, followed, -, -, rfl⟩ := placeOf_eq_ok_iff.1 placed
  have inDirectory : disk.entryAt directory = some .directory :=
    sound.entryAt_of_follow sound.root followed
  constructor
  · simpa using sound.root
  · intro other otherName found
    have otherIsDirectory : disk.entryAt other = some .directory := by
      rw [entryAt_put] at found
      split at found
      next same =>
        obtain ⟨rfl, -⟩ := List.append_inj' same rfl
        exact inDirectory
      next => exact sound.inside other otherName found
    exact keepsDirectories_put notDirectory other otherIsDirectory

/-- A location on the way to a directory is that of a directory. -/
theorem entryAt_of_append
    (sound : disk.Sound)
    (found : disk.entryAt (location ++ names) = some .directory) :
    disk.entryAt location = some .directory := by
  induction names using List.reverseRecOn with
  | nil => simpa using found
  | append_singleton names name inductionHypothesis =>
      rw [← List.append_assoc] at found
      exact inductionHypothesis (sound.inside _ name (by rw [found, Option.isSome_some]))

/-- Without a way back, the names of a directory's location lead there. -/
theorem follow_of_entryAt
    (sound : disk.Sound)
    (noBack : ".." ∉ names)
    (found : disk.entryAt (location ++ names) = some .directory) :
    disk.follow location names = .ok (location ++ names) := by
  induction names generalizing location with
  | nil => rw [follow, List.append_nil]
  | cons name names inductionHypothesis =>
      obtain ⟨notBack, noBack⟩ := List.ne_and_not_mem_of_not_mem_cons noBack
      rw [← List.singleton_append, ← List.append_assoc] at found ⊢
      rw [List.singleton_append, follow, if_neg notBack.symm, sound.entryAt_of_append found]
      exact inductionHypothesis noBack found

/-- Without a way back, a path is that of a directory if one stands where its names spell. -/
theorem hasDirectory_iff (sound : disk.Sound) (noBack : ".." ∉ path.names) :
    disk.hasDirectory path = true ↔
      path.isValid = true ∧ disk.entryAt path.names = some .directory := by
  rw [Disk.hasDirectory_iff]
  refine and_congr_right fun _ => ⟨?_, ?_⟩
  · rintro ⟨location, followed⟩
    obtain rfl : location = path.names := eq_append_of_follow noBack followed
    exact sound.entryAt_of_follow sound.root followed
  · intro found
    exact ⟨path.names, sound.follow_of_entryAt noBack found⟩

/-- Without a way back, a path has a place where something stands at the location of its names. -/
theorem placeOf_of_entryAt
    {entry : DiskEntry}
    (sound : disk.Sound)
    (noBack : ".." ∉ path.names)
    (valid : path.isValid = true)
    (last : path.names.getLast? = some name)
    (fits : DiskPath.nameFits name = true)
    (found : disk.entryAt path.names = some entry) :
    disk.placeOf path = .ok path.names := by
  have names_eq : path.names.dropLast ++ [name] = path.names :=
    List.dropLast_append_getLast? name last
  have inDirectory : disk.entryAt path.names.dropLast = some .directory :=
    sound.inside _ name (by rw [names_eq, found, Option.isSome_some])
  have noBackBefore : ".." ∉ path.names.dropLast :=
    fun member => noBack (List.dropLast_subset _ member)
  have followed : disk.follow [] path.names.dropLast = .ok path.names.dropLast :=
    sound.follow_of_entryAt noBackBefore inDirectory
  exact placeOf_eq_ok_iff.2 ⟨valid, _, name, followed, last, fits, names_eq.symm⟩

/--
Without a way back, something is found exactly when it stands where the names spell, as far as the
path can denote it.
-/
theorem find?_eq_some_iff
    {entry : DiskEntry}
    (sound : disk.Sound)
    (noBack : ".." ∉ path.names) :
    disk.find? path = some entry ↔
      path.isValid = true ∧ disk.entryAt path.names = some entry ∧
        if path.isOfDirectory then entry = .directory
        else ∃ name, path.names.getLast? = some name ∧ DiskPath.nameFits name = true := by
  unfold find?
  cases path.isOfDirectory with
  | true =>
      simp only [if_true, Option.ite_none_right_eq_some, Option.some.injEq,
        sound.hasDirectory_iff noBack]
      constructor
      · rintro ⟨⟨valid, found⟩, rfl⟩
        exact ⟨valid, found, rfl⟩
      · rintro ⟨valid, found, rfl⟩
        exact ⟨⟨valid, found⟩, rfl⟩
  | false =>
      simp only [Bool.false_eq_true, if_false]
      constructor
      · intro found
        cases placed : disk.placeOf path with
        | error error => simp [placed, Except.toOption] at found
        | ok location =>
            obtain ⟨valid, -, name, -, last, fits, -⟩ := placeOf_eq_ok_iff.1 placed
            rw [placed, eq_names_of_placeOf noBack placed] at found
            exact ⟨valid, found, name, last, fits⟩
      · rintro ⟨valid, found, name, last, fits⟩
        rw [sound.placeOf_of_entryAt noBack valid last fits found]
        exact found

/-- Without a way back, what is found depends on what stands where the names of the path spell. -/
theorem find?_congr
    (sound : disk.Sound)
    (otherSound : other.Sound)
    (noBack : ".." ∉ path.names)
    (same : other.entryAt path.names = disk.entryAt path.names) :
    other.find? path = disk.find? path := by
  ext entry
  rw [otherSound.find?_eq_some_iff noBack, sound.find?_eq_some_iff noBack, same]

end Sound

end FlightRule.Disk
