import FlightRule.Proofs.Storage.Disk

/-!
# Attempts to change a disk

A file that was stored is found with its bytes (`find?_of_store`).  An attempt that fails has made
directories at most (`addsDirectories_of_failed_store`): where something stands at the path, the
disk is as it was (`disk_of_failed_store_of_isSome`).  On a sound disk what is found at the path is
the same afterwards, unless nothing was found and the path has a way back, `LedElsewhere`
(`find?_of_failed_store`).

Making directories is an induction of its own, `ensureDirectories_induction`: what each directory
made on the way keeps holds in the end.
-/

namespace FlightRule.Disk

variable
  {disk other : Disk}
  {path : DiskPath}
  {location : List String}

/-! ## Writing files -/

/-- A file can be written at a place without a directory, where the system permits it. -/
theorem write?_eq_some_iff {bytes : ByteArray} :
    disk.write? path bytes = some other ↔
      path.isOfDirectory = false ∧ ∃ location, disk.placeOf path = .ok location ∧
        (disk.entryAt location ≠ some .directory ∧ disk.permits location = true) ∧
          other = disk.put location (some (.file bytes)) := by
  unfold write?
  cases path.isOfDirectory with
  | true => simp
  | false =>
      cases disk.placeOf path with
      | error error => simp [Except.toOption]
      | ok location =>
          simp only [Bool.false_eq_true, if_false, Except.toOption, Option.bind_some,
            Option.ite_none_left_eq_some, Bool.or_eq_true, decide_eq_true_eq, Bool.not_eq_true',
            not_or, Bool.not_eq_false, Option.some.injEq, Except.ok.injEq, exists_eq_left',
            true_and, ne_eq]
          rw [eq_comm (a := other)]

/-- A file that was written is found with its bytes. -/
theorem find?_of_write?
    {bytes : ByteArray}
    (written : disk.write? path bytes = some other) :
    other.find? path = some (.file bytes) := by
  obtain ⟨notOfDirectory, location, placed, ⟨notDirectory, -⟩, rfl⟩ :=
    write?_eq_some_iff.1 written
  refine find?_eq_some_file_iff.2 ⟨notOfDirectory, location, ?_, ?_⟩
  · exact (keepsDirectories_put notDirectory).placeOf placed
  · rw [entryAt_put, if_pos rfl]

/-- A file that cannot be written anew is one that the system does not let be changed. -/
theorem permits_of_refused_write
    {bytes newBytes : ByteArray}
    (isFile : disk.find? path = some (.file bytes))
    (refused : disk.write? path newBytes = none) :
    ∃ location, disk.entryAt location = some (.file bytes) ∧ disk.permits location = false := by
  obtain ⟨notOfDirectory, location, placed, found⟩ := find?_eq_some_file_iff.1 isFile
  refine ⟨location, found, ?_⟩
  by_contra permitted
  have written : disk.write? path newBytes = some (disk.put location (some (.file newBytes))) :=
    write?_eq_some_iff.2 ⟨notOfDirectory, location, placed,
      ⟨by simp [found], by simpa using permitted⟩, rfl⟩
  rw [refused] at written
  cases written

/-- No file can be written in place of a directory. -/
theorem write?_of_hasDirectory
    (found : disk.hasDirectory path = true)
    (bytes : ByteArray) :
    disk.write? path bytes = none := by
  rw [Option.eq_none_iff_forall_ne_some]
  intro written success
  obtain ⟨notOfDirectory, location, placed, ⟨notDirectory, -⟩, -⟩ :=
    write?_eq_some_iff.1 success
  have notDots := DiskPath.endsInDots_of_not_isOfDirectory notOfDirectory
  exact notDirectory ((hasDirectory_iff_of_placeOf notDots placed).1 found)

/-! ## Making directories -/

/-- A directory can be made at a place where nothing stands, if the system permits it. -/
theorem makeDirectory_eq_ok_iff :
    disk.makeDirectory path = .ok other ↔
      path.endsInDots = false ∧ ∃ location, disk.placeOf path = .ok location ∧
        (disk.entryAt location = none ∧ disk.permits location = true) ∧
          other = disk.put location (some .directory) := by
  unfold makeDirectory
  cases path.endsInDots with
  | true => cases disk.directoryOf path <;> simp [bind, Except.bind]
  | false =>
      cases disk.placeOf path with
      | error error => simp [bind, Except.bind]
      | ok location =>
          simp only [Bool.false_eq_true, if_false, bind, Except.bind, Bool.or_eq_true,
            Option.isSome_iff_ne_none, ne_eq, Bool.not_eq_true', true_and, Except.ok.injEq,
            exists_eq_left']
          split
          next occupied =>
            refine iff_of_false nofun ?_
            rintro ⟨⟨nothing, permitted⟩, -⟩
            simp [nothing, permitted] at occupied
          next free =>
            rw [not_or, not_not, Bool.not_eq_false] at free
            rw [Except.ok.injEq, eq_comm, and_iff_right free]

/-- Where something stands already, no directory is made, and nothing is missing. -/
theorem makeDirectory_of_placeOf
    (notDots : path.endsInDots = false)
    (placed : disk.placeOf path = .ok location)
    (occupied : (disk.entryAt location).isSome = true) :
    disk.makeDirectory path = .error .refused := by
  simp [makeDirectory, notDots, placed, occupied, bind, Except.bind]

/-- Below a directory that is there nothing is missing on the way. -/
theorem eq_refused_of_placeOf
    {error : PathError}
    (found : disk.hasDirectory path.parent = true)
    (failed : disk.placeOf path = .error error) :
    error = .refused := by
  obtain ⟨-, directory, followed⟩ := hasDirectory_iff.1 found
  rw [DiskPath.names_parent] at followed
  unfold placeOf at failed
  split at failed
  next valid =>
    simp only [followed, bind, Except.bind] at failed
    split at failed
    · split at failed <;> cases failed
      rfl
    · cases failed
      rfl
  next => cases failed; rfl

/-- A directory that is there is not made again. -/
theorem makeDirectory_of_hasDirectory (found : disk.hasDirectory path = true) :
    disk.makeDirectory path = .error .refused := by
  cases notDots : path.endsInDots with
  | true =>
      obtain ⟨valid, location, followed⟩ := hasDirectory_iff.1 found
      simp [makeDirectory, notDots, directoryOf, valid, followed, bind, Except.bind]
  | false =>
      cases placed : disk.placeOf path with
      | ok location =>
          refine makeDirectory_of_placeOf notDots placed ?_
          rw [(hasDirectory_iff_of_placeOf notDots placed).1 found, Option.isSome_some]
      | error error =>
          have refused := eq_refused_of_placeOf (hasDirectory_parent found) placed
          simp [makeDirectory, notDots, placed, refused, bind, Except.bind]

/-- Where no directory can be made, the attempt depends on one that is there. -/
theorem ensureDirectory_of_error
    {error : PathError}
    (failed : disk.makeDirectory path = .error error) :
    disk.ensureDirectory path = ⟨disk.hasDirectory path, disk⟩ := by
  rw [ensureDirectory, failed]

/-- Where making the directory is refused, no directories above it are made. -/
theorem ensureDirectories_of_refused (failed : disk.makeDirectory path = .error .refused) :
    disk.ensureDirectories path = ⟨disk.hasDirectory path, disk⟩ := by
  unfold ensureDirectories
  rw [failed, ensureDirectory_of_error failed, ite_self]

/-- Where a directory is there, nothing is made. -/
theorem ensureDirectories_of_hasDirectory (found : disk.hasDirectory path = true) :
    disk.ensureDirectories path = ⟨true, disk⟩ := by
  rw [ensureDirectories_of_refused (makeDirectory_of_hasDirectory found), found]

/-- No directory is made in place of a file. -/
theorem ensureDirectories_of_file
    {bytes : ByteArray}
    (isFile : disk.find? path = some (.file bytes)) :
    (disk.ensureDirectories path).disk = disk := by
  obtain ⟨notOfDirectory, location, placed, occupied⟩ := find?_eq_some_file_iff.1 isFile
  have notDots := DiskPath.endsInDots_of_not_isOfDirectory notOfDirectory
  have refused := makeDirectory_of_placeOf notDots placed (by rw [occupied, Option.isSome_some])
  rw [ensureDirectories_of_refused refused]

/-- Where the directory can be made at once, this is all that is done. -/
theorem ensureDirectories_of_makeDirectory (made : disk.makeDirectory path = .ok other) :
    disk.ensureDirectories path = ⟨true, other⟩ := by
  unfold ensureDirectories
  rw [made, ensureDirectory, made, ite_self]

/-- Where the parent had to be made, the path may come to be that of a directory by this alone. -/
theorem ensureDirectories_of_missing
    (notRoot : path.names ≠ [])
    (missing : disk.makeDirectory path = .error .missing)
    (made : disk.makeDirectory path.parent = .ok other)
    (found : other.hasDirectory path = true) :
    disk.ensureDirectories path = ⟨true, other⟩ := by
  unfold ensureDirectories
  rw [if_neg notRoot, missing]
  simp only [ensureDirectories_of_makeDirectory made, if_true]
  rw [ensureDirectory_of_error (makeDirectory_of_hasDirectory found), found]

/-- A directory that could be made is there. -/
theorem hasDirectory_of_makeDirectory (made : disk.makeDirectory path = .ok other) :
    other.hasDirectory path = true := by
  obtain ⟨notDots, location, placed, ⟨nothing, -⟩, rfl⟩ := makeDirectory_eq_ok_iff.1 made
  have keeps : disk.KeepsDirectories (disk.put location (some .directory)) :=
    keepsDirectories_put (by simp [nothing])
  rw [hasDirectory_iff_of_placeOf notDots (keeps.placeOf placed), entryAt_put, if_pos rfl]

/-- An attempt at a directory is successful exactly when it is there in the end. -/
theorem done_ensureDirectory :
    (disk.ensureDirectory path).done = (disk.ensureDirectory path).disk.hasDirectory path := by
  unfold ensureDirectory
  cases made : disk.makeDirectory path with
  | error error => rfl
  | ok other => exact (hasDirectory_of_makeDirectory made).symm

/--
An attempt at a directory and those above it is successful exactly when it is there in the end.  If
the directory above is not there, the path leads nowhere.
-/
theorem done_ensureDirectories (disk : Disk) (path : DiskPath) :
    (disk.ensureDirectories path).done =
      (disk.ensureDirectories path).disk.hasDirectory path := by
  fun_induction disk.ensureDirectories path with
  | case1 => exact done_ensureDirectory
  | case2 => exact done_ensureDirectory
  | case3 path _ _ above notAbove inductionHypothesis =>
      rw [Bool.not_eq_true] at notAbove
      rw [notAbove, eq_comm, ← Bool.not_eq_true]
      intro found
      rw [hasDirectory_parent found, notAbove] at inductionHypothesis
      contradiction
  | case4 => exact done_ensureDirectory

/-- What holds of a disk and of it with the directory made holds after the attempt. -/
theorem ensureDirectory_induction
    {motive : Disk → Prop}
    (made : ∀ {other : Disk}, disk.makeDirectory path = .ok other → motive other)
    (start : motive disk) :
    motive (disk.ensureDirectory path).disk := by
  unfold ensureDirectory
  cases attempt : disk.makeDirectory path with
  | error error => exact start
  | ok other => exact made attempt

/--
What holds of a disk and is kept by each directory made on the way holds after all of them.  The
recursion goes up to the first directory that is there and comes back down; on each way back one
more directory is made, below those that the induction hypothesis speaks about.
-/
theorem ensureDirectories_induction
    {motive : Disk → Prop}
    (made : ∀ {disk other : Disk} {part : DiskPath}, part.names <+: path.names →
      disk.makeDirectory part = .ok other → motive disk → motive other)
    (start : motive disk) :
    motive (disk.ensureDirectories path).disk := by
  have last {path : DiskPath} {disk : Disk}
      (made : ∀ {disk other : Disk} {part : DiskPath}, part.names <+: path.names →
        disk.makeDirectory part = .ok other → motive disk → motive other)
      (before : motive disk) :
      motive (disk.ensureDirectory path).disk :=
    ensureDirectory_induction (fun success => made (List.prefix_refl _) success before) before
  fun_induction disk.ensureDirectories path with
  | case1 path => exact last made start
  | case2 path _ _ above _ inductionHypothesis =>
      have aboveHolds : motive above.disk :=
        inductionHypothesis fun onTheWay => made (onTheWay.trans path.names_parent_isPrefix)
      exact last made aboveHolds
  | case3 path _ _ above _ inductionHypothesis =>
      exact inductionHypothesis fun onTheWay => made (onTheWay.trans path.names_parent_isPrefix)
  | case4 path => exact last made start

/-- The other disk has more directories, and is the same apart from them. -/
structure AddsDirectories (disk other : Disk) : Prop where
  permits_eq : other.permits = disk.permits
  entryAt_eq : ∀ location, other.entryAt location = disk.entryAt location ∨
    disk.entryAt location = none ∧ other.entryAt location = some .directory

/-- All that is done to make a directory and those above it is to make directories. -/
theorem addsDirectories_ensureDirectories (disk : Disk) (path : DiskPath) :
    disk.AddsDirectories (disk.ensureDirectories path).disk := by
  refine ensureDirectories_induction ?_ ⟨rfl, fun _ => .inl rfl⟩
  intro before after part _ made added
  obtain ⟨-, place, -, ⟨nothing, -⟩, rfl⟩ := makeDirectory_eq_ok_iff.1 made
  refine ⟨added.permits_eq, fun location => ?_⟩
  rw [entryAt_put]
  by_cases here : location = place
  · subst here
    rw [if_pos rfl]
    rcases added.entryAt_eq location with same | ⟨nothingBefore, -⟩
    · exact .inr ⟨same.symm.trans nothing, rfl⟩
    · exact .inr ⟨nothingBefore, rfl⟩
  · rw [if_neg here]
    exact added.entryAt_eq location

/-- Where a file stands after directories were made, it stood before. -/
theorem AddsDirectories.entryAt_of_file
    {found : ByteArray}
    (added : disk.AddsDirectories other)
    (isFile : other.entryAt location = some (.file found)) :
    disk.entryAt location = some (.file found) := by
  rcases added.entryAt_eq location with same | ⟨-, isDirectory⟩
  · rw [← same, isFile]
  · rw [isFile] at isDirectory
    cases isDirectory

/-- Without a way back, directories are made on the way and nowhere else. -/
theorem entryAt_ensureDirectories
    (noBack : ".." ∉ path.names)
    (notOnTheWay : ¬location <+: path.names) :
    (disk.ensureDirectories path).disk.entryAt location = disk.entryAt location := by
  refine ensureDirectories_induction (motive := fun after =>
    after.entryAt location = disk.entryAt location) ?_ rfl
  intro before after part onTheWay made sameBefore
  obtain ⟨-, place, placed, -, rfl⟩ := makeDirectory_eq_ok_iff.1 made
  have noBackInPart : ".." ∉ part.names := fun member => noBack (onTheWay.subset member)
  have elsewhere : location ≠ place := by
    rintro rfl
    exact notOnTheWay (eq_names_of_placeOf noBackInPart placed ▸ onTheWay)
  rw [entryAt_put, if_neg elsewhere, sameBefore]

/-! ## Attempts on sound disks -/

namespace Sound

/-- Directories are made in directories. -/
theorem ensureDirectories (sound : disk.Sound) (path : DiskPath) :
    (disk.ensureDirectories path).disk.Sound := by
  refine ensureDirectories_induction ?_ sound
  intro disk other part _ made before
  obtain ⟨-, location, placed, ⟨nothing, -⟩, rfl⟩ := makeDirectory_eq_ok_iff.1 made
  exact before.put placed (by simp [nothing])

/-- A file is written in a directory and in place of no directory. -/
theorem write?
    {bytes : ByteArray}
    (sound : disk.Sound)
    (written : disk.write? path bytes = some other) :
    other.Sound := by
  obtain ⟨-, location, placed, ⟨notDirectory, -⟩, rfl⟩ := write?_eq_some_iff.1 written
  exact sound.put placed notDirectory

/-- A file that is removed has nothing in it. -/
theorem delete?
    (sound : disk.Sound)
    (deleted : disk.delete? path = some other) :
    other.Sound := by
  unfold Disk.delete? at deleted
  split at deleted
  next bytes found =>
    obtain ⟨-, location, placed, isFile⟩ := find?_eq_some_file_iff.1 found
    simp only [placed, Except.toOption, Option.bind_some, Option.ite_none_right_eq_some,
      Option.some.injEq] at deleted
    obtain ⟨-, rfl⟩ := deleted
    exact sound.put placed (by simp [isFile])
  next => cases deleted

end Sound

/-! ## Stored files -/

variable {bytes : ByteArray}

/-- Below a directory that is there, storing a file is writing it. -/
theorem store_of_hasDirectory
    (found : disk.hasDirectory path.parent = true)
    (bytes : ByteArray) :
    disk.store path bytes = .ofOption disk (disk.write? path bytes) := by
  rw [store, ensureDirectories_of_hasDirectory found]
  cases disk.write? path bytes <;> rfl

/-- A file is stored when the directories above it are there and it can be written in them. -/
theorem store_cases (disk : Disk) (path : DiskPath) (bytes : ByteArray) :
    let above := disk.ensureDirectories path.parent
    (∃ written, above.disk.write? path bytes = some written ∧
      disk.store path bytes = ⟨true, written⟩) ∨
    (above.done = true → above.disk.write? path bytes = none) ∧
      disk.store path bytes = ⟨false, above.disk⟩ := by
  intro above
  cases aboveDone : above.done with
  | false =>
      have above_eq : above = ⟨false, above.disk⟩ := by rw [← aboveDone]
      refine .inr ⟨nofun, ?_⟩
      simp only [store, above] at aboveDone ⊢
      rw [if_neg (by rw [aboveDone]; decide)]
      exact above_eq
  | true =>
      cases written : above.disk.write? path bytes with
      | none => exact .inr ⟨fun _ => rfl, by simp [store, aboveDone, written, above]⟩
      | some other => exact .inl ⟨other, rfl, by simp [store, aboveDone, written, above]⟩

/-- A file that was stored is found with its bytes. -/
theorem find?_of_store (done : (disk.store path bytes).done = true) :
    (disk.store path bytes).disk.find? path = some (.file bytes) := by
  rcases store_cases disk path bytes with ⟨stored, written, store_eq⟩ | ⟨-, store_eq⟩
  · rw [store_eq]
    exact find?_of_write? written
  · simp [store_eq] at done

/-- An attempt to store a file that fails has made the directories above it, as far as it could. -/
theorem disk_of_failed_store (failed : (disk.store path bytes).done = false) :
    (disk.store path bytes).disk = (disk.ensureDirectories path.parent).disk := by
  rcases store_cases disk path bytes with ⟨stored, -, store_eq⟩ | ⟨-, store_eq⟩
  · simp [store_eq] at failed
  · rw [store_eq]

/-- An attempt to store a file that fails adds directories and changes nothing else. -/
theorem addsDirectories_of_failed_store (failed : (disk.store path bytes).done = false) :
    disk.AddsDirectories (disk.store path bytes).disk := by
  rw [disk_of_failed_store failed]
  exact addsDirectories_ensureDirectories disk path.parent

/-- Storing a file leads from sound disks to sound disks, whether it fails or not. -/
theorem Sound.store (sound : disk.Sound) : (disk.store path bytes).disk.Sound := by
  have soundAbove := sound.ensureDirectories path.parent
  rcases store_cases disk path bytes with ⟨stored, written, store_eq⟩ | ⟨-, store_eq⟩
  · rw [store_eq]
    exact soundAbove.write? written
  · rw [store_eq]
    exact soundAbove

/-- Where the system permits no change at all, nothing is stored. -/
theorem done_store_of_refused (refused : ∀ location, disk.permits location = false) :
    (disk.store path bytes).done = false := by
  rcases store_cases disk path bytes with ⟨stored, written, -⟩ | ⟨-, store_eq⟩
  · obtain ⟨-, location, -, ⟨-, permitted⟩, -⟩ := write?_eq_some_iff.1 written
    rw [(addsDirectories_ensureDirectories disk path.parent).permits_eq, refused] at permitted
    cases permitted
  · rw [store_eq]

/-- The parent of a path at which something is found is a directory. -/
theorem hasDirectory_parent_of_find?
    {entry : DiskEntry}
    (found : disk.find? path = some entry) :
    disk.hasDirectory path.parent = true := by
  cases entry with
  | directory => exact hasDirectory_parent (hasDirectory_of_find? found)
  | file bytes =>
      obtain ⟨-, location, placed, -⟩ := find?_eq_some_file_iff.1 found
      exact hasDirectory_parent_of_placeOf placed

/-- Where something stands, an attempt to store a file that fails changes nothing. -/
theorem disk_of_failed_store_of_isSome
    (found : (disk.find? path).isSome = true)
    (failed : (disk.store path bytes).done = false) :
    (disk.store path bytes).disk = disk := by
  obtain ⟨entry, entry_eq⟩ := Option.isSome_iff_exists.1 found
  have parentFound := hasDirectory_parent_of_find? entry_eq
  rw [disk_of_failed_store failed, ensureDirectories_of_hasDirectory parentFound]

/--
A file that is found after an attempt to store one failed stood on the disk before, and the system
does not let it be changed.
-/
theorem permits_of_failed_store
    {found : ByteArray}
    (failed : (disk.store path bytes).done = false)
    (isFile : (disk.store path bytes).disk.find? path = some (.file found)) :
    ∃ location, disk.entryAt location = some (.file found) ∧ disk.permits location = false := by
  have added := addsDirectories_of_failed_store failed
  rw [disk_of_failed_store failed] at added isFile
  have aboveDone : (disk.ensureDirectories path.parent).done = true := by
    rw [done_ensureDirectories]
    exact hasDirectory_parent_of_find? isFile
  rcases store_cases disk path bytes with ⟨stored, -, store_eq⟩ | ⟨notWritten, -⟩
  · simp [store_eq] at failed
  · obtain ⟨location, stands, refused⟩ := permits_of_refused_write isFile (notWritten aboveDone)
    rw [added.permits_eq] at refused
    exact ⟨location, added.entryAt_of_file stands, refused⟩

/-- At a path without a way back, an attempt to store a file that fails leaves what is found. -/
theorem find?_of_failed_store_of_noBack
    (sound : disk.Sound)
    (noBack : ".." ∉ path.names)
    (failed : (disk.store path bytes).done = false) :
    (disk.store path bytes).disk.find? path = disk.find? path := by
  have soundAfter := sound.ensureDirectories path.parent
  rw [disk_of_failed_store failed]
  refine sound.find?_congr soundAfter noBack ?_
  by_cases noNames : path.names = []
  · rw [noNames, sound.root, soundAfter.root]
  · have parentNoBack : ".." ∉ path.parent.names :=
      fun member => noBack (path.names_parent_isPrefix.subset member)
    refine entryAt_ensureDirectories parentNoBack fun isPrefix => ?_
    have lengths := isPrefix.length_le
    have positive := List.length_pos_iff.2 noNames
    rw [DiskPath.names_parent, List.length_dropLast] at lengths
    omega

/--
Nothing was found at a path with a way back, and then directories let it lead to one of them, or to
a file that stood on the disk before and that the system does not let be changed.
-/
structure LedElsewhere (disk other : Disk) (path : DiskPath) : Prop where
  wayBack : ".." ∈ path.names
  notFound : disk.find? path = none
  found : other.find? path = some .directory ∨
    ∃ location bytes, other.find? path = some (.file bytes) ∧
      disk.entryAt location = some (.file bytes) ∧ disk.permits location = false

/--
An attempt to store a file that fails leaves what is found as it was, unless the directories made on
the way led the path elsewhere.
-/
theorem find?_of_failed_store
    (sound : disk.Sound)
    (failed : (disk.store path bytes).done = false) :
    let afterwards := (disk.store path bytes).disk
    afterwards.find? path = disk.find? path ∨ disk.LedElsewhere afterwards path := by
  intro afterwards
  by_cases wayBack : ".." ∈ path.names
  · cases before : disk.find? path with
    | some entry =>
        have unchanged : afterwards = disk :=
          disk_of_failed_store_of_isSome (by rw [before, Option.isSome_some]) failed
        exact .inl (by rw [unchanged, before])
    | none =>
        cases after : afterwards.find? path with
        | none => exact .inl rfl
        | some entry =>
            cases entry with
            | directory => exact .inr ⟨wayBack, before, .inl after⟩
            | file found =>
                obtain ⟨location, stood, refused⟩ := permits_of_failed_store failed after
                exact .inr ⟨wayBack, before, .inr ⟨location, found, after, stood, refused⟩⟩
  · exact .inl (find?_of_failed_store_of_noBack sound wayBack failed)

end FlightRule.Disk
