import EventGateway.Proofs.Staging

/-!
# What a generation that fails leaves behind

Files are first written under staging names and then renamed one by one.  A failure before the first
file is renamed takes everything back, except that the device may have run out of room halfway
through a file.  A failure behind the first one does not: the main file is new then.  This happens
if a directory is in the place of the support code, or if the main file has replaced a link on the
way to the directory.

## Main statements

* `writeFiles_none` — what writing files into a directory leaves if it fails.
* `generate_none` — the same for the two files of a project.
* `not_every_failure_keeps_the_main_file` — a failure that replaces the main file.
-/

namespace EventGateway

open FileSystem (Touches)

namespace Project

/-! ## Files of a directory -/

section WriteFiles

variable {fs : FileSystem} {directory : Path} {files : List (String × String)}

/-- Writing files: the directory is created, files are staged, and then they are installed. -/
theorem writeFiles_eq (fs : FileSystem) (directory : Path) (files : List (String × String)) :
    (writeFiles directory files : OnFileSystem _) fs =
      let created := fs.createDirectories directory
      let staging := (stageAll directory [] files : OnFileSystem Bool) created.1
      let installing := (installAll directory (files.map Prod.fst) : OnFileSystem Bool) staging.2
      if created.2 = false then (none, created.1)
      else if staging.1 = false then (none, staging.2)
      else if installing.1 = false then (none, installing.2)
      else (some ((files.map Prod.fst).map directory.child), installing.2) := by
  have sequence : ∀ {α β : Type} (t : OnFileSystem α) (f : α → OnFileSystem β) (fs : FileSystem),
      (t >>= f) fs = f (t fs).1 (t fs).2 := fun _ _ _ => rfl
  rw [writeFiles, sequence]
  show (if !(fs.createDirectories directory).2 then pure none else _ : OnFileSystem _)
    (fs.createDirectories directory).1 = _
  dsimp only
  cases (fs.createDirectories directory).2
  · rfl
  · simp only [Bool.not_true, Bool.false_eq_true, if_false, sequence]
    cases ((stageAll directory [] files : OnFileSystem Bool) (fs.createDirectories directory).1).1
    · rfl
    · simp only [Bool.not_true, Bool.false_eq_true, if_false, sequence]
      cases ((installAll directory (files.map Prod.fst) : OnFileSystem Bool)
        ((stageAll directory [] files : OnFileSystem Bool) (fs.createDirectories directory).1).2).1
      · rfl
      · rfl

/-- Files are not written if a directory is missing, if one cannot be staged, or if one that is
staged cannot be renamed. -/
theorem writeFiles_none_cases
    (failed : ((writeFiles directory files : OnFileSystem _) fs).1 = none) :
    let fs' := ((writeFiles directory files : OnFileSystem _) fs).2
    let created := (fs.createDirectories directory).1
    let staging := (stageAll directory [] files : OnFileSystem Bool) created
    let installing := (installAll directory (files.map Prod.fst) : OnFileSystem Bool) staging.2
    fs' = created ∨ staging.1 = false ∧ fs' = staging.2 ∨
      staging.1 = true ∧ installing.1 = false ∧ fs' = installing.2 := by
  rw [writeFiles_eq] at failed ⊢
  simp only at failed ⊢
  split_ifs at failed ⊢ with created staged installed
  · exact .inl rfl
  · exact .inr (.inl ⟨staged, rfl⟩)
  · exact .inr (.inr ⟨by simpa using staged, installed, rfl⟩)

/-- In a directory that cannot be reached nothing is staged. -/
theorem stageAll_of_lost (lost : fs.home? directory = none) (file : String × String)
    (files : List (String × String)) :
    (stageAll directory [] (file :: files) : OnFileSystem Bool) fs = (false, fs) := by
  have proper := proper_stagingName file.1
  have target : fs.target? (directory.child (stagingName file.1)) = none := by
    rw [FileSystem.target?_child proper (fun h home => by rw [lost] at home; cases home),
      FileSystem.slot?_child proper, lost]
    split_ifs <;> rfl
  have refused : fs.write (directory.child (stagingName file.1)) file.2 = (fs, false) := by
    rw [FileSystem.write, target]
  rw [stageAll_cons, refused, if_neg Bool.false_ne_true]
  rfl

/-- If the directory is not reached, no more than directories is created. -/
theorem writeFiles_of_lost (lost : (fs.createDirectories directory).1.home? directory = none)
    (failed : ((writeFiles directory files : OnFileSystem _) fs).1 = none) :
    ((writeFiles directory files : OnFileSystem _) fs).2 = (fs.createDirectories directory).1 := by
  rcases writeFiles_none_cases failed with eq | ⟨-, eq⟩ | ⟨staged, uninstalled, -⟩
  · exact eq
  · cases files with
    | nil => exact eq
    | cons file files =>
      rw [stageAll_of_lost lost] at eq
      exact eq
  · cases files with
    | nil => cases uninstalled
    | cons file files =>
      rw [stageAll_of_lost lost] at staged
      cases staged

/-- No staging name is linked in a directory, once it has been created. -/
def NoStagingLinks (fs : FileSystem) (directory : Path) (names : List String) : Prop :=
  ∀ h, (fs.createDirectories directory).1.home? directory = some h →
    ∀ name ∈ names, fs.Unlinked (stagingPlace h name)

/-- Once the directory is reached, it is ready for files to be staged. -/
theorem NoStagingLinks.ready {names : List String} (unlinked : NoStagingLinks fs directory names)
    {h : Location} (home : (fs.createDirectories directory).1.home? directory = some h) :
    Ready (fs.createDirectories directory).1 directory h names :=
  ⟨home, fun name mem =>
    (fs.created_createDirectories directory).unlinked _ (unlinked h home name mem)⟩

/-- Files that have been staged can be installed. -/
theorem installable_of_stageAll {h : Location} (stageable : Stageable (files.map Prod.fst))
    (ready : Ready fs directory h (files.map Prod.fst))
    (done : ((stageAll directory [] files : OnFileSystem Bool) fs).1 = true) :
    let fs' := ((stageAll directory [] files : OnFileSystem Bool) fs).2
    Touches fs fs' (Staging h (files.map Prod.fst)) ∧ Installable fs' directory h files := by
  obtain ⟨touches, staged⟩ := stageAll_true stageable.nodup ready done
  exact ⟨touches, stageable, ready.touched touches, fun file mem => (staged file mem).1,
    fun file mem => (staged file mem).2⟩

/-- What writing files leaves if it fails at the place where they should be: files are not renamed,
or some are and others not. -/
inductive Unwritten (fs fs' : FileSystem) (directory : Path) (h : Location)
    (files : List (String × String)) : Prop where
  | undone (kept : ∀ file ∈ files, fs'.file? (place h file.1) = fs.file? (place h file.1))
      (left : ∀ file ∈ files, Leftover fs fs' h file)
  | interrupted (done : List (String × String)) (file : String × String)
      (rest : List (String × String)) (split : files = done ++ file :: rest)
      (interrupted : Interrupted fs fs' directory h done file rest)

/-- **Writing files that fails** touches the places of the files at most. -/
theorem writeFiles_none (stageable : Stageable (files.map Prod.fst))
    (unlinked : NoStagingLinks fs directory (files.map Prod.fst))
    (failed : ((writeFiles directory files : OnFileSystem _) fs).1 = none) :
    let created := (fs.createDirectories directory).1
    let fs' := ((writeFiles directory files : OnFileSystem _) fs).2
    fs' = created ∨ ∃ h, created.home? directory = some h ∧
      Touches created fs' (Placed h (files.map Prod.fst)) ∧
        Unwritten created fs' directory h files := by
  intro created fs'
  cases home : created.home? directory with
  | none => exact .inl (writeFiles_of_lost home failed)
  | some h =>
    have ready := unlinked.ready home
    rcases writeFiles_none_cases failed with eq | ⟨unstaged, eq⟩ | ⟨staged, uninstalled, eq⟩
    · exact .inl eq
    · obtain ⟨touches, -, left⟩ := @stageAll_false created directory h [] files stageable.nodup
        ready (fun _ mem => absurd mem List.not_mem_nil)
        (fun _ mem => absurd mem List.not_mem_nil) unstaged
      rw [← eq] at touches left
      refine .inr ⟨h, rfl, touches.mono fun l => Staging.placed, .undone (fun file mem => ?_) left⟩
      exact FileSystem.file?_congr
        (touches.others _ (not_staging_place stageable (List.mem_map_of_mem mem)))
    · obtain ⟨touches, able⟩ := installable_of_stageAll stageable ready staged
      obtain ⟨touches', done, file, rest, split, interrupted⟩ := installAll_false able uninstalled
      rw [← eq] at touches' interrupted
      refine .inr ⟨h, rfl, (touches.mono fun l => Staging.placed).trans touches',
        .interrupted done file rest split ⟨interrupted.installed, fun file' mem => ?_, ?_⟩⟩
      · have listed : file'.1 ∈ files.map Prod.fst := by
          rw [split]
          exact List.mem_map_of_mem (List.mem_append_right _ mem)
        exact (interrupted.kept file' mem).trans
          (touches.others _ (not_staging_place stageable listed))
      · exact interrupted.reason.imp_left fun ⟨directory, gone⟩ =>
          ⟨(touches.directories _).symm.trans directory, gone⟩

end WriteFiles

/-! ## Projects -/

/-- The text of the main file. -/
def mainText (c : Compilation) : OutputKind → String
  | .apiApp => c.appSource
  | .descriptor => c.descriptor

/-- A compilation is written as a main file and the support code. -/
theorem files_eq (c : Compilation) (kind : OutputKind) :
    files c kind = [(kind.fileName, mainText c kind), (supportName, c.supportSource)] := by
  cases kind <;> rfl

/-- The names of the files of a project. -/
def fileNames (kind : OutputKind) : List String :=
  [kind.fileName, supportName]

/-- The names of the files do not depend on what they hold. -/
theorem names_files (c : Compilation) (kind : OutputKind) :
    (files c kind).map Prod.fst = fileNames kind := by
  rw [files_eq]
  rfl

/-- The files of a compilation can be staged. -/
theorem stageable_fileNames (kind : OutputKind) : Stageable (fileNames kind) := by
  cases kind <;> exact ⟨by decide, by decide, by decide⟩

/-- How a generation ends that fails in a directory. -/
inductive Ending (fs fs' : FileSystem) (directory : Path) (h : Location) (kind : OutputKind)
    (c : Compilation) : Prop where
  /-- The main file is as it was.  A file that was staged is gone, unless the device has run out of
  room halfway through it. -/
  | undone (main : fs'.file? (place h kind.fileName) = fs.file? (place h kind.fileName))
      (left : ∀ file ∈ files c kind, Leftover fs fs' h file)
  /-- A directory is in the place of the support code.  The main file is new, and nothing stays
  staged. -/
  | blocked (directory : fs'.isDirectory (place h supportName) = true)
      (main : fs'.file? (place h kind.fileName) = some (.file (mainText c kind).toUTF8))
      (gone : ∀ name ∈ fileNames kind, fs'.file? (stagingPlace h name) = none)
  /-- The main file is new, and it has cut off the way to the directory.  The support code stays
  staged. -/
  | cutOff (lost : fs'.home? directory = none)
      (main : fs'.file? (place h kind.fileName) = some (.file (mainText c kind).toUTF8))
      (gone : fs'.file? (stagingPlace h kind.fileName) = none)
      (staged : fs'.file? (stagingPlace h supportName) = some (.file c.supportSource.toUTF8))

/-- What a generation that fails leaves in a directory. -/
structure Failed (fs fs' : FileSystem) (directory : Path) (h : Location) (kind : OutputKind)
    (c : Compilation) : Prop where
  /-- The support code is as it was. -/
  support : fs'.file? (place h supportName) = fs.file? (place h supportName)
  /-- All files but those of the project are as they were. -/
  others : ∀ l, ¬ Placed h (fileNames kind) l → fs'.file? l = fs.file? l
  ending : Ending fs fs' directory h kind c

/-- What is left in a directory does not depend on whether it has been created. -/
theorem Failed.of_created {fs created fs' : FileSystem} {directory : Path} {h : Location}
    {kind : OutputKind} {c : Compilation} (same : ∀ l, created.file? l = fs.file? l)
    (failed : Failed created fs' directory h kind c) : Failed fs fs' directory h kind c := by
  refine ⟨failed.support.trans (same _), fun l free => (failed.others l free).trans (same l), ?_⟩
  cases failed.ending with
  | undone main left =>
    refine .undone (main.trans (same _)) fun file mem => ?_
    exact (left file mem).imp_right (Or.imp_left fun kept => kept.trans (same _))
  | blocked directory main gone => exact .blocked directory main gone
  | cutOff lost main gone staged => exact .cutOff lost main gone staged

/-- Two items are cut before the first or before the second. -/
theorem split_pair {α : Type} {a b x : α} {done rest : List α}
    (split : [a, b] = done ++ x :: rest) :
    done = [] ∧ x = a ∧ rest = [b] ∨ done = [a] ∧ x = b ∧ rest = [] := by
  match done with
  | [] => simpa [eq_comm] using split
  | [_] => simpa [eq_comm, and_assoc] using split
  | _ :: _ :: _ => simp at split

/-- The three endings are all that can come of two files. -/
theorem ending_of_unwritten {fs fs' : FileSystem} {directory : Path} {h : Location}
    {kind : OutputKind} {c : Compilation} (touches : Touches fs fs' (Placed h (fileNames kind)))
    (unwritten : Unwritten fs fs' directory h (files c kind)) :
    fs'.file? (place h supportName) = fs.file? (place h supportName) ∧
      Ending fs fs' directory h kind c := by
  have mem : (kind.fileName, mainText c kind) ∈ files c kind ∧
      (supportName, c.supportSource) ∈ files c kind := by
    rw [files_eq]
    exact ⟨List.mem_cons_self, List.mem_cons_of_mem _ List.mem_cons_self⟩
  cases unwritten with
  | undone kept left => exact ⟨kept _ mem.2, .undone (kept _ mem.1) left⟩
  | interrupted done file rest split interrupted =>
    obtain ⟨installed, kept, reason⟩ := interrupted
    rw [files_eq] at split
    rcases split_pair split with ⟨rfl, rfl, rfl⟩ | ⟨rfl, rfl, rfl⟩
    · -- The main file could not be renamed, so a directory is in its place.
      have support := FileSystem.file?_congr (kept _ (List.mem_cons_of_mem _ List.mem_cons_self))
      have main := FileSystem.file?_congr (kept _ List.mem_cons_self)
      rcases reason with ⟨-, gone⟩ | ⟨none, -⟩
      · refine ⟨support, .undone main fun file listed => .inl (FileSystem.file?_eq_none ?_)⟩
        rw [files_eq] at listed
        exact gone file listed
      · exact absurd rfl none
    · have support := FileSystem.file?_congr (kept _ List.mem_cons_self)
      obtain ⟨new, goneMain⟩ := installed _ List.mem_cons_self
      have new := FileSystem.file?_eq_file new
      have goneMain := FileSystem.file?_eq_none goneMain
      refine ⟨support, ?_⟩
      rcases reason with ⟨inPlace, gone⟩ | ⟨-, lost, staged⟩
      · have goneSupport := FileSystem.file?_eq_none (gone _ List.mem_cons_self)
        exact .blocked ((touches.directories _).trans inPlace) new
          (List.forall_mem_cons.2 ⟨goneMain, List.forall_mem_singleton.2 goneSupport⟩)
      · exact .cutOff lost new goneMain (staged _ List.mem_cons_self).file?_eq

/-- **A generation that fails** leaves all files as they were if it fails early or if its directory
cannot be reached.  In a directory where no staging name is linked it changes the files of the
project at most, and those in one of three ways: nothing has been renamed, or the support code could
not be because a directory is in its place, or because the new main file is in the way. -/
theorem generate_none {fs : FileSystem} {directory : Path} {c : Compilation} {kind : OutputKind}
    (unlinked : NoStagingLinks fs directory (fileNames kind))
    (failed : ((generate c directory kind : OnFileSystem _) fs).1 = none) :
    let fs' := ((generate c directory kind : OnFileSystem _) fs).2
    (∀ l, fs'.file? l = fs.file? l) ∨
      ∃ h, (fs.createDirectories directory).1.home? directory = some h ∧
        Failed fs fs' directory h kind c := by
  have names := names_files c kind
  have same := (fs.created_createDirectories directory).file?_eq
  have stageable : Stageable ((files c kind).map Prod.fst) := names ▸ stageable_fileNames kind
  rw [generate] at failed ⊢
  rcases writeFiles_none stageable (names ▸ unlinked) failed with eq | ⟨h, home, touches, unwritten⟩
  · exact .inl fun l => by rw [eq, same]
  · rw [names] at touches
    obtain ⟨support, ending⟩ := ending_of_unwritten touches unwritten
    exact .inr ⟨h, home, .of_created same
      ⟨support, fun l free => FileSystem.file?_congr (touches.others l free), ending⟩⟩

/-! ### Failures that leave something -/

/-- A compilation without parts. -/
def emptyCompilation : Compilation :=
  ⟨Flogo.App.new "empty" "" "1.0.0" "1.1.0", [], []⟩

-- The device runs out of room in the middle of the main file.
example :
    let run := (generate emptyCompilation (Path.ofText "") .descriptor : OnFileSystem _)
      { room := some 10 }
    run.1 = none ∧ run.2.file? [".flogo.json.tmp"] = some (.file "\x7b\n  \"name\"".toUTF8) := by
  decide +kernel

-- The main file replaces a link that the path of the directory goes through.
example :
    let run :=
      (generate emptyCompilation (Path.ofText "flogo.json/..") .descriptor : OnFileSystem _)
      { entries := [(["flogo.json"], .link (Path.ofText "parts")), (["parts"], .directory)] }
    run.1 = none ∧ run.2.find? ["flogo.json"] = some (.file 0) ∧
      run.2.find? [".support.go.tmp"] = some (.file 1) := by
  decide +kernel

/-- An earlier descriptor and a directory in the place of the support code, in a directory that is
known by a link. -/
def blockedSystem : FileSystem where
  entries := [
    (["current"], .link (Path.ofText "/srv/a")),
    (["srv"], .directory),
    (["srv", "a"], .directory),
    (["srv", "a", "flogo.json"], .file 0),
    (["srv", "a", "support.go"], .directory)]
  contents := [(0, "earlier".toUTF8)]

/-- The path of the directory. -/
def blockedPath : Path :=
  Path.ofText "/current"

theorem generate_blockedSystem :
    let run := (generate emptyCompilation blockedPath .descriptor : OnFileSystem _) blockedSystem
    run.1 = none ∧
      run.2.slot? (blockedPath.child "flogo.json") = some ["srv", "a", "flogo.json"] ∧
      run.2.file? ["srv", "a", "flogo.json"] ≠ blockedSystem.file? ["srv", "a", "flogo.json"] := by
  decide +kernel

/-- Installing the support code fails in a directory that is known by a link: the earlier descriptor
is gone, and no staging file is left. -/
theorem blockedSystem_failed :
    NoStagingLinks blockedSystem blockedPath (fileNames .descriptor) ∧
      let run := (generate emptyCompilation blockedPath .descriptor : OnFileSystem _) blockedSystem
      run.1 = none ∧
        ((∀ l, run.2.file? l = blockedSystem.file? l) ∨
          ∃ h, (blockedSystem.createDirectories blockedPath).1.home? blockedPath = some h ∧
            Failed blockedSystem run.2 blockedPath h .descriptor emptyCompilation) := by
  have unlinked : NoStagingLinks blockedSystem blockedPath (fileNames .descriptor) := by
    intro h home name mem
    have there : (blockedSystem.createDirectories blockedPath).1.home? blockedPath =
        some ["srv", "a"] := by decide +kernel
    obtain rfl := Option.some.inj (there.symm.trans home)
    have empty : ∀ name ∈ fileNames .descriptor,
        blockedSystem.find? (stagingPlace ["srv", "a"] name) = none := by decide +kernel
    exact FileSystem.unlinked_of_find?_eq_none (empty name mem)
  exact ⟨unlinked, generate_blockedSystem.1, generate_none unlinked generate_blockedSystem.1⟩

/-- **A generation that fails may have replaced the main file.** -/
theorem not_every_failure_keeps_the_main_file :
    ¬ ∀ (c : Compilation) (directory : Path) (kind : OutputKind) (fs : FileSystem) (l : Location),
      ((generate c directory kind : OnFileSystem _) fs).1 = none →
      ((generate c directory kind : OnFileSystem _) fs).2.slot?
        (directory.child kind.fileName) = some l →
      ((generate c directory kind : OnFileSystem _) fs).2.file? l = fs.file? l := by
  intro all
  obtain ⟨failed, target, changed⟩ := generate_blockedSystem
  exact changed (all emptyCompilation blockedPath .descriptor blockedSystem _ failed target)

end Project

end EventGateway
