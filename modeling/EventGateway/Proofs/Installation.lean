import EventGateway.Proofs.Generation

/-!
# What a generation that succeeds leaves behind

Files are written under staging names and then renamed, each to a place of its own.  So what a run
that succeeds leaves can be told place by place: the new files, nothing at the staging places, and
everything else as it was, besides directories on the way that were missing.  A second run finds the
directories, takes the same places and puts the same files there, so that nothing shows of it.

This is so unless staging names are linked.  What is written through a link, or into a file that
has another name, shows elsewhere (`not_every_generation_leaves_the_rest`).

## Main statements

* `writeFiles_some`, `writeFiles_again` — the first and the second run.
* `generate_some` — the same for the two files of a project.
* `not_every_generation_leaves_the_rest` — runs that succeed and change other places.
-/

namespace EventGateway

open FileSystem (Fits Touches Created Guides)

namespace Project

/-! ## Files of a directory -/

section WriteFiles

variable {fs : FileSystem} {directory : Path} {h : Location} {files : List (String × String)}

/-- What writing files leaves if it succeeds, where `fs` is the file system with the directories. -/
structure Written (fs fs' : FileSystem) (directory : Path) (h : Location)
    (files : List (String × String)) : Prop where
  touches : Touches fs fs' (Placed h (files.map Prod.fst))
  fits : ∀ file ∈ files, Fits directory (stagingName file.1)
  installed : ∀ file ∈ files, Installed fs' h file

/-- **Writing files that succeeds** puts the files at their places and leaves all others. -/
theorem writeFiles_some {paths : List Path} (nonempty : files ≠ [])
    (stageable : Stageable (files.map Prod.fst))
    (unlinked : NoStagingLinks fs directory (files.map Prod.fst))
    (succeeded : ((writeFiles directory files : OnFileSystem _) fs).1 = some paths) :
    paths = (files.map Prod.fst).map directory.child ∧
      ∃ h, (fs.createDirectories directory).1.home? directory = some h ∧
        Written (fs.createDirectories directory).1
          ((writeFiles directory files : OnFileSystem _) fs).2 directory h files := by
  rw [writeFiles_eq] at succeeded ⊢
  simp only at succeeded ⊢
  split_ifs at succeeded ⊢ with uncreated unstaged uninstalled
  rw [Bool.not_eq_false] at unstaged uninstalled
  refine ⟨(Option.some.inj succeeded).symm, ?_⟩
  cases home : (fs.createDirectories directory).1.home? directory with
  | none =>
    obtain ⟨file, rest, rfl⟩ := List.exists_cons_of_ne_nil nonempty
    rw [stageAll_of_lost home] at unstaged
    cases unstaged
  | some h =>
    obtain ⟨touches, able⟩ := installable_of_stageAll stageable (unlinked.ready home) unstaged
    obtain ⟨touches', installed⟩ := installAll_true able uninstalled
    exact ⟨h, rfl, (touches.mono fun l => Staging.placed).trans touches', able.fits, installed⟩

/-- No symbolic link is among the places of some files. -/
def NoLinks (fs : FileSystem) (h : Location) (names : List String) : Prop :=
  ∀ name ∈ names, ∀ target, fs.find? (place h name) ≠ some (.link target)

/-- Creating directories makes no links. -/
theorem NoLinks.created {fs' : FileSystem} {names : List String} {start : Location × Nat}
    {parts : List String} (noLinks : NoLinks fs h names) (created : Created fs fs' start parts) :
    NoLinks fs' h names := by
  intro name mem target link
  refine noLinks name mem target ?_
  rw [← FileSystem.see?_eq_link_iff] at link ⊢
  rcases created.others (place h name) with same | ⟨-, isDirectory, -⟩
  · exact same.symm.trans link
  · rw [isDirectory] at link
    cases link

/-- Where no links are, no way is lost. -/
theorem guides_of_noLinks {fs' : FileSystem} {names : List String}
    (touches : Touches fs fs' (Placed h names))
    (unlinked : ∀ name ∈ names, fs.Unlinked (stagingPlace h name)) (noLinks : NoLinks fs h names) :
    Guides fs fs' := by
  refine touches.guides_of_noLink ?_
  rintro l ⟨name, mem, rfl | rfl⟩
  · exact (unlinked name mem).noLink
  · exact noLinks name mem

/-- **Files are written** into a directory that is there, if they fit, if neither directories nor
links are in the way, and if there is room. -/
theorem writeFiles_of_affords (stageable : Stageable (files.map Prod.fst)) (nonempty : files ≠ [])
    (ready : Ready fs directory h (files.map Prod.fst))
    (fits : ∀ file ∈ files, Fits directory (stagingName file.1))
    (free : ∀ file ∈ files, fs.isDirectory (stagingPlace h file.1) = false ∧
      fs.isDirectory (place h file.1) = false)
    (noLinks : NoLinks fs h (files.map Prod.fst)) (affords : fs.Affords (totalSize files)) :
    fs.createDirectories directory = (fs, true) ∧
      ((writeFiles directory files : OnFileSystem _) fs).1 =
        some ((files.map Prod.fst).map directory.child) := by
  obtain ⟨first, rest, rfl⟩ := List.exists_cons_of_ne_nil nonempty
  have there : fs.createDirectories directory = (fs, true) :=
    FileSystem.createDirectories_of_home? ready.home _ (fits first List.mem_cons_self)
  have staged : ((stageAll directory [] (first :: rest) : OnFileSystem Bool) fs).1 = true :=
    stageAll_of_affords ready fits (fun file mem => (free file mem).1) affords
  obtain ⟨touches, able⟩ := installable_of_stageAll stageable ready staged
  have touches := touches.mono fun l => Staging.placed
  have installed : ((installAll directory ((first :: rest).map Prod.fst) : OnFileSystem Bool)
      ((stageAll directory [] (first :: rest) : OnFileSystem Bool) fs).2).1 = true := by
    by_contra failed
    rw [Bool.not_eq_true] at failed
    obtain ⟨touches', done, file, rest', split, interrupted⟩ := installAll_false able failed
    rcases interrupted.reason with ⟨blocked, -⟩ | ⟨-, lost, -⟩
    · rw [touches.directories, (free file (by rw [split]; simp)).2] at blocked
      cases blocked
    · have home := FileSystem.home?_of_guides
        (guides_of_noLinks (touches.trans touches') ready.unlinked noLinks) ready.home
      rw [home] at lost
      cases lost
  refine ⟨there, ?_⟩
  rw [writeFiles_eq]
  simp only [there, staged, installed, Bool.true_eq_false, if_false]

/-- A text is read back from its bytes. -/
theorem fromUTF8?_toUTF8 (s : String) : String.fromUTF8? s.toUTF8 = some s :=
  dif_pos s.isValidUTF8

namespace Written

variable {fs' : FileSystem}

/-- After files are written, no staging name shares a file. -/
theorem unlinked_staging (written : Written fs fs' directory h files) {name : String}
    (mem : name ∈ files.map Prod.fst) : fs'.Unlinked (stagingPlace h name) := by
  obtain ⟨file, listed, rfl⟩ := List.mem_map.1 mem
  exact FileSystem.unlinked_of_find?_eq_none
    (FileSystem.find?_eq_none_of_see? (written.installed file listed).gone)

/-- After files are written, there are no links in their places. -/
theorem noLinks (written : Written fs fs' directory h files) :
    NoLinks fs' h (files.map Prod.fst) := by
  intro name mem target link
  obtain ⟨file, listed, rfl⟩ := List.mem_map.1 mem
  have content := (written.installed file listed).content
  rw [FileSystem.see?_eq_link_iff.2 link] at content
  cases content

/-- **The same files can be written again**, as long as the directory can be reached and there is
room. -/
theorem again (written : Written fs fs' directory h files)
    (stageable : Stageable (files.map Prod.fst)) (nonempty : files ≠ [])
    (home : fs'.home? directory = some h) (affords : fs'.Affords (totalSize files)) :
    fs'.createDirectories directory = (fs', true) ∧
      ((writeFiles directory files : OnFileSystem _) fs').1 =
        some ((files.map Prod.fst).map directory.child) := by
  refine writeFiles_of_affords stageable nonempty ⟨home, fun name => written.unlinked_staging⟩
    written.fits (fun file mem => ⟨?_, ?_⟩) written.noLinks affords
  · rw [FileSystem.isDirectory_eq_false_iff,
      FileSystem.find?_eq_none_of_see? (written.installed file mem).gone]
    simp
  · exact FileSystem.not_isDirectory_of_see? (written.installed file mem).content

/-- **Writing the same files twice** shows no more than writing them once. -/
theorem see?_again {fs'' : FileSystem} (written : Written fs fs' directory h files)
    (again : Written fs' fs'' directory h files) (l : Location) : fs''.see? l = fs'.see? l := by
  by_cases placed : Placed h (files.map Prod.fst) l
  · obtain ⟨name, mem, eq⟩ := placed
    obtain ⟨file, listed, rfl⟩ := List.mem_map.1 mem
    have old := written.installed file listed
    have new := again.installed file listed
    rcases eq with rfl | rfl
    · rw [new.gone, old.gone]
    · rw [new.content, old.content]
  · exact again.touches.others l placed

/-- A file can be read under its path, as long as its directory can be reached. -/
theorem readText?_child (written : Written fs fs' directory h files)
    (stageable : Stageable (files.map Prod.fst)) (home : fs'.home? directory = some h)
    {file : String × String} (mem : file ∈ files) :
    fs'.readText? (directory.child file.1) = some file.2 := by
  have named : file.1 ∈ files.map Prod.fst := List.mem_map_of_mem mem
  have proper := stageable.proper file.1 named
  have slot : fs'.slot? (directory.child file.1) = some (place h file.1) :=
    (FileSystem.slot?_eq_some_iff proper).2
      ⟨fits_of_staging proper (written.fits file mem), h, home, rfl⟩
  have target : fs'.target? (directory.child file.1) = some (place h file.1) := by
    rw [FileSystem.target?_child proper fun h' home' => ?_, slot]
    obtain rfl := Option.some.inj (home.symm.trans home')
    exact written.noLinks file.1 named
  rw [FileSystem.readText?, target, Option.bind_some, (written.installed file mem).content]
  exact fromUTF8?_toUTF8 file.2

end Written

/-- **A second run** finds the directories and shows nothing new. -/
theorem writeFiles_again {paths : List Path} (nonempty : files ≠ [])
    (stageable : Stageable (files.map Prod.fst)) {fs' : FileSystem}
    (written : Written fs fs' directory h files) (home : fs'.home? directory = some h)
    (affords : fs'.Affords (totalSize files))
    (named : paths = (files.map Prod.fst).map directory.child) :
    ((writeFiles directory files : OnFileSystem _) fs').1 = some paths ∧
      ∀ l, ((writeFiles directory files : OnFileSystem _) fs').2.see? l = fs'.see? l := by
  obtain ⟨there, succeeded⟩ := written.again stageable nonempty home affords
  have unlinked : NoStagingLinks fs' directory (files.map Prod.fst) := by
    intro h' home' name mem
    rw [there] at home'
    obtain rfl := Option.some.inj (home.symm.trans home')
    exact written.unlinked_staging mem
  obtain ⟨-, h', home', written'⟩ := writeFiles_some nonempty stageable unlinked succeeded
  rw [there] at home' written'
  obtain rfl := Option.some.inj (home.symm.trans home')
  exact ⟨named ▸ succeeded, written.see?_again written'⟩

end WriteFiles

/-! ## Projects -/

/-- What a generation that succeeds leaves in a file system. -/
structure Generated (fs fs' : FileSystem) (directory : Path) (h : Location) (kind : OutputKind)
    (c : Compilation) : Prop where
  main : fs'.see? (place h kind.fileName) = some (.file (mainText c kind).toUTF8)
  support : fs'.see? (place h supportName) = some (.file c.supportSource.toUTF8)
  /-- Nothing stays staged, and nothing is left there that was there before. -/
  staging : ∀ name ∈ fileNames kind, fs'.see? (stagingPlace h name) = none
  /-- What was at other places is there as it was. -/
  others : ∀ l, ¬ Placed h (fileNames kind) l → ∀ s, fs.see? l = some s → fs'.see? l = some s
  /-- What is new at other places is a directory to which the path leads on its way. -/
  new : ∀ l, ¬ Placed h (fileNames kind) l → fs.see? l = none → ∀ s, fs'.see? l = some s →
    s = .directory ∧ ∃ begun, begun <+: directory.parts ∧
      (fs.createDirectories directory).1.reach? (FileSystem.origin fs.current directory) begun =
        some l
  /-- The directory can still be reached unless a file has replaced a link, and then its files are
  found under their paths. -/
  reached : NoLinks fs h (fileNames kind) → fs'.home? directory = some h
  readable : fs'.home? directory = some h →
    fs'.readText? (directory.child kind.fileName) = some (mainText c kind) ∧
      fs'.readText? (directory.child supportName) = some c.supportSource

/-- The room that a compilation needs. -/
theorem totalSize_files (c : Compilation) (kind : OutputKind) :
    totalSize (files c kind) =
      (mainText c kind).utf8ByteSize + c.supportSource.utf8ByteSize := by
  rw [files_eq]
  rfl

/-- Files that are written in the place of the directory are found under its path. -/
theorem generated_of_written {fs fs' : FileSystem} {directory : Path} {h : Location}
    {kind : OutputKind} {c : Compilation}
    (home : (fs.createDirectories directory).1.home? directory = some h)
    (unlinked : NoStagingLinks fs directory (fileNames kind))
    (written : Written (fs.createDirectories directory).1 fs' directory h (files c kind)) :
    Generated fs fs' directory h kind c := by
  have names := names_files c kind
  have stageable : Stageable ((files c kind).map Prod.fst) := names ▸ stageable_fileNames kind
  have created := fs.created_createDirectories directory
  have both : (kind.fileName, mainText c kind) ∈ files c kind ∧
      (supportName, c.supportSource) ∈ files c kind := by
    rw [files_eq]
    exact ⟨List.mem_cons_self, List.mem_cons_of_mem _ List.mem_cons_self⟩
  have elsewhere : ∀ l, ¬ Placed h (fileNames kind) l →
      fs'.see? l = (fs.createDirectories directory).1.see? l :=
    fun l free => written.touches.others l (names ▸ free)
  obtain ⟨main, -⟩ := written.installed _ both.1
  obtain ⟨support, -⟩ := written.installed _ both.2
  have readMain := fun there => written.readText?_child stageable there both.1
  have readSupport := fun there => written.readText?_child stageable there both.2
  refine ⟨main, support, fun name mem => ?_, fun l free s old => ?_, fun l free empty s new => ?_,
    fun noLinks => ?_, fun there => ⟨readMain there, readSupport there⟩⟩
  · obtain ⟨file, listed, rfl⟩ := List.mem_map.1 (names ▸ mem)
    exact (written.installed file listed).gone
  · rw [elsewhere l free]
    rcases created.others l with same | ⟨empty, -⟩
    · exact same.trans old
    · rw [empty] at old
      cases old
  · rw [elsewhere l free] at new
    rcases created.others l with same | ⟨-, isDirectory, begun, before, links, reached⟩
    · rw [same, empty] at new
      cases new
    · rw [isDirectory] at new
      refine ⟨(Option.some.inj new).symm, begun, before, ?_⟩
      rw [FileSystem.reach?, reached]
      rfl
  · have kept := (names ▸ noLinks : NoLinks fs h ((files c kind).map Prod.fst)).created created
    exact FileSystem.home?_of_guides (guides_of_noLinks written.touches
      (names ▸ (unlinked.ready home).unlinked) kept) home

/-- **A generation that succeeds** in a directory where no staging name is linked tells the paths of
its two files, which hold what has been rendered, and has changed nothing else but for directories
on the way that were missing.  If it is done again it succeeds again and shows nothing new, as long
as the directory can be reached and there is room for both files. -/
theorem generate_some {fs : FileSystem} {directory : Path} {c : Compilation} {kind : OutputKind}
    {paths : List Path} (unlinked : NoStagingLinks fs directory (fileNames kind))
    (succeeded : ((generate c directory kind : OnFileSystem _) fs).1 = some paths) :
    let fs' := ((generate c directory kind : OnFileSystem _) fs).2
    paths = [directory.child kind.fileName, directory.child supportName] ∧
      ∃ h, (fs.createDirectories directory).1.home? directory = some h ∧
        Generated fs fs' directory h kind c ∧
        (fs'.home? directory = some h →
          fs'.Affords ((mainText c kind).utf8ByteSize + c.supportSource.utf8ByteSize) →
          ((generate c directory kind : OnFileSystem _) fs').1 = some paths ∧
            ∀ l, ((generate c directory kind : OnFileSystem _) fs').2.see? l = fs'.see? l) := by
  have names := names_files c kind
  have stageable : Stageable ((files c kind).map Prod.fst) := names ▸ stageable_fileNames kind
  have nonempty : files c kind ≠ [] := by
    rw [files_eq]
    exact List.cons_ne_nil _ _
  rw [generate] at succeeded ⊢
  obtain ⟨named, h, home, written⟩ :=
    writeFiles_some nonempty stageable (names ▸ unlinked) succeeded
  refine ⟨named.trans (congrArg _ names), h, home, generated_of_written home unlinked written,
    fun there affords => ?_⟩
  exact writeFiles_again nonempty stageable written there (totalSize_files c kind ▸ affords) named

/-- An earlier descriptor that has another name, what a run that was stopped has left, and a file
that is none of ours.  The directory in use is known by a link. -/
def staleSystem : FileSystem where
  entries := [
    (["current"], .link (Path.ofText "srv/a")),
    (["notes"], .file 0),
    (["srv"], .directory),
    (["srv", "a"], .directory),
    (["srv", "a", "flogo.json"], .file 1),
    (["srv", "backup"], .file 1),
    (["srv", "a", ".support.go.tmp"], .file 2)]
  contents := [(0, "keep".toUTF8), (1, "earlier".toUTF8), (2, ⟨#[0xFF]⟩)]
  room := some 1000000

/-- A path to this directory that leads through one that is missing. -/
def stalePath : Path :=
  Path.ofText "new/../current"

theorem generate_staleSystem :
    let run := (generate emptyCompilation stalePath .descriptor : OnFileSystem _) staleSystem
    run.1 = some [stalePath.child "flogo.json", stalePath.child "support.go"] ∧
      run.2.home? stalePath = some ["srv", "a"] ∧
      run.2.Affords ((mainText emptyCompilation .descriptor).utf8ByteSize +
        emptyCompilation.supportSource.utf8ByteSize) := by
  decide +kernel

/-- Into a directory known by a link, with an earlier descriptor, what a stopped run has left, and a
file that is none of ours. -/
theorem staleSystem_generated :
    NoStagingLinks staleSystem stalePath (fileNames .descriptor) ∧
      let run := (generate emptyCompilation stalePath .descriptor : OnFileSystem _) staleSystem
      run.1 = some [stalePath.child "flogo.json", stalePath.child "support.go"] ∧
        Generated staleSystem run.2 stalePath ["srv", "a"] .descriptor emptyCompilation ∧
        ((generate emptyCompilation stalePath .descriptor : OnFileSystem _) run.2).1 =
          some [stalePath.child "flogo.json", stalePath.child "support.go"] ∧
        ∀ l, ((generate emptyCompilation stalePath .descriptor : OnFileSystem _) run.2).2.see? l =
          run.2.see? l := by
  have there : (staleSystem.createDirectories stalePath).1.home? stalePath =
      some ["srv", "a"] := by decide +kernel
  have unlinked : NoStagingLinks staleSystem stalePath (fileNames .descriptor) := by
    intro h home name mem
    obtain rfl := Option.some.inj (there.symm.trans home)
    have all : ∀ name ∈ fileNames .descriptor,
        staleSystem.isUnlinked (stagingPlace ["srv", "a"] name) = true := by decide +kernel
    exact FileSystem.unlinked_of_isUnlinked (all name mem)
  obtain ⟨succeeded, reached, affords⟩ := generate_staleSystem
  obtain ⟨-, h, home, generated, again⟩ := generate_some unlinked succeeded
  obtain rfl := Option.some.inj (there.symm.trans home)
  exact ⟨unlinked, succeeded, generated, again reached affords⟩

/-! ### Runs that change other places -/

/-- The descriptor is going to be staged through a link to a file that is none of ours. -/
def linkedSystem : FileSystem where
  entries := [(["notes"], .file 0), ([".flogo.json.tmp"], .link (Path.ofText "notes"))]
  contents := [(0, "keep".toUTF8)]

/-- What is written through a link changes the file that the link leads to. -/
theorem generate_linkedSystem :
    let run := (generate emptyCompilation (Path.ofText "") .descriptor : OnFileSystem _)
      linkedSystem
    run.1.isSome = true ∧
      (linkedSystem.createDirectories (Path.ofText "")).1.home? (Path.ofText "") = some [] ∧
      ¬ Placed [] (fileNames .descriptor) ["notes"] ∧
      linkedSystem.see? ["notes"] = some (.file "keep".toUTF8) ∧
      run.2.see? ["notes"] ≠ some (.file "keep".toUTF8) := by
  decide +kernel

/-- A directory through which a path only passes is created as well. -/
theorem generate_detour :
    let detour := Path.ofText "new/../out"
    let run := (generate emptyCompilation detour .descriptor : OnFileSystem _) {}
    run.1.isSome = true ∧
      (({} : FileSystem).createDirectories detour).1.home? detour = some ["out"] ∧
      ¬ Placed ["out"] (fileNames .descriptor) ["new"] ∧
      ({} : FileSystem).see? ["new"] = none ∧ run.2.see? ["new"] ≠ none ∧
      ¬ ["new"] <+: ["out"] := by
  decide +kernel

/-- The support code takes the place of a link that the path of the directory goes through. -/
theorem generate_cutOff :
    let path := Path.ofText "support.go/.."
    let run := (generate emptyCompilation path .descriptor : OnFileSystem _)
      { entries := [(["support.go"], .link (Path.ofText "parts")), (["parts"], .directory)] }
    run.1.isSome = true ∧
      ((generate emptyCompilation path .descriptor : OnFileSystem _) run.2).1.isSome = false := by
  decide +kernel

/-- A device has just enough room for one run. -/
theorem generate_cramped :
    let run := (generate emptyCompilation (Path.ofText "") .descriptor : OnFileSystem _)
      { room := some (totalSize (files emptyCompilation .descriptor)) }
    run.1.isSome = true ∧
      ((generate emptyCompilation (Path.ofText "") .descriptor : OnFileSystem _)
        run.2).1.isSome = false := by
  decide +kernel

/-- **A generation that succeeds may change other places**, and it need not succeed again.  It does
not keep all files that are none of its own; it does not create only its directory and those around
it; it may lose the way to its directory even if there is room, and it may run out of room even if
there are no links. -/
theorem not_every_generation_leaves_the_rest :
    (¬ ∀ (c : Compilation) (directory : Path) (kind : OutputKind) (fs : FileSystem) (h l : Location)
        (s : Sight), ((generate c directory kind : OnFileSystem _) fs).1.isSome = true →
      (fs.createDirectories directory).1.home? directory = some h →
      ¬ Placed h (fileNames kind) l → fs.see? l = some s →
      ((generate c directory kind : OnFileSystem _) fs).2.see? l = some s) ∧
    (¬ ∀ (c : Compilation) (directory : Path) (kind : OutputKind) (fs : FileSystem)
        (h l : Location), ((generate c directory kind : OnFileSystem _) fs).1.isSome = true →
      (fs.createDirectories directory).1.home? directory = some h →
      ¬ Placed h (fileNames kind) l → fs.see? l = none →
      ((generate c directory kind : OnFileSystem _) fs).2.see? l ≠ none → l <+: h) ∧
    (¬ ∀ (c : Compilation) (directory : Path) (kind : OutputKind) (fs : FileSystem),
      fs.room = none → ((generate c directory kind : OnFileSystem _) fs).1.isSome = true →
      ((generate c directory kind : OnFileSystem _)
        ((generate c directory kind : OnFileSystem _) fs).2).1.isSome = true) ∧
    ¬ ∀ (c : Compilation) (directory : Path) (kind : OutputKind) (fs : FileSystem),
      fs.entries = [] → ((generate c directory kind : OnFileSystem _) fs).1.isSome = true →
      ((generate c directory kind : OnFileSystem _)
        ((generate c directory kind : OnFileSystem _) fs).2).1.isSome = true := by
  refine ⟨fun all => ?_, fun all => ?_, fun all => ?_, fun all => ?_⟩
  · obtain ⟨succeeded, home, elsewhere, old, changed⟩ := generate_linkedSystem
    exact changed (all _ _ _ _ _ _ _ succeeded home elsewhere old)
  · obtain ⟨succeeded, home, elsewhere, empty, new, outside⟩ := generate_detour
    exact outside (all _ _ _ _ _ _ succeeded home elsewhere empty new)
  · obtain ⟨succeeded, fails⟩ := generate_cutOff
    exact Bool.eq_false_iff.1 fails (all _ _ _ _ rfl succeeded)
  · obtain ⟨succeeded, fails⟩ := generate_cramped
    exact Bool.eq_false_iff.1 fails (all _ _ _ _ rfl succeeded)

end Project

end EventGateway
