import EventGateway.Project.Output
import EventGateway.Proofs.FileChanges

/-!
# Staging files and installing them

Files are first written under staging names and then renamed one by one.  Both steps are looked at
from the place where the directory of the files is (`Ready`): there every file has two places of its
own, and no staging name is linked, so that what is written under it shows nowhere else.

While files are staged, a failure takes everything back, but for a part of a text for which there
was no room (`stageAll_false`).  Once renaming has begun it takes back only what has not been
renamed, and only if the directory can still be reached (`installAll_false`): a file may take the
place of a link on the way to the directory.

## Main statements

* `stageAll_true`, `stageAll_false` — what staging leaves.
* `installAll_true`, `installAll_false` — what installing leaves.
-/

namespace EventGateway

open FileSystem (Proper Fits Touches Wrote Renamed slot?_child slot?_eq_some_iff)

namespace Project

/-! ## Names -/

/-- A staging name is proper, whatever name it is made from. -/
theorem proper_stagingName (name : String) : Proper (stagingName name) := by
  have letters : (stagingName name).toList = '.' :: (name.toList ++ ['.', 't', 'm', 'p']) := by
    simp [stagingName]
  refine ⟨fun eq => ?_, fun eq => ?_, fun eq => ?_⟩ <;> rw [eq] at letters
  · cases letters
  · simp at letters
  · have long := congrArg List.length letters
    simp at long

/-- A staging name tells the name of its file. -/
theorem stagingName_injective {name name' : String} (h : stagingName name = stagingName name') :
    name = name' := by
  have dotted : "." ++ name = "." ++ name' := (String.append_left_inj ".tmp").1 h
  exact (String.append_right_inj ".").1 dotted

/-- Names of files that can be staged beside each other. -/
structure Stageable (names : List String) : Prop where
  proper : ∀ name ∈ names, Proper name
  nodup : names.Nodup
  apart : ∀ name ∈ names, ∀ name' ∈ names, stagingName name ≠ name'

/-- Fewer files can be staged if more can. -/
theorem Stageable.tail {name : String} {names : List String} (h : Stageable (name :: names)) :
    Stageable names :=
  ⟨fun _ mem => h.proper _ (List.mem_cons_of_mem _ mem), h.nodup.of_cons,
    fun _ mem _ mem' => h.apart _ (List.mem_cons_of_mem _ mem) _ (List.mem_cons_of_mem _ mem')⟩

/-- A file that can be staged fits under its own name, too. -/
theorem fits_of_staging {directory : Path} {name : String} (proper : Proper name)
    (fits : Fits directory (stagingName name)) : Fits directory name := by
  refine fits.shorter proper.1 ?_ fun c mem => ?_
  · simp only [stagingName, String.utf8ByteSize_append]
    omega
  · simp [stagingName, mem]

/-! ## Places -/

/-- The place of a file in a directory. -/
def place (h : Location) (name : String) : Location :=
  h ++ [name]

/-- The place where a file of a directory is staged. -/
def stagingPlace (h : Location) (name : String) : Location :=
  h ++ [stagingName name]

section

variable {h : Location} {name name' : String}

theorem stagingPlace_inj : stagingPlace h name = stagingPlace h name' ↔ name = name' := by
  constructor
  · intro eq
    exact stagingName_injective (List.singleton_inj.1 (List.append_cancel_left eq))
  · rintro rfl
    rfl

theorem place_inj : place h name = place h name' ↔ name = name' := by
  constructor
  · intro eq
    exact List.singleton_inj.1 (List.append_cancel_left eq)
  · rintro rfl
    rfl

/-- No file is staged in the place of another. -/
theorem stagingPlace_ne_place (apart : stagingName name ≠ name') :
    stagingPlace h name ≠ place h name' :=
  fun eq => apart (List.singleton_inj.1 (List.append_cancel_left eq))

end

/-- A place where one of some files is staged. -/
def Staging (h : Location) (names : List String) (l : Location) : Prop :=
  ∃ name ∈ names, l = stagingPlace h name

/-- A place of one of some files, under its own name or while it is staged. -/
def Placed (h : Location) (names : List String) (l : Location) : Prop :=
  ∃ name ∈ names, l = stagingPlace h name ∨ l = place h name

instance (h : Location) (names : List String) (l : Location) : Decidable (Placed h names l) :=
  inferInstanceAs (Decidable (∃ name ∈ names, _))

theorem Staging.placed {h l : Location} {names : List String} (staging : Staging h names l) :
    Placed h names l := by
  obtain ⟨name, mem, eq⟩ := staging
  exact ⟨name, mem, .inl eq⟩

/-- No place of a file is one where files are staged. -/
theorem not_staging_place {h : Location} {names : List String} (stageable : Stageable names)
    {name : String} (mem : name ∈ names) : ¬ Staging h names (place h name) := by
  rintro ⟨name', mem', eq⟩
  exact stagingPlace_ne_place (stageable.apart name' mem' name mem) eq.symm

/-- A staging place of some files is one of more files. -/
theorem Staging.mono {h l : Location} {names names' : List String} (staging : Staging h names l)
    (subset : ∀ name ∈ names, name ∈ names') : Staging h names' l := by
  obtain ⟨name, mem, eq⟩ := staging
  exact ⟨name, subset name mem, eq⟩

/-- The directory of the files is at a place, and no staging name is linked. -/
structure Ready (fs : FileSystem) (directory : Path) (h : Location) (names : List String) :
    Prop where
  home : fs.home? directory = some h
  unlinked : ∀ name ∈ names, fs.Unlinked (stagingPlace h name)

section

variable {fs fs' : FileSystem} {directory : Path} {h : Location} {name : String}
  {names names' : List String}

/-- A directory that is ready for files is ready for fewer. -/
theorem Ready.mono (ready : Ready fs directory h names)
    (subset : ∀ name ∈ names', name ∈ names) : Ready fs directory h names' :=
  ⟨ready.home, fun name mem => ready.unlinked name (subset name mem)⟩

/-- As long as only staging places are touched, everything stays ready. -/
theorem Ready.touched (ready : Ready fs directory h names)
    (touches : Touches fs fs' (Staging h names)) : Ready fs' directory h names := by
  refine ⟨FileSystem.home?_of_guides (touches.guides_of_noLink ?_) ready.home,
    fun name mem => touches.unlinked _ (ready.unlinked name mem)⟩
  rintro l ⟨name, mem, rfl⟩
  exact (ready.unlinked name mem).noLink

/-- A file is staged whole. -/
def IsStaged (fs : FileSystem) (h : Location) (file : String × String) : Prop :=
  fs.see? (stagingPlace h file.1) = some (.file file.2.toUTF8)

/-- A staged file is found under its staging name. -/
theorem IsStaged.file?_eq {file : String × String} (staged : IsStaged fs h file) :
    fs.file? (stagingPlace h file.1) = some (.file file.2.toUTF8) :=
  FileSystem.file?_eq_file staged

end

/-! ## Equations -/

section Equations

variable (directory : Path) (fs : FileSystem)

/-- Staging files are removed one by one. -/
theorem discard_cons (name : String) (names : List String) :
    (discard directory (name :: names) : OnFileSystem Unit) fs =
      (discard directory names : OnFileSystem Unit)
        (fs.remove (directory.child (stagingName name))) := rfl

/-- One file is staged and then the others; if it is not, all are taken back. -/
theorem stageAll_cons (staged : List String) (name content : String)
    (files : List (String × String)) :
    (stageAll directory staged ((name, content) :: files) : OnFileSystem Bool) fs =
      if (fs.write (directory.child (stagingName name)) content).2 then
        (stageAll directory (staged ++ [name]) files : OnFileSystem Bool)
          (fs.write (directory.child (stagingName name)) content).1
      else
        (false, ((discard directory staged : OnFileSystem Unit)
          (fs.write (directory.child (stagingName name)) content).1).2) := by
  simp only [stageAll, bind, StateT.bind, FileStore.write]
  rcases fs.write (directory.child (stagingName name)) content with ⟨fs', written⟩
  cases written <;> rfl

/-- One file is renamed and then the others; if it is not, what is left is taken back. -/
theorem installAll_cons (name : String) (names : List String) :
    (installAll directory (name :: names) : OnFileSystem Bool) fs =
      if (fs.rename (directory.child (stagingName name)) (directory.child name)).2 then
        (installAll directory names : OnFileSystem Bool)
          (fs.rename (directory.child (stagingName name)) (directory.child name)).1
      else
        (false, ((discard directory (name :: names) : OnFileSystem Unit)
          (fs.rename (directory.child (stagingName name)) (directory.child name)).1).2) := by
  simp only [installAll, bind, StateT.bind, FileStore.rename]
  rcases fs.rename (directory.child (stagingName name)) (directory.child name) with ⟨fs', renamed⟩
  cases renamed <;> rfl

end Equations

/-! ## Discarding -/

section Discard

variable {fs : FileSystem} {directory : Path} {h : Location} {names : List String}

/-- **Discarding takes away what is staged** and nothing else. -/
theorem discard_spec (ready : Ready fs directory h names)
    (fits : ∀ name ∈ names, Fits directory (stagingName name))
    (free : ∀ name ∈ names, fs.isDirectory (stagingPlace h name) = false) :
    let fs' := ((discard directory names : OnFileSystem Unit) fs).2
    Touches fs fs' (Staging h names) ∧ fs'.room = fs.room ∧
      ∀ name ∈ names, fs'.see? (stagingPlace h name) = none := by
  induction names generalizing fs with
  | nil => exact ⟨.refl fs _, rfl, fun _ mem => absurd mem List.not_mem_nil⟩
  | cons name names ih =>
    obtain ⟨fitsHere, fitsRest⟩ := List.forall_mem_cons.1 fits
    obtain ⟨freeHere, freeRest⟩ := List.forall_mem_cons.1 free
    have slot := (slot?_eq_some_iff (proper_stagingName name)).2 ⟨fitsHere, h, ready.home, rfl⟩
    rw [discard_cons]
    rcases FileSystem.remove_cases slot with ⟨directory, -⟩ | ⟨-, gone, room, removed⟩
    · cases freeHere.symm.trans directory
    have touches : Touches fs (fs.remove (directory.child (stagingName name)))
        (Staging h (name :: names)) :=
      removed.mono fun l eq => ⟨name, List.mem_cons_self, eq⟩
    have rest := (ready.touched touches).mono fun _ mem => List.mem_cons_of_mem name mem
    obtain ⟨touches', room', goneRest⟩ :=
      ih rest fitsRest fun name mem => (touches.directories _).trans (freeRest name mem)
    refine ⟨touches.trans (touches'.mono fun l staging => staging.mono fun _ mem =>
      List.mem_cons_of_mem name mem), room'.trans room, List.forall_mem_cons.2 ⟨?_, goneRest⟩⟩
    -- What has been removed stays removed.
    by_cases staging : Staging h names (stagingPlace h name)
    · obtain ⟨name', mem, eq⟩ := staging
      rw [eq]
      exact goneRest name' mem
    · exact (touches'.others _ staging).trans gone

/-- From a directory that cannot be reached nothing is discarded. -/
theorem discard_of_lost (lost : fs.home? directory = none) (names : List String) :
    ((discard directory names : OnFileSystem Unit) fs).2 = fs := by
  induction names with
  | nil => rfl
  | cons name names ih =>
    have slot : fs.slot? (directory.child (stagingName name)) = none := by
      rw [slot?_child (proper_stagingName name), lost]
      split_ifs <;> rfl
    rw [discard_cons, FileSystem.remove_of_slot?_eq_none slot, ih]

end Discard

/-! ## Staging -/

section Stage

variable {fs fs' : FileSystem} {directory : Path} {h : Location} {name : String}
  {names staged : List String} {files : List (String × String)}

/-- What a staging name leads to is at its own place. -/
theorem target?_staging (ready : Ready fs directory h names) (mem : name ∈ names) :
    fs.target? (directory.child (stagingName name)) =
      fs.slot? (directory.child (stagingName name)) := by
  refine FileSystem.target?_child (proper_stagingName name) fun h' home => ?_
  obtain rfl := Option.some.inj (ready.home.symm.trans home)
  exact (ready.unlinked name mem).noLink

/-- **One file** is refused, or it is written at its staging place. -/
theorem write_staging (ready : Ready fs directory h names) (mem : name ∈ names) (content : String) :
    let written := fs.write (directory.child (stagingName name)) content
    written = (fs, false) ∨
      Fits directory (stagingName name) ∧ fs.isDirectory (stagingPlace h name) = false ∧
        Wrote fs written.1 (stagingPlace h name) content written.2 := by
  have target := target?_staging ready mem
  cases slot : fs.slot? (directory.child (stagingName name)) with
  | none =>
    rw [slot] at target
    exact .inl (by rw [FileSystem.write, target])
  | some l =>
    rw [slot] at target
    obtain ⟨fits, h', home, rfl⟩ := (slot?_eq_some_iff (proper_stagingName name)).1 slot
    obtain rfl := Option.some.inj (ready.home.symm.trans home)
    rcases FileSystem.write_cases fs content target (ready.unlinked name mem) with
      ⟨-, refused⟩ | ⟨free, wrote⟩
    · exact .inl refused
    · exact .inr ⟨fits, free, wrote⟩

/-- What is left where a file was to be staged: nothing, what was there, or the part of the text for
which there was room. -/
def Leftover (fs fs' : FileSystem) (h : Location) (file : String × String) : Prop :=
  fs'.file? (stagingPlace h file.1) = none ∨
    fs'.file? (stagingPlace h file.1) = fs.file? (stagingPlace h file.1) ∨
    fs'.room = some 0 ∧ ∃ size < file.2.utf8ByteSize,
      fs'.file? (stagingPlace h file.1) = some (.file (file.2.toUTF8.extract 0 size))

/-- A file that is not staged yet has a staging place of its own. -/
theorem not_staging_behind (nodup : (staged ++ files.map Prod.fst).Nodup)
    {file : String × String} (mem : file ∈ files) :
    ¬ Staging h staged (stagingPlace h file.1) := by
  rintro ⟨name', mem', eq⟩
  rw [stagingPlace_inj] at eq
  exact (List.nodup_append.1 nodup).2.2 name' mem' file.1 (List.mem_map_of_mem mem) eq.symm

/-- Staging one file does not touch those behind it. -/
theorem see?_behind {content : String} {complete : Bool}
    (wrote : Wrote fs fs' (stagingPlace h name) content complete)
    (new : name ∉ files.map Prod.fst) {file : String × String} (mem : file ∈ files) :
    fs'.see? (stagingPlace h file.1) = fs.see? (stagingPlace h file.1) := by
  refine wrote.touches.others _ fun eq => new ?_
  rw [← stagingPlace_inj.1 eq]
  exact List.mem_map_of_mem mem

/-- **A failure to stage takes back** what has been staged before. -/
theorem stageAll_false (nodup : (staged ++ files.map Prod.fst).Nodup)
    (ready : Ready fs directory h (staged ++ files.map Prod.fst))
    (fits : ∀ name ∈ staged, Fits directory (stagingName name))
    (free : ∀ name ∈ staged, fs.isDirectory (stagingPlace h name) = false)
    (failed : ((stageAll directory staged files : OnFileSystem Bool) fs).1 = false) :
    let fs' := ((stageAll directory staged files : OnFileSystem Bool) fs).2
    Touches fs fs' (Staging h (staged ++ files.map Prod.fst)) ∧
      (∀ name ∈ staged, fs'.see? (stagingPlace h name) = none) ∧
      ∀ file ∈ files, Leftover fs fs' h file := by
  induction files generalizing fs staged with
  | nil => cases failed
  | cons file files ih =>
    obtain ⟨name, content⟩ := file
    have among : ∀ l, Staging h staged l → Staging h (staged ++ name :: files.map Prod.fst) l :=
      fun l staging => staging.mono fun _ => List.mem_append_left _
    have here : name ∈ staged ++ name :: files.map Prod.fst := by simp
    have notStaged : ∀ file ∈ (name, content) :: files,
        ¬ Staging h staged (stagingPlace h file.1) := fun file => not_staging_behind nodup
    rw [List.map_cons] at ready nodup ⊢
    rw [stageAll_cons] at failed ⊢
    rcases write_staging ready here content with refused | ⟨fitsHere, freeHere, wrote⟩
    · rw [refused]
      obtain ⟨touches, -, gone⟩ :=
        discard_spec (ready.mono fun _ => List.mem_append_left _) fits free
      refine ⟨touches.mono among, gone, fun file mem => .inr (.inl ?_)⟩
      exact FileSystem.file?_congr (touches.others _ (notStaged file mem))
    · have touches : Touches fs (fs.write (directory.child (stagingName name)) content).1
          (Staging h (staged ++ name :: files.map Prod.fst)) :=
        wrote.touches.mono fun l eq => ⟨name, here, eq⟩
      have ready' := ready.touched touches
      have free' : ∀ name' ∈ staged, (fs.write (directory.child (stagingName name))
          content).1.isDirectory (stagingPlace h name') = false :=
        fun name' mem => (touches.directories _).trans (free name' mem)
      have new : name ∉ files.map Prod.fst :=
        (List.nodup_cons.1 (List.nodup_append.1 nodup).2.1).1
      cases complete : (fs.write (directory.child (stagingName name)) content).2 with
      | false =>
        -- The part that has been written is not among what is taken back.
        rw [if_neg Bool.false_ne_true]
        obtain ⟨empty, size, less, part⟩ := wrote.partly complete
        obtain ⟨touches', room, gone⟩ :=
          discard_spec (ready'.mono fun _ => List.mem_append_left _) fits free'
        refine ⟨touches.trans (touches'.mono among), gone, List.forall_mem_cons.2
          ⟨.inr (.inr ⟨room.trans empty, size, less, ?_⟩), fun file mem => .inr (.inl ?_)⟩⟩
        · have same := touches'.others _ (notStaged _ List.mem_cons_self)
          exact FileSystem.file?_eq_file (same.trans part)
        · have same := touches'.others _ (notStaged file (List.mem_cons_of_mem _ mem))
          exact FileSystem.file?_congr (same.trans (see?_behind wrote new mem))
      | true =>
        rw [complete, if_pos rfl] at failed
        rw [if_pos rfl]
        -- The file has joined those that have been staged, so a failure later on takes it back.
        have split : staged ++ [name] ++ files.map Prod.fst =
            staged ++ name :: files.map Prod.fst := by simp
        obtain ⟨touches', gone, left⟩ := ih (split ▸ nodup) (split ▸ ready')
          (List.forall_mem_append.2 ⟨fits, by simpa using fitsHere⟩)
          (List.forall_mem_append.2 ⟨free', by simpa using (touches.directories _).trans freeHere⟩)
          failed
        obtain ⟨goneBefore, goneHere⟩ := List.forall_mem_append.1 gone
        refine ⟨touches.trans (split ▸ touches'), goneBefore, List.forall_mem_cons.2
          ⟨.inl (FileSystem.file?_eq_none (goneHere name List.mem_cons_self)), fun file mem => ?_⟩⟩
        exact (left file mem).imp_right (Or.imp_left fun same =>
          same.trans (FileSystem.file?_congr (see?_behind wrote new mem)))

/-- **Files that have been staged** are at their staging places, and nothing else has changed. -/
theorem stageAll_true (nodup : (files.map Prod.fst).Nodup)
    (ready : Ready fs directory h (files.map Prod.fst))
    (done : ((stageAll directory staged files : OnFileSystem Bool) fs).1 = true) :
    let fs' := ((stageAll directory staged files : OnFileSystem Bool) fs).2
    Touches fs fs' (Staging h (files.map Prod.fst)) ∧
      ∀ file ∈ files, Fits directory (stagingName file.1) ∧ IsStaged fs' h file := by
  induction files generalizing fs staged with
  | nil => exact ⟨.refl fs _, fun _ mem => absurd mem List.not_mem_nil⟩
  | cons file files ih =>
    obtain ⟨name, content⟩ := file
    obtain ⟨new, nodup⟩ := List.nodup_cons.1 nodup
    rw [List.map_cons] at ready ⊢
    rw [stageAll_cons] at done ⊢
    rcases write_staging ready List.mem_cons_self content with refused | ⟨fits, -, wrote⟩
    · rw [refused] at done
      cases done
    cases complete : (fs.write (directory.child (stagingName name)) content).2 with
    | false =>
      rw [complete] at done
      cases done
    | true =>
      rw [complete, if_pos rfl] at done
      rw [if_pos rfl]
      have touches : Touches fs (fs.write (directory.child (stagingName name)) content).1
          (Staging h (name :: files.map Prod.fst)) :=
        wrote.touches.mono fun l eq => ⟨name, List.mem_cons_self, eq⟩
      have rest := (ready.touched touches).mono fun _ mem => List.mem_cons_of_mem name mem
      obtain ⟨touches', isStaged⟩ := ih nodup rest done
      refine ⟨touches.trans (touches'.mono fun l staging => staging.mono fun _ mem =>
        List.mem_cons_of_mem name mem), List.forall_mem_cons.2 ⟨⟨fits, ?_⟩, isStaged⟩⟩
      refine (touches'.others _ ?_).trans (wrote.content complete)
      rintro ⟨name', mem, eq⟩
      rw [stagingPlace_inj] at eq
      exact new (eq ▸ mem)

/-- How many bytes files have. -/
def totalSize (files : List (String × String)) : Nat :=
  files.foldr (fun file size => file.2.utf8ByteSize + size) 0

/-- **Files are staged** if they fit, if no directory is in the way, and if there is room. -/
theorem stageAll_of_affords (ready : Ready fs directory h (files.map Prod.fst))
    (fits : ∀ file ∈ files, Fits directory (stagingName file.1))
    (free : ∀ file ∈ files, fs.isDirectory (stagingPlace h file.1) = false)
    (affords : fs.Affords (totalSize files)) :
    ((stageAll directory staged files : OnFileSystem Bool) fs).1 = true := by
  induction files generalizing fs staged with
  | nil => rfl
  | cons file files ih =>
    obtain ⟨name, content⟩ := file
    obtain ⟨fitsHere, fitsRest⟩ := List.forall_mem_cons.1 fits
    obtain ⟨freeHere, freeRest⟩ := List.forall_mem_cons.1 free
    have mem : name ∈ ((name, content) :: files).map Prod.fst := List.mem_cons_self
    have target : fs.target? (directory.child (stagingName name)) = some (stagingPlace h name) :=
      (target?_staging ready mem).trans
        ((slot?_eq_some_iff (proper_stagingName name)).2 ⟨fitsHere, h, ready.home, rfl⟩)
    rw [totalSize, List.foldr_cons, ← totalSize] at affords
    obtain ⟨complete, left⟩ :=
      fs.write_of_affords target (ready.unlinked name mem) freeHere affords
    rw [stageAll_cons, if_pos complete]
    rcases write_staging ready mem content with refused | ⟨-, -, wrote⟩
    · rw [refused] at complete
      cases complete
    have touches : Touches fs (fs.write (directory.child (stagingName name)) content).1
        (Staging h (((name, content) :: files).map Prod.fst)) :=
      wrote.touches.mono fun l eq => ⟨name, mem, eq⟩
    exact ih ((ready.touched touches).mono fun _ mem => List.mem_cons_of_mem name mem) fitsRest
      (fun file mem => (touches.directories _).trans (freeRest file mem)) left

end Stage

/-! ## Installing -/

section Install

variable {fs fs' : FileSystem} {directory : Path} {h : Location} {name : String}
  {files : List (String × String)}

/-- A file is at its place and staged no more. -/
structure Installed (fs : FileSystem) (h : Location) (file : String × String) : Prop where
  content : fs.see? (place h file.1) = some (.file file.2.toUTF8)
  gone : fs.see? (stagingPlace h file.1) = none

/-- Nothing is installed in a directory that cannot be reached. -/
theorem installAll_of_lost (lost : fs.home? directory = none) (names : List String) :
    (installAll directory (name :: names) : OnFileSystem Bool) fs = (false, fs) := by
  have slot : fs.slot? (directory.child (stagingName name)) = none := by
    rw [slot?_child (proper_stagingName name), lost]
    split_ifs <;> rfl
  rw [installAll_cons, FileSystem.rename_of_slot?_eq_none slot, if_neg Bool.false_ne_true,
    discard_of_lost lost]

/-- What files can be renamed from: they are staged in a directory that can be reached. -/
structure Installable (fs : FileSystem) (directory : Path) (h : Location)
    (files : List (String × String)) : Prop where
  stageable : Stageable (files.map Prod.fst)
  ready : Ready fs directory h (files.map Prod.fst)
  fits : ∀ file ∈ files, Fits directory (stagingName file.1)
  staged : ∀ file ∈ files, IsStaged fs h file

namespace Installable

variable {file : String × String}

/-- **One file** finds a directory in its place, or it is renamed. -/
theorem rename_cases (able : Installable fs directory h (file :: files)) :
    let renamed := fs.rename (directory.child (stagingName file.1)) (directory.child file.1)
    fs.isDirectory (place h file.1) = true ∧ renamed = (fs, false) ∨
      fs.isDirectory (place h file.1) = false ∧ renamed.2 = true ∧
        Renamed fs renamed.1 (stagingPlace h file.1) (place h file.1) file.2.toUTF8 := by
  have mem : file.1 ∈ (file :: files).map Prod.fst := List.mem_cons_self
  have fits := able.fits file List.mem_cons_self
  have proper := able.stageable.proper file.1 mem
  refine FileSystem.rename_cases
    ((slot?_eq_some_iff (proper_stagingName file.1)).2 ⟨fits, h, able.ready.home, rfl⟩)
    ((slot?_eq_some_iff proper).2 ⟨fits_of_staging proper fits, h, able.ready.home, rfl⟩)
    (stagingPlace_ne_place (able.stageable.apart file.1 mem file.1 mem))
    (able.ready.unlinked file.1 mem) (able.staged file List.mem_cons_self)

/-- The places of the files behind the first one are none of its own. -/
theorem others (able : Installable fs directory h (file :: files)) {file' : String × String}
    (mem' : file' ∈ files) :
    ¬ (stagingPlace h file'.1 = stagingPlace h file.1 ∨ stagingPlace h file'.1 = place h file.1) ∧
      ¬ (place h file'.1 = stagingPlace h file.1 ∨ place h file'.1 = place h file.1) := by
  have listed : file'.1 ∈ files.map Prod.fst := List.mem_map_of_mem mem'
  have ne : file'.1 ≠ file.1 := fun eq =>
    (List.nodup_cons.1 able.stageable.nodup).1 (eq ▸ listed)
  have apart := able.stageable.apart file'.1 (List.mem_cons_of_mem _ listed) file.1
    List.mem_cons_self
  have apart' := able.stageable.apart file.1 List.mem_cons_self file'.1
    (List.mem_cons_of_mem _ listed)
  refine ⟨not_or.2 ⟨fun eq => ne (stagingPlace_inj.1 eq), stagingPlace_ne_place apart⟩,
    not_or.2 ⟨fun eq => stagingPlace_ne_place apart' eq.symm, fun eq => ne (place_inj.1 eq)⟩⟩

/-- After a file was renamed the others can be, unless the directory is lost. -/
theorem rest (able : Installable fs directory h (file :: files))
    (renamed : Renamed fs fs' (stagingPlace h file.1) (place h file.1) file.2.toUTF8)
    (home : fs'.home? directory = some h) : Installable fs' directory h files := by
  refine ⟨able.stageable.tail, ⟨home, fun name mem => ?_⟩,
    fun file' mem => able.fits file' (List.mem_cons_of_mem _ mem), fun file' mem => ?_⟩
  · exact renamed.touches.unlinked _ (able.ready.unlinked name (List.mem_cons_of_mem _ mem))
  · exact (renamed.touches.others _ (able.others mem).1).trans
      (able.staged file' (List.mem_cons_of_mem _ mem))

end Installable

/-- Renaming a file touches its two places. -/
theorem placed_of_renamed {file : String × String} {l : Location}
    (touched : l = stagingPlace h file.1 ∨ l = place h file.1) (files : List (String × String)) :
    Placed h ((file :: files).map Prod.fst) l :=
  ⟨file.1, List.mem_cons_self, touched⟩

/-- A place of some files is one of more files. -/
theorem placed_cons {file : String × String} {l : Location}
    (placed : Placed h (files.map Prod.fst) l) : Placed h ((file :: files).map Prod.fst) l := by
  obtain ⟨name, mem, eq⟩ := placed
  exact ⟨name, List.mem_cons_of_mem _ mem, eq⟩

/-- A file stays installed while others are. -/
theorem installed_of_touches {file : String × String}
    (able : Installable fs directory h (file :: files)) {fs₁ : FileSystem}
    (renamed : Renamed fs fs₁ (stagingPlace h file.1) (place h file.1) file.2.toUTF8)
    (touches : Touches fs₁ fs' (Placed h (files.map Prod.fst))) : Installed fs' h file := by
  have apart : ∀ l, (l = stagingPlace h file.1 ∨ l = place h file.1) →
      ¬ Placed h (files.map Prod.fst) l := by
    rintro l own ⟨name, mem, eq⟩
    obtain ⟨file', mem', rfl⟩ := List.mem_map.1 mem
    obtain ⟨staging, target⟩ := able.others mem'
    rcases eq with rfl | rfl
    · exact staging own
    · exact target own
  exact ⟨(touches.others _ (apart _ (.inr rfl))).trans renamed.content,
    (touches.others _ (apart _ (.inl rfl))).trans renamed.gone⟩

/-- **What installing leaves**: the files at their places, and all that was at other places. -/
theorem installAll_true (able : Installable fs directory h files)
    (done : ((installAll directory (files.map Prod.fst) : OnFileSystem Bool) fs).1 = true) :
    let fs' := ((installAll directory (files.map Prod.fst) : OnFileSystem Bool) fs).2
    Touches fs fs' (Placed h (files.map Prod.fst)) ∧ ∀ file ∈ files, Installed fs' h file := by
  induction files generalizing fs with
  | nil => exact ⟨.refl fs _, fun _ mem => absurd mem List.not_mem_nil⟩
  | cons file files ih =>
    rw [List.map_cons, installAll_cons] at done ⊢
    rcases able.rename_cases with ⟨-, refused⟩ | ⟨-, succeeded, renamed⟩
    · rw [refused] at done
      cases done
    rw [if_pos succeeded] at done ⊢
    generalize (fs.rename (directory.child (stagingName file.1)) (directory.child file.1)).1 = fs₁
      at done renamed ⊢
    have touches := renamed.touches.mono fun l own => placed_of_renamed own files
    have rest :
        let fs' := ((installAll directory (files.map Prod.fst) : OnFileSystem Bool) fs₁).2
        Touches fs₁ fs' (Placed h (files.map Prod.fst)) ∧
          ∀ file' ∈ files, Installed fs' h file' := by
      rcases touches.home?_eq able.ready.home with home | lost
      · exact ih (able.rest renamed home) done
      · -- In a directory that is lost nothing can be installed, so there was nothing left to do.
        match files, done with
        | [], _ => exact ⟨.refl _ _, fun _ mem => absurd mem List.not_mem_nil⟩
        | file' :: files, done =>
          rw [List.map_cons, installAll_of_lost lost] at done
          cases done
    refine ⟨touches.trans (rest.1.mono fun l => placed_cons), List.forall_mem_cons.2 ⟨?_, rest.2⟩⟩
    exact installed_of_touches able renamed rest.1

/-- What installing leaves if it fails: some files are installed, and one is not because a directory
is in its place or because the directory of all files cannot be reached anymore. -/
structure Interrupted (fs fs' : FileSystem) (directory : Path) (h : Location)
    (done : List (String × String)) (file : String × String) (rest : List (String × String)) :
    Prop where
  installed : ∀ file' ∈ done, Installed fs' h file'
  kept : ∀ file' ∈ file :: rest, fs'.see? (place h file'.1) = fs.see? (place h file'.1)
  reason :
    fs.isDirectory (place h file.1) = true ∧
        (∀ file' ∈ file :: rest, fs'.see? (stagingPlace h file'.1) = none) ∨
      done ≠ [] ∧ fs'.home? directory = none ∧ ∀ file' ∈ file :: rest, IsStaged fs' h file'

/-- **A failure to install** takes back what has not been renamed, if it can be reached. -/
theorem installAll_false (able : Installable fs directory h files)
    (failed : ((installAll directory (files.map Prod.fst) : OnFileSystem Bool) fs).1 = false) :
    let fs' := ((installAll directory (files.map Prod.fst) : OnFileSystem Bool) fs).2
    Touches fs fs' (Placed h (files.map Prod.fst)) ∧ ∃ done file rest,
      files = done ++ file :: rest ∧ Interrupted fs fs' directory h done file rest := by
  induction files generalizing fs with
  | nil => cases failed
  | cons file files ih =>
    rw [List.map_cons, installAll_cons] at failed ⊢
    rcases able.rename_cases with ⟨directory, refused⟩ | ⟨free, succeeded, renamed⟩
    · rw [refused, if_neg Bool.false_ne_true]
      have named : ∀ name ∈ (file :: files).map Prod.fst, ∃ file' ∈ file :: files, file'.1 = name :=
        fun name mem => List.mem_map.1 mem
      obtain ⟨touches, -, gone⟩ := discard_spec able.ready
        (fun name mem => by
          obtain ⟨file', listed, rfl⟩ := named name mem
          exact able.fits file' listed)
        (fun name mem => by
          obtain ⟨file', listed, rfl⟩ := named name mem
          exact FileSystem.not_isDirectory_of_see? (able.staged file' listed))
      exact ⟨touches.mono fun l => Staging.placed, [], file, files, rfl, nofun,
        fun file' mem =>
          touches.others _ (not_staging_place able.stageable (List.mem_map_of_mem mem)),
        .inl ⟨directory, fun file' mem => gone _ (List.mem_map_of_mem mem)⟩⟩
    · rw [if_pos succeeded] at failed ⊢
      have touches := renamed.touches.mono fun l own => placed_of_renamed own files
      rcases touches.home?_eq able.ready.home with home | lost
      · obtain ⟨touches', done, file', rest, rfl, interrupted⟩ := ih (able.rest renamed home) failed
        have behind : ∀ file'' ∈ file' :: rest, file'' ∈ done ++ file' :: rest :=
          fun file'' => List.mem_append_right _
        refine ⟨touches.trans (touches'.mono fun l => placed_cons), file :: done, file', rest, rfl,
          List.forall_mem_cons.2 ⟨installed_of_touches able renamed touches',
            interrupted.installed⟩, fun file'' mem => ?_, ?_⟩
        · exact (interrupted.kept file'' mem).trans
            (renamed.touches.others _ (able.others (behind file'' mem)).2)
        · refine interrupted.reason.imp (fun ⟨directory, gone⟩ => ⟨?_, gone⟩) fun ⟨_, lost⟩ =>
            ⟨List.cons_ne_nil _ _, lost⟩
          exact (touches.directories _).symm.trans directory
      · match files, failed with
        | file' :: rest, _ =>
          rw [List.map_cons, installAll_of_lost lost]
          refine ⟨touches, [file], file', rest, rfl, fun file'' mem => ?_, fun file'' mem => ?_,
            .inr ⟨List.cons_ne_nil _ _, lost, fun file'' mem => ?_⟩⟩
          · obtain rfl := List.mem_singleton.1 mem
            exact ⟨renamed.content, renamed.gone⟩
          · exact renamed.touches.others _ (able.others mem).2
          · exact (renamed.touches.others _ (able.others mem).1).trans
              (able.staged file'' (List.mem_cons_of_mem _ mem))

end Install

end Project

end EventGateway
