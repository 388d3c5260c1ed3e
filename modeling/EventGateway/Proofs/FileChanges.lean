import EventGateway.Proofs.FileSystem

/-!
# What operations do to a file system

Writing, renaming and removing change what shows at one or two places where no directory is, and
make no new way (`Touches`).  This needs some care with links: what is written through a link shows
elsewhere, and so does what is written into a file that has another name.  At a place that is
neither (`Unlinked`) an operation shows there and nowhere else (`write_cases`, `rename_cases`,
`remove_cases`).  Creating directories is the other way round: it keeps all ways and puts
directories where nothing was (`created_createDirectories`).
-/

namespace EventGateway

namespace FileSystem

variable {fs fs' : FileSystem} {directory : Path} {h l : Location} {name : String}

/-! ## Changes -/

/-- Something has changed at places of `P` at most.  Directories are the same, and there are no new
links. -/
structure Touches (fs fs' : FileSystem) (P : Location → Prop) : Prop where
  current : fs'.current = fs.current
  others : ∀ l, ¬ P l → fs'.see? l = fs.see? l
  directories : ∀ l, fs'.isDirectory l = fs.isDirectory l
  links : ∀ l target, fs'.find? l = some (.link target) → fs.find? l = some (.link target)
  unlinked : ∀ l, fs.Unlinked l → fs'.Unlinked l

namespace Touches

variable {fs'' : FileSystem} {P Q : Location → Prop}

theorem refl (fs : FileSystem) (P : Location → Prop) : Touches fs fs P :=
  ⟨rfl, fun _ _ => rfl, fun _ => rfl, fun _ _ found => found, fun _ unlinked => unlinked⟩

/-- Two changes in a row touch what each of them touches. -/
theorem trans (first : Touches fs fs' P) (second : Touches fs' fs'' P) : Touches fs fs'' P :=
  ⟨second.current.trans first.current,
    fun l free => (second.others l free).trans (first.others l free),
    fun l => (second.directories l).trans (first.directories l),
    fun l target found => first.links l target (second.links l target found),
    fun l unlinked => second.unlinked l (first.unlinked l unlinked)⟩

/-- A bound on the places that are touched may be widened. -/
theorem mono (touches : Touches fs fs' P) (among : ∀ l, P l → Q l) : Touches fs fs' Q :=
  { touches with others := fun l free => touches.others l fun within => free (among l within) }

/-- There are no new ways. -/
theorem guides (touches : Touches fs fs' P) : Guides fs' fs := by
  refine ⟨touches.current.symm, fun l e way found => ?_⟩
  cases e with
  | directory =>
    rw [← isDirectory_iff, ← touches.directories, isDirectory_iff, found]
  | file node => cases way
  | link target => exact touches.links l target found

/-- If no link is touched, all ways are kept. -/
theorem guides_of_noLink (touches : Touches fs fs' P)
    (noLink : ∀ l, P l → ∀ target, fs.find? l ≠ some (.link target)) : Guides fs fs' := by
  refine ⟨touches.current, fun l e way found => ?_⟩
  cases e with
  | directory => rw [← isDirectory_iff, touches.directories, isDirectory_iff, found]
  | file node => cases way
  | link target =>
    have free : ¬ P l := fun within => noLink l within target found
    rw [← see?_eq_link_iff, touches.others l free, see?_eq_link_iff, found]

/-- After a change, a directory can be lost but not found elsewhere. -/
theorem home?_eq (touches : Touches fs fs' P) (home : fs.home? directory = some h) :
    fs'.home? directory = some h ∨ fs'.home? directory = none := by
  cases later : fs'.home? directory with
  | none => exact .inr rfl
  | some h' => exact .inl ((home?_of_guides touches.guides later).symm.trans home)

end Touches

/-! ### Writing -/

section Write

variable (fs)

/-- There is room for so many bytes. -/
def Affords (size : Nat) : Prop :=
  ∀ room ∈ fs.room, size ≤ room

instance (size : Nat) : Decidable (fs.Affords size) :=
  inferInstanceAs (Decidable (∀ room ∈ fs.room, _))

/-- A text goes into a file as far as there is room, and only the file and the room change. -/
theorem fill_cases (node : Node) (bytes : ByteArray) :
    ∃ written room, (fs.fill node bytes).1 =
        { fs with contents := (node, written) :: fs.contents, room } ∧
      ((fs.fill node bytes).2 = true ∧ written = bytes ∨
        (fs.fill node bytes).2 = false ∧ room = some 0 ∧
          ∃ size < bytes.size, written = bytes.extract 0 size) := by
  unfold fill
  cases fs.room with
  | none => exact ⟨bytes, none, rfl, .inl ⟨rfl, rfl⟩⟩
  | some room =>
    simp only
    split_ifs with enough
    · exact ⟨bytes, _, rfl, .inl ⟨rfl, rfl⟩⟩
    · exact ⟨bytes.extract 0 room, _, rfl, .inr ⟨rfl, rfl, room, Nat.lt_of_not_le enough, rfl⟩⟩

/-- With room for it, all of a text goes into a file, and the rest of the room stays. -/
theorem fill_of_affords {size : Nat} {node : Node} {bytes : ByteArray}
    (affords : fs.Affords (bytes.size + size)) :
    (fs.fill node bytes).2 = true ∧ (fs.fill node bytes).1.Affords size := by
  unfold fill
  cases limit : fs.room with
  | none => exact ⟨rfl, fun room mem => by simp at mem⟩
  | some room =>
    have enough := affords room limit
    simp only
    rw [if_pos (by omega)]
    refine ⟨rfl, fun room' mem => ?_⟩
    obtain rfl := Option.some.inj mem
    omega

/-- What shows after a file was filled. -/
theorem see?_filled {node : Node} (only : ∀ l', fs.find? l' = some (.file node) → l' = l)
    (here : fs.find? l = some (.file node)) (written : ByteArray) (room : Option Nat)
    (l' : Location) :
    FileSystem.see? { fs with contents := (node, written) :: fs.contents, room } l' =
      if l' = l then some (.file written) else fs.see? l' := by
  show (fs.find? l').map _ = _
  split_ifs with eq
  · rw [eq, here]
    simp [look, content]
  · unfold see?
    cases found : fs.find? l' with
    | none => rfl
    | some e =>
      cases e with
      | directory => rfl
      | link target => rfl
      | file node' =>
        have other : node' ≠ node := fun same => eq (only l' (same ▸ found))
        simp [look, content, List.lookup_cons, beq_eq_false_iff_ne.2 other]

/-- A file that has no name yet gets one where no directory is. -/
theorem touches_put (free : fs.isDirectory l = false) {node : Node}
    (nameless : ∀ l', fs.find? l' ≠ some (.file node)) :
    Touches fs (fs.put l (.file node)) (· = l) := by
  have ne := ne_nil_of_not_isDirectory free
  have view := find?_put fs ne (.file node)
  refine ⟨rfl, fun l' other => ?_, fun l' => ?_, fun l' target found => ?_,
    fun l' unlinked => ⟨fun target found => ?_, fun node' found l'' found' => ?_⟩⟩
  · rw [see?_put ne, if_neg other]
  · rw [isDirectory, view]
    split_ifs with eq
    · rw [eq, free]
      rfl
    · rfl
  · rw [view] at found
    split_ifs at found
    · cases Option.some.inj found
    · exact found
  · rw [view] at found
    split_ifs at found
    · cases Option.some.inj found
    · exact unlinked.noLink target found
  · -- Two places can share a file only if both did before: the one with the new name does not.
    rw [view] at found found'
    split_ifs at found found' with eq eq' eq'
    · exact eq'.trans eq.symm
    · cases Option.some.inj found
      exact absurd found' (nameless l'')
    · cases Option.some.inj found'
      exact absurd found (nameless l')
    · exact unlinked.onlyName node' found l'' found'

/-- Something else than a directory is taken away. -/
theorem touches_erase (free : fs.isDirectory l = false) : Touches fs (fs.erase l) (· = l) := by
  have ne := ne_nil_of_not_isDirectory free
  have view := find?_erase fs ne
  refine ⟨rfl, fun l' other => by rw [see?_erase ne, if_neg other], fun l' => ?_,
    fun l' target found => ?_, fun l' unlinked => ⟨fun target found => ?_, ?_⟩⟩
  · rw [isDirectory, view]
    split_ifs with eq
    · rw [eq, free]
      rfl
    · rfl
  · rw [view] at found
    split_ifs at found
    exact found
  · rw [view] at found
    split_ifs at found
    exact unlinked.noLink target found
  · intro node found l'' found'
    rw [view] at found found'
    split_ifs at found found'
    exact unlinked.onlyName node found l'' found'

/-- A file that has no other name is filled. -/
theorem touches_filled {node : Node} (only : ∀ l', fs.find? l' = some (.file node) → l' = l)
    (here : fs.find? l = some (.file node)) (written : ByteArray) (room : Option Nat) :
    Touches fs { fs with contents := (node, written) :: fs.contents, room } (· = l) :=
  ⟨rfl, fun l' other => (see?_filled fs only here written room l').trans (if_neg other),
    fun _ => rfl, fun _ _ found => found, fun _ unlinked => ⟨unlinked.noLink, unlinked.onlyName⟩⟩

/-- What writing at a place leaves that no directory takes: the text or, if the room has run out, a
part of it. -/
structure Wrote (fs fs' : FileSystem) (l : Location) (text : String) (complete : Bool) : Prop where
  touches : Touches fs fs' (· = l)
  content : complete = true → fs'.see? l = some (.file text.toUTF8)
  partly : complete = false → fs'.room = some 0 ∧
    ∃ size < text.utf8ByteSize, fs'.see? l = some (.file (text.toUTF8.extract 0 size))

/-- Filling a file that has no other name writes its text as far as there is room. -/
theorem wrote_fill {node : Node} (before : Touches fs fs' (· = l))
    (only : ∀ l', fs'.find? l' = some (.file node) → l' = l)
    (here : fs'.find? l = some (.file node)) (text : String) :
    Wrote fs (fs'.fill node text.toUTF8).1 l text (fs'.fill node text.toUTF8).2 := by
  obtain ⟨written, room, eq, outcome⟩ := fs'.fill_cases node text.toUTF8
  have shows := see?_filled fs' only here written room l
  rw [if_pos rfl] at shows
  rw [eq]
  refine ⟨before.trans (touches_filled fs' only here written room), fun done => ?_, fun cut => ?_⟩
  · rcases outcome with ⟨-, rfl⟩ | ⟨cut, -⟩
    · exact shows
    · rw [cut] at done
      cases done
  · rcases outcome with ⟨done, -⟩ | ⟨-, empty, size, less, rfl⟩
    · rw [done] at cut
      cases cut
    · exact ⟨empty, size, less, shows⟩

/-- **Writing at a place that is not linked** fails at a directory, and shows only there. -/
theorem write_cases {p : Path} (text : String) (target : fs.target? p = some l)
    (unlinked : fs.Unlinked l) :
    fs.isDirectory l = true ∧ fs.write p text = (fs, false) ∨
      fs.isDirectory l = false ∧ Wrote fs (fs.write p text).1 l text (fs.write p text).2 := by
  simp only [write, target]
  cases found : fs.find? l with
  | none =>
    have free : fs.isDirectory l = false := by
      rw [isDirectory_eq_false_iff, found]
      simp
    have nameless : ∀ l', fs.find? l' ≠ some (.file fs.fresh) :=
      fun l' found' => Nat.lt_irrefl _ (node_lt_fresh found')
    have view := find?_put fs (ne_nil_of_not_isDirectory free) (.file fs.fresh)
    refine .inr ⟨free, wrote_fill fs (touches_put fs free nameless) (fun l' found' => ?_)
      (by rw [view, if_pos rfl]) text⟩
    rw [view] at found'
    split_ifs at found' with eq
    · exact eq
    · exact absurd found' (nameless l')
  | some e =>
    cases e with
    | directory => exact .inl ⟨(isDirectory_iff fs).2 found, rfl⟩
    | link target => exact absurd found (unlinked.noLink target)
    | file node =>
      refine .inr ⟨by rw [isDirectory_eq_false_iff, found]; simp, ?_⟩
      exact wrote_fill fs (.refl fs _) (unlinked.onlyName node found) found text

/-- What there is room for is written as a whole. -/
theorem write_of_affords {p : Path} {text : String} {size : Nat} (target : fs.target? p = some l)
    (unlinked : fs.Unlinked l) (free : fs.isDirectory l = false)
    (affords : fs.Affords (text.utf8ByteSize + size)) :
    (fs.write p text).2 = true ∧ (fs.write p text).1.Affords size := by
  simp only [write, target]
  cases found : fs.find? l with
  | none => exact fill_of_affords (fs.put l (.file fs.fresh)) affords
  | some e =>
    cases e with
    | directory => exact absurd found ((isDirectory_eq_false_iff fs).1 free)
    | link target => exact absurd found (unlinked.noLink target)
    | file node => exact fill_of_affords fs affords

end Write

/-! ### Renaming and removing -/

section Rename

variable {here there : Location} {content : ByteArray}

/-- What renaming a file leaves. -/
structure Renamed (fs fs' : FileSystem) (here there : Location) (content : ByteArray) : Prop where
  touches : Touches fs fs' fun l => l = here ∨ l = there
  gone : fs'.see? here = none
  content : fs'.see? there = some (.file content)
  room : fs'.room = fs.room

/-- Taking the only name of a file away and giving it another is renaming it. -/
theorem renamed_put (apart : here ≠ there) (unlinked : fs.Unlinked here)
    (freeThere : fs.isDirectory there = false) {node : Node}
    (found : fs.find? here = some (.file node)) :
    Renamed fs ((fs.erase here).put there (.file node)) here there (fs.content node) := by
  have freeHere : fs.isDirectory here = false := by
    rw [isDirectory_eq_false_iff, found]
    simp
  have neHere := ne_nil_of_not_isDirectory freeHere
  have neThere := ne_nil_of_not_isDirectory freeThere
  have erased := touches_erase fs freeHere
  have nameless : ∀ l, (fs.erase here).find? l ≠ some (.file node) := by
    intro l found'
    rw [find?_erase fs neHere] at found'
    split_ifs at found' with other
    exact other (unlinked.onlyName node found l found')
  -- Once its only name is gone the file has none, so the new name is the only one.
  have put := touches_put (fs.erase here) ((erased.directories there).trans freeThere) nameless
  refine ⟨(erased.mono fun l => .inl).trans (put.mono fun l => .inr), ?_, ?_, rfl⟩
  · rw [see?_put neThere, if_neg apart, see?_erase neHere, if_pos rfl]
  · rw [see?_put neThere, if_pos rfl]
    rfl

/-- **Renaming a file that has no other name** fails at a directory; otherwise the file is at its
new place only. -/
theorem rename_cases {source target : Path} (sourceSlot : fs.slot? source = some here)
    (targetSlot : fs.slot? target = some there) (apart : here ≠ there)
    (unlinked : fs.Unlinked here) (file : fs.see? here = some (.file content)) :
    fs.isDirectory there = true ∧ fs.rename source target = (fs, false) ∨
      fs.isDirectory there = false ∧ (fs.rename source target).2 = true ∧
        Renamed fs (fs.rename source target).1 here there content := by
  obtain ⟨node, found, rfl⟩ := exists_node_of_see? file
  unfold rename
  rw [sourceSlot, targetSlot]
  simp only [found]
  cases free : fs.isDirectory there with
  | true => exact .inl ⟨rfl, rfl⟩
  | false =>
    have other : fs.sameFile here there = false := by
      rw [sameFile, found]
      exact beq_eq_false_iff_ne.2 fun same => apart (unlinked.onlyName node found there same).symm
    rw [if_neg Bool.false_ne_true, other, if_neg Bool.false_ne_true]
    exact .inr ⟨rfl, rfl, renamed_put apart unlinked free found⟩

/-- A path that names no place is not renamed. -/
theorem rename_of_slot?_eq_none {source target : Path} (lost : fs.slot? source = none) :
    fs.rename source target = (fs, false) := by
  unfold rename
  rw [lost]

/-- **Removing** leaves directories alone. -/
theorem remove_cases {p : Path} (slot : fs.slot? p = some l) :
    fs.isDirectory l = true ∧ fs.remove p = fs ∨
      fs.isDirectory l = false ∧ (fs.remove p).see? l = none ∧ (fs.remove p).room = fs.room ∧
        Touches fs (fs.remove p) (· = l) := by
  simp only [remove, slot]
  cases free : fs.isDirectory l with
  | true => exact .inl ⟨rfl, rfl⟩
  | false =>
    rw [if_neg Bool.false_ne_true]
    have gone : (fs.erase l).see? l = none := by
      rw [see?_erase (ne_nil_of_not_isDirectory free), if_pos rfl]
    exact .inr ⟨rfl, gone, rfl, touches_erase fs free⟩

/-- Nothing is removed where no path leads. -/
theorem remove_of_slot?_eq_none {p : Path} (lost : fs.slot? p = none) : fs.remove p = fs := by
  unfold remove
  rw [lost]

end Rename

/-! ### Creating directories -/

/-- What is put at an empty place keeps all ways. -/
theorem guides_put (free : fs.find? l = none) (e : Entry) : Guides fs (fs.put l e) := by
  refine ⟨rfl, fun l' e' _ found => ?_⟩
  rw [find?_put fs (ne_nil_of_find?_eq_none free), if_neg, found]
  rintro rfl
  rw [free] at found
  cases found

/-- A new directory shares no file with other places. -/
theorem unlinked_put_directory (free : fs.find? l = none) {l' : Location}
    (unlinked : fs.Unlinked l') : (fs.put l .directory).Unlinked l' := by
  have view := find?_put fs (ne_nil_of_find?_eq_none free) .directory
  refine ⟨fun target link => ?_, fun node found l'' found' => ?_⟩
  · rw [view] at link
    split_ifs at link
    · cases Option.some.inj link
    · exact unlinked.noLink target link
  · rw [view] at found found'
    split_ifs at found found'
    · cases Option.some.inj found
    · cases Option.some.inj found
    · cases Option.some.inj found'
    · exact unlinked.onlyName node found l'' found'

/-- Directories have been created along the parts of a path. -/
structure Created (fs fs' : FileSystem) (start : Location × Nat) (parts : List String) : Prop where
  guides : Guides fs fs'
  room : fs'.room = fs.room
  unlinked : ∀ l, fs.Unlinked l → fs'.Unlinked l
  /-- What is new is a directory to which the path leads on its way. -/
  others : ∀ l, fs'.see? l = fs.see? l ∨ fs.see? l = none ∧ fs'.see? l = some .directory ∧
    ∃ begun, begun <+: parts ∧ ∃ links, fs'.follow? start begun = some (l, links)

namespace Created

variable {start next : Location × Nat} {part : String} {parts : List String}

theorem refl (fs : FileSystem) (start : Location × Nat) (parts : List String) :
    Created fs fs start parts :=
  ⟨.refl fs, rfl, fun _ unlinked => unlinked, fun _ => .inl rfl⟩

/-- **One part more**, which leads to a directory. -/
theorem cons (rest : Created fs fs' next parts)
    (entered : fs'.enter maxLinks start part = some next) :
    Created fs fs' start (part :: parts) := by
  refine { rest with others := fun l => (rest.others l).imp_right ?_ }
  rintro ⟨free, directory, begun, before, links, reached⟩
  refine ⟨free, directory, part :: begun, (List.prefix_cons_inj part).2 before, links, ?_⟩
  rw [follow?_cons, entered]
  exact reached

/-- A directory at an empty place to which a part leads. -/
theorem put (free : fs.find? (step start.1 part) = none)
    (entered : fs.isDirectory start.1 = true ∧ isName part = true)
    (rest : Created (fs.put (step start.1 part) .directory) fs' (step start.1 part, start.2)
      parts) :
    Created fs fs' start (part :: parts) := by
  have guides := (guides_put free .directory).trans rest.guides
  have here : fs'.find? (step start.1 part) = some .directory := by
    refine rest.guides.ways _ _ rfl ?_
    rw [find?_put fs (ne_nil_of_find?_eq_none free), if_pos rfl]
  have way : fs'.enter maxLinks start part = some (step start.1 part, start.2) :=
    enter_of_noLink (guides.isDirectory entered.1) entered.2 fun target link => by
      rw [here] at link
      cases link
  refine ⟨guides, rest.room,
    fun l unlinked => rest.unlinked l (unlinked_put_directory free unlinked), fun l => ?_⟩
  by_cases eq : l = step start.1 part
  · subst eq
    refine .inr ⟨by rw [see?, free]; rfl, see?_eq_directory_iff.2 here, [part], ?_⟩
    exact ⟨List.prefix_append [part] parts, start.2, by rw [follow?_cons, way]; rfl⟩
  · have old : (fs.put (step start.1 part) .directory).see? l = fs.see? l := by
      rw [see?_put (ne_nil_of_find?_eq_none free), if_neg eq]
    rw [← old]
    exact (rest.cons way).others l

end Created

/-- **Directories are created** where nothing was, one below the other, also if creating them fails
on the way. -/
theorem created_createAlong (fs : FileSystem) (start : Location × Nat) (parts : List String) :
    Created fs (fs.createAlong start parts).1 start parts := by
  induction parts generalizing fs start with
  | nil => exact .refl fs start []
  | cons part parts ih =>
    rw [createAlong]
    split
    next free =>
      split
      next able =>
        simp only [Bool.and_eq_true] at able
        exact .put free able.1 (ih _ _)
      next => exact .refl fs start _
    next =>
      split
      next next found =>
        obtain ⟨entered, directory⟩ := Option.filter_eq_some_iff.1 found
        have rest := ih fs next
        exact rest.cons (enter_of_guides rest.guides entered directory)
      next => exact .refl fs start _

/-- **Creating directories** keeps everything that is there. -/
theorem created_createDirectories (fs : FileSystem) (p : Path) :
    Created fs (fs.createDirectories p).1 (origin fs.current p, maxLinks) p.parts := by
  unfold createDirectories
  split_ifs
  · exact .refl fs _ _
  · exact created_createAlong fs _ _
  · exact .refl fs _ _

/-- Nothing is created along a path that leads to a directory. -/
theorem createAlong_of_follow? {start s : Location × Nat} {parts : List String}
    (reached : fs.follow? start parts = some s) (directory : fs.isDirectory s.1 = true) :
    fs.createAlong start parts = (fs, true) := by
  induction parts generalizing start with
  | nil => rfl
  | cons part parts ih =>
    rw [follow?_cons] at reached
    obtain ⟨next, entered, rest⟩ := Option.bind_eq_some_iff.1 reached
    have is : fs.isDirectory next.1 = true := isDirectory_of_foldlM rest directory
    rw [createAlong]
    split
    next free =>
      -- Without a link on the way, the next place would be no directory.
      have stay : fs.enter maxLinks start part = some (step start.1 part, start.2) :=
        enter_of_noLink (isDirectory_of_enter entered).1 (isDirectory_of_enter entered).2
          fun target link => by
            rw [free] at link
            cases link
      obtain rfl := Option.some.inj (stay.symm.trans entered)
      rw [isDirectory_iff, free] at is
      cases is
    next =>
      rw [entered, Option.filter_some, if_pos is]
      exact ih rest

/-- **Directories that are there are not created again.** -/
theorem createDirectories_of_home? (home : fs.home? directory = some h) (name : String)
    (fits : Fits directory name) : fs.createDirectories directory = (fs, true) := by
  obtain ⟨links, reached, is⟩ := home?_eq_some_iff.1 home
  unfold createDirectories
  rcases isPath_of_fits fits with path | empty
  swap
  · rw [if_pos empty]
  split_ifs
  · rfl
  rcases directory.parts_eq with eq | eq
  · rw [eq]
    exact createAlong_of_follow? reached is
  · have noLink : ∀ target, fs.find? (step h "") ≠ some (.link target) := by
      intro target link
      rw [show step h "" = h from rfl, (isDirectory_iff fs).1 is] at link
      cases link
    refine createAlong_of_follow? (s := (h, links)) ?_ is
    rw [eq, follow?_append, reached, Option.bind_some, follow?_cons,
      enter_of_noLink is (by decide) noLink]
    rfl

/-- **Creating directories leaves all files alone.** -/
theorem Created.file?_eq {start : Location × Nat} {parts : List String}
    (created : Created fs fs' start parts) (l : Location) : fs'.file? l = fs.file? l := by
  rcases created.others l with same | ⟨free, directory, -⟩
  · exact file?_congr same
  · rw [file?_eq_none free, file?, directory]
    rfl

end FileSystem

end EventGateway
