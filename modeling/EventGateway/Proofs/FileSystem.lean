import EventGateway.Files.System
import EventGateway.Proofs.Lookup
import Mathlib.Data.List.Basic
import Mathlib.Tactic.SplitIfs

/-!
# Places and ways in a file system

Where a path leads is decided by directories and links.  As long as none of them goes away
(`Guides`), a path to a directory leads to the same place (`home?_of_guides`).  The files of a
directory are at places beside each other (`slot?_child`), and a name leads to its own place unless
a link is there (`target?_child`).
-/

namespace EventGateway

namespace FileSystem

/-! ## One place -/

section Place

variable (fs : FileSystem) {l : Location}

/-- Nothing is listed at a place that is erased, and all else as before. -/
theorem lookup_erase (l' : Location) :
    (fs.erase l).entries.lookup l' = if l' = l then none else fs.entries.lookup l' := by
  unfold erase
  induction fs.entries with
  | nil => simp
  | cons entry entries ih =>
    obtain ⟨place, e⟩ := entry
    by_cases gone : place = l
    · rw [List.filter_cons_of_neg (by simpa using gone), ih, List.lookup_cons]
      by_cases eq : l' = place
      · simp [eq, gone]
      · rw [beq_eq_false_iff_ne.2 eq]
    · rw [List.filter_cons_of_pos (by simpa using gone), List.lookup_cons, List.lookup_cons, ih]
      by_cases eq : l' = place
      · simp [eq, gone]
      · rw [beq_eq_false_iff_ne.2 eq]

/-- **What is at a place after something was taken away.** -/
theorem find?_erase (ne : l ≠ []) (l' : Location) :
    (fs.erase l).find? l' = if l' = l then none else fs.find? l' := by
  unfold find?
  rw [lookup_erase]
  by_cases root : l'.isEmpty = true
  · rw [if_pos root, if_pos root, if_neg]
    rintro rfl
    exact ne (List.isEmpty_iff.1 root)
  · rw [if_neg root, if_neg root]

/-- **What is at a place after something was put somewhere.** -/
theorem find?_put (ne : l ≠ []) (e : Entry) (l' : Location) :
    (fs.put l e).find? l' = if l' = l then some e else fs.find? l' := by
  unfold find? put
  rw [List.lookup_cons, lookup_erase]
  by_cases root : l'.isEmpty = true
  · rw [if_pos root, if_pos root, if_neg]
    rintro rfl
    exact ne (List.isEmpty_iff.1 root)
  · rw [if_neg root, if_neg root]
    by_cases eq : l' = l
    · simp [eq]
    · rw [if_neg eq, if_neg eq, beq_eq_false_iff_ne.2 eq]

theorem isDirectory_iff : fs.isDirectory l = true ↔ fs.find? l = some .directory :=
  beq_iff_eq

theorem isDirectory_eq_false_iff : fs.isDirectory l = false ↔ fs.find? l ≠ some .directory :=
  beq_eq_false_iff_ne

variable {fs}

/-- The root is a directory. -/
theorem ne_nil_of_not_isDirectory (h : fs.isDirectory l = false) : l ≠ [] := by
  rintro rfl
  cases h

/-- The root is always there. -/
theorem ne_nil_of_find?_eq_none (h : fs.find? l = none) : l ≠ [] := by
  rintro rfl
  cases h

/-! ### What shows -/

/-- A directory shows as such. -/
theorem see?_eq_directory_iff : fs.see? l = some .directory ↔ fs.find? l = some .directory := by
  unfold see?
  cases fs.find? l with
  | none => simp
  | some e => cases e <;> simp [look]

/-- A link shows as such. -/
theorem see?_eq_link_iff {target : Path} :
    fs.see? l = some (.link target) ↔ fs.find? l = some (.link target) := by
  unfold see?
  cases fs.find? l with
  | none => simp
  | some e => cases e <;> simp [look]

/-- What shows as a file is one of the files, with what it holds. -/
theorem exists_node_of_see? {content : ByteArray} (h : fs.see? l = some (.file content)) :
    ∃ node, fs.find? l = some (.file node) ∧ fs.content node = content := by
  unfold see? at h
  cases found : fs.find? l with
  | none =>
    rw [found] at h
    cases h
  | some e =>
    rw [found] at h
    cases e with
    | file node => exact ⟨node, rfl, by simpa [look] using h⟩
    | _ => simp [look] at h

theorem not_isDirectory_of_see? {content : ByteArray} (h : fs.see? l = some (.file content)) :
    fs.isDirectory l = false := by
  obtain ⟨node, found, -⟩ := exists_node_of_see? h
  rw [isDirectory_eq_false_iff, found]
  simp

/-- Nothing shows at a place that is erased. -/
theorem see?_erase (ne : l ≠ []) (l' : Location) :
    (fs.erase l).see? l' = if l' = l then none else fs.see? l' := by
  unfold see?
  rw [find?_erase fs ne]
  split_ifs <;> rfl

/-- What is put at a place shows there; no other place shows something else. -/
theorem see?_put (ne : l ≠ []) (e : Entry) (l' : Location) :
    (fs.put l e).see? l' = if l' = l then some (fs.look e) else fs.see? l' := by
  unfold see?
  rw [find?_put fs ne]
  split_ifs <;> rfl

/-- What shows at a place, if it is no directory. -/
def file? (fs : FileSystem) (l : Location) : Option Sight :=
  (fs.see? l).filter (· ≠ .directory)

/-- What a reader finds at a place depends on what shows there. -/
theorem file?_congr {fs' : FileSystem} {l' : Location} (h : fs'.see? l' = fs.see? l) :
    fs'.file? l' = fs.file? l := by
  rw [file?, file?, h]

theorem file?_eq_none (h : fs.see? l = none) : fs.file? l = none := by
  rw [file?, h]
  rfl

theorem file?_eq_file {content : ByteArray} (h : fs.see? l = some (.file content)) :
    fs.file? l = some (.file content) := by
  rw [file?, h]
  rfl

/-! ### Names of files -/

/-- What is at a place is no symbolic link and no file that has another name. -/
structure Unlinked (fs : FileSystem) (l : Location) : Prop where
  noLink : ∀ target, fs.find? l ≠ some (.link target)
  onlyName : ∀ node, fs.find? l = some (.file node) →
    ∀ l', fs.find? l' = some (.file node) → l' = l

/-- A place where nothing is shares no file. -/
theorem unlinked_of_find?_eq_none (h : fs.find? l = none) : fs.Unlinked l := by
  constructor <;> simp [h]

/-- Nothing is where nothing shows. -/
theorem find?_eq_none_of_see? (h : fs.see? l = none) : fs.find? l = none := by
  simpa [see?] using h

/-- A check for places that are not linked. -/
def isUnlinked (fs : FileSystem) (l : Location) : Bool :=
  match fs.find? l with
  | some (.link _) => false
  | some (.file node) => fs.entries.all fun entry => entry.2 != .file node || entry.1 == l
  | _ => true

/-- A file that is found is listed. -/
theorem mem_entries_of_find? {node : Node} (h : fs.find? l = some (.file node)) :
    (l, .file node) ∈ fs.entries := by
  unfold find? at h
  split at h
  · cases h
  · exact Dict.mem_of_lookup h

/-- The test of a place tells that it shares no file. -/
theorem unlinked_of_isUnlinked (h : fs.isUnlinked l = true) : fs.Unlinked l := by
  unfold isUnlinked at h
  constructor
  · intro target found
    rw [found] at h
    cases h
  · intro node found l' found'
    rw [found] at h
    simpa using List.all_eq_true.1 h _ (mem_entries_of_find? found')

/-- A new file has a number of its own. -/
theorem node_lt_fresh {node : Node} (h : fs.find? l = some (.file node)) : node < fs.fresh := by
  have listed : node ∈ fs.entries.filterMap (·.2.node?) :=
    List.mem_filterMap.2 ⟨_, mem_entries_of_find? h, rfl⟩
  unfold fresh
  generalize fs.entries.filterMap (·.2.node?) = nodes at listed
  induction nodes with
  | nil => cases listed
  | cons first rest ih =>
    rw [List.foldr_cons]
    rcases List.mem_cons.1 listed with rfl | later
    · exact Nat.lt_of_succ_le (Nat.le_max_left _ _)
    · exact Nat.lt_of_lt_of_le (ih later) (Nat.le_max_right _ _)

end Place

/-! ## Ways -/

/-- The directories and links of a file system are there in another one. -/
structure Guides (fs fs' : FileSystem) : Prop where
  current : fs'.current = fs.current
  ways : ∀ l e, e.node? = none → fs.find? l = some e → fs'.find? l = some e

section Ways

variable {fs fs' fs'' : FileSystem}

theorem Guides.refl (fs : FileSystem) : Guides fs fs := ⟨rfl, fun _ _ _ found => found⟩

/-- Ways that stay through two changes stay. -/
theorem Guides.trans (h : Guides fs fs') (h' : Guides fs' fs'') : Guides fs fs'' :=
  ⟨h'.current.trans h.current, fun l e way found => h'.ways l e way (h.ways l e way found)⟩

/-- Directories stay where ways do. -/
theorem Guides.isDirectory (h : Guides fs fs') {l : Location}
    (directory : fs.isDirectory l = true) : fs'.isDirectory l = true :=
  (isDirectory_iff fs').2 (h.ways l .directory rfl ((isDirectory_iff fs).1 directory))

/-- A part of a path is entered from a directory, and it is a name. -/
theorem isDirectory_of_enter {depth : Nat} {s s' : Location × Nat} {part : String}
    (h : fs.enter depth s part = some s') : fs.isDirectory s.1 = true ∧ isName part = true := by
  unfold enter at h
  split at h
  next able => exact Bool.and_eq_true_iff.1 able
  next => cases h

/-- Whoever gets to a directory has started at one. -/
theorem isDirectory_of_foldlM {depth : Nat} {parts : List String} {s s' : Location × Nat}
    (h : parts.foldlM (fs.enter depth) s = some s') (directory : fs.isDirectory s'.1 = true) :
    fs.isDirectory s.1 = true := by
  cases parts with
  | nil =>
    obtain rfl := Option.some.inj h
    exact directory
  | cons part parts =>
    rw [List.foldlM_cons] at h
    obtain ⟨next, entered, -⟩ := Option.bind_eq_some_iff.1 h
    exact (isDirectory_of_enter entered).1

/-- A way to a directory only goes through directories and links. -/
theorem foldlM_of_enter {depth : Nat}
    (transfer : ∀ s part s', fs.enter depth s part = some s' → fs.isDirectory s'.1 = true →
      fs'.enter depth s part = some s')
    {parts : List String} {s s' : Location × Nat}
    (h : parts.foldlM (fs.enter depth) s = some s') (directory : fs.isDirectory s'.1 = true) :
    parts.foldlM (fs'.enter depth) s = some s' := by
  induction parts generalizing s with
  | nil => exact h
  | cons part parts ih =>
    rw [List.foldlM_cons] at h ⊢
    obtain ⟨next, entered, rest⟩ := Option.bind_eq_some_iff.1 h
    rw [transfer s part next entered (isDirectory_of_foldlM rest directory)]
    exact ih rest

/-- **A part of a path leads to the same directory.** -/
theorem enter_of_guides (h : Guides fs fs') {depth : Nat} {s s' : Location × Nat} {part : String}
    (entered : fs.enter depth s part = some s') (directory : fs.isDirectory s'.1 = true) :
    fs'.enter depth s part = some s' := by
  induction depth generalizing s s' part with
  | zero =>
    obtain ⟨from', name⟩ := isDirectory_of_enter entered
    obtain ⟨l, links⟩ := s
    unfold enter at entered ⊢
    rw [if_pos (Bool.and_eq_true_iff.2 ⟨from', name⟩)] at entered
    rw [if_pos (Bool.and_eq_true_iff.2 ⟨h.isDirectory from', name⟩)]
    split at entered
    · cases entered
    · obtain rfl := Option.some.inj entered
      rw [(isDirectory_iff fs').1 (h.isDirectory directory)]
  | succ depth ih =>
    obtain ⟨from', name⟩ := isDirectory_of_enter entered
    obtain ⟨l, links⟩ := s
    unfold enter at entered ⊢
    rw [if_pos (Bool.and_eq_true_iff.2 ⟨from', name⟩)] at entered
    rw [if_pos (Bool.and_eq_true_iff.2 ⟨h.isDirectory from', name⟩)]
    split at entered
    next target found =>
      rw [h.ways _ _ rfl found]
      cases links with
      | zero => cases entered
      | succ links =>
        simp only at entered ⊢
        split at entered
        · next path =>
          rw [if_pos path]
          -- The parts of the target are entered one link deeper, where the induction speaks.
          exact foldlM_of_enter (fun s part s' => ih) entered directory
        · cases entered
    next =>
      obtain rfl := Option.some.inj entered
      rw [(isDirectory_iff fs').1 (h.isDirectory directory)]

/-- **A path that leads to a directory** leads there where ways stay. -/
theorem follow?_of_guides (h : Guides fs fs') {s s' : Location × Nat} {parts : List String}
    (reached : fs.follow? s parts = some s') (directory : fs.isDirectory s'.1 = true) :
    fs'.follow? s parts = some s' :=
  foldlM_of_enter (fun _ _ _ => enter_of_guides h) reached directory

/-- A path is followed to its end in two parts. -/
theorem follow?_append (fs : FileSystem) (s : Location × Nat) (parts parts' : List String) :
    fs.follow? s (parts ++ parts') = (fs.follow? s parts).bind (fs.follow? · parts') :=
  List.foldlM_append

/-- A path is followed by its first part and then by the rest. -/
theorem follow?_cons (fs : FileSystem) (s : Location × Nat) (part : String) (parts : List String) :
    fs.follow? s (part :: parts) = (fs.enter maxLinks s part).bind (fs.follow? · parts) :=
  List.foldlM_cons

/-- **A part that leads to no link** leads to the next place. -/
theorem enter_of_noLink {depth : Nat} {l : Location} {links : Nat} {part : String}
    (directory : fs.isDirectory l = true) (name : isName part = true)
    (noLink : ∀ target, fs.find? (step l part) ≠ some (.link target)) :
    fs.enter depth (l, links) part = some (step l part, links) := by
  unfold enter
  rw [if_pos (Bool.and_eq_true_iff.2 ⟨directory, name⟩)]
  split
  next target found => exact absurd found (noLink target)
  next => rfl

end Ways

end FileSystem

/-! ## Files of a directory -/

namespace Path

/-- The parts that the paths of all files of a directory start with. -/
def base (p : Path) : List String :=
  if p.parts.getLast? = some "" then p.parts.dropLast else p.parts

/-- The parts of a path to something in a directory. -/
theorem parts_child (p : Path) (name : String) : (p.child name).parts = p.base ++ [name] := by
  unfold child base
  split <;> rfl

/-- The path of a directory may have a slash at its end. -/
theorem parts_eq (p : Path) : p.parts = p.base ∨ p.parts = p.base ++ [""] := by
  unfold base
  split
  next slash =>
    obtain ⟨parts, eq⟩ := List.getLast?_eq_some_iff.1 slash
    exact .inr (by rw [eq, List.dropLast_concat])
  next => exact .inl rfl

/-- A longer name makes a longer path, and the directory has a shorter one. -/
theorem text_child (p : Path) : ∃ start, (∀ name, (p.child name).text = start ++ name) ∧
    (p.text = start ∨ p.text ++ "/" = start) := by
  by_cases root : p.base = []
  · refine ⟨"", fun name => ?_, .inl ?_⟩
    · rw [text, parts_child, root]
      simp
    · rcases p.parts_eq with eq | eq <;> rw [text, eq, root] <;> simp
  · refine ⟨"/".intercalate p.base ++ "/", fun name => ?_, ?_⟩
    · rw [text, parts_child, String.intercalate_append_of_ne_nil root (by simp),
        String.intercalate_singleton]
    · rcases p.parts_eq with eq | eq
      · exact .inr (by rw [text, eq])
      · refine .inl ?_
        rw [text, eq, String.intercalate_append_of_ne_nil root (by simp),
          String.intercalate_singleton, String.append_empty]

/-- A file is where its directory is. -/
theorem isAbsolute_child (p : Path) (name : String) :
    (p.child name).isAbsolute = p.isAbsolute := by
  unfold isAbsolute
  rw [parts_child, base]
  match p.parts with
  | [] => simp
  | [part] => by_cases empty : part = "" <;> simp [empty]
  | first :: second :: rest => split_ifs <;> simp

end Path

namespace FileSystem

/-- A name is short enough for a file of a directory, and so is its path. -/
def Fits (directory : Path) (name : String) : Prop :=
  isPath (directory.child name) = true ∧ isName name = true

instance (directory : Path) (name : String) : Decidable (Fits directory name) :=
  inferInstanceAs (Decidable (_ ∧ _))

/-- Shorter names fit better, and so does the directory itself. -/
theorem isPath_of_fits {directory : Path} {name : String} (fits : Fits directory name) :
    isPath directory = true ∨ directory.text = "" := by
  by_cases empty : directory.text = ""
  · exact .inr empty
  left
  obtain ⟨start, child, text⟩ := directory.text_child
  have path := fits.1
  simp only [isPath, child, Bool.and_eq_true, decide_eq_true_eq, Bool.not_eq_true',
    ← Bool.not_eq_true, List.contains_iff_mem, String.utf8ByteSize_append, String.toList_append,
    List.mem_append, not_or] at path ⊢
  rcases text with text | text
  · rw [text] at empty ⊢
    exact ⟨⟨empty, by omega⟩, path.2.1⟩
  · rw [← text] at path
    simp only [String.utf8ByteSize_append, String.toList_append, List.mem_append, not_or] at path
    exact ⟨⟨empty, by omega⟩, path.2.1.1⟩

/-- A shorter name fits where a longer one with the same characters does. -/
theorem Fits.shorter {directory : Path} {name longer : String} (fits : Fits directory longer)
    (nonempty : name ≠ "") (size : name.utf8ByteSize ≤ longer.utf8ByteSize)
    (letters : ∀ c ∈ name.toList, c ∈ longer.toList) : Fits directory name := by
  obtain ⟨start, child, -⟩ := directory.text_child
  obtain ⟨path, short⟩ := fits
  refine ⟨?_, ?_⟩
  · simp only [isPath, child, Bool.and_eq_true, decide_eq_true_eq, Bool.not_eq_true',
      ← Bool.not_eq_true, List.contains_iff_mem, String.utf8ByteSize_append, String.toList_append,
      List.mem_append, not_or] at path ⊢
    refine ⟨⟨?_, by omega⟩, path.2.1, fun mem => path.2.2 (letters _ mem)⟩
    rw [Ne, String.append_eq_empty_iff]
    exact fun empty => nonempty empty.2
  · rw [isName, decide_eq_true_eq] at short ⊢
    omega

variable {fs fs' : FileSystem} {directory : Path} {h l : Location} {name : String}

/-- The directory in which the files of a path are, if it is one. -/
def home? (fs : FileSystem) (directory : Path) : Option Location :=
  (fs.reach? (origin fs.current directory) directory.base).filter (fs.isDirectory ·)

/-- The place of a directory is where its path leads. -/
theorem home?_eq_some_iff : fs.home? directory = some h ↔
    ∃ links, fs.follow? (origin fs.current directory, maxLinks) directory.base = some (h, links) ∧
      fs.isDirectory h = true := by
  unfold home? reach?
  rw [Option.filter_eq_some_iff, Option.map_eq_some_iff]
  constructor
  · rintro ⟨⟨⟨l, links⟩, reached, rfl⟩, is⟩
    exact ⟨links, reached, is⟩
  · rintro ⟨links, reached, is⟩
    exact ⟨⟨_, reached, rfl⟩, is⟩

/-- **A path to a directory leads there** as long as no directory and no link goes away. -/
theorem home?_of_guides (guides : Guides fs fs') (home : fs.home? directory = some h) :
    fs'.home? directory = some h := by
  obtain ⟨links, reached, is⟩ := home?_eq_some_iff.1 home
  rw [home?_eq_some_iff, guides.current]
  exact ⟨links, follow?_of_guides guides reached is, guides.isDirectory is⟩

/-- A path to something in a directory starts where that of the directory does. -/
theorem origin_child (l : Location) (directory : Path) (name : String) :
    origin l (directory.child name) = origin l directory := by
  rw [origin, origin, Path.isAbsolute_child]

/-- **The places of files** are beside each other. -/
theorem slot?_child (proper : Proper name) :
    fs.slot? (directory.child name) =
      if Fits directory name then (fs.home? directory).map (· ++ [name]) else none := by
  unfold slot? home?
  rw [Path.parts_child, List.getLast?_concat, List.dropLast_concat, origin_child]
  by_cases fits : Fits directory name
  · rw [if_pos fits]
    simp [fits.1, fits.2, proper.1, proper.2.1, proper.2.2]
  · rw [if_neg fits]
    have unfit : (isPath (directory.child name) && isName name) = false :=
      Bool.eq_false_iff.2 fun both => fits (Bool.and_eq_true_iff.1 both)
    simp [unfit]

/-- **A name in a directory** leads to a place if it fits and the directory is reached. -/
theorem slot?_eq_some_iff (proper : Proper name) :
    fs.slot? (directory.child name) = some l ↔
      Fits directory name ∧ ∃ h, fs.home? directory = some h ∧ l = h ++ [name] := by
  rw [slot?_child proper]
  split_ifs with fits
  · simp only [fits, true_and, Option.map_eq_some_iff, eq_comm (a := l)]
  · simp [fits]

/-- A proper name leads down. -/
theorem step_of_proper (proper : Proper name) (l : Location) : step l name = l ++ [name] := by
  obtain ⟨nonempty, here, above⟩ := proper
  rw [step, if_neg (not_or.2 ⟨nonempty, here⟩), if_neg above]

/-- **What a name leads to that is no link** is at its own place. -/
theorem target?_child (proper : Proper name)
    (noLink : ∀ h, fs.home? directory = some h → ∀ target,
      fs.find? (h ++ [name]) ≠ some (.link target)) :
    fs.target? (directory.child name) = fs.slot? (directory.child name) := by
  rw [slot?_child proper, target?, Path.parts_child, origin_child, reach?, follow?_append]
  -- Both sides fail together: with the path, with the directory, or with the name.
  by_cases path : isPath (directory.child name) = true
  swap
  · rw [if_neg path, if_neg fun fits => path fits.1]
  rw [if_pos path]
  cases reached : fs.follow? (origin fs.current directory, maxLinks) directory.base with
  | none =>
    have lost : fs.home? directory = none := by simp [home?, reach?, reached]
    rw [lost]
    simp
  | some s =>
    obtain ⟨l, links⟩ := s
    rw [Option.bind_some, follow?_cons]
    cases is : fs.isDirectory l with
    | false =>
      have lost : fs.home? directory = none := by simp [home?, reach?, reached, is]
      have stuck : fs.enter maxLinks (l, links) name = none := by
        rw [enter, is, Bool.false_and, if_neg Bool.false_ne_true]
      rw [lost, stuck]
      simp
    | true =>
      have home : fs.home? directory = some l := home?_eq_some_iff.2 ⟨links, reached, is⟩
      rw [home]
      by_cases short : isName name = true
      · have free := noLink l home
        rw [← step_of_proper proper] at free
        rw [enter_of_noLink is short free, if_pos ⟨path, short⟩, step_of_proper proper]
        rfl
      · have stuck : fs.enter maxLinks (l, links) name = none := by
          rw [enter, Bool.eq_false_iff.2 short, Bool.and_false, if_neg Bool.false_ne_true]
        rw [stuck, if_neg fun fits => short fits.2]
        rfl

end FileSystem

end EventGateway
