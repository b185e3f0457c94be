/-
**Paths that are written and read back.**

A path is written as its names between slashes, and a text is read as a path by leaving out what is
between slashes but no name.  A path whose names are proper is read back from its text as it is; the
paths that a command line stands for are such paths, as long as the names in folders are proper.  So
the file that is read is the one that was found.

Main definitions:

* `Toolpath.Path.ProperName`, `Toolpath.Path.Proper` — names that a path keeps, and paths of them;
* `Toolpath.Files.WellNamed` — the names in folders are proper.

Main results:

* `Toolpath.Path.ofString_text` — **a proper path is read back from its text**;
* `Toolpath.Path.proper_ofString` — every text writes a proper path;
* `Toolpath.Session.proper_of_mem_collect` — the paths that operands stand for are proper;
* `Toolpath.FileTree.wellNamed_files` — the folders of a tree of proper names are well named.
-/

import Toolpath.FileTree
import Toolpath.Session

set_option relaxedAutoImplicit false
set_option autoImplicit false

namespace Toolpath

/-! ### Pieces between slashes -/

namespace Path

theorem pieces_eq_splitOn (text : List Char) : pieces text = text.splitOn '/' := by
  induction text with
  | nil => rfl
  | cons c rest ih =>
      rw [List.splitOn_cons_eq_if_modifyHead, pieces, ih]
      by_cases hc : c = '/'
      · rw [if_pos hc, if_pos (by simpa using hc)]
      · rw [if_neg hc, if_neg (by simpa using hc)]
        cases hrest : rest.splitOn '/' with
        | nil => exact absurd hrest (List.splitOn_ne_nil '/' rest)
        | cons piece others => rfl

/-- There is no slash in a piece between slashes. -/
theorem slash_notMem_of_mem_pieces {text piece : List Char} (h : piece ∈ pieces text) :
    '/' ∉ piece := by
  induction text generalizing piece with
  | nil =>
      obtain rfl := List.mem_singleton.1 h
      exact List.not_mem_nil
  | cons c rest ih =>
      rw [pieces] at h
      split at h
      · rcases List.mem_cons.1 h with rfl | hrest
        · exact List.not_mem_nil
        · exact ih hrest
      · rename_i hc
        have hother : '/' ≠ c := fun heq => hc heq.symm
        split at h
        · obtain rfl := List.mem_singleton.1 h
          simpa using hother
        · rename_i first others hpieces
          rcases List.mem_cons.1 h with rfl | hothers
          · have hfirst : '/' ∉ first := ih (by rw [hpieces]; exact List.mem_cons_self)
            simp [hother, hfirst]
          · exact ih (by rw [hpieces]; exact List.mem_cons_of_mem first hothers)

/-! ### Proper names -/

/-- A name that a path keeps: it has no slash in it, and is neither empty nor a single dot. -/
def ProperName (name : String) : Prop := isName name.toList = true ∧ '/' ∉ name.toList

/-- All names of a path are proper. -/
def Proper (path : Path) : Prop := ∀ name ∈ path.names, ProperName name

/-- Every text writes a proper path. -/
theorem proper_ofString (text : String) : (ofString text).Proper := by
  intro name hname
  obtain ⟨piece, hpiece, rfl⟩ := List.mem_map.1 hname
  obtain ⟨hmem, hisName⟩ := List.mem_filter.1 hpiece
  rw [ProperName, String.toList_ofList]
  exact ⟨hisName, slash_notMem_of_mem_pieces hmem⟩

/-- The path of a file in a folder is proper if the path of the folder and the name are. -/
theorem Proper.child {path : Path} {name : String} (h : path.Proper) (hname : ProperName name) :
    (path.child name).Proper := by
  intro own hown
  rcases List.mem_append.1 hown with hfolder | hlast
  · exact h own hfolder
  · rwa [List.mem_singleton.1 hlast]

/-! ### Reading back -/

/-- The names between slashes are the names again. -/
theorem pieces_intercalate {names : List String} (h : ∀ name ∈ names, ProperName name)
    (hnames : names ≠ []) :
    pieces ("/".intercalate names).toList = names.map String.toList := by
  have hslash : "/".toList = ['/'] := rfl
  rw [String.toList_intercalate, hslash, pieces_eq_splitOn]
  refine List.splitOn_intercalate '/' ?_ (by simpa using hnames)
  intro piece hpiece
  obtain ⟨name, hname, rfl⟩ := List.mem_map.1 hpiece
  exact (h name hname).2

/-- The names between slashes are what is kept of the pieces. -/
theorem filter_pieces_intercalate {names : List String} (h : ∀ name ∈ names, ProperName name) :
    ((pieces ("/".intercalate names).toList).filter isName).map String.ofList = names := by
  by_cases hnames : names = []
  · subst hnames
    rfl
  · rw [pieces_intercalate h hnames, List.filter_eq_self.2]
    · rw [List.map_map]
      exact List.map_id'' (fun name => String.ofList_toList) names
    · intro piece hpiece
      obtain ⟨name, hname, rfl⟩ := List.mem_map.1 hpiece
      exact (h name hname).1

/-- Names between slashes do not start with a slash. -/
theorem takeWhile_intercalate {names : List String} (h : ∀ name ∈ names, ProperName name) :
    ("/".intercalate names).toList.takeWhile (· == '/') = [] := by
  cases names with
  | nil => rfl
  | cons name rest =>
      obtain ⟨hisName, hslash⟩ := h name List.mem_cons_self
      cases hchars : name.toList with
      | nil => simp [isName, hchars] at hisName
      | cons c chars =>
          have hc : c ≠ '/' := by
            rintro rfl
            simp [hchars] at hslash
          cases rest <;> simp [hchars, hc]

/-- The slashes at the start tell where a path starts. -/
theorem ofSlashes_length (anchor : Anchor) :
    Anchor.ofSlashes anchor.text.toList.length = anchor := by
  cases anchor <;> rfl

/-- Only slashes stand at the start of a path. -/
theorem eq_slash_of_mem_anchor {anchor : Anchor} {c : Char} (h : c ∈ anchor.text.toList) :
    c = '/' := by
  cases anchor <;> simp_all [Anchor.text]

/-- No name is kept of the slashes at the start. -/
theorem filter_pieces_anchor (anchor : Anchor) (text : List Char) :
    (pieces (anchor.text.toList ++ text)).filter isName = (pieces text).filter isName := by
  cases anchor <;> simp [Anchor.text, pieces, isName]

/-- **A proper path is read back from its text.** -/
theorem ofString_text {path : Path} (h : path.Proper) : ofString path.text = path := by
  obtain ⟨anchor, names⟩ := path
  rw [text]
  split
  · rename_i hempty
    obtain ⟨rfl, rfl⟩ : anchor = .here ∧ names = [] := hempty
    decide
  · have hslashes : (anchor.text.toList ++ ("/".intercalate names).toList).takeWhile (· == '/') =
        anchor.text.toList := by
      rw [List.takeWhile_append_of_pos, takeWhile_intercalate h, List.append_nil]
      intro c hc
      simpa using eq_slash_of_mem_anchor hc
    rw [ofString, String.toList_append, hslashes, ofSlashes_length, filter_pieces_anchor,
      filter_pieces_intercalate h]

end Path

/-! ### Files that are found -/

/-- The names in folders are proper, as those of files are: no slash can stand in one, and a single
dot is the folder itself. -/
def Files.WellNamed (files : Files) : Prop :=
  ∀ path names, files.find? path = some (.folder names) → ∀ name ∈ names, Path.ProperName name

/-- The paths that a proper path stands for are proper. -/
theorem Files.WellNamed.proper_of_mem_expand {files : Files} {settings : Settings}
    {path found : Path} (h : files.WellNamed) (hpath : path.Proper)
    (hfound : found ∈ files.expand settings path) : found.Proper := by
  rw [Files.expand] at hfound
  split at hfound
  · rename_i names hfolder
    obtain ⟨hchild, -⟩ := List.mem_filter.1 hfound
    obtain ⟨name, hname, rfl⟩ := List.mem_map.1 hchild
    exact hpath.child (h path names hfolder name (List.mem_mergeSort.1 hname))
  · obtain rfl := List.mem_singleton.1 hfound
    exact hpath

/-- The paths that operands stand for are proper. -/
theorem Session.proper_of_mem_collect {files : Files} {settings : Settings}
    {operands : List String} {path : Path} (h : files.WellNamed)
    (hpath : path ∈ collect settings files operands) : path.Proper := by
  obtain ⟨operand, -, hexpand⟩ := List.mem_flatMap.1 hpath
  exact h.proper_of_mem_expand (Path.proper_ofString operand) hexpand

/-! ### Trees -/

namespace FileTree

variable {tree : FileTree}

/-- The names in a folder are last names of files. -/
theorem mem_of_mem_namesIn {folder : Folder} {name : String} (h : name ∈ tree.namesIn folder) :
    ∃ file ∈ tree.entries, name ∈ file.names := by
  cases folder with
  | outside => exact absurd h List.not_mem_nil
  | inside names =>
      obtain ⟨file, hfile, hlast⟩ := List.mem_filterMap.1 h
      exact ⟨file, (List.mem_filter.1 hfile).1, List.mem_of_getLast? hlast⟩

/-- A folder that names lead to has the names of one of the folders of the tree. -/
theorem exists_of_walk_eq_folder {names found : List String} {folder : Folder}
    (h : tree.walk folder names = some (.folder found)) :
    ∃ own, found = tree.namesIn own := by
  induction names generalizing folder with
  | nil =>
      simp only [walk, Option.some.injEq, Node.folder.injEq] at h
      exact ⟨folder, h.symm⟩
  | cons name rest ih =>
      rw [walk.eq_def] at h
      dsimp only at h
      split at h
      · exact ih h
      · split at h
        · cases h
        · split at h
          · exact ih h
          · split at h <;> simp at h

/-- The folders of a tree of proper names are well named. -/
theorem wellNamed_files (h : ∀ file ∈ tree.entries, ∀ name ∈ file.names, Path.ProperName name) :
    tree.files.WellNamed := by
  intro path names hfolder name hname
  obtain ⟨own, rfl⟩ := exists_of_walk_eq_folder hfolder
  obtain ⟨file, hfile, hmem⟩ := mem_of_mem_namesIn hname
  exact h file hfile name hmem

end FileTree

end Toolpath
