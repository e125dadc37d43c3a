import Mathlib.Data.List.Induction
import WorkflowLint.Proofs.IncludePatterns
import WorkflowLint.Proofs.Sequence

/-!
Contract: the selected files.

The selection lists each file once, in the order of the parts of its path, when some include pattern
stands for it and no ignore pattern takes it out.  It depends on the patterns only as sets.  Main
statement: `Files.collect_lists_chosen`.
-/

set_option autoImplicit false

namespace WorkflowLint.Files

/-! ## The order of paths -/

theorem precedes_iff {left right : List String} :
    precedes left right = true ↔ left = right ∨ List.Lex (· < ·) left right := by
  induction left generalizing right with
  | nil =>
      cases right with
      | nil => simp [precedes]
      | cons second rights => simp [precedes]
  | cons first lefts inductionHypothesis =>
      cases right with
      | nil => simp [precedes]
      | cons second rights =>
          rw [precedes, List.cons_lex_cons_iff]
          by_cases isSame : first = second
          · simp [isSame, inductionHypothesis]
          · simp [isSame]

private theorem precedes_trans (left middle right : List String) (first : precedes left middle = true)
    (second : precedes middle right = true) : precedes left right = true := by
  rw [precedes_iff] at first second ⊢
  rcases first with rfl | first
  · exact second
  · rcases second with rfl | second
    · exact .inr first
    · exact .inr (List.lex_trans String.lt_trans first second)

private theorem precedes_total (left right : List String) :
    (precedes left right || precedes right left) = true := by
  induction left generalizing right with
  | nil => rfl
  | cons first lefts inductionHypothesis =>
      cases right with
      | nil => rfl
      | cons second rights =>
          rw [precedes, precedes]
          by_cases isSame : first = second
          · simpa [isSame] using inductionHypothesis rights
          · have isOrdered : first < second ∨ second < first := by
              by_contra neither
              rw [not_or, String.not_lt, String.not_lt] at neither
              exact isSame (String.le_antisymm neither.2 neither.1)
            simpa [isSame, Ne.symm isSame] using isOrdered

private theorem eraseDups_nodup {α : Type} [BEq α] [LawfulBEq α] (items : List α) :
    items.eraseDups.Nodup := by
  induction items using List.reverseRecOn with
  | nil => exact List.nodup_nil
  | append_singleton front last inductionHypothesis =>
      rw [List.eraseDups_append]
      by_cases isIn : last ∈ front
      · have isRepeated : [last].removeAll front = [] := by simp [List.removeAll, isIn]
        simpa [isRepeated] using inductionHypothesis
      · have isNew : [last].removeAll front = [last] := by simp [List.removeAll, isIn]
        rw [isNew]
        refine List.nodup_append.mpr ⟨inductionHypothesis, by simp [List.eraseDups_cons], ?_⟩
        rintro item isOld other isLast rfl
        rw [List.mem_eraseDups] at isOld isLast
        exact isIn (List.mem_singleton.mp isLast ▸ isOld)

/-- The order of paths sorts them, and no path stands twice. -/
theorem sorted_eraseDups (paths : List (List String)) :
    (paths.eraseDups.mergeSort precedes).Pairwise (List.Lex (· < ·)) := by
  have sorted : (paths.eraseDups.mergeSort precedes).Pairwise (precedes · · = true) :=
    List.pairwise_mergeSort precedes_trans precedes_total _
  have distinct : (paths.eraseDups.mergeSort precedes).Nodup :=
    (List.mergeSort_perm _ _).nodup_iff.mpr (eraseDups_nodup paths)
  refine (sorted.and distinct).imp ?_
  intro left right both
  exact (precedes_iff.mp both.1).resolve_left both.2

private theorem eq_of_sorted {lefts rights : List (List String)}
    (leftSorted : lefts.Pairwise (List.Lex (· < ·)))
    (rightSorted : rights.Pairwise (List.Lex (· < ·))) (isSame : ∀ path, path ∈ lefts ↔ path ∈ rights) :
    lefts = rights := by
  have distinct {paths : List (List String)} (sorted : paths.Pairwise (List.Lex (· < ·))) :
      paths.Nodup := by
    refine sorted.imp ?_
    rintro path _ before rfl
    exact List.lex_irrefl String.lt_irrefl path before
  have permuted : lefts.Perm rights :=
    (List.perm_ext_iff_of_nodup (distinct leftSorted) (distinct rightSorted)).mpr isSame
  refine permuted.eq_of_pairwise ?_ leftSorted rightSorted
  intro left right _ _ before after
  exact absurd after (List.lex_asymm String.lt_asymm before)

/-! ## The files chosen -/

/-- The names lead from the root to a file, some include pattern stands for them, and no ignore pattern
takes them out. -/
structure Chosen (workspace : Workspace) (root : FilePath) (files : FilesSection) (names : List String) :
    Prop where
  isFile : workspace.hasFile (root.below names) = true
  included : ∃ pattern ∈ files.includes, ∃ glob,
    IncludeGlob.ofText pattern = .ok glob ∧ names ∈ found workspace root glob
  kept : ∀ pattern ∈ files.ignores, ¬Glob.TakesOut pattern.toList ("/".intercalate names).toList

private theorem isSelected_iff {workspace : Workspace} {root : FilePath} {ignores : List String}
    {names : List String} : isSelected workspace root ignores names = true ↔
      workspace.hasFile (root.below names) = true ∧
        ∀ pattern ∈ ignores, ¬Glob.TakesOut pattern.toList ("/".intercalate names).toList := by
  rw [isSelected, Bool.and_eq_true, Bool.not_eq_true', ← Bool.not_eq_true, Glob.isIgnored_iff]
  simp only [not_exists, not_and]

/-- When every include pattern can be read, there is a selection: in order, each path once, and of the
chosen files only. -/
theorem exists_selected (workspace : Workspace) (root : FilePath) {files : FilesSection}
    (read : ∀ pattern ∈ files.includes, ∃ glob, IncludeGlob.ofText pattern = .ok glob) :
    ∃ paths, selected workspace root files = .ok paths ∧ paths.Pairwise (List.Lex (· < ·)) ∧
      ∀ names, names ∈ paths ↔ Chosen workspace root files names := by
  obtain ⟨globs, isRead, isGlob⟩ := Sequence.exists_mapM read
  refine ⟨_, by rw [selected, isRead]; rfl, sorted_eraseDups _, ?_⟩
  intro names
  rw [List.mem_mergeSort, List.mem_eraseDups, List.mem_filter, isSelected_iff, List.mem_flatMap]
  constructor
  · rintro ⟨⟨glob, isIn, isFound⟩, isFile, kept⟩
    obtain ⟨pattern, isPattern, isOwn⟩ := (isGlob glob).mp isIn
    exact ⟨isFile, ⟨pattern, isPattern, glob, isOwn, isFound⟩, kept⟩
  · rintro ⟨isFile, ⟨pattern, isPattern, glob, isOwn, isFound⟩, kept⟩
    exact ⟨⟨glob, (isGlob glob).mpr ⟨pattern, isPattern, isOwn⟩, isFound⟩, isFile, kept⟩

private theorem chosen_congr {workspace : Workspace} {root : FilePath} {files others : FilesSection}
    (sameIncludes : ∀ pattern, pattern ∈ others.includes ↔ pattern ∈ files.includes)
    (sameIgnores : ∀ pattern, pattern ∈ others.ignores ↔ pattern ∈ files.ignores) {names : List String} :
    Chosen workspace root others names ↔ Chosen workspace root files names := by
  constructor
  · rintro ⟨isFile, ⟨pattern, isPattern, included⟩, kept⟩
    refine ⟨isFile, ⟨pattern, (sameIncludes pattern).mp isPattern, included⟩, ?_⟩
    exact fun pattern isPattern => kept pattern ((sameIgnores pattern).mpr isPattern)
  · rintro ⟨isFile, ⟨pattern, isPattern, included⟩, kept⟩
    refine ⟨isFile, ⟨pattern, (sameIncludes pattern).mpr isPattern, included⟩, ?_⟩
    exact fun pattern isPattern => kept pattern ((sameIgnores pattern).mp isPattern)

private theorem selected_congr {workspace : Workspace} {root : FilePath} {files others : FilesSection}
    (read : ∀ pattern ∈ files.includes, ∃ glob, IncludeGlob.ofText pattern = .ok glob)
    (sameIncludes : ∀ pattern, pattern ∈ others.includes ↔ pattern ∈ files.includes)
    (sameIgnores : ∀ pattern, pattern ∈ others.ignores ↔ pattern ∈ files.ignores) :
    selected workspace root others = selected workspace root files := by
  have othersRead : ∀ pattern ∈ others.includes, ∃ glob, IncludeGlob.ofText pattern = .ok glob :=
    fun pattern isPattern => read pattern ((sameIncludes pattern).mp isPattern)
  obtain ⟨paths, isSelected, sorted, isChosen⟩ := exists_selected workspace root read
  obtain ⟨otherPaths, otherSelected, otherSorted, otherChosen⟩ :=
    exists_selected workspace root othersRead
  have isSame : otherPaths = paths := by
    refine eq_of_sorted otherSorted sorted ?_
    intro names
    rw [otherChosen, isChosen, chosen_congr sameIncludes sameIgnores]
  rw [otherSelected, isSelected, isSame]

/-- When every include pattern can be read, the selection is a list of paths below the root, strictly
increasing part by part, whose members are exactly the chosen files.  In a proper tree an include pattern
stands for the files whose names spell it.  Patterns may be given in any order and any number of times. -/
theorem collect_lists_chosen (workspace : Workspace) (root : FilePath) (files : FilesSection)
    (read : ∀ pattern ∈ files.includes, ∃ glob, IncludeGlob.ofText pattern = .ok glob) :
    ∃ paths, collect workspace root files = .ok paths ∧
      paths.Pairwise (fun left right => List.Lex (· < ·) left.parts right.parts) ∧
      (∀ path, path ∈ paths ↔ ∃ names, path = root.below names ∧ Chosen workspace root files names) ∧
      (workspace.tree.IsProper → ∀ glob names, workspace.hasFile (root.below names) = true →
        (names ∈ found workspace root glob ↔
          workspace.hasFolder root = true ∧ glob.Spelled names)) ∧
      ∀ others : FilesSection,
        (∀ pattern, pattern ∈ others.includes ↔ pattern ∈ files.includes) →
        (∀ pattern, pattern ∈ others.ignores ↔ pattern ∈ files.ignores) →
        collect workspace root others = .ok paths := by
  obtain ⟨paths, isSelected, sorted, isChosen⟩ := exists_selected workspace root read
  have isCollected : collect workspace root files = .ok (paths.map root.below) := by
    rw [collect, isSelected]
    rfl
  refine ⟨paths.map root.below, isCollected, ?_, ?_, ?_, ?_⟩
  · refine List.pairwise_map.mpr (sorted.imp ?_)
    intro left right before
    exact List.append_left_lt before
  · intro path
    simp only [List.mem_map, isChosen, and_comm, eq_comm]
  · intro proper glob names isFile
    exact mem_found_iff proper isFile
  · intro others sameIncludes sameIgnores
    rw [← isCollected, collect, collect, selected_congr read sameIncludes sameIgnores]

/-- Two flows in a folder, one beside it, and a package file. -/
def flowsWorkspace : Workspace where
  place := "/work"
  tree := .folder [("package.json", .file []),
    ("flows", .folder [("b.json", .file []), ("a.json", .file [])]), ("c.json", .file [])]

/-- Include patterns that stand for the same files. -/
def overlapping : FilesSection where
  includes := ["*.json", "**/*.json"]
  ignores := ["package*.json"]

theorem read_overlapping :
    ∀ pattern ∈ overlapping.includes, ∃ glob, IncludeGlob.ofText pattern = .ok glob := by
  have isRead (pattern : String) (succeeds : (IncludeGlob.ofText pattern).toOption.isSome = true) :
      ∃ glob, IncludeGlob.ofText pattern = .ok glob := by
    obtain ⟨glob, isGlob⟩ := Option.isSome_iff_exists.mp succeeds
    exact ⟨glob, Sequence.toOption_eq_some_iff.mp isGlob⟩
  intro pattern isPattern
  apply isRead
  revert pattern
  decide +kernel

theorem collect_lists_chosen_overlapping :
    (∀ pattern ∈ overlapping.includes, ∃ glob, IncludeGlob.ofText pattern = .ok glob) ∧
      flowsWorkspace.tree.IsProper ∧
      IncludeGlob.Spelled ⟨[.anyFolders, .wildcard "*.json"], false⟩ ["flows", "a.json"] ∧
      ∃ paths, collect flowsWorkspace ⟨"", []⟩ overlapping = .ok paths ∧
        ⟨"", ["flows", "a.json"]⟩ ∈ paths ∧ ⟨"", ["package.json"]⟩ ∉ paths ∧
        collect flowsWorkspace ⟨"", []⟩ ⟨["**/*.json", "*.json", "**/*.json"], ["package*.json"]⟩ =
          .ok paths := by
  have proper : flowsWorkspace.tree.IsProper := by
    simp [flowsWorkspace, FileTree.IsProper, FileTree.AreProper]
  have isFile : flowsWorkspace.hasFile ⟨"", ["flows", "a.json"]⟩ = true := by decide +kernel
  have isFound : ["flows", "a.json"] ∈
      found flowsWorkspace ⟨"", []⟩ ⟨[.anyFolders, .wildcard "*.json"], false⟩ := by decide +kernel
  have main := collect_lists_chosen flowsWorkspace ⟨"", []⟩ overlapping read_overlapping
  obtain ⟨paths, isCollected, -, isChosen, isSpelled, unordered⟩ := main
  have spelled := ((isSpelled proper _ _ isFile).mp isFound).2
  refine ⟨read_overlapping, proper, spelled, paths, isCollected, ?_, ?_, unordered _ ?_ ?_⟩
  · refine (isChosen _).mpr ⟨["flows", "a.json"], rfl, isFile, ?_, ?_⟩
    · refine ⟨"**/*.json", by decide, _, ?_, isFound⟩
      exact Sequence.toOption_eq_some_iff.mp (by decide +kernel)
    · intro pattern isPattern
      rw [List.mem_singleton.mp isPattern, ← Glob.fitsAnywhere_iff]
      decide +kernel
  · intro isIn
    obtain ⟨names, isPath, chosen⟩ := (isChosen _).mp isIn
    have isNames : ["package.json"] = names := congrArg FilePath.parts isPath
    have unmatched := chosen.kept "package*.json" List.mem_cons_self
    rw [← isNames, ← Glob.fitsAnywhere_iff] at unmatched
    exact unmatched (by decide +kernel)
  · intro pattern
    simp [overlapping, or_comm]
  · intro pattern
    rfl

end WorkflowLint.Files
