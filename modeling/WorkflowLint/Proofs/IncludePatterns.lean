import WorkflowLint.Files.Selection
import WorkflowLint.Proofs.NamePatterns

/-!
Contract: include patterns read off the names of a path.

The search for an include pattern goes through a tree, part by part.  In a proper tree, where the entries
of a folder have different names and none of them leads up, it finds a file exactly when the names on the
way to the file spell the pattern: a name stands for itself, a name with wildcards for one matching name,
and two stars for any number of names.  Main statement: `Files.mem_found_iff`.
-/

set_option autoImplicit false

namespace WorkflowLint

namespace FileTree

/-! ## Proper trees -/

mutual

/-- The entries of each folder have different names, and none of them leads up. -/
def IsProper : FileTree → Prop
  | .file _ => True
  | .folder entries => (entries.map Prod.fst).Nodup ∧ AreProper entries

/-- Entries of which none leads up, with proper trees. -/
def AreProper : List (String × FileTree) → Prop
  | [] => True
  | (name, tree) :: rest => name ≠ ".." ∧ tree.IsProper ∧ AreProper rest

end

theorem AreProper.of_mem {entries : List (String × FileTree)} (proper : AreProper entries)
    {name : String} {entry : FileTree} (isEntry : (name, entry) ∈ entries) :
    name ≠ ".." ∧ entry.IsProper := by
  induction entries with
  | nil => cases isEntry
  | cons first rest inductionHypothesis =>
      obtain ⟨plain, tree, others⟩ := proper
      rcases List.mem_cons.mp isEntry with rfl | isEntry
      · exact ⟨plain, tree⟩
      · exact inductionHypothesis others isEntry

theorem IsProper.of_mem {tree : FileTree} (proper : tree.IsProper) {name : String} {entry : FileTree}
    (isEntry : (name, entry) ∈ tree.entries) : name ≠ ".." ∧ entry.IsProper := by
  cases tree with
  | file content => cases isEntry
  | folder entries => exact proper.2.of_mem isEntry

theorem mem_of_lookup {entries : List (String × FileTree)} {name : String} {entry : FileTree}
    (isFound : entries.lookup name = some entry) : (name, entry) ∈ entries := by
  obtain ⟨front, back, rfl, -⟩ := List.lookup_eq_some_iff.mp isFound
  exact List.mem_append_right _ List.mem_cons_self

theorem lookup_of_mem {entries : List (String × FileTree)} (distinct : (entries.map Prod.fst).Nodup)
    {name : String} {entry : FileTree} (isEntry : (name, entry) ∈ entries) :
    entries.lookup name = some entry := by
  obtain ⟨front, back, rfl⟩ := List.append_of_mem isEntry
  refine List.lookup_eq_some_iff.mpr ⟨front, back, rfl, ?_⟩
  intro other isBefore
  rw [List.map_append, List.nodup_append] at distinct
  have isOther : other.1 ≠ name :=
    distinct.2.2 other.1 (List.mem_map_of_mem isBefore) name List.mem_cons_self
  simpa using isOther.symm

theorem IsProper.lookup {tree : FileTree} (proper : tree.IsProper) {name : String} {entry : FileTree}
    (isEntry : (name, entry) ∈ tree.entries) : tree.entries.lookup name = some entry := by
  cases tree with
  | file content => cases isEntry
  | folder entries => exact lookup_of_mem proper.1 isEntry

/-! ## Below a tree -/

/-- A tree stands below another, at a path of entries. -/
inductive Holds : FileTree → List String → FileTree → Prop where
  | self (tree : FileTree) : Holds tree [] tree
  | deeper {tree entry part : FileTree} {name : String} {path : List String}
      (isEntry : (name, entry) ∈ tree.entries) (holds : Holds entry path part) :
      Holds tree (name :: path) part

mutual

theorem mem_folders_iff {path target : List String} : ∀ {tree : FileTree}, target ∈ folders path tree ↔
    ∃ names part, target = path ++ names ∧ Holds tree names part ∧ part.isFolder = true
  | .file content => by
      constructor
      · intro isIn
        cases isIn
      · rintro ⟨names, part, -, holds, isFolder⟩
        cases holds with
        | self => cases isFolder
        | deeper isEntry holds => cases isEntry
  | .folder entries => by
      rw [folders, List.mem_cons, mem_foldersOf_iff]
      constructor
      · rintro (rfl | ⟨name, entry, names, part, isEntry, rfl, holds, isFolder⟩)
        · exact ⟨[], .folder entries, (List.append_nil _).symm, .self _, rfl⟩
        · exact ⟨name :: names, part, rfl, .deeper isEntry holds, isFolder⟩
      · rintro ⟨names, part, rfl, holds, isFolder⟩
        cases holds with
        | self => exact .inl (List.append_nil _)
        | deeper isEntry holds => exact .inr ⟨_, _, _, part, isEntry, rfl, holds, isFolder⟩

theorem mem_foldersOf_iff {path target : List String} : ∀ {entries : List (String × FileTree)},
    target ∈ foldersOf path entries ↔ ∃ name entry names part, (name, entry) ∈ entries ∧
      target = path ++ name :: names ∧ Holds entry names part ∧ part.isFolder = true
  | [] => by simp [foldersOf]
  | (first, tree) :: rest => by
      rw [foldersOf, List.mem_append, mem_folders_iff, mem_foldersOf_iff]
      constructor
      · rintro (⟨names, part, rfl, holds, isFolder⟩ | ⟨name, entry, names, part, isEntry, found⟩)
        · exact ⟨first, tree, names, part, List.mem_cons_self, by simp, holds, isFolder⟩
        · exact ⟨name, entry, names, part, List.mem_cons_of_mem _ isEntry, found⟩
      · rintro ⟨name, entry, names, part, isEntry, rfl, holds, isFolder⟩
        rcases List.mem_cons.mp isEntry with isFirst | isEntry
        · obtain ⟨rfl, rfl⟩ := Prod.mk.inj isFirst
          exact .inl ⟨names, part, by simp, holds, isFolder⟩
        · exact .inr ⟨name, entry, names, part, isEntry, rfl, holds, isFolder⟩

end

/-! ## Walks -/

theorem walk_name {name : String} (plain : name ≠ "..") (above : List FileTree) (tree : FileTree)
    (path : List String) : walk above tree (name :: path) =
      (tree.entries.lookup name).bind fun entry => walk (tree :: above) entry path := by
  have notUp : ¬(name == "..") = true := by simpa using plain
  cases tree with
  | file content => rw [walk.eq_def]; rfl
  | folder entries =>
      rw [walk.eq_def]
      simp only [isFolder, Bool.not_true, Bool.false_eq_true, if_false, if_neg notUp]
      cases (folder entries).entries.lookup name with
      | some entry => rfl
      | none => rfl

theorem walk_up (above : List FileTree) (tree : FileTree) (path : List String) :
    walk above tree (".." :: path) =
      if tree.isFolder then walk above.tail (above.headD empty) path else none := by
  cases above with
  | nil => cases tree <;> rfl
  | cons parent more => cases tree <;> rfl

private theorem walk_isProper {above : List FileTree} {tree part : FileTree} {path : List String}
    (proper : tree.IsProper) (aboveProper : ∀ parent ∈ above, parent.IsProper)
    (walks : walk above tree path = some part) : part.IsProper := by
  induction path generalizing above tree with
  | nil => exact Option.some.inj walks ▸ proper
  | cons name path inductionHypothesis =>
      by_cases isUp : name = ".."
      · rw [isUp, walk_up, Option.ite_none_right_eq_some] at walks
        cases above with
        | nil =>
            have emptyProper : empty.IsProper := ⟨List.nodup_nil, trivial⟩
            exact inductionHypothesis emptyProper aboveProper walks.2
        | cons parent more =>
            obtain ⟨parentProper, moreProper⟩ := List.forall_mem_cons.mp aboveProper
            exact inductionHypothesis parentProper moreProper walks.2
      · rw [walk_name isUp] at walks
        obtain ⟨entry, isFound, walks⟩ := Option.bind_eq_some_iff.mp walks
        have entryProper : entry.IsProper := (proper.of_mem (mem_of_lookup isFound)).2
        exact inductionHypothesis entryProper (List.forall_mem_cons.mpr ⟨proper, aboveProper⟩) walks

private theorem walk_concat {name : String} (plain : name ≠ "..") (above : List FileTree)
    (tree : FileTree)
    (path : List String) : walk above tree (path ++ [name]) =
      (walk above tree path).bind fun here => here.entries.lookup name := by
  induction path generalizing above tree with
  | nil =>
      rw [List.nil_append, walk_name plain]
      exact Option.bind_fun_some _
  | cons first path inductionHypothesis =>
      rw [List.cons_append]
      by_cases isUp : first = ".."
      · rw [isUp, walk_up, walk_up]
        split
        · exact inductionHypothesis _ _
        · rfl
      · rw [walk_name isUp, walk_name isUp, Option.bind_assoc]
        exact congrArg _ (funext fun entry => inductionHypothesis _ entry)

private theorem isFolder_of_walk {above : List FileTree} {tree part : FileTree} {name : String}
    {path names : List String} (walks : walk above tree (path ++ name :: names) = some part) :
    ∃ here, walk above tree path = some here ∧ here.isFolder = true := by
  induction path generalizing above tree with
  | nil =>
      refine ⟨tree, rfl, ?_⟩
      cases tree with
      | file content => cases walks
      | folder entries => rfl
  | cons first path inductionHypothesis =>
      rw [List.cons_append] at walks
      by_cases isUp : first = ".."
      · rw [isUp, walk_up, Option.ite_none_right_eq_some] at walks
        obtain ⟨here, isHere, isFolder⟩ := inductionHypothesis walks.2
        exact ⟨here, by rw [isUp, walk_up, if_pos walks.1, isHere], isFolder⟩
      · rw [walk_name isUp] at walks
        obtain ⟨entry, isFound, walks⟩ := Option.bind_eq_some_iff.mp walks
        obtain ⟨here, isHere, isFolder⟩ := inductionHypothesis walks
        exact ⟨here, by rw [walk_name isUp, isFound, Option.bind_some, isHere], isFolder⟩

end FileTree

/-! ## Searching from a folder -/

/-- What a search can rely on: the trees are proper, the entries of a folder stand at its path with their
names added, and there are folders above all else. -/
structure Explores (find : List String → Option FileTree) : Prop where
  isProper {path : List String} {here : FileTree} : find path = some here → here.IsProper
  next {name : String} (plain : name ≠ "..") (path : List String) :
    find (path ++ [name]) = (find path).bind fun here => here.entries.lookup name
  above {path names : List String} {name : String} {part : FileTree} :
    find (path ++ name :: names) = some part → ∃ here, find path = some here ∧ here.isFolder = true

namespace Explores

variable {find : List String → Option FileTree}

theorem find_entry (explores : Explores find) {path : List String} {here entry : FileTree} {name : String}
    (isHere : find path = some here) (isEntry : (name, entry) ∈ here.entries) :
    find (path ++ [name]) = some entry := by
  have proper : here.IsProper := explores.isProper isHere
  rw [explores.next (proper.of_mem isEntry).1, isHere, Option.bind_some, proper.lookup isEntry]

private theorem find_of_holds (explores : Explores find) {path names : List String}
    {here part : FileTree}
    (isHere : find path = some here) (holds : here.Holds names part) :
    find (path ++ names) = some part ∧ ∀ name ∈ names, name ≠ ".." := by
  induction holds generalizing path with
  | self tree => exact ⟨by rwa [List.append_nil], by simp⟩
  | @deeper tree entry part name names isEntry holds inductionHypothesis =>
      obtain ⟨isPart, plain⟩ := inductionHypothesis (explores.find_entry isHere isEntry)
      rw [List.append_assoc, List.singleton_append] at isPart
      refine ⟨isPart, List.forall_mem_cons.mpr ⟨?_, plain⟩⟩
      exact ((explores.isProper isHere).of_mem isEntry).1

private theorem exists_holds (explores : Explores find) {path names : List String} {part : FileTree}
    (plain : ∀ name ∈ names, name ≠ "..") (isPart : find (path ++ names) = some part) :
    ∃ here, find path = some here ∧ here.Holds names part := by
  induction names generalizing path with
  | nil => exact ⟨part, by rwa [List.append_nil] at isPart, .self part⟩
  | cons name names inductionHypothesis =>
      obtain ⟨first, others⟩ := List.forall_mem_cons.mp plain
      rw [← List.singleton_append, ← List.append_assoc] at isPart
      obtain ⟨entry, isNext, holds⟩ := inductionHypothesis others isPart
      rw [explores.next first] at isNext
      obtain ⟨here, isHere, isFound⟩ := Option.bind_eq_some_iff.mp isNext
      exact ⟨here, isHere, .deeper (FileTree.mem_of_lookup isFound) holds⟩

end Explores

/-! ## Names that spell a pattern -/

/-- A part of a pattern stands for names of a path. -/
inductive GlobPart.StandsFor : GlobPart → List String → Prop where
  | name (name : String) : StandsFor (.name name) [name]
  | wildcard {pattern name : String} (plain : name ≠ "..") (fits : Glob.fits pattern name = true) :
      StandsFor (.wildcard pattern) [name]
  | anyFolders {folders : List String} (plain : ∀ folder ∈ folders, folder ≠ "..") :
      StandsFor .anyFolders folders

theorem GlobPart.StandsFor.ne_nil {part : GlobPart} {names : List String} (stands : part.StandsFor names)
    (single : part ≠ .anyFolders) : names ≠ [] := by
  cases stands with
  | name name => exact List.cons_ne_nil _ _
  | wildcard plain fits => exact List.cons_ne_nil _ _
  | anyFolders plain => exact absurd rfl single

/-- The names of a path spell the pattern of a file: they fall into parts for which the parts of the
pattern stand, and the pattern does not end like one for folders. -/
structure IncludeGlob.Spelled (glob : IncludeGlob) (names : List String) : Prop where
  filesToo : glob.foldersOnly = false
  ending : glob.parts.getLast? ≠ some .anyFolders
  divided : Divided GlobPart.StandsFor glob.parts names

theorem IncludeGlob.Spelled.ne_nil {glob : IncludeGlob} {names : List String}
    (spelled : glob.Spelled names) (hasParts : glob.parts ≠ []) : names ≠ [] := by
  obtain ⟨front, last, isParts⟩ : ∃ front last, glob.parts = front ++ [last] :=
    ⟨_, _, (List.dropLast_concat_getLast hasParts).symm⟩
  have single : last ≠ .anyFolders := by simpa [isParts] using spelled.ending
  obtain ⟨left, right, rfl, -, below⟩ := divided_append_iff.mp (isParts ▸ spelled.divided)
  obtain ⟨part, after, rfl, stands, -⟩ := divided_cons_iff.mp below
  exact List.append_ne_nil_of_right_ne_nil _
    (List.append_ne_nil_of_left_ne_nil (stands.ne_nil single) _)

/-! ## The search for a pattern -/

namespace IncludeGlob

variable {find : List String → Option FileTree} {foldersOnly : Bool}

theorem mayStand_iff {rest : List GlobPart} {entry : FileTree} :
    mayStand foldersOnly rest entry = true ↔
      entry.isFolder = true ∨ rest = [] ∧ foldersOnly = false := by
  simp [mayStand]

private theorem mem_select_name_iff {name : String} {rest : List GlobPart}
    {path target : List String} :
    target ∈ select find foldersOnly (.name name :: rest) path ↔
      ∃ entry, find (path ++ [name]) = some entry ∧ mayStand foldersOnly rest entry = true ∧
        target ∈ select find foldersOnly rest (path ++ [name]) := by
  rw [select]
  cases isEntry : find (path ++ [name]) with
  | none => simp
  | some entry => simp

private theorem mem_select_wildcard_iff {pattern : String} {rest : List GlobPart}
    {path target : List String} :
    target ∈ select find foldersOnly (.wildcard pattern :: rest) path ↔
      ∃ here name entry, find path = some here ∧ (name, entry) ∈ here.entries ∧
        mayStand foldersOnly rest entry = true ∧ Glob.fits pattern name = true ∧
        target ∈ select find foldersOnly rest (path ++ [name]) := by
  rw [select]
  cases isHere : find path with
  | none => simp
  | some here => simp [and_assoc]

private theorem mem_select_anyFolders_iff {rest : List GlobPart} {path target : List String} :
    target ∈ select find foldersOnly (.anyFolders :: rest) path ↔
      ∃ here names part, find path = some here ∧ here.Holds names part ∧ part.isFolder = true ∧
        target ∈ select find foldersOnly rest (path ++ names) := by
  rw [select]
  cases isHere : find path with
  | none => simp
  | some here =>
      simp only [Option.map_some, Option.getD_some, List.mem_flatMap, FileTree.mem_folders_iff]
      constructor
      · rintro ⟨folder, ⟨names, part, rfl, holds, isFolder⟩, isIn⟩
        exact ⟨here, names, part, rfl, holds, isFolder, isIn⟩
      · rintro ⟨other, names, part, isHere, holds, isFolder, isIn⟩
        cases isHere
        exact ⟨path ++ names, ⟨names, part, rfl, holds, isFolder⟩, isIn⟩

/-- One step of the search: the first part stands for names that lead to an entry, which is a folder, or
whatever the last part of a pattern for files may stand for. -/
theorem mem_select_cons_iff (explores : Explores find) {part : GlobPart} {rest : List GlobPart}
    {path target : List String} : target ∈ select find foldersOnly (part :: rest) path ↔
      ∃ names entry, part.StandsFor names ∧ find (path ++ names) = some entry ∧
        (entry.isFolder = true ∨ part ≠ .anyFolders ∧ rest = [] ∧ foldersOnly = false) ∧
        target ∈ select find foldersOnly rest (path ++ names) := by
  cases part with
  | name name =>
      rw [mem_select_name_iff]
      constructor
      · rintro ⟨entry, isEntry, mayStand, isIn⟩
        refine ⟨[name], entry, .name name, isEntry, ?_, isIn⟩
        exact (mayStand_iff.mp mayStand).imp_right fun last => ⟨by simp, last⟩
      · rintro ⟨names, entry, stands, isEntry, admitted, isIn⟩
        cases stands with
        | name => exact ⟨entry, isEntry, mayStand_iff.mpr (admitted.imp_right And.right), isIn⟩
  | wildcard pattern =>
      rw [mem_select_wildcard_iff]
      constructor
      · rintro ⟨here, name, entry, isHere, isEntry, mayStand, fits, isIn⟩
        have plain : name ≠ ".." := ((explores.isProper isHere).of_mem isEntry).1
        refine ⟨[name], entry, .wildcard plain fits, explores.find_entry isHere isEntry, ?_, isIn⟩
        exact (mayStand_iff.mp mayStand).imp_right fun last => ⟨by simp, last⟩
      · rintro ⟨names, entry, stands, isNext, admitted, isIn⟩
        cases stands with
        | @wildcard _ name plain fits =>
            rw [explores.next plain] at isNext
            obtain ⟨here, isHere, isFound⟩ := Option.bind_eq_some_iff.mp isNext
            refine ⟨here, name, entry, isHere, FileTree.mem_of_lookup isFound, ?_, fits, isIn⟩
            exact mayStand_iff.mpr (admitted.imp_right And.right)
  | anyFolders =>
      rw [mem_select_anyFolders_iff]
      constructor
      · rintro ⟨here, names, part, isHere, holds, isFolder, isIn⟩
        obtain ⟨isPart, plain⟩ := explores.find_of_holds isHere holds
        exact ⟨names, part, .anyFolders plain, isPart, .inl isFolder, isIn⟩
      · rintro ⟨names, entry, stands, isEntry, admitted, isIn⟩
        cases stands with
        | anyFolders plain =>
            obtain ⟨here, isHere, holds⟩ := explores.exists_holds plain isEntry
            have isFolder : entry.isFolder = true := admitted.resolve_right fun last => last.1 rfl
            exact ⟨here, names, entry, isHere, holds, isFolder, isIn⟩

private theorem mem_select_last_iff (explores : Explores find) {part : GlobPart}
    {path target : List String}
    {leaf : FileTree} (isLeaf : find target = some leaf) (notFolder : leaf.isFolder = false) :
    target ∈ select find foldersOnly [part] path ↔
      foldersOnly = false ∧ part ≠ .anyFolders ∧ ∃ names, target = path ++ names ∧ part.StandsFor names := by
  rw [mem_select_cons_iff explores]
  constructor
  · rintro ⟨names, entry, stands, isEntry, admitted, isIn⟩
    obtain rfl : target = path ++ names := List.mem_singleton.mp isIn
    cases isLeaf.symm.trans isEntry
    obtain ⟨single, -, filesToo⟩ := admitted.resolve_left (by simp [notFolder])
    exact ⟨filesToo, single, names, rfl, stands⟩
  · rintro ⟨filesToo, single, names, rfl, stands⟩
    exact ⟨names, leaf, stands, isLeaf, .inr ⟨single, rfl, filesToo⟩, List.mem_singleton.mpr rfl⟩

private theorem spelled_single_iff {part : GlobPart} {names : List String} :
    Spelled ⟨[part], foldersOnly⟩ names ↔
    foldersOnly = false ∧ part ≠ .anyFolders ∧ part.StandsFor names := by
  constructor
  · rintro ⟨filesToo, ending, divided⟩
    obtain ⟨first, after, rfl, stands, divided⟩ := divided_cons_iff.mp divided
    obtain rfl := divided_nil_iff.mp divided
    exact ⟨filesToo, by simpa using ending, by rwa [List.append_nil]⟩
  · rintro ⟨filesToo, single, stands⟩
    refine ⟨filesToo, by simpa using single, ?_⟩
    exact divided_cons_iff.mpr ⟨names, [], by simp, stands, divided_nil_iff.mpr rfl⟩

private theorem spelled_cons_iff {part : GlobPart} {rest : List GlobPart} (isInner : rest ≠ [])
    {names : List String} : Spelled ⟨part :: rest, foldersOnly⟩ names ↔
      ∃ first behind, names = first ++ behind ∧ part.StandsFor first ∧
        Spelled ⟨rest, foldersOnly⟩ behind := by
  have isEnding : (part :: rest).getLast? = rest.getLast? := List.getLast?_cons_of_ne_nil isInner
  constructor
  · rintro ⟨filesToo, ending, divided⟩
    obtain ⟨first, behind, isNames, stands, divided⟩ := divided_cons_iff.mp divided
    exact ⟨first, behind, isNames, stands, filesToo, isEnding ▸ ending, divided⟩
  · rintro ⟨first, behind, isNames, stands, filesToo, ending, divided⟩
    refine ⟨filesToo, by rwa [isEnding], ?_⟩
    exact divided_cons_iff.mpr ⟨first, behind, isNames, stands, divided⟩

/-- The search finds a file exactly when the names that lead to it spell the pattern. -/
theorem mem_select_iff (explores : Explores find) {parts : List GlobPart} (hasParts : parts ≠ [])
    {path target : List String} {leaf : FileTree} (isLeaf : find target = some leaf)
    (notFolder : leaf.isFolder = false) : target ∈ select find foldersOnly parts path ↔
      ∃ names, target = path ++ names ∧ Spelled ⟨parts, foldersOnly⟩ names := by
  induction parts generalizing path with
  | nil => exact absurd rfl hasParts
  | cons part rest inductionHypothesis =>
      by_cases isInner : rest = []
      · rw [isInner, mem_select_last_iff explores isLeaf notFolder]
        simp only [spelled_single_iff]
        tauto
      · rw [mem_select_cons_iff explores]
        simp only [spelled_cons_iff isInner]
        constructor
        · rintro ⟨first, entry, stands, isEntry, -, isIn⟩
          obtain ⟨behind, rfl, spelled⟩ := (inductionHypothesis isInner).mp isIn
          exact ⟨first ++ behind, List.append_assoc .., first, behind, rfl, stands, spelled⟩
        · rintro ⟨_, rfl, first, behind, rfl, stands, spelled⟩
          -- The names behind the first part are not all used up, so that part leads to a folder.
          obtain ⟨name, more, rfl⟩ := List.exists_cons_of_ne_nil (spelled.ne_nil isInner)
          obtain ⟨entry, isEntry, isFolder⟩ := explores.above (List.append_assoc .. ▸ isLeaf)
          refine ⟨first, entry, stands, isEntry, .inl isFolder, ?_⟩
          exact (inductionHypothesis isInner).mpr
            ⟨name :: more, (List.append_assoc ..).symm, spelled⟩

end IncludeGlob

/-! ## Searching below a root -/

theorem Workspace.inside?_below {workspace : Workspace} {root : FilePath} {parts : List String}
    (isInside : workspace.inside? root = some parts) (path : List String) :
    workspace.inside? (root.below path) = some (parts ++ path) := by
  rw [inside?] at isInside ⊢
  by_cases isHere : (root.anchor.isEmpty || root.anchor == workspace.place) = true
  · rw [if_pos isHere] at isInside
    rw [FilePath.below, if_pos isHere, ← Option.some.inj isInside]
  · rw [if_neg isHere, Option.ite_none_right_eq_some, List.isPrefixOf_iff_prefix] at isInside
    obtain ⟨isBelow, isRest⟩ := isInside
    have isLonger : FilePath.splitParts workspace.place <+: root.parts ++ path :=
      isBelow.trans (List.prefix_append _ _)
    rw [FilePath.below, if_neg isHere, if_pos (List.isPrefixOf_iff_prefix.mpr isLonger),
      List.drop_append_of_le_length isBelow.length_le, Option.some.inj isRest]

private theorem Workspace.explores_below {workspace : Workspace} (proper : workspace.tree.IsProper)
    {root : FilePath} (hasFolder : workspace.hasFolder root = true) :
    Explores fun path => workspace.find? (root.below path) := by
  obtain ⟨here, isHere, -⟩ := (Option.any_eq_true ..).mp hasFolder
  obtain ⟨parts, isInside, -⟩ := Option.bind_eq_some_iff.mp isHere
  have isWalk (path : List String) :
      workspace.find? (root.below path) = FileTree.walk [] workspace.tree (parts ++ path) := by
    rw [find?, inside?_below isInside]
    rfl
  constructor
  · intro path here isHere
    rw [isWalk] at isHere
    exact FileTree.walk_isProper proper (by simp) isHere
  · intro name plain path
    rw [isWalk, isWalk, ← List.append_assoc]
    exact FileTree.walk_concat plain ..
  · intro path names name part isPart
    rw [isWalk, ← List.append_assoc] at isPart
    obtain ⟨here, isHere, isFolder⟩ := FileTree.isFolder_of_walk isPart
    exact ⟨here, by rw [isWalk, isHere], isFolder⟩

/-- An include pattern stands for a file exactly when the names from the root to the file spell it. -/
theorem Files.mem_found_iff {workspace : Workspace} (proper : workspace.tree.IsProper) {root : FilePath}
    {glob : IncludeGlob} {names : List String} (hasFile : workspace.hasFile (root.below names) = true) :
    names ∈ found workspace root glob ↔ workspace.hasFolder root = true ∧ glob.Spelled names := by
  rw [found, List.mem_ite_nil_right]
  refine and_congr_right fun hasFolder => ?_
  obtain ⟨leaf, isLeaf, isFile⟩ := (Option.any_eq_true ..).mp hasFile
  have notFolder : leaf.isFolder = false := by
    cases leaf with
    | file content => rfl
    | folder entries => cases isFile
  have explores := Workspace.explores_below proper hasFolder
  by_cases hasParts : glob.parts = []
  · -- Without parts only the root itself is left, which is a folder.
    have notRoot : names ≠ [] := by
      rintro rfl
      obtain ⟨here, isHere, isFolder⟩ := (Option.any_eq_true ..).mp hasFolder
      have isRoot : root.below [] = root := by simp [FilePath.below]
      rw [isRoot, isHere] at isLeaf
      simp [Option.some.inj isLeaf, notFolder] at isFolder
    rw [hasParts]
    constructor
    · intro isIn
      exact absurd (List.mem_singleton.mp isIn) notRoot
    · rintro ⟨-, -, divided⟩
      exact absurd (divided_nil_iff.mp (hasParts ▸ divided)) notRoot
  · rw [IncludeGlob.mem_select_iff explores hasParts isLeaf notFolder]
    simp

end WorkflowLint
