import Mathlib.Data.List.Perm.Basic
import SchemaTyping.Project.Source
import SchemaTyping.Proofs.Project.Listing
import SchemaTyping.Proofs.Project.PathOrder

/-!
# The order of migrations

The migrations of a project come from several directories, each of which lists
its files in an order of its own. The loader sorts the files of a directory by
their paths and then all files by their names, and leaves out what cannot be
read.

Neither the order of the listings nor that of the directories is left in the
result. Any list of the readable files that is in order (`InOrder`) has the
same migrations (`inDirectories_eq`): two such lists differ at most in files
that tie, which are one file under two spellings (`ofFile?_eq_of_components`).
A directory that is given twice is read twice, and its files then follow
themselves.

So the operations depend on the readable files and on nothing else
(`operationsIn_congr`). What cannot be read may be removed, and a directory
that is not there need not be named. This needs a tree as file systems have
them: where the name of a file could contain a slash, the file would stand for
another one, which can be read.
-/

namespace SchemaTyping

open Document

/-- The operations that a file holds, if it can be read. -/
def FileEntry.operations? : FileEntry → Option (List Operation)
  | .text content => (Operation.readList content).toOption
  | .binary | .directory => none

namespace Migration

variable {tree other : FileTree} {directories others paths : List Path}
  {path path' directory : Path} {names : List String} {entry : FileEntry}

/-- The operations in a file: none if it cannot be read. -/
def operationsOf (tree : FileTree) (path : Path) : List Operation :=
  ((ofFile? tree path).map (·.operations)).getD []

theorem toOption_eq_some_iff {α ε : Type} {first : Except ε α} {value : α} :
    first.toOption = some value ↔ first = .ok value := by
  cases first <;> simp [Except.toOption]

theorem ofFile?_eq (tree : FileTree) (path : Path) :
    ofFile? tree path
      = ((tree.at? path).toOption.bind (·.operations?)).map fun operations =>
          ⟨path.stem, operations⟩ := by
  unfold ofFile? ofFile FileTree.readFile FileTree.read
  cases hat : tree.at? path with
  | error error => rfl
  | ok entry =>
    cases entry with
    | text content =>
      simp only [failing, within, Except.mapError, bind, Except.bind, Except.toOption,
        Option.bind_some, FileEntry.operations?]
      cases Operation.readList content <;> rfl
    | binary => rfl
    | directory => rfl

/-- A file that can be read is a file. -/
theorem isFile_of_ofFile? (h : (ofFile? tree path).isSome = true) :
    tree.isFile path = true := by
  rw [ofFile?_eq] at h
  rw [FileTree.isFile_iff]
  cases hat : tree.at? path with
  | error error => simp [hat, Except.toOption] at h
  | ok entry =>
    refine ⟨entry, rfl, ?_⟩
    rintro rfl
    simp [hat, Except.toOption, FileEntry.operations?] at h

/-- **One file under two spellings** holds the same migration. -/
theorem ofFile?_eq_of_components (h : tree.isFile path = true)
    (h' : tree.isFile path' = true) (hcomponents : path.components = path'.components) :
    ofFile? tree path = ofFile? tree path' := by
  obtain ⟨entry, hat, -⟩ := FileTree.isFile_iff.mp h
  obtain ⟨entry', hat', -⟩ := FileTree.isFile_iff.mp h'
  obtain rfl := FileTree.eq_of_at?_of_components hat hat' hcomponents
  have hstem : path.stem = path'.stem := by
    rw [Path.stem, Path.fileName?, hcomponents, Path.stem, Path.fileName?]
  rw [ofFile?_eq, ofFile?_eq, hat, hat', hstem]

/-! ## Sorted files -/

/-- The files in some directories that can be read as migrations, in whatever
order they are listed. -/
def readable (tree : FileTree) (directories : List Path) : List Path :=
  (directories.flatMap (tree.filesIn extensions)).filter fun path =>
    (ofFile? tree path).isSome

/-- **The files of the migrations in order**: by their names, and those of one
name by their paths. -/
structure InOrder (tree : FileTree) (directories paths : List Path) : Prop where
  perm : paths.Perm (readable tree directories)
  ascending : paths.Pairwise Path.ByName

/-- What cannot be read adds nothing. -/
theorem operations_filterMap (tree : FileTree) (paths : List Path) :
    (paths.filterMap (ofFile? tree)).flatMap (·.operations)
      = paths.flatMap (operationsOf tree) := by
  induction paths with
  | nil => rfl
  | cons path rest ih =>
    cases hfile : ofFile? tree path with
    | none => simp [hfile, ih, operationsOf]
    | some migration => simp [hfile, ih, operationsOf]

theorem files_perm (tree : FileTree) (directories : List Path) :
    (files tree directories).Perm (directories.flatMap (tree.filesIn extensions)) :=
  (List.mergeSort_perm _ _).trans
    (List.Perm.flatMap_left _ fun _ _ => List.mergeSort_perm _ _)

theorem ascending_files (tree : FileTree) (directories : List Path) :
    (files tree directories).Pairwise Path.ByName := by
  have hsorted : (files tree directories).Pairwise fun a b => a.leByName b = true := by
    unfold files
    refine List.pairwise_mergeSort ?_ Path.leByName_total _
    exact fun _ _ _ h h' => Path.leByName_trans h h'
  exact hsorted.imp Path.leByName_iff.mp

/-- There is such an order, and the loader takes it. -/
theorem inOrder_files (tree : FileTree) (directories : List Path) :
    InOrder tree directories
      ((files tree directories).filter fun path => (ofFile? tree path).isSome) :=
  ⟨(files_perm tree directories).filter _, (ascending_files tree directories).filter _⟩

theorem isFile_of_mem_readable (h : path ∈ readable tree directories) :
    tree.isFile path = true :=
  isFile_of_ofFile? (List.mem_filter.mp h).2

/-- **Whichever way the files are put in order**, their migrations in that order
are those of the loader. -/
theorem inDirectories_eq (h : InOrder tree directories paths) :
    inDirectories tree directories = paths.filterMap (ofFile? tree) := by
  have hfiles := inOrder_files tree directories
  have hfile : ∀ {path}, path ∈ paths → tree.isFile path = true := fun hpath =>
    isFile_of_mem_readable (h.perm.mem_iff.mp hpath)
  have hmap := map_eq_of_perm_of_pairwise (f := ofFile? tree)
    (h.perm.trans hfiles.perm.symm) h.ascending hfiles.ascending fun a ha b hb hle hle' =>
      ofFile?_eq_of_components (hfile ha) (hfile hb) (hle.components_eq hle')
  have hmigrations := congrArg (List.filterMap id) hmap
  rw [List.filterMap_map, List.filterMap_map, List.filterMap_filter] at hmigrations
  refine Eq.trans ?_ hmigrations.symm
  refine List.filterMap_congr fun path _ => ?_
  cases hread : ofFile? tree path <;> simp [hread]

/-- So are their operations. -/
theorem operationsIn_eq (h : InOrder tree directories paths) :
    operationsIn tree directories = paths.flatMap (operationsOf tree) := by
  rw [operationsIn, inDirectories_eq h, operations_filterMap]

/-- **Two listings of the same readable files** give the same operations. -/
theorem operationsIn_congr (hperm : (readable tree directories).Perm (readable other others))
    (hfile : ∀ path ∈ readable tree directories,
      operationsOf tree path = operationsOf other path) :
    operationsIn tree directories = operationsIn other others := by
  have hfiles := inOrder_files tree directories
  have hothers : InOrder other others _ := ⟨hfiles.perm.trans hperm, hfiles.ascending⟩
  rw [operationsIn_eq hfiles, operationsIn_eq hothers, List.flatMap_def, List.flatMap_def]
  refine congrArg List.flatten (List.map_congr_left fun path hpath => ?_)
  exact hfile path (hfiles.perm.mem_iff.mp hpath)

/-! ## Without what cannot be read -/

theorem ofFile?_of_perm (h : tree.entries.Perm other.entries) :
    ofFile? tree = ofFile? other := by
  funext path
  rw [ofFile?_eq, ofFile?_eq, FileTree.at?_of_perm h]

theorem operationsIn_of_perm (h : tree.entries.Perm other.entries)
    (hdirectories : directories.Perm others) :
    operationsIn tree directories = operationsIn other others := by
  refine operationsIn_congr ?_ fun path _ => ?_
  · unfold readable
    rw [ofFile?_of_perm h]
    exact (hdirectories.flatMap fun directory _ =>
      FileTree.filesIn_of_perm h extensions directory).filter _
  · unfold operationsOf
    rw [ofFile?_of_perm h]

/-- **A directory that is missing** adds nothing. -/
theorem operationsIn_of_missing (h : tree.WellNamed)
    (hdirectory : tree.isDirectory directory = false) (before after : List Path) :
    operationsIn tree (before ++ directory :: after) = operationsIn tree (before ++ after) := by
  refine operationsIn_congr ?_ fun _ _ => rfl
  unfold readable
  rw [List.flatMap_append, List.flatMap_cons, FileTree.filesIn_eq_nil h hdirectory,
    List.nil_append, List.flatMap_append]

/-- The files of a directory that can be read are those of its names that have
the extension and can be read. -/
theorem filter_filesIn {above : List String} (hfollow : tree.follow directory = .ok above) :
    ((tree.filesIn extensions directory).filter fun path => (ofFile? tree path).isSome)
      = ((tree.namesBelow above).map fun name => directory.join ⟨name⟩).filter fun path =>
          path.extension?.any extensions.contains && (ofFile? tree path).isSome := by
  unfold FileTree.filesIn
  rw [hfollow, List.filter_filter]
  refine List.filter_congr fun path _ => ?_
  cases hread : (ofFile? tree path).isSome with
  | false => simp
  | true => simp [isFile_of_ofFile? hread]

section Erase

variable (hentry : tree.entry? names = some entry) (hne : entry ≠ .directory)
  (hnone : entry.operations? = none)

include hentry hnone in
/-- A path to a file that cannot be read gives no migration. -/
theorem ofFile?_eq_none (hfollow : tree.follow path = .ok names) :
    ofFile? tree path = none := by
  have hat : tree.at? path = .ok entry :=
    FileTree.at?_eq_ok_iff.mpr ⟨names, hfollow, hentry⟩
  rw [ofFile?_eq, hat]
  simp [Except.toOption, hnone]

include hentry hnone in
theorem ofFile?_join_eq_none {above : List String} {name : String}
    (hname : Path.IsFileName name) (hfollow : tree.follow directory = .ok above)
    (heq : above ++ [name] = names) : ofFile? tree (directory.join ⟨name⟩) = none := by
  cases hjoin : tree.follow (directory.join ⟨name⟩) with
  | error error =>
    rw [ofFile?_eq, FileTree.at?, hjoin]
    rfl
  | ok result =>
    refine ofFile?_eq_none hentry hnone ?_
    obtain ⟨above', habove, -, rfl⟩ := (FileTree.follow_join hname).mp hjoin
    obtain rfl : above = above' := Except.ok.inj (hfollow.symm.trans habove)
    rw [hjoin, heq]

include hentry hne hnone

/-- Nor does the path give one when the file is gone, and the other paths give
what they gave. -/
theorem ofFile?_erase (path : Path) :
    ofFile? (tree.erase names) path = ofFile? tree path := by
  by_cases hfollow : tree.follow path = .ok names
  · rw [ofFile?_eq_none hentry hnone hfollow, ofFile?_eq]
    cases hat : (tree.erase names).at? path with
    | error error => rfl
    | ok found => exact absurd hfollow ((FileTree.at?_erase hentry hne).mp hat).2
  · have hat : ((tree.erase names).at? path).toOption = (tree.at? path).toOption := by
      ext found
      rw [toOption_eq_some_iff, toOption_eq_some_iff, FileTree.at?_erase hentry hne,
        and_iff_left hfollow]
    rw [ofFile?_eq, ofFile?_eq, hat]

theorem filter_filesIn_erase (hnamed : tree.WellNamed) (directory : Path) :
    ((tree.erase names).filesIn extensions directory).filter
        (fun path => (ofFile? (tree.erase names) path).isSome)
      = (tree.filesIn extensions directory).filter
        (fun path => (ofFile? tree path).isSome) := by
  cases hfollow : tree.follow directory with
  | error error =>
    have herased : ∀ above, (tree.erase names).follow directory ≠ .ok above := by
      intro above h
      rw [FileTree.follow_erase hentry hne, hfollow] at h
      cases h
    unfold FileTree.filesIn
    rw [hfollow]
    split
    · next above h => exact absurd h (herased above)
    · rfl
  | ok above =>
    rw [filter_filesIn hfollow,
      filter_filesIn ((FileTree.follow_erase hentry hne).mpr hfollow),
      funext (ofFile?_erase hentry hne hnone), FileTree.namesBelow_erase,
      List.filter_map, List.filter_map, List.filter_filter]
    refine congrArg _ (List.filter_congr fun name hname => ?_)
    by_cases heq : above ++ [name] = names
    · have hgone := ofFile?_join_eq_none hentry hnone (hnamed.isFileName hname) hfollow heq
      simp [hgone]
    · simp [heq]

/-- **A file that cannot be read** adds nothing. -/
theorem operationsIn_erase (hnamed : tree.WellNamed) (directories : List Path) :
    operationsIn (tree.erase names) directories = operationsIn tree directories := by
  refine operationsIn_congr (.of_eq ?_) fun path _ => ?_
  · unfold readable
    rw [List.filter_flatMap, List.filter_flatMap]
    exact congrArg List.flatten (List.map_congr_left fun directory _ =>
      filter_filesIn_erase hentry hne hnone hnamed directory)
  · rw [operationsOf, operationsOf, ofFile?_erase hentry hne hnone]

end Erase

/-- Two directories with a file name in common, and a third that is missing. -/
def mergedTree : FileTree where
  entries := [
    (["b"], .directory),
    (["b", "2024_b.yaml"], .text "operations: [{op: drop_table, table: b}]"),
    (["b", "2025_z.yaml"], .text "operations: [{op: nope}]"),
    (["b", "2020_a.yml"], .text "operations: [{op: drop_table, table: first}]"),
    (["a"], .directory),
    (["a", "2024_b.yaml"], .text "operations: [{op: drop_table, table: a}]"),
    (["a", "notes.md"], .text "operations: [{op: drop_table, table: notes}]")]
  distinct := by decide

end Migration

end SchemaTyping
