import Mathlib.Data.List.Basic
import SchemaTyping.Keyed
import SchemaTyping.Project.FileTree
import SchemaTyping.Proofs.Outcome
import SchemaTyping.Proofs.Text.Pieces

/-!
# What a path leads to

A path is followed name by name, and each name on the way has to be that of a
directory. Where it leads if it leads anywhere is decided by its components
alone (`Path.target`), so two spellings of one path that both lead to a file
lead to the same file.

A file system has no names with a slash in them, and no names for the
directory itself or the one above (`IsFileName`). In such a tree the files
listed in a directory are the entries right below it (`at?_join`).
-/

namespace SchemaTyping

/-! ## Components -/

/-- The names after one more component. -/
def Component.move (names : List String) : Component → List String
  | .name last => names ++ [last]
  | .above => names.dropLast
  | .root | .here => names

/-- **Where a path leads** if each name on the way is that of a directory. -/
def Path.target (path : Path) : List String :=
  path.components.foldl Component.move []

theorem Path.foldl_components (path : Path) (names : List String) :
    path.components.foldl Component.move names
      = (path.segments.filterMap componentOf?).foldl Component.move names := by
  unfold components
  dsimp only
  split
  · rfl
  · split <;> rfl

namespace FileTree

variable {tree other : FileTree} {names result : List String}
  {segment name : String} {path directory : Path} {entry : FileEntry}

/-- **One step along a path** leads on from a directory only. -/
theorem step_eq_ok_iff : tree.step names segment = .ok result ↔
    tree.entry? names = some .directory
      ∧ result = (Path.componentOf? segment).elim names (Component.move names) := by
  unfold step
  split
  · next hnone => simp [hnone]
  · next hdirectory =>
    rw [hdirectory]
    cases Path.componentOf? segment with
    | none => simp [eq_comm]
    | some component => cases component <;> simp [Component.move, eq_comm]
  · next hother hentry =>
    rw [hentry]
    simpa using fun h => absurd h hother

theorem foldl_segments_of_ok {segments : List String}
    (h : segments.foldlM tree.step names = .ok result) :
    result = (segments.filterMap Path.componentOf?).foldl Component.move names := by
  induction segments generalizing names with
  | nil => exact (Except.ok.inj h).symm
  | cons segment segments ih =>
    rw [List.foldlM_cons, bind_eq_ok_iff] at h
    obtain ⟨next, hstep, hrest⟩ := h
    obtain ⟨-, rfl⟩ := step_eq_ok_iff.mp hstep
    rw [ih hrest, List.filterMap_cons]
    cases Path.componentOf? segment <;> rfl

/-- **A path that leads anywhere** leads to its target. -/
theorem eq_target_of_follow (h : tree.follow path = .ok names) : names = path.target := by
  rw [foldl_segments_of_ok h, Path.target, Path.foldl_components]

theorem at?_eq_ok_iff : tree.at? path = .ok entry ↔
    ∃ names, tree.follow path = .ok names ∧ tree.entry? names = some entry := by
  unfold at?
  rw [bind_eq_ok_iff]
  refine exists_congr fun names => and_congr_right fun _ => ?_
  cases tree.entry? names <;> simp

theorem entry?_target_of_at? (h : tree.at? path = .ok entry) :
    tree.entry? path.target = some entry := by
  obtain ⟨names, hfollow, hentry⟩ := at?_eq_ok_iff.mp h
  rwa [← eq_target_of_follow hfollow]

/-- **Two spellings of a path** do not lead to different entries. -/
theorem eq_of_at?_of_components {entry' : FileEntry} {path' : Path}
    (h : tree.at? path = .ok entry) (h' : tree.at? path' = .ok entry')
    (hcomponents : path.components = path'.components) : entry = entry' := by
  have htarget : path.target = path'.target := by rw [Path.target, hcomponents, Path.target]
  have hentry := entry?_target_of_at? h
  rw [htarget, entry?_target_of_at? h'] at hentry
  exact (Option.some.inj hentry).symm

theorem isFile_iff : tree.isFile path = true ↔
    ∃ entry, tree.at? path = .ok entry ∧ entry ≠ .directory := by
  unfold isFile
  split
  · next h => simp [h]
  · next h => simp [h]
  · next entry hne h =>
    rw [h]
    simpa using hne

theorem isDirectory_iff : tree.isDirectory path = true ↔ tree.at? path = .ok .directory := by
  unfold isDirectory
  split
  · next h => simp [h]
  · next hne =>
    simpa using hne

end FileTree

/-! ## Below a directory -/

namespace Path

/-- **A name that a directory may list**: a segment of a path on its own, and
one that leads down. -/
structure IsFileName (name : String) : Prop where
  isName : componentOf? name = some (.name name)
  noSlash : '/' ∉ name.toList

instance (name : String) : Decidable (IsFileName name) :=
  decidable_of_iff (componentOf? name = some (.name name) ∧ '/' ∉ name.toList)
    ⟨fun h => ⟨h.1, h.2⟩, fun h => ⟨h.isName, h.noSlash⟩⟩

theorem piecesOf_ne_nil (text : List Char) : piecesOf text ≠ [] := by
  induction text with
  | nil => exact List.cons_ne_nil _ _
  | cons c rest ih =>
    rw [piecesOf]
    split
    · exact List.cons_ne_nil _ _
    · obtain ⟨piece, pieces, heq⟩ := List.exists_cons_of_ne_nil ih
      rw [heq]
      exact List.cons_ne_nil _ _

theorem piecesOf_append (text rest : List Char) :
    piecesOf (text ++ '/' :: rest) = piecesOf text ++ piecesOf rest := by
  induction text with
  | nil => simp [piecesOf]
  | cons c text ih =>
    rw [List.cons_append, piecesOf, piecesOf, ih]
    split
    · rfl
    · obtain ⟨piece, pieces, heq⟩ := List.exists_cons_of_ne_nil (piecesOf_ne_nil text)
      rw [heq]
      rfl

theorem piecesOf_eq {text : List Char} (h : '/' ∉ text) : piecesOf text = [text] := by
  induction text with
  | nil => rfl
  | cons c text ih =>
    obtain ⟨hc, htext⟩ := not_or.mp (mt List.mem_cons.mpr h)
    rw [piecesOf, if_neg (Ne.symm hc), ih htext]
    rfl

/-- **The segments of a path below a directory** are those of the directory, up
to an empty one at its end, and the name. -/
theorem segments_join {name : String} (h : IsFileName name) (directory : Path) :
    ∃ segments, (directory.join ⟨name⟩).segments = segments ++ [name]
      ∧ (directory.segments = segments ∨ directory.segments = segments ++ [""]) := by
  obtain ⟨text⟩ := directory
  have hrelative : Path.isAbsolute ⟨name⟩ = false := by
    refine beq_eq_false_iff_ne.mpr fun hhead => ?_
    exact h.noSlash (List.mem_of_head? hhead)
  have hbelow : ∀ before : List Char, (piecesOf (before ++ '/' :: name.toList)).map String.ofList
      = (piecesOf before).map String.ofList ++ [name] := by
    intro before
    rw [piecesOf_append, piecesOf_eq h.noSlash]
    simp
  unfold join segments
  rw [hrelative, if_neg Bool.false_ne_true]
  split
  · next hend =>
    rw [Bool.or_eq_true, String.isEmpty_iff, beq_iff_eq] at hend
    rcases hend with rfl | hslash
    · refine ⟨[], ?_, .inr rfl⟩
      rw [String.empty_append, piecesOf_eq h.noSlash]
      simp
    · obtain ⟨before, hbefore⟩ := List.getLast?_eq_some_iff.mp hslash
      refine ⟨(piecesOf before).map String.ofList, ?_, .inr ?_⟩
      · rw [String.toList_append, hbefore, List.append_assoc]
        exact hbelow before
      · rw [hbefore, piecesOf_append]
        simp [piecesOf]
  · refine ⟨_, ?_, .inl rfl⟩
    rw [String.toList_append, String.toList_append, List.append_assoc]
    exact hbelow text.toList

end Path

namespace FileTree

variable {tree other : FileTree} {names result : List String}
  {segment name : String} {path directory : Path} {entry : FileEntry}

theorem foldlM_concat_eq_ok_iff {segments : List String} :
    (segments ++ [segment]).foldlM tree.step [] = .ok result ↔
      ∃ above, segments.foldlM tree.step [] = .ok above
        ∧ tree.step above segment = .ok result := by
  rw [List.foldlM_append, bind_eq_ok_iff]
  refine exists_congr fun above => and_congr_right fun _ => ?_
  show tree.step above segment >>= pure = _ ↔ _
  rw [bind_pure]

/-- **Following a path below a directory** is following the path of the
directory and taking one step from there. -/
theorem follow_join (h : Path.IsFileName name) :
    tree.follow (directory.join ⟨name⟩) = .ok result ↔
      ∃ above, tree.follow directory = .ok above
        ∧ tree.entry? above = some .directory ∧ result = above ++ [name] := by
  obtain ⟨segments, hjoin, hsegments⟩ := Path.segments_join h directory
  have hfollow : tree.follow (directory.join ⟨name⟩) = .ok result ↔
      ∃ above, segments.foldlM tree.step [] = .ok above
        ∧ tree.entry? above = some .directory ∧ result = above ++ [name] := by
    rw [follow, hjoin, foldlM_concat_eq_ok_iff]
    refine exists_congr fun above => and_congr_right fun _ => ?_
    rw [step_eq_ok_iff, h.isName]
    rfl
  rw [hfollow, follow]
  rcases hsegments with heq | heq
  · rw [heq]
  · -- the empty segment at the end asks for a directory, as the name does
    rw [heq]
    refine exists_congr fun above => ?_
    rw [foldlM_concat_eq_ok_iff]
    constructor
    · rintro ⟨habove, hdirectory, hresult⟩
      exact ⟨⟨above, habove, step_eq_ok_iff.mpr ⟨hdirectory, rfl⟩⟩, hdirectory, hresult⟩
    · rintro ⟨⟨value, hvalue, hstep⟩, hdirectory, hresult⟩
      obtain ⟨-, rfl⟩ := step_eq_ok_iff.mp hstep
      exact ⟨hvalue, hdirectory, hresult⟩

/-- **What a directory has under a name** is the entry right below it. -/
theorem at?_join (h : Path.IsFileName name) (hfollow : tree.follow directory = .ok names) :
    tree.at? (directory.join ⟨name⟩) = .ok entry ↔
      tree.entry? names = some .directory ∧ tree.entry? (names ++ [name]) = some entry := by
  rw [at?_eq_ok_iff]
  constructor
  · rintro ⟨result, hjoin, hentry⟩
    obtain ⟨above, habove, hdirectory, rfl⟩ := (follow_join h).mp hjoin
    obtain rfl : names = above := Except.ok.inj (hfollow.symm.trans habove)
    exact ⟨hdirectory, hentry⟩
  · rintro ⟨hdirectory, hentry⟩
    exact ⟨_, (follow_join h).mpr ⟨names, hfollow, hdirectory, rfl⟩, hentry⟩

/-! ## The files of a directory -/

/-- **The names of a tree** are names that a directory may list. -/
def WellNamed (tree : FileTree) : Prop :=
  ∀ entry ∈ tree.entries, ∀ name ∈ entry.1, Path.IsFileName name

instance (tree : FileTree) : Decidable tree.WellNamed :=
  inferInstanceAs (Decidable (∀ entry ∈ tree.entries, ∀ name ∈ entry.1, Path.IsFileName name))

theorem WellNamed.isFileName (h : tree.WellNamed) (hname : name ∈ tree.namesBelow names) :
    Path.IsFileName name := by
  obtain ⟨⟨path, content⟩, hentry, hlast⟩ := List.mem_filterMap.mp hname
  dsimp only at hlast
  split at hlast
  · next last heq =>
    split at hlast
    · cases hlast
      exact h _ hentry name (List.mem_of_getLast? heq)
    · cases hlast
  · cases hlast

theorem isFile_of_mem_filesIn {extensions : List String}
    (h : path ∈ tree.filesIn extensions directory) : tree.isFile path = true := by
  unfold filesIn at h
  split at h
  · rw [List.mem_filter, Bool.and_eq_true] at h
    exact h.2.1
  · cases h

/-- **No files are listed where there is no directory.** -/
theorem filesIn_eq_nil (h : tree.WellNamed) (hdirectory : tree.isDirectory directory = false)
    (extensions : List String) : tree.filesIn extensions directory = [] := by
  refine List.eq_nil_iff_forall_not_mem.mpr fun path hpath => ?_
  obtain ⟨entry, hat, -⟩ := isFile_iff.mp (isFile_of_mem_filesIn hpath)
  unfold filesIn at hpath
  split at hpath
  · next names hfollow =>
    obtain ⟨name, hname, rfl⟩ := List.mem_map.mp (List.mem_filter.mp hpath).1
    obtain ⟨hentry, -⟩ := (at?_join (h.isFileName hname) hfollow).mp hat
    rw [Bool.eq_false_iff] at hdirectory
    exact hdirectory (isDirectory_iff.mpr (at?_eq_ok_iff.mpr ⟨names, hfollow, hentry⟩))
  · cases hpath

/-! ## In any order -/

theorem lookup_eq_some_iff_mem {α β : Type} [BEq α] [LawfulBEq α] {entries : List (α × β)}
    (h : (entries.map (·.1)).Nodup) {key : α} {value : β} :
    entries.lookup key = some value ↔ (key, value) ∈ entries := by
  induction entries with
  | nil => simp
  | cons first rest ih =>
    obtain ⟨name, item⟩ := first
    obtain ⟨hfirst, hrest⟩ := List.nodup_cons.mp h
    by_cases heq : key = name
    · subst heq
      have hnot : (key, value) ∉ rest := fun hmem =>
        hfirst (List.mem_map_of_mem (f := (·.1)) hmem)
      simp [hnot, eq_comm]
    · rw [Keyed.lookup_cons_of_ne heq, ih hrest]
      simp [heq]

theorem entry?_of_perm (h : tree.entries.Perm other.entries) : tree.entry? = other.entry? := by
  funext names
  have hlookup : tree.entries.lookup names = other.entries.lookup names := by
    ext entry
    rw [lookup_eq_some_iff_mem tree.distinct, lookup_eq_some_iff_mem other.distinct, h.mem_iff]
  unfold entry?
  rw [hlookup]

theorem follow_of_perm (h : tree.entries.Perm other.entries) (path : Path) :
    tree.follow path = other.follow path := by
  unfold follow step
  rw [entry?_of_perm h]

/-- **The order of the entries** does not matter to a path. -/
theorem at?_of_perm (h : tree.entries.Perm other.entries) (path : Path) :
    tree.at? path = other.at? path := by
  unfold at?
  rw [follow_of_perm h, entry?_of_perm h]

theorem filesIn_of_perm (h : tree.entries.Perm other.entries) (extensions : List String)
    (directory : Path) :
    (tree.filesIn extensions directory).Perm (other.filesIn extensions directory) := by
  have hfile : tree.isFile = other.isFile := by
    funext path
    rw [isFile, isFile, at?_of_perm h]
  unfold filesIn
  rw [follow_of_perm h, hfile]
  split
  · exact ((h.filterMap _).map _).filter _
  · exact .refl _

/-! ## Without a file -/

theorem entry?_erase (tree : FileTree) (result : List String) (hne : names ≠ []) :
    entry? (tree.erase names) result
      = if result = names then none else tree.entry? result := by
  unfold entry? erase
  dsimp only
  rw [Keyed.lookup_filter (· ≠ names)]
  split
  · next hempty =>
    rw [List.isEmpty_iff.mp hempty, if_neg hne.symm]
  · simp

/-- **Paths pass directories only**, so it is the directories of a tree that
decide where they lead. -/
theorem follow_eq_ok_congr
    (h : ∀ names, tree.entry? names = some .directory ↔ other.entry? names = some .directory) :
    tree.follow path = .ok result ↔ other.follow path = .ok result := by
  have hsegments : ∀ (segments names : List String),
      segments.foldlM tree.step names = .ok result
        ↔ segments.foldlM other.step names = .ok result := by
    intro segments
    induction segments with
    | nil => exact fun names => Iff.rfl
    | cons segment segments ih =>
      intro names
      rw [List.foldlM_cons, List.foldlM_cons, bind_eq_ok_iff, bind_eq_ok_iff]
      refine exists_congr fun next => ?_
      rw [step_eq_ok_iff, step_eq_ok_iff, h, ih]
  exact hsegments path.segments []

section Erase

variable (hentry : tree.entry? names = some entry) (hne : entry ≠ .directory)

include hentry hne

theorem ne_nil_of_file : names ≠ [] := by
  rintro rfl
  exact hne (Option.some.inj hentry).symm

/-- **Without a file** the other paths lead where they did. -/
theorem follow_erase :
    (tree.erase names).follow path = .ok result ↔ tree.follow path = .ok result := by
  refine follow_eq_ok_congr fun other => ?_
  rw [tree.entry?_erase other (ne_nil_of_file hentry hne)]
  split
  · next heq =>
    rw [heq, hentry]
    simp [hne]
  · rfl

theorem at?_erase {found : FileEntry} :
    (tree.erase names).at? path = .ok found
      ↔ tree.at? path = .ok found ∧ tree.follow path ≠ .ok names := by
  rw [at?_eq_ok_iff, at?_eq_ok_iff]
  constructor
  · rintro ⟨result, hfollow, hfound⟩
    rw [tree.entry?_erase _ (ne_nil_of_file hentry hne)] at hfound
    split at hfound
    · cases hfound
    · next hresult =>
      have hpath := (follow_erase hentry hne).mp hfollow
      refine ⟨⟨result, hpath, hfound⟩, fun hnames => hresult ?_⟩
      exact Except.ok.inj (hpath.symm.trans hnames)
  · rintro ⟨⟨result, hfollow, hfound⟩, hpath⟩
    have hresult : result ≠ names := by
      rintro rfl
      exact hpath hfollow
    refine ⟨result, (follow_erase hentry hne).mpr hfollow, ?_⟩
    rw [tree.entry?_erase _ (ne_nil_of_file hentry hne), if_neg hresult, hfound]

end Erase

theorem namesBelow_erase (tree : FileTree) (names above : List String) :
    (tree.erase names).namesBelow above
      = (tree.namesBelow above).filter fun name => above ++ [name] ≠ names := by
  unfold namesBelow erase
  rw [List.filterMap_filter, List.filter_filterMap]
  refine List.filterMap_congr fun entry _ => ?_
  obtain ⟨path, content⟩ := entry
  dsimp only
  cases hlast : path.getLast? with
  | none => simp
  | some last =>
    obtain ⟨front, rfl⟩ := List.getLast?_eq_some_iff.mp hlast
    by_cases heq : front = above <;> simp [heq, Option.filter]

end FileTree

end SchemaTyping
