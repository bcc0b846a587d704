import SchemaTyping.Project.Path

/-!
# File trees

A **file tree** is what a project reads from: files and directories by the
names that lead to them from the root. A path is followed name by name, so
each name on the way has to be that of a directory, also where the next step
leads back up.

Texts that are not well encoded are kept apart as `binary`, because nothing
but this is ever asked of them.
-/

namespace SchemaTyping

/-- What a name in a file tree stands for. -/
inductive FileEntry where
  | text (content : String)
  /-- A file that is no text. -/
  | binary
  | directory
  deriving DecidableEq, Repr

/-- **A file tree**: its entries by the names that lead to them, in whatever
order they are listed. -/
structure FileTree where
  entries : List (List String × FileEntry)
  /-- The names lead to one entry only. -/
  distinct : (entries.map (·.1)).Nodup

/-- Why a file cannot be read. -/
inductive AccessError where
  | notFound
  | notDirectory
  | isDirectory
  | notText
  deriving DecidableEq, Repr

/-- The error in words. -/
def AccessError.message : AccessError → String
  | .notFound => "No such file or directory (os error 2)"
  | .notDirectory => "Not a directory (os error 20)"
  | .isDirectory => "Is a directory (os error 21)"
  | .notText => "stream did not contain valid UTF-8"

namespace FileTree

/-- The tree with nothing in its root. -/
def empty : FileTree := ⟨[], .nil⟩

instance : Inhabited FileTree := ⟨empty⟩

/-- The entry that the names lead to from the root. -/
def entry? (tree : FileTree) (names : List String) : Option FileEntry :=
  if names.isEmpty then some .directory else tree.entries.lookup names

/-- The names after one more segment of a path. -/
def step (tree : FileTree) (names : List String) (segment : String) :
    Except AccessError (List String) :=
  match tree.entry? names with
  | none => .error .notFound
  | some .directory =>
    match Path.componentOf? segment with
    | some (.name name) => .ok (names ++ [name])
    | some .above => .ok names.dropLast
    | _ => .ok names
  | some _ => .error .notDirectory

/-- The names that a path leads along, from the root. -/
def follow (tree : FileTree) (path : Path) : Except AccessError (List String) :=
  path.segments.foldlM tree.step []

/-- **What a path stands for.** -/
def at? (tree : FileTree) (path : Path) : Except AccessError FileEntry := do
  match tree.entry? (← tree.follow path) with
  | some entry => .ok entry
  | none => .error .notFound

/-- Whether there is something at a path. -/
def exists? (tree : FileTree) (path : Path) : Bool := (tree.at? path).isOk

/-- Whether there is a directory at a path. -/
def isDirectory (tree : FileTree) (path : Path) : Bool :=
  match tree.at? path with
  | .ok .directory => true
  | _ => false

/-- Whether there is a file at a path. -/
def isFile (tree : FileTree) (path : Path) : Bool :=
  match tree.at? path with
  | .ok .directory | .error _ => false
  | .ok _ => true

/-- **The text of the file at a path.** -/
def read (tree : FileTree) (path : Path) : Except AccessError String := do
  match ← tree.at? path with
  | .text content => .ok content
  | .binary => .error .notText
  | .directory => .error .isDirectory

/-- The names directly below the directory that the given names lead to. -/
def namesBelow (tree : FileTree) (directory : List String) : List String :=
  tree.entries.filterMap fun (names, _) =>
    match names.getLast? with
    | some name => if names.dropLast = directory then some name else none
    | none => none

/-- **The files in a directory** with one of the given extensions; none if
there is no directory at the path. -/
def filesIn (tree : FileTree) (extensions : List String) (directory : Path) :
    List Path :=
  match tree.follow directory with
  | .ok names =>
    ((tree.namesBelow names).map fun name => directory.join ⟨name⟩).filter
      fun path => tree.isFile path
        && path.extension?.any extensions.contains
  | .error _ => []

/-! ## Changes -/

/-- The tree without the entry that the names lead to. -/
def erase (tree : FileTree) (names : List String) : FileTree where
  entries := tree.entries.filter (·.1 ≠ names)
  distinct := tree.distinct.sublist (List.filter_sublist.map _)

/-- The tree with an entry in place of the one that was there. -/
def put (tree : FileTree) (names : List String) (entry : FileEntry) :
    FileTree where
  entries := (names, entry) :: (tree.erase names).entries
  distinct := by
    refine List.nodup_cons.mpr ⟨?_, (tree.erase names).distinct⟩
    simp [erase]

/-- The tree with a directory where there was nothing. -/
def addDirectory (tree : FileTree) (names : List String) : FileTree :=
  if (tree.entry? names).isSome then tree else tree.put names .directory

/-- The tree with directories along the names. -/
def addDirectories (tree : FileTree) (names : List String) : FileTree :=
  (List.range (names.length + 1)).foldl
    (fun tree count => tree.addDirectory (names.take count)) tree

/-- **Writes an entry**, with the directories that lead to it. -/
def write (tree : FileTree) (names : List String) (entry : FileEntry) :
    FileTree :=
  match entry with
  | .directory => tree.addDirectories names
  | entry => (tree.addDirectories names.dropLast).put names entry

/-- Removes the file that the names lead to; `none` if there is none. -/
def remove? (tree : FileTree) (names : List String) : Option FileTree :=
  match tree.entry? names with
  | some .directory | none => none
  | some _ => some (tree.erase names)

end FileTree

end SchemaTyping
