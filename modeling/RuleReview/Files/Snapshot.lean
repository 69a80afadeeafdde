import RuleReview.Files.Tree

/-!
# Snapshots

A run works on a tree of folders and files, not on a disk.  Before it, what it may look at is taken
into a tree, path by path; after it, the files that it wrote are those in which the tree has
changed.

## What is here

* `FileTree.plant` — a tree with something put at a path.
* `FileTree.files` — all files of a tree that can be read, with their paths.
* `FileTree.folders` — all folders of a tree with their paths.
* `FileTree.changes`, `FileTree.newFolders` — the files and the folders that a later tree has and an
  earlier one has not.
-/

set_option autoImplicit false

namespace RuleReview

/-- All that the system was seen to refuse in two looks at one folder. -/
def Bars.combine (earlier later : Bars) : Bars where
  opening := earlier.opening.or later.opening
  listing := earlier.listing.or later.listing
  entering := earlier.entering.or later.entering
  adding := earlier.adding.or later.adding

namespace FileTree

/-- What is known from two looks at one place: the entries that either of them showed, and what
either of them was refused. -/
def combine : FileTree → FileTree → FileTree
  | .folder earlier bars, .folder later others =>
    .folder (later.foldl (fun (entries : List (Text × FileTree)) (name, entry) =>
      if (Keyed.find? name entries).isSome then entries else Keyed.put name entry entries) earlier)
      (bars.combine others)
  | here, _ => here

/-- The tree with something put where names lead from a place.  Folders on the way are made; a file
on the way stays, and so does everything that is there already. -/
def plantFrom (p : Place) : List Text → FileTree → FileTree
  | [], leaf => Place.rebuild p.above (combine p.here leaf)
  | name :: rest, leaf =>
    match p.step? name with
    | .ok next => plantFrom next rest leaf
    | .error .notFound =>
      plantFrom (p.enter name (if rest.isEmpty then leaf else .folder [])) rest leaf
    | .error _ => Place.rebuild p.above p.here

/-- The tree with something put where names lead. -/
def plant (tree : FileTree) (names : List Text) (leaf : FileTree) : FileTree :=
  plantFrom ⟨[], tree⟩ names leaf

mutual

/-- The files of a tree that can be read, with their paths, which continue the path of the tree. -/
def files (path : Text) : FileTree → List (Text × List UInt8)
  | .file bytes => [(path, bytes)]
  | .sealed _ => []
  | .folder entries _ => filesOf path entries

/-- The files of the entries of a folder. -/
def filesOf (path : Text) : List (Text × FileTree) → List (Text × List UInt8)
  | [] => []
  | (name, entry) :: rest => files (joinPath path name) entry ++ filesOf path rest

/-- The paths of the folders in a tree, each before those inside it. -/
def folders (path : Text) : FileTree → List Text
  | .file _ | .sealed _ => []
  | .folder entries _ => path :: foldersOf path entries

/-- The paths of the folders in the entries of a folder. -/
def foldersOf (path : Text) : List (Text × FileTree) → List Text
  | [] => []
  | (name, entry) :: rest => folders (joinPath path name) entry ++ foldersOf path rest

end

/-- The folders that a later tree has and an earlier one has not. -/
def newFolders (earlier later : FileTree) : List Text :=
  let old := earlier.folders []
  (later.folders []).filter (!old.contains ·)

/-- The files that a later tree has and an earlier one has not, or has with other contents. -/
def changes (earlier later : FileTree) : List (Text × List UInt8) :=
  let old := earlier.files []
  (later.files []).filter fun f => old.lookup f.1 ≠ some f.2

end FileTree
end RuleReview
