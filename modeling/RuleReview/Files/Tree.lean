import RuleReview.Names
import RuleReview.Text.Utf8

/-!
# Folders and files

What a run reads and writes is a tree of folders, and files are found in it by paths.  A path is a
sequence of names with slashes between them; empty names and single dots lead nowhere, two dots lead
back up.

The top of a tree is not the top of everything.  A path that begins with a slash starts from the
entry `/` of the tree, and one that leads up from the top goes through its entry `..`.  These
folders are there in any case; a tree without such an entry knows of nothing in them.

A path is followed name by name, and the first name that cannot be followed decides the fault; all
names but the last have to lead to folders.  Making the folders of a path may fail after some of
them were made, so its result is an outcome and the tree that is left.

That a file or folder is there does not mean that it can be used.  The system may refuse to read it,
to list all of it, to go on inside it or to add to it.  What it refuses is part of the tree, so a
look at a tree is a function of the tree, also where it fails.

## What is here

* `FileTree`, with `Refusal` and `Bars` — what is there, and what the system refuses.
* `FileFault` — why a path cannot be used.
* `Place` — where one is in a tree, and following names from there.
* `find?`, `isFolder`, `isFile`, `exists?` — what a path leads to.
* `read?`, `readText?` — the contents of a file; `filesIn?` — the files of a folder, one after the
  other.
* `makeFolders`, `writeFile?` — a tree with more in it.
* `joinPath` — the path of an entry of a folder.
-/

set_option autoImplicit false

namespace RuleReview

open Text

/-- A refusal of the system: its number and its words. -/
structure Refusal where
  /-- The number. -/
  code : Nat
  /-- The words. -/
  reason : Text
  deriving DecidableEq

/-- What the system refuses to do with a folder. -/
structure Bars where
  /-- It does not open the folder to list its entries. -/
  opening : Option Refusal := none
  /-- It breaks off the listing after so many entries. -/
  listing : Option (Nat × Refusal) := none
  /-- It follows no name inside the folder. -/
  entering : Option Refusal := none
  /-- It adds no entry to the folder. -/
  adding : Option Refusal := none
  deriving DecidableEq

/-- A file, or a folder with its entries in the order in which it lists them. -/
inductive FileTree where
  /-- A file. -/
  | file (bytes : List UInt8)
  /-- A file that the system lets nobody read or write. -/
  | sealed (refusal : Refusal)
  /-- A folder. -/
  | folder (entries : List (Text × FileTree)) (bars : Bars := {})

/-- Why a path cannot be used as it is meant to be. -/
inductive FileFault where
  /-- It leads to nothing. -/
  | notFound
  /-- A file is in the place of a folder that is to be made. -/
  | alreadyExists
  /-- It leads through a file. -/
  | notFolder
  /-- It leads to a folder and not to a file. -/
  | isFolder
  /-- One of its names is too long. -/
  | nameTooLong
  /-- It holds a null character. -/
  | nullInName
  /-- The file is not text. -/
  | notText
  /-- It leads to something that the system refuses to use in this way. -/
  | refused (refusal : Refusal)
  deriving DecidableEq

/-- A fault as it is reported. -/
def FileFault.message : FileFault → Text
  | notFound => "No such file or directory (os error 2)"
  | alreadyExists => "File exists (os error 17)"
  | notFolder => "Not a directory (os error 20)"
  | isFolder => "Is a directory (os error 21)"
  | nameTooLong => "File name too long (os error 36)"
  | nullInName => "file name contained an unexpected NUL byte"
  | notText => "stream did not contain valid UTF-8"
  | refused refusal => refusal.reason ++ " (os error " ++ decimal refusal.code ++ ")"

namespace FileTree

/-! ## Paths -/

/-- The pieces of a text between slashes. -/
def splitSlash : Text → List Text
  | [] => [[]]
  | c :: rest =>
    match splitSlash rest with
    | [] => [[c]]
    | piece :: others => if c = '/' then [] :: piece :: others else (c :: piece) :: others

/-- The names along a path; a path that begins with a slash begins with the entry of that name. -/
def names (path : Text) : List Text :=
  match splitSlash path with
  | [] :: rest => "/" :: rest
  | pieces => pieces

/-- The path of an entry of a folder. -/
def joinPath (folder name : Text) : Text :=
  if folder.isEmpty then name
  else if folder.getLast? = some '/' then folder ++ name
  else folder ++ "/" ++ name

/-- The greatest length of a name, in bytes. -/
def maxNameBytes : Nat := 255

/-- The greatest length of a path, in bytes. -/
def maxPathBytes : Nat := 4095

/-- A fault that a path has wherever it is used. -/
def pathFault? (path : Text) : Option FileFault :=
  if path.contains (Char.ofNat 0) then some .nullInName
  else if path.isEmpty then some .notFound
  else if maxPathBytes < (Utf8.encode path).length then some .nameTooLong
  else none

/-! ## Following names -/

/-- What the system refuses to do with what is there as a folder. -/
def bars : FileTree → Bars
  | folder _ bars => bars
  | _ => {}

/-- A folder with an entry set.  A file stays as it is. -/
def put (tree : FileTree) (name : Text) (entry : FileTree) : FileTree :=
  match tree with
  | folder entries bars => folder (Keyed.put name entry entries) bars
  | here => here

/-- A place in a tree. -/
structure Place where
  /-- The folders on the way here with the names taken in them, the nearest first. -/
  above : List (Text × FileTree)
  /-- What is here. -/
  here : FileTree

namespace Place

/-- Whether a name leads nowhere. -/
def staysHere (name : Text) : Bool := name = [] || name = "."

/-- The place of an entry of the folder that is the place. -/
def enter (p : Place) (name : Text) (entry : FileTree) : Place := ⟨(name, p.here) :: p.above, entry⟩

/-- A folder outside of the tree, of which nothing may be known. -/
def outside (p : Place) (entries : List (Text × FileTree)) (name : Text) : Place :=
  p.enter name ((Keyed.find? name entries).getD (.folder []))

/-- Go up from a folder that has the given entries.  Nothing is above the entry `/`. -/
def up (p : Place) (entries : List (Text × FileTree)) : Place :=
  match p.above with
  | [] => p.outside entries ".."
  | (name, parent) :: further =>
    if name = "/" then p
    else if name = ".." then p.outside entries ".."
    else ⟨further, parent⟩

/-- Follow one name.  An empty name and the name `/` are not followed inside the folder. -/
def step? (p : Place) (name : Text) : Except FileFault Place :=
  match p.here with
  | .file _ | .sealed _ => .error .notFolder
  | .folder entries bars =>
    if name = [] then .ok p
    else if name = "/" then .ok (p.outside entries name)
    else
      match bars.entering with
      | some refusal => .error (.refused refusal)
      | none =>
        if name = "." then .ok p
        else if name = ".." then .ok (p.up entries)
        else if maxNameBytes < (Utf8.encode name).length then .error .nameTooLong
        else
          match Keyed.find? name entries with
          | some next => .ok (p.enter name next)
          | none => .error .notFound

/-- Follow names. -/
def follow? (p : Place) (names : List Text) : Except FileFault Place := names.foldlM step? p

/-- The tree with something else in a place, which stands under a chain of folders. -/
def rebuild : List (Text × FileTree) → FileTree → FileTree
  | [], here => here
  | (name, parent) :: further, here => rebuild further (parent.put name here)

/-- The tree with an entry set in the folder that is the place. -/
def withEntry (p : Place) (name : Text) (entry : FileTree) : FileTree :=
  rebuild p.above (p.here.put name entry)

/-- The tree with a new entry in the folder that is the place. -/
def add? (p : Place) (name : Text) (entry : FileTree) : Except FileFault FileTree :=
  match p.here.bars.adding with
  | some refusal => .error (.refused refusal)
  | none => .ok (p.withEntry name entry)

end Place

/-! ## Looking up -/

/-- What names lead to from the top of a tree. -/
def at? (tree : FileTree) (names : List Text) : Except FileFault FileTree :=
  (Place.follow? ⟨[], tree⟩ names).map Place.here

/-- What a path leads to. -/
def find? (tree : FileTree) (path : Text) : Except FileFault FileTree :=
  match pathFault? path with
  | some fault => .error fault
  | none => tree.at? (names path)

/-- Whether a path leads to something. -/
def exists? (tree : FileTree) (path : Text) : Bool :=
  match tree.find? path with
  | .ok _ => true
  | .error _ => false

/-- Whether a path leads to a folder. -/
def isFolder (tree : FileTree) (path : Text) : Bool :=
  match tree.find? path with
  | .ok (.folder _ _) => true
  | _ => false

/-- Whether a path leads to a file. -/
def isFile (tree : FileTree) (path : Text) : Bool :=
  match tree.find? path with
  | .ok (.file _) | .ok (.sealed _) => true
  | _ => false

/-- The contents of a file. -/
def read? (tree : FileTree) (path : Text) : Except FileFault (List UInt8) := do
  match ← tree.find? path with
  | .file bytes => .ok bytes
  | .sealed refusal => .error (.refused refusal)
  | .folder _ bars => .error ((bars.opening.map .refused).getD .isFolder)

/-- The text in a file. -/
def readText? (tree : FileTree) (path : Text) : Except FileFault Text := do
  match Utf8.decode? (← tree.read? path) with
  | some t => .ok t
  | none => .error .notText

/-- The files among some entries of a folder with their contents.  They are read one after the
other, and the first that cannot be read ends it. -/
def readFiles (path : Text) :
    List (Text × FileTree) → Except (Text × FileFault) (List (Text × List UInt8))
  | [] => .ok []
  | (name, .file bytes) :: rest => (readFiles path rest).map ((name, bytes) :: ·)
  | (name, .sealed refusal) :: _ => .error (joinPath path name, .refused refusal)
  | (_, .folder _ _) :: rest => readFiles path rest

/-- The entries of a folder that show what they are: those that are listed, if names in the folder
can be followed. -/
def shown (entries : List (Text × FileTree)) (bars : Bars) : List (Text × FileTree) :=
  if bars.entering.isSome then []
  else
    match bars.listing with
    | some (count, _) => entries.take count
    | none => entries

/-- The files of a folder with their contents.  That the folder cannot be opened or listed to the
end is a fault of the folder.  The second is found only after the files that were listed. -/
def readFolder (path : Text) (entries : List (Text × FileTree)) (bars : Bars) :
    Except (Text × FileFault) (List (Text × List UInt8)) :=
  match bars.opening with
  | some refusal => .error (path, .refused refusal)
  | none => do
    let files ← readFiles path (shown entries bars)
    match bars.listing with
    | some (_, refusal) => .error (path, .refused refusal)
    | none => .ok files

/-- The files of a folder with their contents, in the order in which it lists them, or the path that
cannot be read and why. -/
def filesIn? (tree : FileTree) (path : Text) :
    Except (Text × FileFault) (List (Text × List UInt8)) :=
  match tree.find? path with
  | .error fault => .error (path, fault)
  | .ok (.file _) | .ok (.sealed _) => .error (path, .notFolder)
  | .ok (.folder entries bars) => readFolder path entries bars

/-! ## Adding -/

/-- A tree in which the last of some names is a new, empty folder.  Empty names at the end do not
count; the names before the last have to lead to a folder. -/
def makeFolder? (tree : FileTree) (names : List Text) : Except FileFault FileTree :=
  match names.reverse.dropWhile List.isEmpty with
  | [] => .error .alreadyExists
  | last :: before => do
    let p ← Place.follow? ⟨[], tree⟩ before.reverse
    match p.step? last with
    | .ok _ => .error .alreadyExists
    | .error .notFound => p.add? last (.folder [])
    | .error fault => .error fault

/-- A tree in which names lead to a folder: one that is there already, or a new one. -/
def ensureFolder? (tree : FileTree) (names : List Text) : Except FileFault FileTree :=
  match tree.makeFolder? names, tree.at? names with
  | .ok changed, _ => .ok changed
  | .error _, .ok (.folder _ _) => .ok tree
  | .error fault, _ => .error fault

/-- The names of a path that lead somewhere.  A single dot counts only at the beginning. -/
def components : List Text → List Text
  | [] => []
  | name :: rest => name :: rest.filter (!Place.staysHere ·)

/-- The beginnings of a list that is given backwards, the longest first. -/
def beginnings : List Text → List (List Text)
  | [] => []
  | last :: before => (last :: before).reverse :: beginnings before

/-- The names of a path, and those of the folders that it goes through, the innermost first. -/
def ways (names : List Text) : List (List Text) :=
  names :: beginnings (components names).reverse.tail

/-- Make the first of several folders; if it is in a folder that is missing, make the others
first.  Folders stay that were made before something failed. -/
def makeInnermost : List (List Text) → FileTree → Except FileFault Unit × FileTree
  | [], tree => (.ok (), tree)
  | way :: outer, tree =>
    match tree.ensureFolder? way with
    | .ok tree => (.ok (), tree)
    | .error .notFound =>
      match makeInnermost outer tree with
      | (.error fault, tree) => (.error fault, tree)
      | (.ok (), tree) =>
        match tree.ensureFolder? way with
        | .ok tree => (.ok (), tree)
        | .error fault => (.error fault, tree)
    | .error fault => (.error fault, tree)

/-- Make the folders of a path that are missing.  The empty path asks for nothing. -/
def makeFolders (tree : FileTree) (path : Text) : Except FileFault Unit × FileTree :=
  match (if path.isEmpty then none else pathFault? path) with
  | some fault => (.error fault, tree)
  | none => if path.isEmpty then (.ok (), tree) else makeInnermost (ways (names path)) tree

-- A dot at the end of a path asks for a folder that is there already.
example : (makeFolders (.folder []) "new").1 = .ok () := by rfl
example : (makeFolders (.folder []) "new/.").1 = .error .notFound := by rfl
-- There is always something above, but what stands there may be unknown.
example : (folder []).at? ["..", ".."] = .ok (.folder []) := by rfl
example : (folder []).at? ["..", "f"] = .error .notFound := by rfl
-- What leads back up needs the folder that it leads out of, so that folder is made.
example : (makeFolders (.folder []) "new/..").2 = .folder [("new", .folder [])] := by rfl
-- A folder that was made before a failure stays, and may change what fails the next time.
example : (makeFolders (.folder [("f", .file [])]) "new/../f/g").1 = .error .alreadyExists := by
  rfl
example :
    (makeFolders (makeFolders (.folder [("f", .file [])]) "new/../f/g").2 "new/../f/g").1 =
      .error .notFolder := by
  rfl

/-- A tree with a file of the given contents in a folder; a file of that name is replaced. -/
def writeFile? (tree : FileTree) (folder name : Text) (bytes : List UInt8) :
    Except FileFault FileTree :=
  match pathFault? (joinPath folder name) with
  | some fault => .error fault
  | none => do
    let p ← Place.follow? ⟨[], tree⟩ (if folder.isEmpty then [] else names folder)
    match p.step? name with
    | .ok ⟨_, .file _⟩ => .ok (p.withEntry name (.file bytes))
    | .ok ⟨_, .sealed refusal⟩ => .error (.refused refusal)
    | .ok ⟨_, .folder _ _⟩ => .error .isFolder
    | .error .notFound => p.add? name (.file bytes)
    | .error fault => .error fault

end FileTree
end RuleReview
