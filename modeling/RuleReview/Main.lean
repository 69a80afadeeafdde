import RuleReview.Calendar
import RuleReview.CommandLine.Program
import RuleReview.Files.Snapshot
import Std.Time.DateTime.Timestamp

/-!
# The command line

The thin layer between the program and the disk: what the program may look at is taken into a tree,
the program runs on the tree, and what it wrote is put back.  What the disk refuses on the way in
becomes part of the tree, so that it is the program that fails over it; what it refuses on the way
out fails the review.  There is no network in this layer; a program that asks a chat server is told
that none answers.
-/

set_option autoImplicit false

open RuleReview

/-- An error of the disk as a refusal. -/
def refusalOf : IO.Error → Refusal
  | .otherError code reason | .resourceBusy code reason | .resourceVanished code reason
  | .unsupportedOperation code reason | .hardwareFault code reason
  | .unsatisfiedConstraints code reason | .illegalOperation code reason
  | .protocolError code reason | .timeExpired code reason
  | .interrupted _ code reason | .noFileOrDirectory _ code reason
  | .alreadyExists _ code reason | .invalidArgument _ code reason
  | .permissionDenied _ code reason | .resourceExhausted _ code reason
  | .inappropriateType _ code reason | .noSuchThing _ code reason => ⟨code.toNat, reason.toList⟩
  | .unexpectedEof => ⟨0, "end of file"⟩
  | .userError reason => ⟨0, reason.toList⟩

/-- What there is of a file: its contents, or why it is not opened. -/
def fileAt (path : String) : IO FileTree := do
  try return .file (← IO.FS.readBinFile path).toList
  catch e => return .sealed (refusalOf e)

/-- What there is of a folder: the files in it if they are wanted, or why it is not opened. -/
def folderAt (path : String) (wanted : Bool) : IO FileTree := do
  try
    let mut found : Keyed FileTree := []
    for entry in ← (← IO.FS.realPath path).readDir do
      -- an entry that does not show what it is counts as no file, here as in the program
      if let .ok data ← entry.path.metadata.toBaseIO then
        if wanted && data.type == .file then
          found := found.put entry.fileName.toList (← fileAt entry.path.toString)
    return .folder found
  catch e => return .folder [] { opening := some (refusalOf e) }

/-- What stands at a path. -/
def observe (path : String) (wanted : Bool) : IO FileTree := do
  if ← (← IO.FS.realPath path).isDir then folderAt path wanted else fileAt path

/-- A tree with what stands along a path.  If the system does not follow a name on the way, the
folder before it cannot be entered. -/
def take (tree : FileTree) (path : Text) (wanted : Bool) : IO FileTree := do
  if path.isEmpty then return tree
  let names := FileTree.names path
  let mut tree := tree
  for count in List.range names.length do
    let way := names.take (count + 1)
    let last := count + 1 == names.length
    let here := String.ofList (way.foldl FileTree.joinPath [])
    match ← (observe here (last && wanted)).toBaseIO with
    | .ok found => tree := tree.plant way found
    | .error (.permissionDenied _ code reason) =>
      tree := tree.plant (names.take count)
        (.folder [] { entering := some ⟨code.toNat, reason.toList⟩ })
    -- nothing stands there, and so the tree has nothing there
    | .error _ => pure ()
  return tree

/-- The paths that a review may look at, and whether the files in them are wanted. -/
def mentioned (o : CommandLine.Options) (s : Settings) : List (Text × Bool) :=
  (o.file.toList ++ o.against.toList).map (·, false) ++
    [(s.notes, false), (s.retrieval.folder, true), (s.trace.folder, false)]

/-- A tree with everything that the program may look at. -/
def snapshot (arguments : List Text) : IO FileTree := do
  match CommandLine.parse? arguments with
  | .error _ => return .folder []
  | .ok o =>
    let tree ← take (.folder []) (o.settings.getD Settings.standardPath) false
    match Settings.load? tree o.settings none with
    | .error _ => return tree
    | .ok s => (mentioned o (o.override s)).foldlM (fun tree p => take tree p.1 p.2) tree

/-- Put on the disk what a later tree has and an earlier one has not, until something is refused. -/
def store (earlier later : FileTree) : IO (Option Failure) := do
  for folder in earlier.newFolders later do
    try IO.FS.createDirAll (String.ofList folder)
    catch e => return some (.file folder (.refused (refusalOf e)))
  for (path, bytes) in earlier.changes later do
    try IO.FS.writeBinFile (String.ofList path) (ByteArray.mk bytes.toArray)
    catch e => return some (.file path (.refused (refusalOf e)))
  return none

/-- A network in which no server answers. -/
def unreachable : Chat.Transport Unit := fun _ s =>
  (.error "io: Connection refused (os error 111)", s)

def main (arguments : List String) : IO UInt32 := do
  let arguments := arguments.map String.toList
  let now ← Std.Time.Timestamp.now
  let url := (← IO.getEnv "RULESCRIBE_OLLAMA_URL").map String.toList
  let clock := Clock.ofNanoseconds now.toNanosecondsSinceUnixEpoch.val.toNat
  let tree ← snapshot arguments
  let (ending, after) := CommandLine.run ⟨url, clock, unreachable⟩ arguments ⟨tree, ()⟩
  let ending := ((← store tree after.files).map .failed).getD ending
  IO.print (String.ofList ending.output)
  match ending.complaint with
  | some complaint => IO.eprintln (String.ofList complaint)
  | none => pure ()
  return UInt32.ofNat ending.code
