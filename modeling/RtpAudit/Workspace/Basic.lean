import RtpAudit.Wire.Bytes
import RtpAudit.Workspace.OsError

/-! # A file tree held in memory

The program reads its input and writes its outputs through paths. Here the file tree they name
is a value: the files it holds, each with its contents, the directories and links it holds, each
named by its names from the root, and the working directory. A path that starts with `/` is
followed from the root, any other from the working directory, name by name, as the operating
system follows it, and fails as it fails:

* passing through a file (a later name, or a trailing `/` or `.`) gives `notDirectory`;
* a name that is absent gives `notFound`, even when a later `..` would leave it again;
* a name longer than 255 bytes, or a path longer than 4095, gives `nameTooLong`;
* creating a file where a directory stands gives `isDirectory`.

A directory exists if it is listed, or if something listed lies inside it; the root, the working
directory and the directories that hold it always exist. `..` at the root stays at the root. A
link leads to the place it names, and `..` after it leaves that place, not the link.

A directory on a disk reports a size; one of the kernel's own file systems, such as `/proc` or
`/sys`, reports a size of zero.
-/

namespace RtpAudit

/-- The names of a relative path, from the outside in: empty names and `.` are dropped, and `..`
leaves the directory last entered. -/
def Path.names (path : String) : List String :=
  ((path.splitOn "/").foldl step []).reverse
where
  step (acc : List String) (name : String) : List String :=
    if name = "" ∨ name = "." then acc
    else if name = ".." then acc.tail
    else name :: acc

/-- What a path names. -/
inductive Node
  /-- A file and its contents. -/
  | file (data : Bytes)
  /-- A directory, and whether it reports a size other than zero. -/
  | directory (sized : Bool)
  deriving DecidableEq, Repr

/-- A file tree: files with their contents, directories and links, each named by its names from
the root, and the working directory. -/
structure Workspace where
  /-- The names of the working directory, from the root. -/
  cwd : List String := []
  files : List (List String × Bytes) := []
  dirs : List (List String) := []
  /-- Links, each with the names of the place it leads to, which is not itself a link. -/
  links : List (List String × List String) := []
  /-- The roots of the kernel's own file systems: the directories at or under them report a size
  of zero. -/
  kernelRoots : List (List String) := []
  deriving Repr

namespace Workspace

/-- The contents of the file at `names`, if a file is there. -/
def fileAt? (ws : Workspace) (names : List String) : Option Bytes :=
  (ws.files.find? (·.1 == names)).map (·.2)

/-- Whether a directory stands at `names`. -/
def isDirectory (ws : Workspace) (names : List String) : Bool :=
  names.isPrefixOf ws.cwd || ws.dirs.any (names.isPrefixOf ·) ||
    ws.files.any fun (f, _) => names.isPrefixOf f && names != f

/-- The longest name a directory keeps, in bytes. -/
def nameMax : Nat := 255

/-- The longest path handed to the operating system, in bytes. -/
def pathMax : Nat := 4095

/-- Refuse a path before it is looked up: one holding a NUL byte, an empty one, or one that is
too long. -/
def checkPath (path : String) : Except OsError Unit :=
  if path.contains '\x00' then .error .nulByte
  else if path.isEmpty then .error .notFound
  else if path.utf8ByteSize > pathMax then .error .nameTooLong
  else .ok ()

/-- The directory at `names`, which reports a size unless it lies in a kernel's file system. -/
def dirNode (ws : Workspace) (names : List String) : Node :=
  .directory (!ws.kernelRoots.any (·.isPrefixOf names))

/-- What stands at `names`, if anything, links not followed. -/
def nodeAt? (ws : Workspace) (names : List String) : Option Node :=
  match ws.fileAt? names with
  | some data => some (.file data)
  | none => if ws.isDirectory names then some (ws.dirNode names) else none

/-- Where the name `names` leads, and what stands there: the place a link leads to, or the place
itself. -/
def entry? (ws : Workspace) (names : List String) : Option (List String × Node) :=
  match ws.links.lookup names with
  | some target => (ws.nodeAt? target).map (target, ·)
  | none => (ws.nodeAt? names).map (names, ·)

/-- Follow the names of a path one at a time from `node`, which stands at `here`. Only a directory
can be passed through: an empty name and `.` stay in it, `..` goes up, and any other name must
be at most `nameMax` bytes long and lead to something in it. -/
def walk (ws : Workspace) (here : List String) (node : Node) :
    List String → Except OsError (List String × Node)
  | [] => .ok (here, node)
  | name :: rest =>
    match node with
    | .file _ => .error .notDirectory
    | .directory _ =>
      if name = "" ∨ name = "." then ws.walk here node rest
      else if name = ".." then ws.walk here.dropLast (ws.dirNode here.dropLast) rest
      else if name.utf8ByteSize > nameMax then .error .nameTooLong
      else
        match ws.entry? (here ++ [name]) with
        | some (there, next) => ws.walk there next rest
        | none => .error .notFound

/-- Where a path is followed from: the root for a path that starts with `/`, else the working
directory. -/
def origin (ws : Workspace) (path : String) : List String :=
  if path.startsWith "/" then [] else ws.cwd

/-- What stands at `path`, reached from its origin name by name. -/
def find (ws : Workspace) (path : String) : Except OsError Node := do
  checkPath path
  let (_, node) ← ws.walk (ws.origin path) (ws.dirNode (ws.origin path)) (path.splitOn "/")
  pure node

/-- The empty path names nothing. -/
theorem find_empty (ws : Workspace) : ws.find "" = .error .notFound := by
  simp [find, checkPath]
  rfl

/-- Set the contents of the file at `names`, adding the file if it is new. -/
def put (ws : Workspace) (names : List String) (data : Bytes) : Workspace :=
  { ws with files := (names, data) :: ws.files.filter (·.1 != names) }

/-- Create an empty file at `path`, emptying one that is there: its directory must be reached,
and its last name must be a name no longer than `nameMax` bytes that does not lead to a
directory; a link to a file empties that file. Gives the tree after, and the names the file
stands at. -/
def create (ws : Workspace) (path : String) : Except OsError (Workspace × List String) := do
  checkPath path
  let parts := path.splitOn "/"
  let (dir, node) ← ws.walk (ws.origin path) (ws.dirNode (ws.origin path)) parts.dropLast
  if let .file _ := node then throw .notDirectory
  let name := parts.getLast?.getD ""
  if name = "" ∨ name = "." ∨ name = ".." then throw .isDirectory
  if name.utf8ByteSize > nameMax then throw .nameTooLong
  match ws.entry? (dir ++ [name]) with
  | some (_, .directory _) => throw .isDirectory
  | some (names, .file _) => pure (ws.put names [], names)
  | none => pure (ws.put (dir ++ [name]) [], dir ++ [name])

/-- Make the directories that the names `rest` lead to from `here` and are missing, as `mkdir -p`
does: an empty name and `.` stay, `..` goes up, a name that leads to a directory is entered and a
missing one is made and entered. A name that leads to a file, or is longer than `nameMax` bytes,
ends it there. -/
def makeDirsFrom (ws : Workspace) (here : List String) : List String → Workspace
  | [] => ws
  | name :: rest =>
    if name = "" ∨ name = "." then ws.makeDirsFrom here rest
    else if name = ".." then ws.makeDirsFrom here.dropLast rest
    else if name.utf8ByteSize > nameMax then ws
    else
      match ws.entry? (here ++ [name]) with
      | some (there, .directory _) => ws.makeDirsFrom there rest
      | some (_, .file _) => ws
      | none => { ws with dirs := ws.dirs ++ [here ++ [name]] }.makeDirsFrom (here ++ [name]) rest

/-- Make the directory at `path` and those on the way to it that are missing, as `mkdir -p` does. -/
def makeDirs (ws : Workspace) (path : String) : Workspace :=
  ws.makeDirsFrom (ws.origin path) (path.splitOn "/")

/-- Write `data` to the file at `path`, making the directories on the way to it first; a path
where no file can be created leaves the tree as it is. -/
def writeFile (ws : Workspace) (path : String) (data : Bytes) : Workspace :=
  let ws := ws.makeDirsFrom (ws.origin path) (path.splitOn "/").dropLast
  match ws.create path with
  | .ok (ws, names) => ws.put names data
  | .error _ => ws

/-- The names that stand directly in the directory at `dir`, each once. -/
def children (ws : Workspace) (dir : List String) : List String :=
  ((ws.files.map (·.1) ++ ws.dirs).filterMap fun names =>
    if dir.isPrefixOf names then (names.drop dir.length).head? else none).eraseDups

/-- A file holds what was last put into it. -/
@[simp]
theorem fileAt?_put (ws : Workspace) (names : List String) (data : Bytes) :
    (ws.put names data).fileAt? names = some data := by
  simp [put, fileAt?]

end Workspace

end RtpAudit
