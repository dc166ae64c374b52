import HitLog.ErrorKind
import HitLog.Text

/-!
# Files

Files are a finite map from places to nodes, where a place is the list of names that leads to it
from the root. Opening a path walks it name by name from the root or from the working directory, so
what is wrong first along the way decides the error: `missing/../log` fails although `log` could be
made. A file opened for appending is made if it does not exist. A device that is always full can be
opened, and every write to it fails. Closing may fail too, whether the write did or not; what was
written stays.

## Main definitions

* `FileSystem` — the nodes by place, where closing fails, and the working directory
* `FileSystem.locate` — the place that a path leads to
* `FileSystem.read` — read a whole file
* `FileSystem.openForAppend`, `FileSystem.write`, `FileSystem.close` — append with one write
* `FileError` — a failed operation with its path and cause
-/

namespace HitLog

open scoped Text

/-- A place: the names that lead to it from the root. -/
abbrev Place := List Text

/-- What can be at a place. -/
inductive FileNode where
  /-- A directory. -/
  | directory
  /-- A regular file with its content. -/
  | file (content : Text)
  /-- A device that takes no octets. -/
  | fullDevice
  deriving DecidableEq

/-- What an operation on files does. -/
inductive FileOperation where
  | open_
  | read
  | write
  | close
  deriving DecidableEq

/-- A failed operation on files. -/
structure FileError where
  operation : FileOperation
  path : Text
  cause : FileCause
  deriving DecidableEq

/-- The word for an operation. -/
def FileOperation.word : FileOperation → Text
  | open_ => "open"
  | read => "read"
  | write => "write"
  | close => "close"

/-- The wording of a cause. -/
def FileCause.message : FileCause → Text
  | notFound => "no such file or directory"
  | isDirectory => "is a directory"
  | notDirectory => "not a directory"
  | nameTooLong => "file name too long"
  | invalidArgument => "invalid argument"
  | noSpace => "no space left on device"
  | inputOutput => "input/output error"

/-- The wording of a failed operation. -/
def FileError.message (e : FileError) : Text :=
  e.operation.word ++ " " ++ e.path ++ ": " ++ e.cause.message

/-- The kinds of a failed operation: its cause, and that something does not exist if so. -/
def FileError.kinds (e : FileError) : List ErrorKind :=
  .system e.cause :: if e.cause = .notFound then [.notFound] else []

/-- Files and directories. The root is a directory that is always there. -/
structure FileSystem where
  /-- What is at each place other than the root. -/
  nodes : List (Place × FileNode)
  /-- Why closing fails, at the places where it does. -/
  closing : List (Place × FileCause)
  /-- The working directory. -/
  workingDirectory : Place

namespace FileSystem

/-- What is at a place. -/
def node? (fs : FileSystem) (p : Place) : Option FileNode :=
  if p = [] then some .directory else fs.nodes.lookup p

/-- Put a node at a place of a list of nodes, in place of an earlier one. -/
def setNode (p : Place) (n : FileNode) : List (Place × FileNode) → List (Place × FileNode)
  | [] => [(p, n)]
  | (q, old) :: rest => if q = p then (p, n) :: rest else (q, old) :: setNode p n rest

/-- Put a node at a place. -/
def set (fs : FileSystem) (p : Place) (n : FileNode) : FileSystem :=
  { fs with nodes := setNode p n fs.nodes }

/-! ### Paths -/

/-- The octet between the names of a path. -/
def slash : UInt8 := 47

/-- The longest name. -/
def maxName : Nat := 255

/-- The longest path. -/
def maxPath : Nat := 4095

/-- A name that stays where it is. -/
def isHere (name : Text) : Bool := name.isEmpty || name = [46]

/-- The name that leads to the directory above. -/
def isUp (name : Text) : Bool := name = [46, 46]

/-- Follow names through directories. -/
def walk (fs : FileSystem) (here : Place) : List Text → Except FileCause Place
  | [] => .ok here
  | name :: names =>
    if isHere name then walk fs here names
    else if isUp name then walk fs here.dropLast names
    else if maxName < name.length then .error .nameTooLong
    else match fs.node? (here ++ [name]) with
      | none => .error .notFound
      | some .directory => walk fs (here ++ [name]) names
      | some _ => .error .notDirectory

/-- Where a path leads. -/
structure Target where
  /-- The place. -/
  place : Place
  /-- What is there, if anything. -/
  node : Option FileNode
  /-- Whether the path ends in a slash and so must mean a directory. -/
  endsInSlash : Bool

/-- Follow the last name of a path, which may lead to nothing. -/
def lastStep (fs : FileSystem) (here : Place) (name : Text) (endsInSlash : Bool) :
    Except FileCause Target :=
  if isHere name then .ok ⟨here, some .directory, endsInSlash⟩
  else if isUp name then .ok ⟨here.dropLast, some .directory, endsInSlash⟩
  else if maxName < name.length then .error .nameTooLong
  else .ok ⟨here ++ [name], fs.node? (here ++ [name]), endsInSlash⟩

/-- The path without the slashes at its end. -/
def trimSlashes (path : Text) : Text := (path.reverse.dropWhile (· == slash)).reverse

/-- The names of a path. -/
def pathNames (path : Text) : List Text := (trimSlashes path).fields slash

/-- Whether a path ends in a slash. -/
def endsInSlash (path : Text) : Bool := path.getLast? = some slash

/-- The directory in which the last name of a path is looked up. All names before it must be those
of directories. -/
def parent (fs : FileSystem) (path : Text) : Except FileCause Place :=
  if path.contains 0 then .error .invalidArgument
  else if path.isEmpty then .error .notFound
  else if maxPath < path.length then .error .nameTooLong
  else
    let start := if path.head? = some slash then [] else fs.workingDirectory
    fs.walk start (pathNames path).dropLast

/-- Where a path leads. -/
def locate (fs : FileSystem) (path : Text) : Except FileCause Target :=
  match fs.parent path with
  | .error cause => .error cause
  | .ok here => fs.lastStep here ((pathNames path).getLast?.getD []) (endsInSlash path)

/-! ### Reading and appending -/

/-- The content of a file. A directory can be opened but not read. -/
def read (fs : FileSystem) (path : Text) : Except FileError Text :=
  match fs.locate path with
  | .error cause => .error ⟨.open_, path, cause⟩
  | .ok target =>
    match target.node with
    | none => .error ⟨.open_, path, .notFound⟩
    | some .directory => .error ⟨.read, path, .isDirectory⟩
    | some (.file content) =>
      if target.endsInSlash then .error ⟨.open_, path, .notDirectory⟩ else .ok content
    | some .fullDevice =>
      if target.endsInSlash then .error ⟨.open_, path, .notDirectory⟩ else .ok []

/-- Whether reading a path never ends. The full device delivers zeros for as long as it is read. -/
def isEndless (fs : FileSystem) (path : Text) : Bool :=
  match fs.locate path with
  | .ok ⟨_, some .fullDevice, false⟩ => true
  | _ => false

/-- What is open for appending: a file with its content so far, or a device that is full. -/
inductive AppendTarget where
  | file (place : Place) (content : Text)
  | fullDevice (place : Place)

/-- The place of what is open. -/
def AppendTarget.place : AppendTarget → Place
  | file place _ => place
  | fullDevice place => place

/-- Open a path for appending. A file that does not exist has no content yet. A path that ends in a
slash means a directory, whatever its last name is. -/
def openForAppend (fs : FileSystem) (path : Text) : Except FileCause AppendTarget := do
  let here ← fs.parent path
  if endsInSlash path then throw .isDirectory
  let target ← fs.lastStep here ((pathNames path).getLast?.getD []) false
  match target.node with
  | none => return .file target.place []
  | some .directory => throw .isDirectory
  | some (.file content) => return .file target.place content
  | some .fullDevice => return .fullDevice target.place

/-- Write octets to the end of what is open, at once. -/
def write (fs : FileSystem) (path data : Text) : AppendTarget → Except FileError FileSystem
  | .file place content => .ok (fs.set place (.file (content ++ data)))
  | .fullDevice _ => .error ⟨.write, path, .noSpace⟩

/-- Close what is open, which may fail. -/
def close (fs : FileSystem) (path : Text) (target : AppendTarget) : Option FileError :=
  (fs.closing.lookup target.place).map fun cause => ⟨.close, path, cause⟩

/-- The content of a path that leads to a regular file. -/
def content? (fs : FileSystem) (path : Text) : Option Text :=
  match fs.locate path with
  | .ok ⟨_, some (.file content), false⟩ => some content
  | _ => none

/-! ### Setting up -/

/-- Make the directories that names lead through, where there are none yet. -/
def makeDirectoriesFrom (fs : FileSystem) (here : Place) : List Text → FileSystem
  | [] => fs
  | name :: names =>
    if isHere name then makeDirectoriesFrom fs here names
    else if isUp name then makeDirectoriesFrom fs here.dropLast names
    else
      let next := here ++ [name]
      match fs.node? next with
      | none => makeDirectoriesFrom (fs.set next .directory) next names
      | some _ => makeDirectoriesFrom fs next names

/-- Make a directory with those above it. -/
def makeDirectories (fs : FileSystem) (path : Text) : FileSystem :=
  let start := if path.head? = some slash then [] else fs.workingDirectory
  fs.makeDirectoriesFrom start (path.fields slash)

/-- Write a file, with the directories above it. -/
def put (fs : FileSystem) (path content : Text) : FileSystem :=
  let names := path.fields slash
  let start := if path.head? = some slash then [] else fs.workingDirectory
  let place := start ++ names.filter (!isHere ·)
  (fs.makeDirectoriesFrom start names.dropLast).set place (.file content)

/-- Nothing but an empty working directory, and the device that is always full at its usual
place. -/
def initial (workingDirectory : Text) : FileSystem where
  nodes := [([workingDirectory], .directory), (["dev"], .directory), (["dev", "full"], .fullDevice)]
  closing := []
  workingDirectory := [workingDirectory]

end FileSystem

end HitLog
