import EmulatorHost.Bytes
import EmulatorHost.Path
import EmulatorHost.SystemError
import EmulatorHost.Text.Utf8

/-!
# File trees

A tree of directories and files, and the operations on it that the program needs, with the error
numbers that the operating system gives. Every entry stands in a directory of the tree. A name and a
path have a greatest length, and the steps along a path are tried in order, so that what is wrong
with an earlier one is told first. The program owns everything but the root; its permission bits for
directories are honoured, as they decide what it can still reach after it has changed them.
-/

namespace EmulatorHost

abbrev Place := List (List Char)

inductive Node where
  -- A directory with its permission bits.
  | directory (mode : Nat)
  -- A file with its content and its permission bits.
  | file (content : Bytes) (mode : Nat)
  -- A socket that a process listens on, or listened on once.
  | socket
deriving DecidableEq, Repr, Inhabited

/-- A file tree, its newest entries first, and the directory that relative paths start from. The
root needs no entry. -/
structure Files where
  entries : List (Place × Node)
  working : Place
deriving DecidableEq, Repr, Inhabited

namespace Files

def newFileMode : Nat := 0o644

def newDirectoryMode : Nat := 0o755

def maxNameLength : Nat := 255

def maxPathLength : Nat := 4095

/-- A tree in which only the working directory and those above it exist. -/
def emptyIn (working : Place) : Files where
  entries := (List.range working.length).map fun depth =>
    (working.take (depth + 1), .directory newDirectoryMode)
  working := working

/-- A directory with these permission bits lets its owner go through it. -/
def canSearch (mode : Nat) : Bool :=
  mode &&& 0o100 != 0

/-- A directory with these permission bits lets its owner put something into it and take it away. -/
def canChange (mode : Nat) : Bool :=
  mode &&& 0o200 != 0

def node? (files : Files) (place : Place) : Option Node :=
  if place.isEmpty then some (.directory newDirectoryMode)
  else (files.entries.find? fun entry => entry.1 == place).map (·.2)

def put (files : Files) (place : Place) (node : Node) : Files :=
  { files with entries := (place, node) :: files.entries.filter fun entry => entry.1 != place }

def erase (files : Files) (place : Place) : Files :=
  { files with entries := files.entries.filter fun entry => entry.1 != place }

/-- What stands in the directory above a place may be changed. The root belongs to somebody else. -/
def allowsChangeAt (files : Files) (place : Place) : Bool :=
  match place.dropLast, files.node? place.dropLast with
  | _ :: _, some (.directory mode) => canChange mode
  | _, _ => false

/-- Puts a node at a place where nothing stands yet. -/
def create (files : Files) (place : Place) (node : Node) : Except SystemError Files :=
  if files.allowsChangeAt place then .ok (files.put place node) else .error .permissionDenied

/-- Takes steps from a place. Each is taken in a directory that can be searched: a single dot stays
there, two dots lead out of it, and a name leads to what may stand there under it. A name is tried in
a directory that is there before its own length is complained of. -/
def walk (files : Files) (place : Place) : List (List Char) → Except SystemError Place
  | [] => .ok place
  | step :: rest =>
    match files.node? place with
    | none => .error .notFound
    | some (.directory mode) =>
      if !canSearch mode then .error .permissionDenied
      else if step == ['.'] then walk files place rest
      else if step == ['.', '.'] then walk files place.dropLast rest
      else if maxNameLength < (String.ofList step).utf8ByteSize then .error .nameTooLong
      else walk files (place ++ [step]) rest
    | some _ => .error .notDirectory

def endsInSeparator (path : String) : Bool :=
  path.toList.getLast? == some '/'

/-- The place that a path leads to, and what stands there, whether or not the path ends in a
separator. Where nothing stands, the directory above it does. -/
def reach (files : Files) (path : String) : Except SystemError (Place × Option Node) :=
  let chars := path.toList
  if chars.isEmpty then .error .notFound
  else if chars.contains '\x00' then
    .error (.text "file name contained an unexpected NUL byte")
  else if maxPathLength < path.utf8ByteSize then .error .nameTooLong
  else
    match files.walk (if Path.isAbsolute chars then [] else files.working) (Path.steps chars) with
    | .error cause => .error cause
    | .ok place => .ok (place, files.node? place)

/-- The place that a path leads to, and what stands there: only a directory may be named with a
separator at the end. -/
def locate (files : Files) (path : String) : Except SystemError (Place × Option Node) :=
  match files.reach path with
  | .error cause => .error cause
  | .ok (place, none) => .ok (place, none)
  | .ok (place, some (.directory mode)) => .ok (place, some (.directory mode))
  | .ok (place, some node) =>
    if endsInSeparator path then .error .notDirectory else .ok (place, some node)

def isDirectory (files : Files) (path : String) : Bool :=
  match files.locate path with
  | .ok (_, some (.directory _)) => true
  | _ => false

/-- Makes a directory whose parent exists. A separator at the end changes nothing. -/
def makeDirectory (files : Files) (path : String) : Except SystemError Files :=
  match files.reach path with
  | .error cause => .error cause
  | .ok (_, some _) => .error .fileExists
  | .ok (place, none) => files.create place (.directory newDirectoryMode)

/-- A path and its parents, longest first, as far as they name something that can be made: neither
the root nor the empty path. Each parent is shorter than what it holds, so `fuel` not below the
length of the path is never used up. -/
def chainUp : Nat → String → List String
  | 0, _ => []
  | fuel + 1, path =>
    match Path.parent? path with
    | some parent => path :: chainUp fuel parent
    | none => []

/-- Goes up along a path and its parents until one can be made or is a directory already. Answers
the tree then, and the paths that are still missing, the uppermost first, before those in
`missing`. -/
def climb (files : Files) (missing : List String) :
    List String → Except SystemError (Files × List String)
  | [] => .ok (files, missing)
  | path :: parents =>
    match files.makeDirectory path with
    | .ok files => .ok (files, missing)
    | .error cause =>
      if cause == .notFound then climb files (path :: missing) parents
      else if cause == .fileExists && files.isDirectory path then .ok (files, missing)
      else .error cause

/-- Makes directories in order, up to one that cannot be made. One that is there is passed over: a
path that ends in two dots exists as soon as its parents do. -/
def makeEach (files : Files) : List String → Except SystemError Unit × Files
  | [] => (.ok (), files)
  | path :: rest =>
    match files.makeDirectory path with
    | .ok files => makeEach files rest
    | .error cause =>
      if cause == .fileExists && files.isDirectory path then makeEach files rest
      else (.error cause, files)

/-- Makes a directory and those above it, as far as they are missing. After a failure the upper ones
may have been made. -/
def makeDirectories (files : Files) (path : String) : Except SystemError Unit × Files :=
  match files.climb [] (chainUp path.length path) with
  | .error cause => (.error cause, files)
  | .ok (files, missing) => files.makeEach missing

/-- Writes a file: a new one with these permission bits, or in the place of an old one's content. A
path with a separator at the end names no file that could be written. -/
def write (files : Files) (path : String) (content : Bytes) (mode : Nat) :
    Except SystemError Files :=
  match files.reach path with
  | .error cause => .error cause
  | .ok (place, node) =>
    if endsInSeparator path then .error .isDirectory
    else
      match node with
      | none => files.create place (.file content mode)
      | some (.file _ old) => .ok (files.put place (.file content old))
      | some (.directory _) => .error .isDirectory
      | some .socket => .error .noDevice

def read (files : Files) (path : String) : Except SystemError Bytes :=
  match files.locate path with
  | .error cause => .error cause
  | .ok (_, some (.file content _)) => .ok content
  | .ok (_, some (.directory _)) => .error .isDirectory
  | .ok (_, some .socket) => .error .noDevice
  | .ok (_, none) => .error .notFound

def readText (files : Files) (path : String) : Except SystemError String :=
  match files.read path with
  | .error cause => .error cause
  | .ok content =>
    match Utf8.decode? content with
    | some text => .ok text
    | none => .error (.text "stream did not contain valid UTF-8")

def mode? (files : Files) (path : String) : Option Nat :=
  match files.locate path with
  | .ok (_, some (.file _ mode)) | .ok (_, some (.directory mode)) => some mode
  | _ => none

/-- Sets the permission bits of a file or a directory, which only its owner may do. -/
def setMode (files : Files) (path : String) (mode : Nat) : Except SystemError Files :=
  match files.locate path with
  | .error cause => .error cause
  | .ok (place, some (.file content _)) => .ok (files.put place (.file content mode))
  | .ok (place, some (.directory _)) =>
    if place.isEmpty then .error .notPermitted else .ok (files.put place (.directory mode))
  | .ok (_, some .socket) => .ok files
  | .ok (_, none) => .error .notFound

/-- Removes what is not a directory. -/
def remove (files : Files) (path : String) : Except SystemError Files :=
  match files.locate path with
  | .error cause => .error cause
  | .ok (_, some (.directory _)) => .error .isDirectory
  | .ok (place, some _) =>
    if files.allowsChangeAt place then .ok (files.erase place) else .error .permissionDenied
  | .ok (_, none) => .error .notFound

/-- Puts a listening socket where nothing stands yet. -/
def bind (files : Files) (path : String) : Except SystemError Files :=
  match files.reach path with
  | .error cause => .error cause
  | .ok (_, some _) => .error .addressInUse
  | .ok (place, none) =>
    if endsInSeparator path then .error .notFound else files.create place .socket

/-- Some directory that is not empty cannot be searched, so nobody gets at what is in it. -/
def hasSealed (files : Files) : Bool :=
  files.entries.any fun (place, node) =>
    match node with
    | .directory mode => !canSearch mode && files.entries.any fun entry => entry.1.dropLast == place
    | _ => false

/-- A path leads to a program that may be started: a file that somebody may execute. -/
def checkProgram (files : Files) (path : String) : Except SystemError Unit :=
  match files.locate path with
  | .error cause => .error cause
  | .ok (_, some (.file _ mode)) =>
    if mode &&& 0o111 = 0 then .error .permissionDenied else .ok ()
  | .ok (_, some _) => .error .permissionDenied
  | .ok (_, none) => .error .notFound

/-- Puts a file with its content and permission bits at a path, or a directory if there is no
content, with the directories above it, as far as that can be done. -/
def furnish (files : Files) (path : String) (content : Option Bytes) (mode : Nat := newFileMode) :
    Files :=
  match content with
  | none => (files.makeDirectories path).2
  | some data =>
    let files :=
      match Path.parent? path with
      | some dir => (files.makeDirectories dir).2
      | none => files
    match files.write path data mode with
    | .ok files => (files.setMode path mode).toOption.getD files
    | .error _ => files

end Files

end EmulatorHost
