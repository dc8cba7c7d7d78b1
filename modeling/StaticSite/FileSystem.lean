/-
  A model of a file system.

  A place is the list of names on the way from the root.  Paths are followed name by
  name, and `..` leads to the parent of the directory that was reached.  There are no
  links, and whoever uses the file system may do anything.
-/

import StaticSite.Disk
import StaticSite.Text.Utf8

namespace StaticSite

abbrev Place := List String

inductive Entry where
  | directory (mode : Nat)
  | file (content : List UInt8) (mode : Nat)
  deriving DecidableEq, Repr

def Entry.kind : Entry → EntryKind
  | .directory _ => .directory
  | .file .. => .file

def Entry.mode : Entry → Nat
  | .directory mode => mode
  | .file _ mode => mode

def Entry.withMode (mode : Nat) : Entry → Entry
  | .directory _ => .directory mode
  | .file content _ => .file content mode

structure FileSystem where
  entries : List (Place × Entry) := []
  /-- The directory from which relative paths start. -/
  current : Place := []
  deriving Repr

namespace FileSystem

/-- The mode of new directories. -/
def directoryMode : Nat := 0o755

/-- The mode of new files. -/
def fileMode : Nat := 0o644

/-! ## Entries -/

/-- What is at a place; the root is always there. -/
def entry? (fs : FileSystem) : Place → Option Entry
  | [] => some (.directory directoryMode)
  | place => fs.entries.lookup place

def put (fs : FileSystem) (place : Place) (entry : Entry) : FileSystem :=
  { fs with entries := (place, entry) :: fs.entries.filter (·.1 != place) }

/-- Takes away a place and everything below it. -/
def remove (fs : FileSystem) (place : Place) : FileSystem :=
  { fs with entries := fs.entries.filter fun e => !place.isPrefixOf e.1 }

/-- The name of a place in a directory, if it is directly in it. -/
def nameIn? (directory place : Place) : Option String :=
  match directory.isPrefixOf? place with
  | some [name] => some name
  | _ => none

/-- The names in a directory, in ascending order. -/
def children (fs : FileSystem) (directory : Place) : List (String × EntryKind) :=
  let found := fs.entries.filterMap fun (place, entry) =>
    (nameIn? directory place).map fun name => (name, entry.kind)
  found.mergeSort fun a b => a.1 ≤ b.1

/-! ## Paths -/

/-- The longest name and the longest path, in bytes. -/
def maxName : Nat := 255

def maxPath : Nat := 4095

/-- One step from a place, which has to be a directory. -/
def step (fs : FileSystem) (place : Place) (piece : String) : Except FileError Place :=
  match fs.entry? place with
  | none => .error .notFound
  | some (.file ..) => .error .notDirectory
  | some (.directory _) =>
    if piece == "" || piece == "." then .ok place
    else if piece == ".." then .ok place.dropLast
    else if piece.utf8ByteSize > maxName then .error .nameTooLong
    else .ok (place ++ [piece])

/-- The pieces of a path, if the path can be used at all. -/
def pieces (path : Path) : Except FileError (List String) :=
  if path.text.toList.contains '\x00' then .error .nulInPath
  else if path.text == "" then .error .notFound
  else if path.text.utf8ByteSize > maxPath then .error .nameTooLong
  else .ok (Text.split '/' path.text)

def start (fs : FileSystem) (path : Path) : Place := if path.isAbsolute then [] else fs.current

/-- The place that a path leads to; nothing has to be there. -/
def follow (fs : FileSystem) (path : Path) : Except FileError Place := do
  (← pieces path).foldlM fs.step (fs.start path)

/-- What a path leads to, with its place. -/
def find (fs : FileSystem) (path : Path) : Except FileError (Place × Entry) := do
  let place ← fs.follow path
  match fs.entry? place with
  | some entry => return (place, entry)
  | none => throw .notFound

/-- Whether a path can only be a directory, by the way it is written. -/
def endsInDirectory (pieces : List String) : Bool :=
  match pieces.getLast? with
  | some last => last == "" || last == "." || last == ".."
  | none => true

/-- Drops the slashes at the end of a path. -/
def withoutSlashes (pieces : List String) : List String :=
  (pieces.reverse.dropWhile (· == "")).reverse

/-! ## Operations -/

def read (fs : FileSystem) (path : Path) : Except FileError Reading := do
  match ← fs.find path with
  | (_, .directory _) => throw .isDirectory
  | (_, .file content _) =>
    return { text := Text.decodeLossy content, lossy := (Text.decode? content).isNone }

def list (fs : FileSystem) (path : Path) : Except FileError (List (String × EntryKind)) := do
  match ← fs.find path with
  | (place, .directory _) => return fs.children place
  | (_, .file ..) => throw .notDirectory

def makeDirectory (fs : FileSystem) (path : Path) : Except FileError FileSystem := do
  let steps := withoutSlashes (← pieces path)
  let place ← steps.foldlM fs.step (fs.start path)
  if endsInDirectory steps || (fs.entry? place).isSome then throw .exists
  return fs.put place (.directory directoryMode)

/-- Empties a file, or makes an empty one. -/
def openNew (fs : FileSystem) (path : Path) (mode : Nat) : Except FileError (Place × FileSystem) := do
  let steps ← pieces path
  let place ← (withoutSlashes steps).foldlM fs.step (fs.start path)
  if endsInDirectory steps then throw .isDirectory
  match fs.entry? place with
  | some (.directory _) => throw .isDirectory
  | some (.file _ kept) => return (place, fs.put place (.file [] kept))
  | none => return (place, fs.put place (.file [] mode))

def writeBytes (fs : FileSystem) (path : Path) (content : List UInt8) :
    Except FileError FileSystem := do
  let (place, opened) ← fs.openNew path fileMode
  let mode := ((opened.entry? place).map (·.mode)).getD fileMode
  return opened.put place (.file content mode)

def setMode (fs : FileSystem) (path : Path) (mode : Nat) : Except FileError FileSystem := do
  let (place, entry) ← fs.find path
  return fs.put place (entry.withMode mode)

def copyMode (fs : FileSystem) (source target : Path) : Except FileError FileSystem := do
  let (_, entry) ← fs.find source
  fs.setMode target entry.mode

/-- Copies a file.  The target is emptied before the source is read. -/
def copyFile (fs : FileSystem) (source target : Path) : Except FileError FileSystem := do
  match ← fs.find source with
  | (_, .directory _) => throw .isDirectory
  | (sourcePlace, .file _ mode) =>
    let (targetPlace, opened) ← fs.openNew target mode
    match opened.entry? sourcePlace with
    | some (.file content _) => return opened.put targetPlace (.file content mode)
    | _ => throw .notFound

def currentPath (fs : FileSystem) : Path := ⟨"/" ++ "/".intercalate fs.current⟩

/-! ## The disk -/

/-- Asks the file system. -/
def asking (f : FileSystem → α) : StateM FileSystem α := return f (← get)

/-- Changes the file system, unless the change fails. -/
def changing (f : FileSystem → Except FileError FileSystem) :
    StateM FileSystem (Except FileError Unit) := do
  match f (← get) with
  | .ok fs =>
    set fs
    return .ok ()
  | .error cause => return .error cause

/-- The model as a disk. -/
def disk : Disk (StateM FileSystem) where
  currentDirectory := asking currentPath
  kind path := asking fun fs => (fs.find path).map fun (_, entry) => entry.kind
  read path := asking (·.read path)
  list path := asking (·.list path)
  makeDirectory path := changing (·.makeDirectory path)
  write path text := changing (·.writeBytes path (Text.encode text))
  copyFile source target := changing (·.copyFile source target)
  copyMode source target := changing (·.copyMode source target)

end FileSystem

end StaticSite
