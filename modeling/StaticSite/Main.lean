/-
  The program.

  Everything here touches the machine: the disk, the clock, the arguments, the exit code.
  What the program does with them is `CommandLine.run`.
-/

import Std.Time
import StaticSite.CommandLine
import StaticSite.Text.Utf8

namespace StaticSite

/-- A failure of the system in the words of a build. -/
def fileErrorOf : IO.Error → FileError
  | .noFileOrDirectory .. | .noSuchThing .. => .notFound
  | .alreadyExists .. => .exists
  | .permissionDenied .. => .denied
  | .inappropriateType _ 20 _ => .notDirectory
  | .inappropriateType _ 21 _ => .isDirectory
  | .unsatisfiedConstraints .. => .notEmpty
  | e => .other (toString e)

/-- Does something that may fail. -/
def attemptIO (x : IO α) : IO (Except FileError α) := do
  try
    return .ok (← x)
  catch e =>
    return .error (fileErrorOf e)

def entryKindOf : IO.FS.FileType → EntryKind
  | .dir => .directory
  | _ => .file

/-- The disk of the machine.  Modes are left as the system sets them. -/
def machineDisk : Disk IO where
  currentDirectory := do return ⟨(← IO.currentDir).toString⟩
  kind path := attemptIO do
    let metadata ← ((← IO.currentDir) / path.text).metadata
    return entryKindOf metadata.type
  read path := attemptIO do
    let bytes := (← IO.FS.readBinFile path.text).toList
    return { text := Text.decodeLossy bytes, lossy := (Text.decode? bytes).isNone }
  list path := attemptIO do
    let entries ← ((← IO.currentDir) / path.text).readDir
    let named ← entries.toList.mapM fun entry => do
      return (entry.fileName, entryKindOf (← entry.path.metadata).type)
    return named.mergeSort fun a b => a.1 ≤ b.1
  makeDirectory path := attemptIO (IO.FS.createDir path.text)
  write path text := attemptIO (IO.FS.writeFile path.text text)
  copyFile source target := attemptIO do
    IO.FS.writeBinFile target.text (← IO.FS.readBinFile source.text)
  copyMode _ _ := return .ok ()

/-- The version of a build that starts now: the time to the minute. -/
def versionNow : IO String := do
  return (← Std.Time.PlainDateTime.now).format "uuuuMMddHHmm"

end StaticSite

open StaticSite

def main (arguments : List String) : IO UInt32 := do
  let outcome ← CommandLine.run machineDisk (← versionNow) arguments
  for notice in outcome.notices do
    if notice.level == .warning then IO.eprintln ("[WARN] " ++ notice.message)
  IO.print outcome.output
  if let some text := outcome.error then IO.eprintln ("Error: " ++ text)
  return UInt32.ofNat outcome.code
