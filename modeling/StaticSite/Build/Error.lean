/-
  Why a build can fail.
-/

import StaticSite.Config

namespace StaticSite

inductive BuildError where
  | io (cause : FileError)
  | read (path : Path) (cause : FileError)
  | write (path : Path) (cause : FileError)
  | config (cause : ConfigError)
  | walk (path : Path) (cause : FileError)
  | missingLayout (page layout : Path)
  | missingReference (page target : Path)
  /-- Files that refer to each other in a circle, seen from the project. -/
  | cycle (page : Path) (chain : List Path)
  | passLimit (page : Path) (passes : Nat)
  /-- A chain of references that may have no end. -/
  | chainTooLong (page : Path)
  | sourceMissing (source : Path)
  deriving Repr

def BuildError.message : BuildError → String
  | .io cause => "IO error: " ++ cause.message
  | .read path cause => "Failed to read " ++ path.text ++ ": " ++ cause.message
  | .write path cause => "Failed to write " ++ path.text ++ ": " ++ cause.message
  | .config cause => cause.message
  | .walk path cause =>
    "Failed to walk pages directory: IO error for operation on " ++ path.text ++ ": "
      ++ cause.message
  | .missingLayout page layout =>
    "Page " ++ page.text ++ ": layout " ++ layout.text ++ " not found"
  | .missingReference page target =>
    "Page " ++ page.text ++ ": embedded file " ++ target.text ++ " not found"
  | .cycle page chain =>
    "Page " ++ page.text ++ ": embed cycle " ++ " -> ".intercalate (chain.map (·.text))
  | .passLimit page passes =>
    "Page " ++ page.text ++ ": partials still unresolved after " ++ toString passes ++ " passes"
  | .chainTooLong page => "Page " ++ page.text ++ ": chain of embeds too long"
  | .sourceMissing source => "Source directory " ++ source.text ++ " does not exist"

end StaticSite
