/-
  Style sheets and scripts: where they lie, the set that a page links, and its markup.

  A reference is a URL or a file; a file is found from the directory of the file that
  refers to it, or from the project if the reference starts with a slash.  A set keeps
  the first mention of each place, so the order of mention decides the order of links.
-/

import StaticSite.Notice
import StaticSite.Template.Descriptor

namespace StaticSite

inductive ResourceKind where
  | styleSheet
  | script
  | moduleScript
  deriving DecidableEq, Repr

inductive Location where
  /-- A file of the project. -/
  | file (path : Path)
  /-- A URL as it was written. -/
  | url (text : String)
  deriving DecidableEq, Repr

structure Resource where
  kind : ResourceKind
  location : Location
  deriving DecidableEq, Repr

/-! ## References -/

/-- Whether a text occurs in another. -/
def occursIn (piece : List Char) : List Char → Bool
  | [] => piece.isEmpty
  | c :: rest => piece.isPrefixOf (c :: rest) || occursIn piece rest

/-- Whether a reference is a URL. -/
def isExternal (reference : String) : Bool :=
  "//".toList.isPrefixOf reference.toList || occursIn "://".toList reference.toList

/-- The file that a reference in the base directory means. -/
def resolve (root base : Path) (reference : String) : Path :=
  match reference.toList with
  | '/' :: rest => (root.join ⟨String.ofList rest⟩).clean
  | _ => (base.join ⟨reference⟩).clean

/-- The place that a reference in the base directory means. -/
def Location.ofReference (root base : Path) (reference : String) : Location :=
  if isExternal reference then .url reference else .file (resolve root base reference)

/-- A resource as a page or layout mentions it. -/
structure Mention where
  kind : ResourceKind
  reference : String
  deriving DecidableEq, Repr

/-- Scripts in TypeScript are modules. -/
def ResourceKind.ofScript (reference : String) : ResourceKind :=
  if ".ts".toList.isSuffixOf reference.toList then .moduleScript else .script

/-- The resources of a descriptor: style sheets, scripts, modules. -/
def Template.Descriptor.mentions (d : Template.Descriptor) : List Mention :=
  d.css.map (⟨.styleSheet, ·⟩) ++ d.js.map (fun r => ⟨.ofScript r, r⟩)
    ++ d.modules.map (⟨.moduleScript, ·⟩)

/-- The style sheet and the module that belong to a page by its name. -/
def pageAssetNames? (page : Path) : Option (String × String) :=
  page.fileStem?.map fun stem => (stem ++ ".css", stem ++ ".ts")

/-! ## Sets -/

/-- Resources in the order of their first mention. -/
structure ResourceSet where
  items : List Resource := []
  deriving DecidableEq, Repr

namespace ResourceSet

def contains (set : ResourceSet) (place : Location) : Bool :=
  set.items.any (·.location == place)

def insert (set : ResourceSet) (r : Resource) : ResourceSet :=
  if set.contains r.location then set else ⟨set.items ++ [r]⟩

/-- The resource that a mention in the base directory means. -/
def resourceOf (root base : Path) (m : Mention) : Resource :=
  { kind := m.kind, location := .ofReference root base m.reference }

def add (root base : Path) (set : ResourceSet) (m : Mention) : ResourceSet :=
  set.insert (resourceOf root base m)

def addAll (root base : Path) (set : ResourceSet) (ms : List Mention) : ResourceSet :=
  ms.foldl (add root base) set

/-- What is told when mentions are added: which of them were there before. -/
def addNotices (root base : Path) (set : ResourceSet) : List Mention → List Notice
  | [] => []
  | m :: rest =>
    let told := addNotices root base (set.add root base m) rest
    if set.contains (resourceOf root base m).location
    then .duplicateResource m.reference :: told else told

/-- The files of the project in the set. -/
def files (set : ResourceSet) : List Path :=
  set.items.filterMap fun r => match r.location with
    | .file path => some path
    | .url _ => none

def hasStyleSheet (set : ResourceSet) : Bool := set.items.any (·.kind == .styleSheet)

def hasScript (set : ResourceSet) : Bool := set.items.any (·.kind != .styleSheet)

end ResourceSet

end StaticSite
