/-
  The URLs and the markup of resources.

  A file in the assets directory keeps its place below it, because the directory is
  copied as it is.  Any other file is given a place by its kind and name.
-/

import StaticSite.Resource

namespace StaticSite

/-- Where a project is, and the version of the build. -/
structure AssetUrls where
  root : Path
  /-- The assets directory, seen from the project. -/
  assetsDir : Path
  version : Option String
  deriving DecidableEq, Repr

namespace AssetUrls

def make (root : Path) (assetsDir : String) (version : Option String) : AssetUrls :=
  { root := root.clean, assetsDir := (⟨assetsDir⟩ : Path).clean, version }

/-! ## URLs -/

/-- The components after the first one named `assets`, if there are any. -/
def afterAssets? : List Path.Component → Option (List Path.Component)
  | [] => none
  | .normal "assets" :: rest => if rest.isEmpty then none else some rest
  | _ :: rest => afterAssets? rest

/-- The place of a file below the assets. -/
def belowAssets? (u : AssetUrls) (path : Path) : Option (List Path.Component) :=
  let inside := (path.stripPrefix? u.root).bind (·.stripPrefix? u.assetsDir)
  match inside with
  | some rest => some rest.components
  | none => afterAssets? path.components

/-- The place of a file that lies outside the assets. -/
def placeByName (kind : ResourceKind) (path : Path) : String :=
  match kind with
  | .styleSheet => "css/" ++ path.fileName?.getD ""
  | .script | .moduleScript => "js/" ++ path.fileStem?.getD "" ++ ".js"

/-- A TypeScript file is served under the name of what it compiles to. -/
def servedName (kind : ResourceKind) (url : String) : String :=
  if kind == .styleSheet then url
  else match ".ts".toList.isSuffixOf? url.toList with
    | some stem => String.ofList stem ++ ".js"
    | none => url

/-- The URL of a file without the version. -/
def fileUrl (u : AssetUrls) (kind : ResourceKind) (path : Path) : String :=
  let place := match u.belowAssets? path with
    | some rest => "/".intercalate (rest.map (·.text))
    | none => placeByName kind path
  servedName kind ("/assets/" ++ place)

def urlFor (u : AssetUrls) (r : Resource) : String :=
  match r.location with
  | .url text => text
  | .file path =>
    u.fileUrl r.kind path ++ match u.version with
      | some version => "?v=" ++ version
      | none => ""

/-! ## Markup -/

/-- A character of a URL as it stands in an attribute. -/
def escapeChar (c : Char) : List Char :=
  if c == '&' then "&amp;".toList
  else if c == '<' then "&lt;".toList
  else if c == '>' then "&gt;".toList
  else if c == '"' then "&quot;".toList
  else [c]

def escape (url : String) : String := String.ofList (url.toList.flatMap escapeChar)

/-- The element that links a resource. -/
def linkTag (kind : ResourceKind) (url : String) : String :=
  match kind with
  | .styleSheet => "<link rel=\"stylesheet\" href=\"" ++ escape url ++ "\">"
  | .script => "<script src=\"" ++ escape url ++ "\"></script>"
  | .moduleScript => "<script type=\"module\" src=\"" ++ escape url ++ "\"></script>"

def markup (u : AssetUrls) (items : List Resource) : String :=
  "\n".intercalate (items.map fun r => linkTag r.kind (u.urlFor r))

/-- The links of the style sheets, one on a line. -/
def cssMarkup (u : AssetUrls) (set : ResourceSet) : String :=
  u.markup (set.items.filter (·.kind == .styleSheet))

/-- The scripts and modules, one on a line. -/
def jsMarkup (u : AssetUrls) (set : ResourceSet) : String :=
  u.markup (set.items.filter (·.kind != .styleSheet))

end AssetUrls

end StaticSite
