/-
  The build of a whole project.

  Every page below the pages directory is compiled and written to the same place below
  the output directory; then the assets are copied.  The first failure ends the build,
  and what was written before stays.
-/

import StaticSite.Build.Assets
import StaticSite.Build.Page
import StaticSite.Build.Stub

namespace StaticSite

namespace Config

variable {m : Type → Type} [Monad m]

/-- The configuration of the project in a directory. -/
def load (disk : Disk m) (root : Path) : m (Except ConfigError Config) := do
  let path := root.join markerFile
  if ← disk.isFile path then
    match ← disk.read path with
    | .error cause => return .error (.io cause)
    | .ok reading =>
      if reading.lossy then return .error (.io .notUtf8) else return Config.parse reading.text
  else return .error (.notAProject root)

end Config

namespace Site

variable {m : Type → Type} [Monad m]

/-! ## Opening a project -/

/-- The project in a directory; `now` is the version of a build that starts now. -/
def openProject (disk : Disk m) (now : String) (source : Path) :
    m (Except BuildError Project) := do
  if source.text == "" then return .error (.io .emptyPath)
  let root := source.absolute (← disk.currentDirectory)
  match ← Config.load disk root with
  | .error cause => return .error (.config cause)
  | .ok config =>
    return .ok {
      root := root.clean
      config
      version := if config.assets.cacheBust then some now else none }

/-! ## Pages -/

/-- Whether a build compiles a file. -/
def isPage (e : Walked) : Bool := e.kind == .file && e.path.extension? == some "html"

/-- Writes a page with the directories that it needs. -/
def writePage (disk : Disk m) (target : Path) (html : String) : BuildM m Unit := do
  match target.parent? with
  | some parent => BuildM.attempt (.write parent) (disk.makeDirectories parent)
  | none => pure ()
  BuildM.attempt (.write target) (disk.write target html)
  BuildM.tell [.wrote target]

/-- The path seen from a directory, if it lies below it. -/
def relative (directory path : Path) : Path := (path.stripPrefix? directory).getD path

/-- Compiles and writes what the walk over the pages directory reaches, if it is a page. -/
def buildPage (project : Project) (disk : Disk m) (pages output : Path) (e : Walked) :
    BuildM m (List (PageSummary × List Path)) := do
  if isPage e then
    let compiled ← (Page.ofPath project e.path).compile project disk.source (Stub.ensureAll disk)
    let page := relative pages e.path
    let summary : PageSummary := {
      page
      output := output.join page
      passes := compiled.passes
      partials := compiled.partials
      resources := compiled.resources.items.length }
    writePage disk summary.output compiled.html
    BuildM.emit (compiled.stubs.map fun stub => .stubCreated (relative project.root stub))
    BuildM.emit [.pageCompiled summary]
    return [(summary, compiled.stubs)]
  else return []

/-! ## Building -/

/-- Compiles all pages and copies the assets. -/
def compile (project : Project) (disk : Disk m) (output : Path) : BuildM m Summary := do
  BuildM.attempt (.write output) (disk.makeDirectories output)
  let pages := project.root.join ⟨project.config.pagesDir⟩
  let built ← disk.walk (fun path cause => throw (.walk path cause))
    (buildPage project disk pages output) pages
  let assets := output.join ⟨"assets"⟩
  let copied ← BuildM.attempt (.write assets)
    (Assets.copyDirectory disk (project.root.join ⟨project.config.assetsDir⟩) assets)
  BuildM.emit [.assetsCopied copied]
  return {
    pages := built.map (·.1)
    stubsCreated := (built.flatMap (·.2)).length
    assetsCopied := copied
    stats := (← get).cache.stats }

/-- Builds the project in a directory. -/
def build (disk : Disk m) (now : String) (source output : Path) : BuildM m Summary := do
  let present : Bool ← (disk.isDirectory source : m Bool)
  if present then
    let opened : Except BuildError Project ← (openProject disk now source : m (Except BuildError Project))
    match opened with
    | .ok project => compile project disk output
    | .error cause => throw cause
  else throw (.sourceMissing source)

end Site

end StaticSite
