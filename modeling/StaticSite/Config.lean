/-
  The configuration of a project, read from its marker file.

  Every key has a default, so an empty marker file is a whole configuration.  Unknown
  keys are errors, and so are values that no build could work with.
-/

import StaticSite.Path
import StaticSite.FileError
import StaticSite.Text.Blank
import StaticSite.Json.Decoder.Record
import StaticSite.Json.Printer

namespace StaticSite

/-- What happens when a partial cannot be read. -/
inductive MissingPolicy where
  /-- Warn, and splice nothing. -/
  | warn
  /-- Fail the page. -/
  | error
  deriving DecidableEq, Repr

structure AssetOptions where
  /-- Whether the URLs of files carry the version of the build. -/
  cacheBust : Bool := true
  /-- Whether missing style sheets and scripts are created empty. -/
  createMissing : Bool := true
  /-- Whether a page links the style sheet and the script of its own name. -/
  pageAssets : Bool := true
  deriving DecidableEq, Repr

structure EmbedOptions where
  onMissing : MissingPolicy := .warn
  /-- How many passes may splice partials into a page. -/
  maxPasses : Nat := 1000
  deriving DecidableEq, Repr

structure Config where
  pagesDir : String := "pages"
  assetsDir : String := "assets"
  assets : AssetOptions := {}
  embeds : EmbedOptions := {}
  deriving DecidableEq, Repr

/-- A value that is well formed and yet of no use. -/
inductive ConfigFault where
  | emptyPagesDir
  | emptyAssetsDir
  | noPasses
  deriving DecidableEq, Repr

def ConfigFault.message : ConfigFault → String
  | .emptyPagesDir => "pages_dir must not be empty"
  | .emptyAssetsDir => "assets_dir must not be empty"
  | .noPasses => "embeds.max_passes must be at least 1"

inductive ConfigError where
  | io (cause : FileError)
  | json (cause : Json.Error)
  | notAProject (root : Path)
  | invalid (fault : ConfigFault)
  deriving Repr

/-- The file that marks a directory as a project. -/
def markerFile : Path := ⟨"ham.json"⟩

def ConfigError.message : ConfigError → String
  | .io cause => "IO error: " ++ cause.message
  | .json cause => "JSON parse error: " ++ cause.message
  | .notAProject root =>
    root.text ++ " is not a valid ham project (no " ++ markerFile.text ++ ")"
  | .invalid fault => "Config validation error: " ++ fault.message

namespace Config

open Json.Decoder (Record Field)

/-! ## Reading -/

def assetRecord : Record AssetOptions where
  expected := "struct AssetsConfig"
  strict := true
  initial := {}
  fields := [
    .of "cache_bust" Json.Decoder.boolean fun v o => { o with cacheBust := v },
    .of "create_missing" Json.Decoder.boolean fun v o => { o with createMissing := v },
    .of "page_assets" Json.Decoder.boolean fun v o => { o with pageAssets := v }]

def missingPolicies : List (String × MissingPolicy) := [("warn", .warn), ("error", .error)]

def embedRecord : Record EmbedOptions where
  expected := "struct EmbedsConfig"
  strict := true
  initial := {}
  fields := [
    .of "on_missing" (Json.Decoder.choice missingPolicies) fun v o => { o with onMissing := v },
    .of "max_passes" (Json.Decoder.natural "usize") fun v o => { o with maxPasses := v }]

def configRecord : Record Config where
  expected := "struct ProjectConfig"
  strict := true
  initial := {}
  fields := [
    .of "pages_dir" Json.Decoder.string fun v c => { c with pagesDir := v },
    .of "assets_dir" Json.Decoder.string fun v c => { c with assetsDir := v },
    .of "assets" (Json.Decoder.record assetRecord) fun v c => { c with assets := v },
    .of "embeds" (Json.Decoder.record embedRecord) fun v c => { c with embeds := v }]

/-- The first value that no build could work with. -/
def fault? (c : Config) : Option ConfigFault :=
  if Text.trim c.pagesDir == "" then some .emptyPagesDir
  else if Text.trim c.assetsDir == "" then some .emptyAssetsDir
  else if c.embeds.maxPasses == 0 then some .noPasses
  else none

/-- Reads the content of a marker file; a blank one stands for all defaults. -/
def parse (content : String) : Except ConfigError Config := do
  let config ←
    if Text.trim content == "" then pure {}
    else (Json.Decoder.record configRecord).decode content |>.mapError .json
  match config.fault? with
  | some fault => throw (.invalid fault)
  | none => return config

/-! ## Writing -/

def toJson (c : Config) : Json.Written :=
  .object [
    ("pages_dir", .string c.pagesDir),
    ("assets_dir", .string c.assetsDir),
    ("assets", .object [
      ("cache_bust", .boolean c.assets.cacheBust),
      ("create_missing", .boolean c.assets.createMissing),
      ("page_assets", .boolean c.assets.pageAssets)]),
    ("embeds", .object [
      ("on_missing", .string (match c.embeds.onMissing with | .warn => "warn" | .error => "error")),
      ("max_passes", .natural c.embeds.maxPasses)])]

/-- The marker file with every key at its default. -/
def stock : String := (toJson {}).render 0

end Config

end StaticSite
