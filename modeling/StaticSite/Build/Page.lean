/-
  The compilation of one page.

  The page is merged into its layout and all references are spliced in.  What is
  spliced may hold references again, so the text is read again until a pass finds
  none; the number of passes that splice is bounded by the configuration.
-/

import StaticSite.AssetUrl
import StaticSite.Build.Partial

namespace StaticSite

open Template (Slot Marker Fragment Descriptor Extraction)

/-- A page that has been compiled, before it is written. -/
structure CompiledPage where
  html : String
  /-- All passes, with the last one, which found nothing. -/
  passes : Nat
  /-- The references that were spliced in all passes. -/
  partials : Nat
  resources : ResourceSet
  /-- The empty files that were made for the page. -/
  stubs : List Path := []
  deriving DecidableEq, Repr

/-- A page after some passes. -/
structure Progress where
  html : String
  passes : Nat
  partials : Nat
  /-- The passes that spliced something. -/
  splicing : Nat
  deriving DecidableEq, Repr

/-- A page with its layout, before the slots for resources are filled. -/
structure Merged where
  fragment : Fragment
  resources : ResourceSet
  /-- The references that were spliced. -/
  partials : Nat

namespace Page

def ofPath (project : Project) (path : Path) : Page :=
  { path := path.clean, dir := path.clean.parent?.getD project.root }

variable {n : Type → Type} [Monad n] [MonadExcept BuildError n]
variable (project : Project) (supply : Supply n) (page : Page)

/-! ## Resources -/

/-- Links the style sheet and the module that belong to the page by its name. -/
def withPageAssets (d : Descriptor) : Descriptor :=
  if project.config.assets.pageAssets then
    match pageAssetNames? page.path with
    | some (css, module) => { d with css := d.css ++ [css], modules := d.modules ++ [module] }
    | none => d
  else d

def collect (base : Path) (set : ResourceSet) (d : Descriptor) : n ResourceSet := do
  supply.tell (set.addNotices project.root base d.mentions)
  return set.addAll project.root base d.mentions

/-- The slots for which there are resources, but no place in the layout. -/
def unslotted (layout : Descriptor) (set : ResourceSet) : List Slot :=
  let wanted := (if set.hasStyleSheet then [.css] else []) ++ (if set.hasScript then [.js] else [])
  wanted.filter fun slot => !layout.hasMarker (.slot slot)

/-! ## The first pass -/

/-- What a reader puts around a text that is only the content of a body. -/
def bodyStart : String := "<html><head></head><body>"

def bodyEnd : String := "</body></html>"

/-- The content of a page whose document is only a body; any other page as it is. -/
def bodyOf (fragment : Fragment) : Fragment :=
  let opened := (fragment.dropStart? bodyStart).getD fragment
  (opened.dropEnd? bodyEnd).getD opened

def mergeWithout (read : Extraction) : n Merged := do
  supply.tell [.compiling page.path none]
  Partial.checkCycles project supply page
    (read.descriptor.references.map (.ofReference project.root page.dir))
  let resources ← collect project supply page.dir {} read.descriptor
  return {
    fragment := ← Partial.spliceAll project supply page page.dir read.fragment
    resources
    partials := read.fragment.references.length }

/-- Puts the content of a page into its layout; without a place for it the content is lost. -/
def insertContent (layout : Path) (frame content : Fragment) : n Fragment := do
  match frame.replaceFirst? (.slot .page) content with
  | some merged => return merged
  | none =>
    supply.tell [.noPageSlot layout page.path]
    return frame

def mergeInto (layoutPath : Path) (layoutText : String) (read : Extraction) : n Merged := do
  let layout := Template.extract .layout (.parse layoutText)
  supply.tell layout.notices
  let layoutDir := layoutPath.parent?.getD project.root
  Partial.checkCycles project supply page
    (read.descriptor.references.map (.ofReference project.root page.dir)
      ++ layout.descriptor.references.map (.ofReference project.root layoutDir))
  let links ← collect project supply layoutDir {} layout.descriptor
  let resources ← collect project supply page.dir links read.descriptor
  supply.tell ((unslotted layout.descriptor resources).map (.noSlotFor · layoutPath page.path))
  let content := bodyOf read.fragment
  let frame ← Partial.spliceAll project supply page layoutDir layout.fragment
  let inner ← Partial.spliceAll project supply page page.dir content
  return {
    fragment := ← insertContent supply page layoutPath frame inner
    resources
    partials := layout.fragment.references.length + content.references.length }

/-- The page with its layout, if it asks for one. -/
def merge (read : Extraction) : n Merged := do
  if read.descriptor.layout == "" then mergeWithout project supply page read
  else
    let layoutPath := resolve project.root page.dir read.descriptor.layout
    supply.tell [.compiling page.path (some layoutPath)]
    match ← supply.layout? layoutPath with
    | some text => mergeInto project supply page layoutPath text read
    | none => throw (.missingLayout page.path layoutPath)

/-- Fills the slots for resources. -/
def fillLinks (css js : String) (fragment : Fragment) : Fragment :=
  Id.run (fragment.substitute fun
    | .slot .css => some (.ofHtml css)
    | .slot .js => some (.ofHtml js)
    | _ => none)

/-- Leaves out the slots that nothing can fill any more. -/
def dropSlots (fragment : Fragment) : n Fragment := do
  supply.tell (fragment.slots.map (.droppedSlot page.path ·))
  return fragment.withoutSlots

def firstPass (merged : Merged) : n Progress := do
  let urls := AssetUrls.make project.root project.config.assetsDir project.version
  let filled := fillLinks (urls.cssMarkup merged.resources) (urls.jsMarkup merged.resources)
    merged.fragment
  return {
    html := (← dropSlots supply page filled).render
    passes := 1
    partials := merged.partials
    splicing := if merged.partials > 0 then 1 else 0 }

/-! ## Further passes -/

def reread (p : Progress) : n Extraction := do
  let read := Template.extract .page (.parse p.html)
  supply.tell read.notices
  return read

/-- A pass that finds nothing to splice. -/
def lastPass (p : Progress) (read : Extraction) : n Progress :=
  return { p with html := (← dropSlots supply page read.fragment).render, passes := p.passes + 1 }

def splicingPass (p : Progress) (read : Extraction) : n Progress := do
  let spliced ← Partial.spliceAll project supply page page.dir read.fragment
  return {
    html := (← dropSlots supply page spliced).render
    passes := p.passes + 1
    partials := p.partials + read.fragment.references.length
    splicing := p.splicing + 1 }

/-- Passes until one finds nothing to splice; `left` more of them may splice. -/
def passesFrom : (left : Nat) → Progress → n Progress
  | 0, p => do
    let read ← reread supply p
    if read.fragment.references.isEmpty then lastPass supply page p read
    else throw (.passLimit page.path p.splicing)
  | left + 1, p => do
    let read ← reread supply p
    if read.fragment.references.isEmpty then lastPass supply page p read
    else passesFrom left (← splicingPass project supply page p read)

def furtherPasses (p : Progress) : n Progress :=
  if p.splicing == 0 then pure p
  else passesFrom project supply page (project.config.embeds.maxPasses - p.splicing) p

/-- Compiles the text of a page without writing anything. -/
def resolve (text : String) : n CompiledPage := do
  let read := Template.extract .page (.parse text)
  supply.tell read.notices
  let merged ← merge project supply page
    { read with descriptor := withPageAssets project page read.descriptor }
  let done ← furtherPasses project supply page (← firstPass project supply page merged)
  return {
    html := done.html
    passes := done.passes
    partials := done.partials
    resources := merged.resources }

variable {m : Type → Type} [Monad m]

/-- Compiles a page, and makes the files that it links; only a page that compiled gets any. -/
def compile (source : Source m) (ensureStubs : ResourceSet → m (Except FileError (List Path))) :
    BuildM m CompiledPage := do
  let text ← BuildM.readPage source page.path
  let compiled ← resolve project (BuildM.supply source) page text
  let stubs ←
    if project.config.assets.createMissing
    then BuildM.attempt .io (ensureStubs compiled.resources)
    else pure []
  BuildM.tell [.resolved page.path compiled.partials compiled.passes]
  return { compiled with stubs }

end Page

end StaticSite
