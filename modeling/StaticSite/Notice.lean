/-
  What a build tells along the way.

  A warning says that something in the sources had no effect; a detail follows the
  work of the build.  Notices never change a result.
-/

import StaticSite.FileError
import StaticSite.Json.Error
import StaticSite.Path
import StaticSite.Template.Marker
import StaticSite.Text.Quoted

namespace StaticSite

inductive Level where
  | warning
  | detail
  deriving DecidableEq, Repr

open Template (Slot MarkerKind)

inductive Notice where
  | malformedSettings (cause : Json.Error)
  | referenceWithoutSrc
  | replacementWithoutColon (entry : String)
  | duplicateResource (reference : String)
  | readFailed (path : Path) (cause : FileError)
  | decodedLossily (path : Path)
  | compiling (page : Path) (layout : Option Path)
  /-- The layout has no place for links that the page brings. -/
  | noSlotFor (slot : Slot) (layout page : Path)
  /-- The layout has no place for the content of the page. -/
  | noPageSlot (layout page : Path)
  | missingReference (page target : Path)
  | splicing (target : Path)
  | droppedSlot (page : Path) (slot : Slot)
  | resolved (page : Path) (references passes : Nat)
  | wrote (target : Path)
  deriving Repr

/-- The attribute that holds the settings of a page. -/
def settingsAttribute : String := "data-ham-page-config"

namespace Notice

def level : Notice → Level
  | .malformedSettings _ | .referenceWithoutSrc | .replacementWithoutColon _ | .noSlotFor .. |
    .noPageSlot .. | .missingReference .. | .droppedSlot .. => .warning
  | _ => .detail

def message : Notice → String
  | .malformedSettings cause =>
    "ignoring malformed " ++ settingsAttribute ++ " attribute: " ++ cause.message
  | .referenceWithoutSrc =>
    "dropping " ++ MarkerKind.typeName .splice ++ " embed without a src attribute"
  | .replacementWithoutColon entry => "ignoring replace entry without ':': " ++ Text.quote entry
  | .duplicateResource reference => "skipping duplicate resource " ++ reference
  | .readFailed path cause => "read failed for " ++ path.text ++ ": " ++ cause.message
  | .decodedLossily path => path.text ++ " is not valid UTF-8, decoding lossily"
  | .compiling page none => "compiling " ++ page.text ++ " without a layout"
  | .compiling page (some layout) => "compiling " ++ page.text ++ " with " ++ layout.text
  | .noSlotFor slot layout page =>
    "layout " ++ layout.text ++ " has no " ++ MarkerKind.typeName (.slot slot)
      ++ " slot; matching resources of " ++ page.text ++ " are not linked"
  | .noPageSlot layout page =>
    "layout " ++ layout.text ++ " has no " ++ MarkerKind.typeName (.slot .page)
      ++ " slot; content of " ++ page.text ++ " dropped"
  | .missingReference page target =>
    page.text ++ ": embedded file " ++ target.text ++ " not found, splicing nothing"
  | .splicing target => "embedding " ++ target.text
  | .droppedSlot page slot =>
    page.text ++ ": dropping unresolved " ++ (Template.Marker.slot slot).text
  | .resolved page references passes =>
    page.text ++ ": " ++ toString references ++ " partials in " ++ toString passes ++ " passes"
  | .wrote target => "wrote " ++ target.text

end Notice

end StaticSite
