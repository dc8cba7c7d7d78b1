/-
  What a page or a layout says about itself.

  The settings of one attribute name only some of the values; a descriptor has them
  all, and is built by laying settings over it one after the other.
-/

import StaticSite.Json.Decoder.Record
import StaticSite.Template.Marker

namespace StaticSite.Template

/-- The values that one attribute names. -/
structure Settings where
  layout : Option String := none
  css : Option (List String) := none
  js : Option (List String) := none
  modules : Option (List String) := none
  deriving DecidableEq, Repr

/-- The layout, the resources and the markers of a file. -/
structure Descriptor where
  /-- The layout that the file asks for; empty if it asks for none. -/
  layout : String := ""
  css : List String := []
  js : List String := []
  modules : List String := []
  markers : List Marker := []
  deriving DecidableEq, Repr

namespace Settings

open Json.Decoder (Record Field)

def settingsRecord : Record Settings where
  expected := "struct PageConfig"
  strict := false
  initial := {}
  fields := [
    .of "layout" (Json.Decoder.optional Json.Decoder.string) fun v s => { s with layout := v },
    .of "css" (Json.Decoder.optional (Json.Decoder.list Json.Decoder.string))
      fun v s => { s with css := v },
    .of "js" (Json.Decoder.optional (Json.Decoder.list Json.Decoder.string))
      fun v s => { s with js := v },
    .of "js-mod" (Json.Decoder.optional (Json.Decoder.list Json.Decoder.string))
      fun v s => { s with modules := v }]

/-- Reads the value of a settings attribute; unknown keys are ignored. -/
def parse (json : String) : Except Json.Error Settings :=
  (Json.Decoder.record settingsRecord).decode json

end Settings

namespace Descriptor

/-- Lays settings over a descriptor; what they do not name stays. -/
def overlay (d : Descriptor) (s : Settings) : Descriptor :=
  { d with
    layout := s.layout.getD d.layout
    css := s.css.getD d.css
    js := s.js.getD d.js
    modules := s.modules.getD d.modules }

def hasMarker (d : Descriptor) (kind : MarkerKind) : Bool := d.markers.any (·.kind == kind)

def references (d : Descriptor) : List Reference := d.markers.filterMap Marker.reference?

end Descriptor

end StaticSite.Template
