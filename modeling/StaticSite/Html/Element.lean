/-
  Classes of element names that the tree construction rules refer to.

  The classes are lists of names, so that a rule reads as membership in a list and
  is decided by evaluation.
-/

namespace StaticSite.Html

/-- The vocabulary an element belongs to. -/
inductive Namespace where
  | html
  | svg
  | mathml
  deriving DecidableEq, Repr

/-! ## Classes of HTML elements -/

/-- Elements that end the search for a matching start tag. -/
def specialNames : List String :=
  ["address", "applet", "area", "article", "aside", "base", "basefont", "bgsound", "blockquote",
   "body", "br", "button", "caption", "center", "col", "colgroup", "dd", "details", "dir", "div",
   "dl", "dt", "embed", "fieldset", "figcaption", "figure", "footer", "form", "frame", "frameset",
   "h1", "h2", "h3", "h4", "h5", "h6", "head", "header", "hgroup", "hr", "html", "iframe", "img",
   "input", "isindex", "li", "link", "listing", "main", "marquee", "menu", "meta", "nav",
   "noembed", "noframes", "noscript", "object", "ol", "p", "param", "plaintext", "pre", "script",
   "section", "select", "source", "style", "summary", "table", "tbody", "td", "template",
   "textarea", "tfoot", "th", "thead", "title", "tr", "track", "ul", "wbr", "xmp"]

/-- Elements that close when an enclosing element is closed. -/
def impliedEndNames : List String :=
  ["dd", "dt", "li", "option", "optgroup", "p", "rb", "rp", "rt", "rtc"]

/-- Elements that close when a template is closed. -/
def thoroughImpliedEndNames : List String :=
  impliedEndNames ++ ["caption", "colgroup", "tbody", "td", "tfoot", "th", "thead", "tr"]

def headingNames : List String := ["h1", "h2", "h3", "h4", "h5", "h6"]

/-- Void elements of the document head. -/
def headVoidNames : List String := ["base", "basefont", "bgsound", "link", "meta"]

/-- Start tags that are handled as in the document head wherever they occur. -/
def headContentNames : List String :=
  headVoidNames ++ ["noframes", "script", "style", "template", "title"]

/-- Block elements whose start tag closes an open paragraph. -/
def blockNames : List String :=
  ["address", "article", "aside", "blockquote", "center", "details", "dialog", "dir", "div", "dl",
   "fieldset", "figcaption", "figure", "footer", "header", "hgroup", "main", "menu", "nav", "ol",
   "p", "search", "section", "summary", "ul"]

/-- Elements whose end tag closes the innermost such element in scope. -/
def blockEndNames : List String :=
  ["address", "article", "aside", "blockquote", "button", "center", "details", "dialog", "dir",
   "div", "dl", "fieldset", "figcaption", "figure", "footer", "header", "hgroup", "listing",
   "main", "menu", "nav", "ol", "pre", "search", "section", "summary", "ul"]

/-- Formatting elements other than `a` and `nobr`. -/
def formattingNames : List String :=
  ["b", "big", "code", "em", "font", "i", "s", "small", "strike", "strong", "tt", "u"]

/-- Elements that shield the formatting elements around them. -/
def shieldNames : List String := ["applet", "marquee", "object"]

/-- Void elements of the document body that continue open formatting. -/
def bodyVoidNames : List String := ["area", "br", "embed", "img", "keygen", "wbr", "input"]

/-- Start tags that make no sense in the body and are dropped there. -/
def tablePartNames : List String :=
  ["caption", "col", "colgroup", "frame", "head", "tbody", "td", "tfoot", "th", "thead", "tr"]

/-- Elements in front of whose table misplaced content is moved. -/
def fosterNames : List String := ["table", "tbody", "tfoot", "thead", "tr"]

def rowGroupNames : List String := ["tbody", "tfoot", "thead"]

def cellNames : List String := ["td", "th"]

/-! ## Scopes -/

/-- HTML elements that bound the default scope. -/
def scopeNames : List String :=
  ["applet", "caption", "html", "table", "td", "th", "marquee", "object", "template"]

def listItemScopeNames : List String := scopeNames ++ ["ol", "ul"]

def buttonScopeNames : List String := scopeNames ++ ["button"]

def tableScopeNames : List String := ["html", "table", "template"]

/-! ## Foreign content -/

/-- MathML elements whose content is HTML text. -/
def mathTextNames : List String := ["mi", "mo", "mn", "ms", "mtext"]

/-- SVG elements whose content is HTML. -/
def svgHtmlNames : List String := ["foreignObject", "desc", "title"]

/-- Start tags that end foreign content. -/
def breakoutNames : List String :=
  ["b", "big", "blockquote", "body", "br", "center", "code", "dd", "div", "dl", "dt", "em",
   "embed", "h1", "h2", "h3", "h4", "h5", "h6", "head", "hr", "i", "img", "li", "listing", "menu",
   "meta", "nobr", "ol", "p", "pre", "ruby", "s", "small", "span", "strong", "strike", "sub",
   "sup", "table", "tt", "u", "ul", "var"]

/-- The SVG spelling of element names that are lower-cased by the reader. -/
def svgTagNames : List (String × String) :=
  [("altglyph", "altGlyph"), ("altglyphdef", "altGlyphDef"), ("altglyphitem", "altGlyphItem"),
   ("animatecolor", "animateColor"), ("animatemotion", "animateMotion"),
   ("animatetransform", "animateTransform"), ("clippath", "clipPath"), ("feblend", "feBlend"),
   ("fecolormatrix", "feColorMatrix"), ("fecomponenttransfer", "feComponentTransfer"),
   ("fecomposite", "feComposite"), ("feconvolvematrix", "feConvolveMatrix"),
   ("fediffuselighting", "feDiffuseLighting"), ("fedisplacementmap", "feDisplacementMap"),
   ("fedistantlight", "feDistantLight"), ("fedropshadow", "feDropShadow"),
   ("feflood", "feFlood"), ("fefunca", "feFuncA"), ("fefuncb", "feFuncB"),
   ("fefuncg", "feFuncG"), ("fefuncr", "feFuncR"), ("fegaussianblur", "feGaussianBlur"),
   ("feimage", "feImage"), ("femerge", "feMerge"), ("femergenode", "feMergeNode"),
   ("femorphology", "feMorphology"), ("feoffset", "feOffset"),
   ("fepointlight", "fePointLight"), ("fespecularlighting", "feSpecularLighting"),
   ("fespotlight", "feSpotLight"), ("fetile", "feTile"), ("feturbulence", "feTurbulence"),
   ("foreignobject", "foreignObject"), ("glyphref", "glyphRef"),
   ("lineargradient", "linearGradient"), ("radialgradient", "radialGradient"),
   ("textpath", "textPath")]

/-- The SVG spelling of attribute names that are lower-cased by the reader. -/
def svgAttributeNames : List (String × String) :=
  [("attributename", "attributeName"), ("attributetype", "attributeType"),
   ("basefrequency", "baseFrequency"), ("baseprofile", "baseProfile"), ("calcmode", "calcMode"),
   ("clippathunits", "clipPathUnits"), ("diffuseconstant", "diffuseConstant"),
   ("edgemode", "edgeMode"), ("filterunits", "filterUnits"), ("glyphref", "glyphRef"),
   ("gradienttransform", "gradientTransform"), ("gradientunits", "gradientUnits"),
   ("kernelmatrix", "kernelMatrix"), ("kernelunitlength", "kernelUnitLength"),
   ("keypoints", "keyPoints"), ("keysplines", "keySplines"), ("keytimes", "keyTimes"),
   ("lengthadjust", "lengthAdjust"), ("limitingconeangle", "limitingConeAngle"),
   ("markerheight", "markerHeight"), ("markerunits", "markerUnits"),
   ("markerwidth", "markerWidth"), ("maskcontentunits", "maskContentUnits"),
   ("maskunits", "maskUnits"), ("numoctaves", "numOctaves"), ("pathlength", "pathLength"),
   ("patterncontentunits", "patternContentUnits"), ("patterntransform", "patternTransform"),
   ("patternunits", "patternUnits"), ("pointsatx", "pointsAtX"), ("pointsaty", "pointsAtY"),
   ("pointsatz", "pointsAtZ"), ("preservealpha", "preserveAlpha"),
   ("preserveaspectratio", "preserveAspectRatio"), ("primitiveunits", "primitiveUnits"),
   ("refx", "refX"), ("refy", "refY"), ("repeatcount", "repeatCount"),
   ("repeatdur", "repeatDur"), ("requiredextensions", "requiredExtensions"),
   ("requiredfeatures", "requiredFeatures"), ("specularconstant", "specularConstant"),
   ("specularexponent", "specularExponent"), ("spreadmethod", "spreadMethod"),
   ("startoffset", "startOffset"), ("stddeviation", "stdDeviation"),
   ("stitchtiles", "stitchTiles"), ("surfacescale", "surfaceScale"),
   ("systemlanguage", "systemLanguage"), ("tablevalues", "tableValues"),
   ("targetx", "targetX"), ("targety", "targetY"), ("textlength", "textLength"),
   ("viewbox", "viewBox"), ("viewtarget", "viewTarget"),
   ("xchannelselector", "xChannelSelector"), ("ychannelselector", "yChannelSelector"),
   ("zoomandpan", "zoomAndPan")]

/-- The MathML spelling of attribute names that are lower-cased by the reader. -/
def mathAttributeNames : List (String × String) := [("definitionurl", "definitionURL")]

/-- Attribute names that get a prefix in foreign content: a namespace declaration gets an empty one. -/
def prefixedAttributeNames : List (String × String) := [("xmlns", ":xmlns")]

/-- The spelling of a name in a table of spellings; other names stand as they are. -/
def respell (table : List (String × String)) (name : String) : String :=
  (table.lookup name).getD name

end StaticSite.Html
