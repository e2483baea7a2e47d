import PageCrawl.Html.Token
import PageCrawl.Html.Tree

/-!
# Names in foreign elements

Tags are read in lower case, but drawings and formulas have names with capitals and attributes
that belong to other name spaces. The tables here restore them.
-/

namespace PageCrawl.Html.Foreign

/-- Tag names of drawings that hold capitals. -/
def svgTags : List String :=
  ["altGlyph", "altGlyphDef", "altGlyphItem", "animateColor", "animateMotion", "animateTransform",
   "clipPath", "feBlend", "feColorMatrix", "feComponentTransfer", "feComposite",
   "feConvolveMatrix", "feDiffuseLighting", "feDisplacementMap", "feDistantLight", "feDropShadow",
   "feFlood", "feFuncA", "feFuncB", "feFuncG", "feFuncR", "feGaussianBlur", "feImage", "feMerge",
   "feMergeNode", "feMorphology", "feOffset", "fePointLight", "feSpecularLighting", "feSpotLight",
   "feTile", "feTurbulence", "foreignObject", "glyphRef", "linearGradient", "radialGradient",
   "textPath"]

/-- Attribute names of drawings that hold capitals. -/
def svgAttrs : List String :=
  ["attributeName", "attributeType", "baseFrequency", "baseProfile", "calcMode", "clipPathUnits",
   "diffuseConstant", "edgeMode", "filterUnits", "glyphRef", "gradientTransform", "gradientUnits",
   "kernelMatrix", "kernelUnitLength", "keyPoints", "keySplines", "keyTimes", "lengthAdjust",
   "limitingConeAngle", "markerHeight", "markerUnits", "markerWidth", "maskContentUnits",
   "maskUnits", "numOctaves", "pathLength", "patternContentUnits", "patternTransform",
   "patternUnits", "pointsAtX", "pointsAtY", "pointsAtZ", "preserveAlpha", "preserveAspectRatio",
   "primitiveUnits", "refX", "refY", "repeatCount", "repeatDur", "requiredExtensions",
   "requiredFeatures", "specularConstant", "specularExponent", "spreadMethod", "startOffset",
   "stdDeviation", "stitchTiles", "surfaceScale", "systemLanguage", "tableValues", "targetX",
   "targetY", "textLength", "viewBox", "viewTarget", "xChannelSelector", "yChannelSelector",
   "zoomAndPan"]

/-- The word of a list that is the given one up to case, or the given one. -/
def capitalized (words : List String) (name : String) : String :=
  (words.find? fun w => Text.asciiLower w == name).getD name

/-- The name of a tag inside a drawing. -/
def svgTag (name : String) : String := capitalized svgTags name

/-- Names of attributes in other spaces, with the space and the name there. -/
def spacedAttrs : List (String × AttrSpace × String) :=
  [("xlink:actuate", .xlink, "actuate"), ("xlink:arcrole", .xlink, "arcrole"),
   ("xlink:href", .xlink, "href"), ("xlink:role", .xlink, "role"), ("xlink:show", .xlink, "show"),
   ("xlink:title", .xlink, "title"), ("xlink:type", .xlink, "type"), ("xml:base", .xml, "base"),
   ("xml:lang", .xml, "lang"), ("xml:space", .xml, "space"), ("xmlns", .xmlns, "xmlns"),
   ("xmlns:xlink", .xmlns, "xlink")]

/-- The attributes of an element of the given space. -/
def attrs (space : Space) (as : List Attribute) : List ElementAttr :=
  as.map fun a =>
    let name := match space with
      | .html => a.name
      | .svg => capitalized svgAttrs a.name
      | .math => if a.name == "definitionurl" then "definitionURL" else a.name
    match space, spacedAttrs.lookup name with
    | .html, _ | _, none => ⟨.plain, name, a.value⟩
    | _, some (s, n) => ⟨s, n, a.value⟩

/-- Start tags of HTML that end a drawing or a formula. -/
def breaksOut (tag : Tag) : Bool :=
  ["b", "big", "blockquote", "body", "br", "center", "code", "dd", "div", "dl", "dt", "em",
   "embed", "h1", "h2", "h3", "h4", "h5", "h6", "head", "hr", "i", "img", "li", "listing", "menu",
   "meta", "nobr", "ol", "p", "pre", "ruby", "s", "small", "span", "strong", "strike", "sub",
   "sup", "table", "tt", "u", "ul", "var"].contains tag.name
  || (tag.name == "font" && tag.attrs.any fun a => ["color", "face", "size"].contains a.name)

end PageCrawl.Html.Foreign
