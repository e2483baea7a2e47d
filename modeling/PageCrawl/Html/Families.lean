import PageCrawl.Html.Tree

/-!
# Families of elements

The lists of element names that the rules of tree building speak of. A *scope* is a family at
whose members the search for an open element stops; an *implied end* is a family whose open
elements close by themselves.
-/

namespace PageCrawl.Html.Element

/-- Foreign elements in which text and most tags of HTML are read as formulas' plain text. -/
def isTextIntegration (e : Element) : Bool :=
  e.space == .math && ["mi", "mo", "mn", "ms", "mtext"].contains e.name

/-- Elements of drawings whose content is HTML again. -/
def isHtmlIntegration (e : Element) : Bool :=
  e.space == .svg && ["foreignObject", "desc", "title"].contains e.name

/-- Where the search for an open element stops by default. -/
def bounds (e : Element) : Bool :=
  e.isHtmlIn ["applet", "caption", "html", "table", "td", "th", "marquee", "object", "template"]
    || e.isTextIntegration || e.isHtmlIntegration

/-- Where the search for an open list item stops. -/
def boundsListItem (e : Element) : Bool := e.bounds || e.isHtmlIn ["ol", "ul"]

/-- Where the search for an open paragraph stops. -/
def boundsButton (e : Element) : Bool := e.bounds || e.isHtml "button"

/-- Where the search for an open part of a table stops. -/
def boundsTable (e : Element) : Bool := e.isHtmlIn ["html", "table", "template"]

/-- Where the search for an open `select` stops. -/
def boundsSelect (e : Element) : Bool := !e.isHtmlIn ["optgroup", "option"]

/-- Elements that close by themselves where the rules allow it. -/
def endsItself (e : Element) : Bool :=
  e.isHtmlIn ["dd", "dt", "li", "option", "optgroup", "p", "rb", "rp", "rt", "rtc"]

/-- Elements that close by themselves at the end of a template. -/
def endsItselfInTemplate (e : Element) : Bool :=
  e.endsItself || e.isHtmlIn ["caption", "colgroup", "tbody", "td", "tfoot", "th", "thead", "tr"]

/-- Headings. -/
def isHeading (e : Element) : Bool := e.isHtmlIn ["h1", "h2", "h3", "h4", "h5", "h6"]

/-- Cells of a table. -/
def isCell (e : Element) : Bool := e.isHtmlIn ["td", "th"]

/-- Where clearing the stack for a row group stops. -/
def isTableContext (e : Element) : Bool := e.isHtmlIn ["html", "table", "template"]

/-- Where clearing the stack for a row stops. -/
def isRowGroupContext (e : Element) : Bool :=
  e.isHtmlIn ["tbody", "tfoot", "thead", "template", "html"]

/-- Where clearing the stack for a cell stops. -/
def isRowContext (e : Element) : Bool := e.isHtmlIn ["tr", "template", "html"]

/-- Elements of a table whose text and misplaced content moves out of the table. -/
def fosters (e : Element) : Bool := e.isHtmlIn ["table", "tbody", "tfoot", "thead", "tr"]

/-- Elements with rules of their own, at which the closing of other elements stops. -/
def isSpecial (e : Element) : Bool :=
  e.isHtmlIn [
    "address", "applet", "area", "article", "aside", "base", "basefont", "bgsound", "blockquote",
    "body", "br", "button", "caption", "center", "col", "colgroup", "dd", "details", "dir", "div",
    "dl", "dt", "embed", "fieldset", "figcaption", "figure", "footer", "form", "frame", "frameset",
    "h1", "h2", "h3", "h4", "h5", "h6", "head", "header", "hgroup", "hr", "html", "iframe", "img",
    "input", "isindex", "li", "link", "listing", "main", "marquee", "menu", "meta", "nav",
    "noembed", "noframes", "noscript", "object", "ol", "p", "param", "plaintext", "pre", "script",
    "section", "select", "source", "style", "summary", "table", "tbody", "td", "template",
    "textarea", "tfoot", "th", "thead", "title", "tr", "track", "ul", "wbr", "xmp"]

end PageCrawl.Html.Element
