import PageCrawl.Html.Document

/-!
# Writing a page

`Document.render?` writes a document as markup again. Text is escaped except inside the elements
whose content is text, elements that hold nothing have no end tag and nothing of what may stand in
them is written, and of a doctype only the name is kept.

The writing follows a walk through the document and remembers the elements it is in, so a walk
that leaves more than it entered cannot be written.
-/

namespace PageCrawl.Html.Document

/-- Elements of HTML that hold nothing. -/
def voidTags : List String :=
  ["area", "base", "basefont", "bgsound", "br", "col", "embed", "frame", "hr", "img", "input",
   "keygen", "link", "meta", "param", "source", "track", "wbr"]

/-- Elements of HTML whose text is written as it stands. -/
def verbatimTags : List String :=
  ["style", "script", "xmp", "iframe", "noembed", "noframes", "plaintext"]

/-- A character of text or of an attribute's value as it is written. -/
def escape (inAttr : Bool) (c : Char) : String :=
  if c == '&' then "&amp;"
  else if c == '\u00A0' then "&nbsp;"
  else if c == '"' && inAttr then "&quot;"
  else if c == '<' && !inAttr then "&lt;"
  else if c == '>' && !inAttr then "&gt;"
  else c.toString

/-- Text with its special characters escaped. -/
def escaped (inAttr : Bool) (s : String) : String :=
  s.toList.foldl (fun out c => out ++ escape inAttr c) ""

/-- What stands before the name of an attribute. -/
def attrLead (a : ElementAttr) : String :=
  match a.space with
  | .plain => ""
  | .xml => "xml:"
  | .xlink => "xlink:"
  | .xmlns => if a.name == "xmlns" then "" else "xmlns:"

/-- A start tag. -/
def renderTag (e : Element) : String :=
  let attrs := e.attrs.foldl (fun out a =>
    out ++ " " ++ attrLead a ++ a.name ++ "=\"" ++ escaped true a.value ++ "\"") ""
  "<" ++ e.name ++ attrs ++ ">"

/-- The elements that the writing is in, innermost first: the name if it is one of HTML, and
whether its children are left out. -/
abbrev Writing := List (Option String × Bool)

/-- Writes what stands at an edge of the walk after what is written so far. -/
def writeEdge (t : Tree) : Writing × String → Tree.Edge → Option (Writing × String)
  | (around, out), .enter n => do
    match (← t.node? n).kind with
    | .document | .fragment => some (around, out)
    | .doctype name => some (around, out ++ "<!DOCTYPE " ++ name ++ ">")
    | .comment text => some (around, out ++ "<!--" ++ text ++ "-->")
    | .text text =>
      match around with
      | [] => none
      | (name, _) :: _ =>
        let verbatim := name.any verbatimTags.contains
        some (around, out ++ if verbatim then text else escaped false text)
    | .element e =>
      let html := if e.space == .html then some e.name else none
      match around with
      | [] => none
      | (_, silent) :: _ =>
        if silent then some ((html, true) :: around, out)
        else some ((html, html.any voidTags.contains) :: around, out ++ renderTag e)
  | (around, out), .leave n => do
    match (← t.node? n).kind with
    | .element e =>
      match around with
      | [] => none
      | (_, silent) :: rest =>
        some (rest, if silent then out else out ++ "</" ++ e.name ++ ">")
    | _ => some (around, out)

/-- The document as markup. -/
def render? (d : Document) : Option String :=
  ((d.tree.walk Tree.root).foldlM (writeEdge d.tree) ([(none, false)], "")).map (·.2)

end PageCrawl.Html.Document
