import PageCrawl.Text.Blank

/-!
# Tokens of a page

What the text of a page falls into before a tree is built from it: tags, comments, doctypes and
text. Text is cut into runs of blanks and runs without any, since many rules of the tree treat
the two differently.
-/

namespace PageCrawl.Html

/-- An attribute as it stands in a tag: its name in lower case, its value decoded. -/
structure Attribute where
  /-- The name. -/
  name : String
  /-- The value, empty when the tag gives none. -/
  value : String
deriving Repr, DecidableEq, Inhabited

/-- A start tag. -/
structure Tag where
  /-- The name in lower case. -/
  name : String
  /-- The attributes in their order; of two with one name the first is kept. -/
  attrs : List Attribute := []
  /-- Whether the tag ends in `/>`. -/
  selfClosing : Bool := false
deriving Repr, DecidableEq, Inhabited

namespace Tag

/-- The value of the attribute of the given name. -/
def attr? (tag : Tag) (name : String) : Option String :=
  (tag.attrs.find? (·.name == name)).map (·.value)

/-- Whether two tags make the same element: name and attributes agree, in any order. -/
def sameElement (t u : Tag) : Bool :=
  t.name == u.name && t.attrs.length == u.attrs.length && t.attrs.all u.attrs.contains

end Tag

/-- A document type declaration. -/
structure Doctype where
  /-- The name in lower case. -/
  name : Option String := none
  /-- The public identifier. -/
  publicId : Option String := none
  /-- The system identifier. -/
  systemId : Option String := none
  /-- Whether the declaration is malformed, so that the page is laid out in the old way. -/
  malformed : Bool := false
deriving Repr, DecidableEq, Inhabited

/-- A token of a page. -/
inductive Token
  /-- A document type declaration. -/
  | doctype (d : Doctype)
  /-- A start tag. -/
  | startTag (tag : Tag)
  /-- An end tag; its attributes mean nothing. -/
  | endTag (name : String)
  /-- A comment, or what is read as one. -/
  | comment (text : String)
  /-- A run of blanks of markup. -/
  | blanks (text : String)
  /-- A run of text without blanks. -/
  | words (text : String)
  /-- The character NUL. -/
  | nul
  /-- A mistake in the text that gives no token of its own. -/
  | fault
  /-- The end of the page. -/
  | eof
deriving Repr, DecidableEq, Inhabited

/-- How the text after a tag is read. -/
inductive Content
  /-- Tags, comments and references. -/
  | markup
  /-- References, but no tag except the end of the element. -/
  | escapable
  /-- Nothing but the end of the element. -/
  | raw
  /-- As `raw`, but an end tag inside a comment that opens a script again does not count. -/
  | script
  /-- Text up to the end of the page. -/
  | plain
deriving Repr, DecidableEq, Inhabited

end PageCrawl.Html
