import PageCrawl.Html.Lexer
import PageCrawl.Html.Builder.Rules

/-!
# Pages as documents

`Document.parse` reads the text of a page into a `Document`. Any text is a page: mistakes are
mended by the rules of tree building, so the result is missing only where those rules themselves
have tied the links of the tree into a knot that an operation cannot undo.
-/

namespace PageCrawl.Html

/-- A parsed page. -/
structure Document where
  tree : Tree
deriving Repr, DecidableEq, Inhabited

namespace Document

/-- Public identifiers of doctypes whose pages are laid out in the old way. -/
def legacyPublicIds : List String :=
  ["-//w3o//dtd w3 html strict 3.0//en//", "-/w3c/dtd html 4.0 transitional/en", "html"]

/-- The system identifier of doctypes whose pages are laid out in the old way. -/
def legacySystemId : String := "http://www.ibm.com/data/dtd/v11/ibmxhtml1-transitional.dtd"

/-- How public identifiers start whose pages are laid out in the old way. -/
def legacyPublicStarts : List String :=
  ["+//silmaril//dtd html pro v0r11 19970101//",
   "-//advasoft ltd//dtd html 3.0 aswedit + extensions//",
   "-//as//dtd html 3.0 aswedit + extensions//", "-//ietf//dtd html 2.0 level 1//",
   "-//ietf//dtd html 2.0 level 2//", "-//ietf//dtd html 2.0 strict level 1//",
   "-//ietf//dtd html 2.0 strict level 2//", "-//ietf//dtd html 2.0 strict//",
   "-//ietf//dtd html 2.0//", "-//ietf//dtd html 2.1e//", "-//ietf//dtd html 3.0//",
   "-//ietf//dtd html 3.2 final//", "-//ietf//dtd html 3.2//", "-//ietf//dtd html 3//",
   "-//ietf//dtd html level 0//", "-//ietf//dtd html level 1//", "-//ietf//dtd html level 2//",
   "-//ietf//dtd html level 3//", "-//ietf//dtd html strict level 0//",
   "-//ietf//dtd html strict level 1//", "-//ietf//dtd html strict level 2//",
   "-//ietf//dtd html strict level 3//", "-//ietf//dtd html strict//", "-//ietf//dtd html//",
   "-//metrius//dtd metrius presentational//",
   "-//microsoft//dtd internet explorer 2.0 html strict//",
   "-//microsoft//dtd internet explorer 2.0 html//",
   "-//microsoft//dtd internet explorer 2.0 tables//",
   "-//microsoft//dtd internet explorer 3.0 html strict//",
   "-//microsoft//dtd internet explorer 3.0 html//",
   "-//microsoft//dtd internet explorer 3.0 tables//", "-//netscape comm. corp.//dtd html//",
   "-//netscape comm. corp.//dtd strict html//", "-//o'reilly and associates//dtd html 2.0//",
   "-//o'reilly and associates//dtd html extended 1.0//",
   "-//o'reilly and associates//dtd html extended relaxed 1.0//",
   "-//softquad software//dtd hotmetal pro 6.0::19990601::extensions to html 4.0//",
   "-//softquad//dtd hotmetal pro 4.0::19971010::extensions to html 4.0//",
   "-//spyglass//dtd html 2.0 extended//", "-//sq//dtd html 2.0 hotmetal + extensions//",
   "-//sun microsystems corp.//dtd hotjava html//",
   "-//sun microsystems corp.//dtd hotjava strict html//", "-//w3c//dtd html 3 1995-03-24//",
   "-//w3c//dtd html 3.2 draft//", "-//w3c//dtd html 3.2 final//", "-//w3c//dtd html 3.2//",
   "-//w3c//dtd html 3.2s draft//", "-//w3c//dtd html 4.0 frameset//",
   "-//w3c//dtd html 4.0 transitional//", "-//w3c//dtd html experimental 19960712//",
   "-//w3c//dtd html experimental 970421//", "-//w3c//dtd w3 html//", "-//w3o//dtd w3 html 3.0//",
   "-//webtechs//dtd mozilla html 2.0//", "-//webtechs//dtd mozilla html//"]

/-- How public identifiers start whose pages are laid out in the old way if there is no system
identifier. -/
def looseStarts : List String :=
  ["-//w3c//dtd html 4.01 frameset//", "-//w3c//dtd html 4.01 transitional//"]

/-- Whether a doctype lets tables stand in paragraphs. -/
def isLegacy (d : Doctype) : Bool :=
  let publicId := d.publicId.map Text.asciiLower
  let systemId := d.systemId.map Text.asciiLower
  let starts (ps : List String) :=
    publicId.any fun p => ps.any fun s => s.toList.isPrefixOf p.toList
  d.malformed || d.name != some "html" || publicId.any legacyPublicIds.contains
    || systemId == some legacySystemId || starts legacyPublicStarts
    || (starts looseStarts && systemId.isNone)

/-- Whether the current element is foreign. -/
def inForeign (b : Builder) : Bool :=
  match b.opened with
  | n :: _ => (b.tree.element? n).any (·.space != .html)
  | [] => false

/-- Gives a token to the page under construction. -/
def feed (t : Token) : Build Content := fun b =>
  let drops := b.dropLineFeed
  let b := { b with dropLineFeed := false }
  match t with
  | .fault => some (.markup, b)
  | .doctype d => ((Build.readDoctype d (isLegacy d)).map fun _ => Content.markup) b
  | t =>
    match if drops then Build.withoutLineFeed t else some t with
    | none => some (.markup, b)
    | some t => Build.follow (16 * (b.opened.length + 8)) t b

/-- Gives tokens to the page under construction. Returns how the following text is read. -/
def feedAll : List Token → Content → Build Content
  | [], c => return c
  | t :: ts, _ => do feedAll ts (← feed t)

/-- The name of the last start tag of a list of tokens. -/
def lastStart (ts : List Token) (default : String) : String :=
  ts.foldl (fun name t =>
    match t with
    | .startTag tag => tag.name
    | _ => name) default

/-- Reads tokens and builds the page from them until the text is used up. Each reading takes at
least one character off the text, whose length the number bounds. -/
def build : Nat → Content → String → List Char → Build Unit
  | 0, _, _, _ => return
  | _ + 1, _, _, [] => return
  | n + 1, content, element, cs => do
    let (ts, rest) := Lexer.next content element (inForeign (← get)) cs
    let content ← feedAll ts .markup
    build n content (lastStart ts element) rest

/-- Parses the text of a page. A byte order mark at its front is no part of it. -/
def parse? (page : String) : Option Document :=
  let cs := match page.toList with
    | '\uFEFF' :: rest => rest
    | cs => cs
  let all : Build Unit := do
    build (cs.length + 1) .markup "" cs
    discard (feed .eof)
  (all.run {}).map fun (_, b) => ⟨b.tree⟩

/-- The outermost element. -/
def rootElement? (d : Document) : Option NodeId :=
  (d.tree.childrenOf Tree.root).find? fun n => (d.tree.element? n).isSome

/-- All elements that stand somewhere in the page, in the order in which they were made. -/
def elements (d : Document) : List NodeId :=
  (List.range d.tree.nodes.size).filter fun n =>
    (d.tree.element? n).isSome && (d.tree.parent? n).isSome

/-- The elements below a node, in the order of a walk through it. -/
def elementsBelow (d : Document) (n : NodeId) : List NodeId :=
  (d.tree.descendants n).filter fun m => (d.tree.element? m).isSome

end Document

end PageCrawl.Html
