import PageCrawl.Html.Families
import PageCrawl.Html.Foreign

/-!
# Building the tree

The state in which a tree is built and the operations that the rules of building are made of:
asking for open elements, closing them, and putting nodes in their place.

The open elements are a list, innermost first, so that the current element is the head and what
encloses it is the tail; the list of formatting elements is kept in the same direction, the latest
first. `Build` is a computation on this state that fails only where the links of the tree do not
allow an operation.
-/

namespace PageCrawl.Html

/-- What part of a page is being read; each has rules of its own. -/
inductive Mode
  | initial
  | beforeHtml
  | beforeHead
  | inHead
  | afterHead
  | inBody
  | text
  | inTable
  | inTableText
  | inCaption
  | inColumnGroup
  | inTableBody
  | inRow
  | inCell
  | inSelect
  | inSelectInTable
  | inTemplate
  | afterBody
  | inFrameset
  | afterFrameset
  | afterAfterBody
  | afterAfterFrameset
deriving Repr, DecidableEq, Inhabited

/-- An entry of the list of formatting elements. -/
inductive FormatEntry
  /-- Up to here an enclosing element keeps formatting in. -/
  | marker
  /-- A formatting element and the tag that made it. -/
  | element (node : NodeId) (tag : Tag)
deriving Repr, DecidableEq, Inhabited

/-- A page under construction. -/
structure Builder where
  tree : Tree := .empty
  mode : Mode := .initial
  /-- The mode to go back to after text. -/
  returnMode : Mode := .initial
  /-- The modes of the open templates, innermost first. -/
  templateModes : List Mode := []
  /-- Text of a table that waits for its end: whether it is blank, and the text. Latest first. -/
  pendingText : List (Bool × String) := []
  /-- Whether tables may stand in paragraphs, as pages without a modern doctype expect. -/
  legacyTables : Bool := false
  /-- The open elements, innermost first. -/
  opened : List NodeId := []
  /-- The formatting elements, latest first. -/
  formatting : List FormatEntry := []
  head : Option NodeId := none
  form : Option NodeId := none
  framesetOk : Bool := true
  /-- Whether a line feed right now would be dropped. -/
  dropLineFeed : Bool := false
  /-- Whether misplaced content moves out of a table. -/
  fostering : Bool := false
deriving Inhabited

/-- A computation on a page under construction. -/
abbrev Build := StateT Builder Option

namespace Build

/-- The page under construction does not allow the operation. -/
def refused {α : Type} : Build α := fun _ => none

/-- Changes the tree. -/
def changeTree (f : Tree → Option Tree) : Build Unit := fun b =>
  let tree := b.tree
  (f tree).map fun tree => ((), { b with tree })

/-- Adds a node without links. -/
def newNode (kind : NodeKind) : Build NodeId := fun b =>
  let (tree, n) := b.tree.add kind
  some (n, { b with tree })

/-- The element that a node is. -/
def element? (n : NodeId) : Build (Option Element) := do return (← get).tree.element? n

/-- The current element. -/
def current : Build NodeId := do
  match (← get).opened with
  | n :: _ => return n
  | [] => refused

/-- Whether the current element satisfies a test. -/
def currentIs (p : Element → Bool) : Build Bool := do
  return (← element? (← current)).any p

/-- Sets the mode. -/
def setMode (m : Mode) : Build Unit := modify fun b => { b with mode := m }

/-- A frameset may no longer replace the body. -/
def noFrameset : Build Unit := modify fun b => { b with framesetOk := false }

/-! ## Open elements -/

/-- Closes the current element and returns it. -/
def pop : Build NodeId := do
  match (← get).opened with
  | n :: rest =>
    modify fun b => { b with opened := rest }
    return n
  | [] => refused

/-- Opens an element. -/
def push (n : NodeId) : Build Unit := modify fun b => { b with opened := n :: b.opened }

/-- Takes an element out of the open elements. -/
def removeOpened (n : NodeId) : Build Unit := modify fun b => { b with opened := b.opened.erase n }

/-- Whether a search from the innermost element on finds its target before it meets a bound. -/
def findInScope (t : Tree) (bound : Element → Bool) (target : NodeId → Bool) : List NodeId → Bool
  | [] => false
  | n :: rest => target n || (!(t.element? n).any bound && findInScope t bound target rest)

/-- Whether an open element that satisfies a test is in scope. -/
def inScope (bound target : Element → Bool) : Build Bool := do
  let b ← get
  return findInScope b.tree bound (fun n => (b.tree.element? n).any target) b.opened

/-- Whether an open element of HTML of the given name is in scope. -/
def inScopeNamed (bound : Element → Bool) (name : String) : Build Bool :=
  inScope bound (·.isHtml name)

/-- Whether an element of HTML of the given name is open. -/
def isOpen (name : String) : Build Bool := do
  let b ← get
  return b.opened.any fun n => (b.tree.element? n).any (·.isHtml name)

/-- Closes elements as long as the current one satisfies a test. -/
def popWhile (p : Element → Bool) : Build Unit := modify fun b =>
  { b with opened := b.opened.dropWhile fun n => (b.tree.element? n).any p }

/-- Closes elements up to and with the first that satisfies a test. -/
def popThrough (p : Element → Bool) : Build Unit := do
  popWhile fun e => !p e
  modify fun b => { b with opened := b.opened.drop 1 }

/-- Closes elements up to and with the first of HTML of the given name. -/
def popThroughNamed (name : String) : Build Unit := popThrough (·.isHtml name)

/-- Closes elements that end by themselves, except those of the given name. -/
def endImpliedExcept (name : String) : Build Unit :=
  popWhile fun e => e.endsItself && !e.isHtml name

/-- Closes elements that end by themselves. -/
def endImplied : Build Unit := popWhile Element.endsItself

/-- Closes an open paragraph that is in scope. -/
def closeParagraph : Build Unit := do
  if ← inScopeNamed Element.boundsButton "p" then
    endImpliedExcept "p"
    popThroughNamed "p"

/-- The outermost element, which is `html`. -/
def htmlNode : Build NodeId := do
  match (← get).opened.getLast? with
  | some n => return n
  | none => refused

/-- The second outermost element, if it is `body`. -/
def bodyNode? : Build (Option NodeId) := do
  let b ← get
  match b.opened.reverse with
  | _ :: n :: _ => return if (b.tree.element? n).any (·.isHtml "body") then some n else none
  | _ => return none

/-! ## Putting nodes in their place -/

/-- Where a node goes. -/
inductive Place
  /-- After the children of a node. -/
  | lastIn (parent : NodeId)
  /-- Before a table, or, if the table stands nowhere, after the children of the element that was
  open around it. -/
  | aroundTable (table enclosing : NodeId)

/-- The content of a template: its first child, which was made with it. -/
def templateContent (t : Tree) (n : NodeId) : Option NodeId := t.firstChild? n

/-- Where misplaced content of a table goes, given the open elements. -/
def fosterPlace (t : Tree) : List NodeId → Option Place
  | [] => none
  | [n] => some (.lastIn n)
  | n :: outer :: rest =>
    if (t.element? n).any (·.isHtml "template") then (templateContent t n).map .lastIn
    else if (t.element? n).any (·.isHtml "table") then some (.aroundTable n outer)
    else fosterPlace t (outer :: rest)

/-- Where a node goes that is put into the given element, or into the current one. -/
def placeFor (target : Option NodeId) : Build Place := do
  let target ← match target with
    | some n => pure n
    | none => current
  let b ← get
  let e := b.tree.element? target
  let place :=
    if b.fostering && e.any Element.fosters then fosterPlace b.tree b.opened
    else if e.any (·.isHtml "template") then (templateContent b.tree target).map .lastIn
    else some (.lastIn target)
  match place with
  | some p => return p
  | none => refused

/-- Puts a node in a place. -/
def putNode (place : Place) (n : NodeId) : Build Unit :=
  changeTree fun t =>
    match place with
    | .lastIn parent => t.append parent n
    | .aroundTable table enclosing =>
      if (t.parent? table).isSome then
        (t.detach n).bind fun t =>
          if (t.parent? table).isSome then t.insertBefore table n else some t
      else t.append enclosing n

/-- Puts text in a place. -/
def putText (place : Place) (text : String) : Build Unit :=
  changeTree fun t =>
    match place with
    | .lastIn parent => t.appendText parent text
    | .aroundTable table enclosing =>
      if (t.parent? table).isSome then t.insertTextBefore table text
      else t.appendText enclosing text

/-- Puts text into the current element. -/
def insertText (text : String) : Build Unit := do putText (← placeFor none) text

/-- Puts a comment into the current element. -/
def insertComment (text : String) : Build Unit := do
  let n ← newNode (.comment text)
  putNode (← placeFor none) n

/-- Makes an element; a template is made with a node for its content. -/
def newElement (e : Element) : Build NodeId := do
  let n ← newNode (.element e)
  if e.isHtml "template" then
    let content ← newNode .fragment
    changeTree (·.append n content)
  return n

/-- Makes an element and puts it into the current one. -/
def insert (e : Element) : Build NodeId := do
  let n ← newElement e
  putNode (← placeFor none) n
  return n

/-- The element of HTML that a tag makes. -/
def elementOf (tag : Tag) : Element := ⟨.html, tag.name, Foreign.attrs .html tag.attrs⟩

/-- Makes the element of a tag, puts it into the current one and opens it. -/
def openElement (tag : Tag) : Build NodeId := do
  let n ← insert (elementOf tag)
  push n
  return n

/-- As `openElement`, where nobody asks for the node. -/
def start (tag : Tag) : Build Unit := discard (openElement tag)

/-- Makes the element of a tag that holds nothing. -/
def startVoid (tag : Tag) : Build Unit := discard (insert (elementOf tag))

/-- Opens an element that no tag asked for. -/
def startNamed (name : String) : Build Unit := start { name }

/-- Adds the attributes of a tag to an element that lacks them. -/
def mergeAttrs (n : NodeId) (tag : Tag) : Build Unit :=
  changeTree fun t => some <| t.modify n fun x =>
    match x.kind with
    | .element e => { x with kind := .element (e.addMissing (Foreign.attrs .html tag.attrs)) }
    | _ => x

/-! ## Modes -/

/-- The mode that the open elements call for, innermost first. -/
def modeFor (b : Builder) : List NodeId → Option Mode
  | [] => some .inBody
  | n :: outer =>
    let last := outer.isEmpty
    match b.tree.element? n with
    | some { space := .html, name, .. } =>
      if name == "select" then
        let enclosing := outer.findSome? fun m =>
          match b.tree.element? m with
          | some e =>
            if e.isHtml "template" then some Mode.inSelect
            else if e.isHtml "table" then some Mode.inSelectInTable
            else none
          | none => none
        some (enclosing.getD .inSelect)
      else if (name == "td" || name == "th") && !last then some .inCell
      else if name == "tr" then some .inRow
      else if name == "tbody" || name == "thead" || name == "tfoot" then some .inTableBody
      else if name == "caption" then some .inCaption
      else if name == "colgroup" then some .inColumnGroup
      else if name == "table" then some .inTable
      else if name == "template" then b.templateModes.head?
      else if name == "head" && !last then some .inHead
      else if name == "body" then some .inBody
      else if name == "frameset" then some .inFrameset
      else if name == "html" then some (if b.head.isSome then .afterHead else .beforeHead)
      else modeFor b outer
    | _ => modeFor b outer

/-- The mode that the open elements call for. -/
def appropriateMode : Build Mode := do
  let b ← get
  match modeFor b b.opened with
  | some m => return m
  | none => refused

/-- Goes to the mode that the open elements call for. -/
def resetMode : Build Unit := do setMode (← appropriateMode)

end Build

end PageCrawl.Html
