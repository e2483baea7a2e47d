/-!
# The tree of a page

A page is a table of nodes that point at each other: each node names its parent, its two
neighbours and its first and last child. A node is known by its place in the table, which is the
order in which nodes were made; that order is not the order of the page, since the rules for
misplaced tags move nodes about.

The links are the tree: every later question (what is below a node, what stands beside it, what is
its text) follows them, each from its own side. Operations change exactly the links they need to
and no more. In particular `moveChildren` tells only the first and the last child of their new
parent. The children between them go on naming the old one, so a nested type of trees could not
say what a page is.

An operation is refused (`none`) where it would need a link that is not there.

**Walking.** `walk` lists the edges met when a node is entered, its children are walked, and it is
left again; `descendants` are the nodes entered on the way.
-/

namespace PageCrawl.Html

/-- The kinds of elements: those of HTML proper, of drawings and of formulas. -/
inductive Space
  | html
  | svg
  | math
deriving Repr, DecidableEq, Inhabited

/-- The space that the name of an attribute belongs to; `plain` for all but a few in foreign
elements. -/
inductive AttrSpace
  | plain
  | xlink
  | xml
  | xmlns
deriving Repr, DecidableEq, Inhabited

/-- An attribute of an element. -/
structure ElementAttr where
  space : AttrSpace
  name : String
  value : String
deriving Repr, DecidableEq, Inhabited

/-- An element without its place in the tree. -/
structure Element where
  space : Space
  name : String
  attrs : List ElementAttr := []
deriving Repr, DecidableEq, Inhabited

namespace Element

/-- Whether this is the element of HTML with the given name. -/
def isHtml (e : Element) (name : String) : Bool := e.space == .html && e.name == name

/-- Whether this is an element of HTML whose name is in the list. -/
def isHtmlIn (e : Element) (names : List String) : Bool := e.space == .html && names.contains e.name

/-- The value of the plain attribute of the given name. -/
def attr? (e : Element) (name : String) : Option String :=
  (e.attrs.find? fun a => a.space == .plain && a.name == name).map (·.value)

/-- The value of the first attribute of the given name, in any space. -/
def anyAttr? (e : Element) (name : String) : Option String :=
  (e.attrs.find? fun a => a.name == name).map (·.value)

/-- Adds the attributes that the element does not have yet. -/
def addMissing (e : Element) (attrs : List ElementAttr) : Element :=
  let put (kept : List ElementAttr) (a : ElementAttr) : List ElementAttr :=
    if kept.any fun b => b.space == a.space && b.name == a.name then kept else kept ++ [a]
  { e with attrs := attrs.foldl put e.attrs }

end Element

/-- What a node is. -/
inductive NodeKind
  | document
  /-- The root of the content of a `template` element. -/
  | fragment
  | doctype (name : String)
  | comment (text : String)
  | text (text : String)
  | element (e : Element)
deriving Repr, DecidableEq, Inhabited

/-- A node's place in the table of nodes. -/
abbrev NodeId := Nat

/-- A node and its links. -/
structure Node where
  kind : NodeKind
  parent : Option NodeId := none
  previous : Option NodeId := none
  next : Option NodeId := none
  /-- The first and the last child. -/
  children : Option (NodeId × NodeId) := none
deriving Repr, DecidableEq, Inhabited

/-- A table of linked nodes. -/
structure Tree where
  nodes : Array Node
deriving Repr, DecidableEq, Inhabited

namespace Tree

/-- A page with nothing in it: the document alone, as node 0. -/
def empty : Tree := ⟨#[{ kind := .document }]⟩

/-- The document. -/
def root : NodeId := 0

/-- A node with its links. -/
def node? (t : Tree) (n : NodeId) : Option Node := t.nodes[n]?

/-- Changes one node. -/
def modify (t : Tree) (n : NodeId) (f : Node → Node) : Tree := ⟨t.nodes.modify n f⟩

/-- Changes one node, if it is given. -/
def modify? (t : Tree) (n : Option NodeId) (f : Node → Node) : Tree :=
  match n with
  | some n => t.modify n f
  | none => t

/-- The element that a node is. -/
def element? (t : Tree) (n : NodeId) : Option Element :=
  match t.node? n with
  | some { kind := .element e, .. } => some e
  | _ => none

/-- The text that a node is. -/
def text? (t : Tree) (n : NodeId) : Option String :=
  match t.node? n with
  | some { kind := .text s, .. } => some s
  | _ => none

/-- The parent that a node names. -/
def parent? (t : Tree) (n : NodeId) : Option NodeId := (t.node? n).bind (·.parent)

/-- The neighbour before a node. -/
def previous? (t : Tree) (n : NodeId) : Option NodeId := (t.node? n).bind (·.previous)

/-- The neighbour after a node. -/
def next? (t : Tree) (n : NodeId) : Option NodeId := (t.node? n).bind (·.next)

/-- The first child of a node. -/
def firstChild? (t : Tree) (n : NodeId) : Option NodeId :=
  ((t.node? n).bind (·.children)).map (·.1)

/-- The last child of a node. -/
def lastChild? (t : Tree) (n : NodeId) : Option NodeId :=
  ((t.node? n).bind (·.children)).map (·.2)

/-! ## Building -/

/-- Adds a node without links. -/
def add (t : Tree) (kind : NodeKind) : Tree × NodeId :=
  (⟨t.nodes.push { kind }⟩, t.nodes.size)

/-- Takes a node out of the list of its siblings. -/
def detach (t : Tree) (n : NodeId) : Option Tree := do
  let node ← t.node? n
  match node.parent with
  | none => some t
  | some p =>
    let t := t.modify n fun x => { x with parent := none, previous := none, next := none }
    let t := t.modify? node.previous fun x => { x with next := node.next }
    let t := t.modify? node.next fun x => { x with previous := node.previous }
    let (first, last) ← (← t.node? p).children
    if first == last then some (t.modify p fun x => { x with children := none })
    else if first == n then
      let first ← node.next
      some (t.modify p fun x => { x with children := some (first, last) })
    else if last == n then
      let last ← node.previous
      some (t.modify p fun x => { x with children := some (first, last) })
    else some t

/-- Makes a node the last child of another, wherever it was before. -/
def append (t : Tree) (parent child : NodeId) : Option Tree := do
  let last := t.lastChild? parent
  let t ← t.detach child
  let t := t.modify child fun x => { x with parent := some parent, previous := last }
  let t := t.modify? last fun x => { x with next := some child }
  some (t.modify parent fun x =>
    { x with children := some ((x.children.map (·.1)).getD child, child) })

/-- Puts a node before another, wherever it was before. -/
def insertBefore (t : Tree) (sibling child : NodeId) : Option Tree := do
  let node ← t.node? sibling
  let parent ← node.parent
  let t ← t.detach child
  let t := t.modify child fun x =>
    { x with parent := some parent, previous := node.previous, next := some sibling }
  let t := t.modify? node.previous fun x => { x with next := some child }
  let t := t.modify sibling fun x => { x with previous := some child }
  let (first, last) ← (← t.node? parent).children
  if first == sibling then some (t.modify parent fun x => { x with children := some (child, last) })
  else some t

/-- Appends the list of children of one node to that of another. Only the two ends of the list are
told of their new parent. -/
def moveChildren (t : Tree) (source target : NodeId) : Tree :=
  match (t.node? source).bind (·.children) with
  | none => t
  | some (first, last) =>
    let t := t.modify source fun x => { x with children := none }
    let t := t.modify first fun x => { x with parent := some target }
    let t := t.modify last fun x => { x with parent := some target }
    match (t.node? target).bind (·.children) with
    | none => t.modify target fun x => { x with children := some (first, last) }
    | some (first', last') =>
      let t := t.modify last' fun x => { x with next := some first }
      let t := t.modify first fun x => { x with previous := some last' }
      t.modify target fun x => { x with children := some (first', last) }

/-- Lengthens the text that a node is. -/
def extendText (t : Tree) (n : NodeId) (more : String) : Tree :=
  t.modify n fun x =>
    match x.kind with
    | .text s => { x with kind := .text (s ++ more) }
    | _ => x

/-- Whether a node, if it is given, is text. -/
def isText (t : Tree) : Option NodeId → Bool
  | some n => (t.text? n).isSome
  | none => false

/-- Puts text after the children of a node; it joins text that already stands there. -/
def appendText (t : Tree) (parent : NodeId) (text : String) : Option Tree :=
  match t.lastChild? parent with
  | some last =>
    if (t.text? last).isSome then some (t.extendText last text)
    else
      let (t, n) := t.add (.text text)
      t.append parent n
  | none =>
    let (t, n) := t.add (.text text)
    t.append parent n

/-- Puts text before a node that has a parent; it joins text that already stands there. -/
def insertTextBefore (t : Tree) (sibling : NodeId) (text : String) : Option Tree :=
  match t.parent? sibling with
  | none => some t
  | some _ =>
    match t.previous? sibling with
    | some previous =>
      if (t.text? previous).isSome then some (t.extendText previous text)
      else
        let (t, n) := t.add (.text text)
        t.insertBefore sibling n
    | none =>
      let (t, n) := t.add (.text text)
      t.insertBefore sibling n

/-! ## Walking -/

/-- A step of a walk: a node is entered or left. -/
inductive Edge
  | enter (n : NodeId)
  | leave (n : NodeId)
deriving Repr, DecidableEq

/-- The edge after another on a walk from `start`. -/
def nextEdge (t : Tree) (start : NodeId) : Edge → Option Edge
  | .enter n => some <| match t.firstChild? n with
    | some c => .enter c
    | none => .leave n
  | .leave n =>
    if n == start then none
    else match t.next? n with
      | some s => some (.enter s)
      | none => (t.parent? n).map .leave

/-- The edges of a walk from `start` on, at most as many as given. -/
def walkFrom (t : Tree) (start : NodeId) : Nat → Edge → List Edge → List Edge
  | 0, _, acc => acc.reverse
  | n + 1, e, acc =>
    match t.nextEdge start e with
    | some e' => walkFrom t start n e' (e :: acc)
    | none => (e :: acc).reverse

/-- The edges of the walk through a node. A walk that ends meets no edge twice, so it has at most
two edges for each node of the table. -/
def walk (t : Tree) (start : NodeId) : List Edge :=
  t.walkFrom start (2 * t.nodes.size) (.enter start) []

/-- The nodes entered on a walk, after its start. -/
def descendants (t : Tree) (start : NodeId) : List NodeId :=
  (t.walk start).tail.filterMap fun
    | .enter n => some n
    | .leave _ => none

/-- The neighbours from a node on, at most as many as given. -/
def siblingsFrom (t : Tree) : Nat → Option NodeId → List NodeId
  | 0, _ => []
  | _, none => []
  | n + 1, some c => c :: t.siblingsFrom n (t.next? c)

/-- The children of a node in their order. -/
def childrenOf (t : Tree) (n : NodeId) : List NodeId :=
  t.siblingsFrom t.nodes.size (t.firstChild? n)

/-- The text below a node: all its text nodes put together. -/
def textOf (t : Tree) (n : NodeId) : String :=
  (t.walk n).foldl (fun s e =>
    match e with
    | .enter m => s ++ (t.text? m).getD ""
    | .leave _ => s) ""

end Tree

end PageCrawl.Html
