import PageCrawl.Selector.Match
import PageCrawl.Selector.Parse
import PageCrawl.Text.Remove

/-!
# Taking data out of pages

Looking up text, attributes and rows of a page by selectors. A lookup that finds nothing is an
error, so each of them can serve as a test of whether a page is complete.

Lookups start at a node and see only what a walk through it enters, except `table` and
`hasSelector`, which look at all elements of the page in the order in which they were made. A page
on which reading breaks down holds nothing.
-/

namespace PageCrawl

open Html Selector Text

/-- Why a lookup fails. -/
inductive ExtractError
  | invalidSelector (expression : String) (fault : Fault)
  | notFound (expression : String)
  | missingAttribute (attr expression : String)
deriving Repr, DecidableEq, Inhabited

namespace ExtractError

/-- What the error says, if its fault can be told. -/
def message? : ExtractError → Option String
  | .invalidSelector expression fault =>
    fault.message?.map fun reason => "invalid selector " ++ expression ++ ": " ++ reason
  | .notFound expression => some ("could not find any element matching " ++ expression)
  | .missingAttribute attr expression =>
    some ("attribute " ++ attr ++ " not found in element matching " ++ expression)

end ExtractError

namespace Extract

/-- Reads a selector, so that it can be used on many pages. -/
def selector (expression : String) : Except ExtractError (List Selector) :=
  match Selector.parse expression with
  | .ok list => .ok list
  | .error fault => .error (.invalidSelector expression fault)

/-- The elements of a page that match, in the order in which they were made. -/
def allMatching (d : Document) (list : List Selector) : List NodeId :=
  d.elements.filter fun n => anyMatches d none none list n

/-- The elements below a node that match, in the order of a walk. -/
def matchingBelow (d : Document) (start : NodeId) (list : List Selector) : List NodeId :=
  (d.elementsBelow start).filter fun n => anyMatches d (some start) none list n

/-- Whether a page holds an element that matches. -/
def hasSelector (page : String) (list : List Selector) : Bool :=
  match Document.parse? page with
  | some d => d.elements.any fun n => anyMatches d none none list n
  | none => false

/-- What is found, or that nothing is. -/
def found (expression : String) : List NodeId → Except ExtractError (List NodeId)
  | [] => .error (.notFound expression)
  | ns => .ok ns

/-- All rows of a page that match. -/
def table (d : Document) (expression : String) : Except ExtractError (List NodeId) := do
  found expression (allMatching d (← selector expression))

/-- All elements below a node that match. -/
def nodes (d : Document) (start : NodeId) (expression : String) :
    Except ExtractError (List NodeId) := do
  found expression (matchingBelow d start (← selector expression))

/-- The first element below a node that matches. -/
def firstBelow (d : Document) (start : NodeId) (expression : String) :
    Except ExtractError NodeId := do
  match ← nodes d start expression with
  | n :: _ => return n
  | [] => throw (.notFound expression)

/-- Text without dirt in it and blanks around it. -/
def cleaned (text dirt : List Char) : List Char := trim (removeAll dirt text)

/-- The text of the first element below a node that matches, without `dirt` in it and blanks
around it. -/
def text (d : Document) (start : NodeId) (expression dirt : String) :
    Except ExtractError String := do
  let n ← firstBelow d start expression
  return String.ofList (cleaned (d.tree.textOf n).toList dirt.toList)

/-- An attribute of the first element below a node that matches. -/
def attr (d : Document) (start : NodeId) (expression name : String) :
    Except ExtractError String := do
  let n ← firstBelow d start expression
  match (d.tree.element? n).bind (·.attr? name) with
  | some value => return value
  | none => throw (.missingAttribute name expression)

/-- The text of the first element of a page that matches, if it is not blank. -/
def heading? (d : Document) (list : List Selector) : Option String :=
  match d.elements.find? fun n => anyMatches d none none list n with
  | none => none
  | some n =>
    let text := trimmed (d.tree.textOf n)
    if text.isEmpty then none else some text

/-- The title of a page: its `title`, or else its first `h1`. -/
def title? (page : String) : Option String := do
  let d ← Document.parse? page
  let named (name : String) : Option String := heading? d [.compound [.name name name]]
  named "title" <|> named "h1"

end Extract

end PageCrawl
