import PageCrawl.Html.Document
import PageCrawl.Selector.Basic

/-!
# Matching selectors

Whether an element of a page satisfies a selector. A selector is matched from right to left: first
the conditions on the element itself, then, for each combinator, the elements that are related to
it. The outcome is a `Verdict`, since how a part fails decides which other elements are still
worth trying: after a failure among siblings only another ancestor can help, and where the
ancestors are used up nothing can.

Each relation is read off its own links of the page: ancestors by the parents that nodes name,
siblings by their neighbours, and the elements that `:has()` looks through by children.
-/

namespace PageCrawl

open Html Text

namespace Html.Document

/-- Whether a node is an element. -/
def isElement (d : Document) (n : NodeId) : Bool := (d.tree.element? n).isSome

/-- The parent of a node, if it is an element. -/
def parentElement? (d : Document) (n : NodeId) : Option NodeId :=
  (d.tree.parent? n).filter d.isElement

/-- Follows a link from a node on, for at most the given number of steps. -/
def chain (link : NodeId → Option NodeId) : Nat → Option NodeId → List NodeId
  | 0, _ => []
  | _, none => []
  | k + 1, some n => n :: chain link k (link n)

/-- The elements around a node, innermost first. -/
def ancestors (d : Document) (n : NodeId) : List NodeId :=
  chain d.parentElement? d.tree.nodes.size (d.parentElement? n)

/-- The elements before a node among its siblings, nearest first. -/
def elementsBefore (d : Document) (n : NodeId) : List NodeId :=
  (chain d.tree.previous? d.tree.nodes.size (d.tree.previous? n)).filter d.isElement

/-- The elements after a node among its siblings, nearest first. -/
def elementsAfter (d : Document) (n : NodeId) : List NodeId :=
  (chain d.tree.next? d.tree.nodes.size (d.tree.next? n)).filter d.isElement

/-- The children of a node that are elements. -/
def childElements (d : Document) (n : NodeId) : List NodeId :=
  (d.tree.childrenOf n).filter d.isElement

/-- The elements below a node, found by children; at most as many levels as given. -/
def elementsWithin (d : Document) : Nat → NodeId → List NodeId
  | 0, _ => []
  | k + 1, n => (d.childElements n).flatMap fun c => c :: elementsWithin d k c

/-- Whether an element is the outermost one. -/
def isRoot (d : Document) (n : NodeId) : Bool :=
  match (d.tree.parent? n).bind d.tree.node? with
  | some { kind := .document, .. } => true
  | _ => false

/-- Whether an element holds neither elements nor text. -/
def isEmpty (d : Document) (n : NodeId) : Bool :=
  (d.tree.childrenOf n).all fun c => !d.isElement c && (d.tree.text? c).isNone

end Html.Document

namespace AttrCondition

/-- Whether a text contains another. -/
def contains (needle : List Char) : List Char → Bool
  | [] => needle.isEmpty
  | c :: cs => needle.isPrefixOf (c :: cs) || contains needle cs

/-- The pieces of a text between single blanks of markup, empty ones included. -/
def blankPieces (cs : List Char) : List (List Char) :=
  let (piece, rest) := cs.foldr
    (fun c acc => if isMarkupBlank c then ([], acc.1 :: acc.2) else (c :: acc.1, acc.2)) ([], [])
  piece :: rest

/-- Whether the value of an attribute compares to the one asked for. -/
def compares (relation : AttrRelation) (value asked : List Char) : Bool :=
  match relation with
  | .equals => value == asked
  | .word => (blankPieces value).contains asked
  | .dashed => value == asked || (asked ++ ['-']).isPrefixOf value
  | .starts => asked.isPrefixOf value
  | .ends => asked.reverse.isPrefixOf value.reverse
  | .contains => contains asked value

/-- Whether an element satisfies the condition. -/
def holds (a : AttrCondition) (e : Element) : Bool :=
  let html := e.space == .html
  let name := if html then a.lowerName else a.name
  e.attrs.any fun x =>
    (a.anySpace || x.space == .plain) && x.name == name &&
      match a.value with
      | none => true
      | some (relation, asked, rule) =>
        let caseless := rule == .ignored || (rule == .ignoredInHtml && html)
        if caseless then
          compares relation (x.value.toList.map Char.toLower) (asked.toList.map Char.toLower)
        else compares relation x.value.toList asked.toList

end AttrCondition

namespace Selector

/-- The outcome of matching a part of a selector at an element. -/
inductive Verdict
  | matched
  /-- It does not match; another sibling may. -/
  | failed
  /-- It does not match, and no other sibling can help; another ancestor may. -/
  | failedAmongSiblings
  /-- It does not match, and no other element can help. -/
  | hopeless
deriving Repr, DecidableEq, Inhabited

/-- Tries the elements that a combinator relates to an element, nearest first. -/
def search (k : Combinator) (attempt : NodeId → Verdict) : List NodeId → Verdict
  | [] => if k.isSibling then .failedAmongSiblings else .hopeless
  | n :: others =>
    match attempt n with
    | .matched => .matched
    | .hopeless => .hopeless
    | v =>
      match k with
      | .next => v
      | .child => .failedAmongSiblings
      | .later => if v == .failedAmongSiblings then v else search k attempt others
      | .descendant => search k attempt others

/-- The elements that a combinator relates to an element, nearest first. -/
def related (d : Document) (k : Combinator) (n : NodeId) : List NodeId :=
  if k.isSibling then d.elementsBefore n else d.ancestors n

/-- Whether two elements have the same type. -/
def sameType (e f : Element) : Bool := e.space == f.space && e.name == f.name

/-- Whether the place of an element among its siblings is `a * n + b` for an `n` that is not
negative. A difference that 32 bits do not hold is none. -/
def isNth (d : Document) (counting : Counting) (a b : Int) (n : NodeId) : Bool :=
  let siblings := if counting.fromEnd then d.elementsAfter n else d.elementsBefore n
  let mine := d.tree.element? n
  let counted :=
    if counting.sameType then
      siblings.filter fun m =>
        match mine, d.tree.element? m with
        | some e, some f => sameType e f
        | _, _ => false
    else siblings
  let difference : Int := (counted.length : Int) + 1 - b
  difference ≤ 2147483647 &&
    if a == 0 then difference == 0
    else difference.tdiv a ≥ 0 && a * difference.tdiv a == difference

/-- Whether a selector that looks from an element has combinators of a kind beyond the first,
given the test for the kind. -/
def hasBeyondFirst (p : Combinator → Bool) : Selector → Bool
  | .compound _ => false
  | .combined _ _ (.compound _) => false
  | .combined _ k left => p k || hasBeyondFirst p left

/-- The combinator with which a selector looks from its element. -/
def firstCombinator : Selector → Combinator
  | .compound _ => .descendant
  | .combined _ k (.compound _) => k
  | .combined _ _ left => firstCombinator left

/-- The elements at which a selector that looks from an element may end. -/
def candidates (d : Document) (s : Selector) (n : NodeId) : List NodeId :=
  let levels := d.tree.nodes.size
  let down := hasBeyondFirst (fun k => !k.isSibling) s
  let across := hasBeyondFirst Combinator.isSibling s
  match firstCombinator s with
  | .descendant => d.elementsWithin levels n
  | .child => if down then d.elementsWithin levels n else d.childElements n
  | .next =>
    let siblings := if across then d.elementsAfter n else (d.elementsAfter n).take 1
    if down then siblings.flatMap (d.elementsWithin levels) else siblings
  | .later =>
    if down then (d.elementsAfter n).flatMap (d.elementsWithin levels) else d.elementsAfter n

end Selector

open Selector in
mutual

/-- Whether an element satisfies a condition. `scope` is the element from which the search
started, if there is one, and `anchor` that from which a `:has()` looks. -/
def Condition.holds (d : Document) (scope anchor : Option NodeId) :
    Condition → NodeId → Bool
  | .any, _ => true
  | .noSpace, _ => false
  | .name name lowerName, n =>
    (d.tree.element? n).any fun e => e.name == if e.space == .html then lowerName else name
  | .id id, n => ((d.tree.element? n).bind (·.anyAttr? "id")) == some id
  | .hasClass name, n =>
    (d.tree.element? n).any fun e => e.attrs.any fun a =>
      a.name == "class" && (words a.value.toList).contains name.toList
  | .attr a, n => (d.tree.element? n).any a.holds
  | .nth counting a b, n => isNth d counting a b n
  | .root, n => d.isRoot n
  | .empty, n => d.isEmpty n
  | .scope, n =>
    match scope with
    | some m => m == n
    | none => d.isRoot n
  | .isNot list, n => !anyMatches d scope anchor list n
  | .isAny list, n => anyMatches d scope anchor list n
  | .has list, n => anyMatchesFrom d scope list n
  | .anchor, n =>
    match anchor with
    | some m => m == n
    | none => true
  | .never, _ => false

/-- Whether an element satisfies all conditions. -/
def allHold (d : Document) (scope anchor : Option NodeId) : List Condition → NodeId → Bool
  | [], _ => true
  | c :: cs, n => c.holds d scope anchor n && allHold d scope anchor cs n

/-- How matching a selector at an element ends. -/
def Selector.verdict (d : Document) (scope anchor : Option NodeId) :
    Selector → NodeId → Verdict
  | .compound cs, n => if allHold d scope anchor cs n then .matched else .failed
  | .combined cs k left, n =>
    if allHold d scope anchor cs n then
      search k (fun m => left.verdict d scope anchor m) (related d k n)
    else .failed

/-- Whether one of the selectors matches an element. -/
def anyMatches (d : Document) (scope anchor : Option NodeId) : List Selector → NodeId → Bool
  | [], _ => false
  | s :: ss, n => s.verdict d scope anchor n == .matched || anyMatches d scope anchor ss n

/-- Whether one of the selectors matches somewhere, seen from an element. -/
def anyMatchesFrom (d : Document) (scope : Option NodeId) : List Selector → NodeId → Bool
  | [], _ => false
  | s :: ss, n =>
    ((candidates d s n).any fun m => s.verdict d scope (some n) m == .matched)
      || anyMatchesFrom d scope ss n

end

end PageCrawl
