/-!
# Selectors

A `Selector` is read from right to left, the way it is matched: the conditions on the element
itself come first, and what must stand around it hangs behind. Conditions may hold selectors
again, so the two types are defined together.
-/

namespace PageCrawl

/-- How two elements of a selector are related. -/
inductive Combinator
  /-- The left one is an ancestor. -/
  | descendant
  /-- The left one is the parent. -/
  | child
  /-- The left one is the element before. -/
  | next
  /-- The left one is some element before. -/
  | later
deriving Repr, DecidableEq, Inhabited

namespace Combinator

/-- Whether the related elements are siblings. -/
def isSibling : Combinator → Bool
  | .next | .later => true
  | .child | .descendant => false

end Combinator

/-- How the value of an attribute is compared. -/
inductive AttrRelation
  | equals
  /-- It is one of the words of the attribute. -/
  | word
  /-- The attribute is it, or starts with it and a dash. -/
  | dashed
  | starts
  | ends
  | contains
deriving Repr, DecidableEq, Inhabited

/-- How letter case counts when the value of an attribute is compared. -/
inductive CaseRule
  | exact
  | ignored
  /-- Ignored on elements of HTML only. -/
  | ignoredInHtml
deriving Repr, DecidableEq, Inhabited

/-- What is asked of an attribute. -/
structure AttrCondition where
  /-- Whether the attribute may be in any name space. -/
  anySpace : Bool
  /-- The name as written. -/
  name : String
  /-- The name in lower case, which is the one looked for on elements of HTML. -/
  lowerName : String
  /-- How and with what its value is compared; without it the attribute need only be there. -/
  value : Option (AttrRelation × String × CaseRule)
deriving Repr, DecidableEq, Inhabited

/-- Which siblings are counted, and from where. -/
structure Counting where
  /-- Whether only siblings of the same type count. -/
  sameType : Bool
  /-- Whether they are counted from the last one. -/
  fromEnd : Bool
deriving Repr, DecidableEq, Inhabited

mutual

/-- A condition on one element. -/
inductive Condition
  /-- Any element. -/
  | any
  /-- No element: every element here is in some name space. -/
  | noSpace
  /-- The name as written and in lower case. -/
  | name (name lowerName : String)
  | id (id : String)
  | hasClass (name : String)
  | attr (a : AttrCondition)
  /-- The place among the siblings is `a * n + b` for some `n` that is not negative. -/
  | nth (counting : Counting) (a b : Int)
  | root
  | empty
  /-- The element from which the search started. -/
  | scope
  /-- None of the selectors matches. -/
  | isNot (list : List Selector)
  /-- One of the selectors matches. -/
  | isAny (list : List Selector)
  /-- One of the selectors matches somewhere, seen from here. -/
  | has (list : List Selector)
  /-- The element from which a `has` looks. -/
  | anchor
  /-- What no element is. -/
  | never

/-- A selector, from right to left. -/
inductive Selector
  /-- Conditions on the element itself. -/
  | compound (conditions : List Condition)
  /-- Conditions on the element itself and a selector for one that is related to it. -/
  | combined (conditions : List Condition) (relation : Combinator) (left : Selector)

end

instance : Inhabited Condition := ⟨.never⟩
instance : Inhabited Selector := ⟨.compound []⟩

end PageCrawl
