import Mathlib
import PageCrawl.Selector.Match

/-!
# Selectors that do not ask where the search started

`:scope` is the only condition that reads the element from which a search starts.  A selector in
which it occurs nowhere, at whatever depth, matches the same elements in a search of the whole page
and in a search below an element.
-/

namespace PageCrawl

open Html

mutual

/-- Whether a condition asks, somewhere in it, for the element from which the search started. -/
def Condition.asksScope : Condition → Bool
  | .scope => true
  | .isNot list | .isAny list | .has list => anyAsksScope list
  | .any | .noSpace | .name .. | .id _ | .hasClass _ | .attr _ | .nth .. | .root | .empty
  | .anchor | .never => false

/-- Whether one of the conditions asks for it. -/
def conditionsAskScope : List Condition → Bool
  | [] => false
  | c :: cs => c.asksScope || conditionsAskScope cs

/-- Whether a selector asks for it. -/
def Selector.asksScope : Selector → Bool
  | .compound cs => conditionsAskScope cs
  | .combined cs _ left => conditionsAskScope cs || left.asksScope

/-- Whether one of the selectors asks for it. -/
def anyAsksScope : List Selector → Bool
  | [] => false
  | s :: ss => s.asksScope || anyAsksScope ss

end

variable {d : Document} {scope scope' anchor : Option NodeId} {n : NodeId}

mutual

lemma Condition.holds_scope (d : Document) (scope scope' anchor : Option NodeId) (n : NodeId) :
    ∀ c : Condition, c.asksScope = false → c.holds d scope anchor n = c.holds d scope' anchor n
  | .any, _ | .noSpace, _ | .name .., _ | .id _, _ | .hasClass _, _ | .attr _, _ | .nth .., _
  | .root, _ | .empty, _ | .anchor, _ | .never, _ => by simp only [Condition.holds]
  | .scope, h => nomatch h
  | .isNot list, h => by
      rw [Condition.holds, Condition.holds, anyMatches_scope d scope scope' anchor n list h]
  | .isAny list, h => by
      rw [Condition.holds, Condition.holds, anyMatches_scope d scope scope' anchor n list h]
  | .has list, h => by
      rw [Condition.holds, Condition.holds, anyMatchesFrom_scope d scope scope' n list h]

lemma allHold_scope (d : Document) (scope scope' anchor : Option NodeId) (n : NodeId) :
    ∀ cs : List Condition, conditionsAskScope cs = false →
      allHold d scope anchor cs n = allHold d scope' anchor cs n
  | [], _ => by simp only [allHold]
  | c :: cs, h => by
      rw [conditionsAskScope, Bool.or_eq_false_iff] at h
      rw [allHold, allHold, Condition.holds_scope d scope scope' anchor n c h.1,
        allHold_scope d scope scope' anchor n cs h.2]

lemma Selector.verdict_scope (d : Document) (scope scope' anchor : Option NodeId) (n : NodeId) :
    ∀ s : Selector, s.asksScope = false → s.verdict d scope anchor n = s.verdict d scope' anchor n
  | .compound cs, h => by
      rw [Selector.asksScope] at h
      rw [Selector.verdict, Selector.verdict, allHold_scope d scope scope' anchor n cs h]
  | .combined cs k left, h => by
      rw [Selector.asksScope, Bool.or_eq_false_iff] at h
      have hleft : (fun m => left.verdict d scope anchor m) =
          fun m => left.verdict d scope' anchor m :=
        funext fun m => Selector.verdict_scope d scope scope' anchor m left h.2
      rw [Selector.verdict, Selector.verdict, allHold_scope d scope scope' anchor n cs h.1, hleft]

lemma anyMatches_scope (d : Document) (scope scope' anchor : Option NodeId) (n : NodeId) :
    ∀ list : List Selector, anyAsksScope list = false →
      anyMatches d scope anchor list n = anyMatches d scope' anchor list n
  | [], _ => by simp only [anyMatches]
  | s :: ss, h => by
      rw [anyAsksScope, Bool.or_eq_false_iff] at h
      rw [anyMatches, anyMatches, Selector.verdict_scope d scope scope' anchor n s h.1,
        anyMatches_scope d scope scope' anchor n ss h.2]

lemma anyMatchesFrom_scope (d : Document) (scope scope' : Option NodeId) (n : NodeId) :
    ∀ list : List Selector, anyAsksScope list = false →
      anyMatchesFrom d scope list n = anyMatchesFrom d scope' list n
  | [], _ => by simp only [anyMatchesFrom]
  | s :: ss, h => by
      rw [anyAsksScope, Bool.or_eq_false_iff] at h
      have hs : (fun m => s.verdict d scope (some n) m == .matched) =
          fun m => s.verdict d scope' (some n) m == .matched :=
        funext fun m => by rw [Selector.verdict_scope d scope scope' (some n) m s h.1]
      rw [anyMatchesFrom, anyMatchesFrom, hs, anyMatchesFrom_scope d scope scope' n ss h.2]

end

end PageCrawl
