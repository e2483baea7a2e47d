import PageCrawl.Selector.Basic
import PageCrawl.Selector.Fault

/-!
# Reading selectors

`Selector.parse` reads a list of selectors, separated by commas, from a text. The reader keeps its
place in the list of values even when it fails, because a list that forgives mistakes looks on
from there for brackets and strings that can never be right.

The lists inside `:not()`, `:is()` and the like are read by the same functions one level deeper;
`listAt` counts the levels down, and the count of tokens is always enough.
-/

namespace PageCrawl.Selector

open PageCrawl.Text

/-- A reader of values that keeps its place when it fails. -/
abbrev Reader := ExceptT Fault (StateM (List Value))

namespace Reader

/-- Takes the next value, blanks included; `none` at the end. -/
def take? : Reader (Option Value) := fun vs =>
  match vs with
  | v :: rest => (.ok (some v), rest)
  | [] => (.ok none, [])

/-- Takes the next value, blanks included, which must be there. -/
def take : Reader Value := do
  match ← take? with
  | some v => return v
  | none => throw .ended

/-- The next value, left in its place. -/
def peek? : Reader (Option Value) := return (← get).head?

/-- Drops blanks. -/
def skipBlanks : Reader Unit := modify fun vs => vs.dropWhile fun v =>
  match v with
  | .token (.blank _) => true
  | _ => false

/-- Takes the next value that is not blank; `none` at the end. -/
def takeSolid? : Reader (Option Value) := do
  skipBlanks
  take?

/-- Takes the next value that is not blank, which must be there. -/
def takeSolid : Reader Value := do
  skipBlanks
  take

/-- Nothing but blanks may follow. -/
def expectEnd : Reader Unit := do
  let vs ← get
  match ← takeSolid? with
  | none => pure ()
  | some v =>
    set vs
    throw (.unexpected v.head)

/-- Reads all of a list of values in a way of its own, as the content of a bracket. -/
def within {α : Type} (content : List Value) (r : Reader α) : Reader α := fun rest =>
  match (do let a ← r; expectEnd; return a : Reader α) content with
  | (.ok a, _) => (.ok a, rest)
  | (.error e, _) => (.error e, rest)

end Reader

open Reader

/-- What may stand in the place that is being read. -/
structure Allowed where
  /-- Pseudo-elements. -/
  pseudoElements : Bool := true
  combinators : Bool := true
  /-- Conditions that look from an element at what is around it. -/
  relative : Bool := true
deriving Repr, DecidableEq, Inhabited

/-- What is special about a list of selectors. -/
structure ListKind where
  /-- Selectors that cannot be read match nothing, instead of being faults. -/
  forgiving : Bool := false
  /-- The selectors start at an element from which they look. -/
  relative : Bool := false
deriving Repr, DecidableEq, Inhabited

/-- Reads a list of selectors that stands inside a bracket. -/
abbrev ListReader := Allowed → ListKind → Reader (List Selector)

/-! ## Names -/

/-- The outcome of looking for a name. -/
inductive NameFound
  /-- There is none. -/
  | absent
  /-- A name without space; `none` for any name. -/
  | plain (name : Option String)
  /-- A name in any space. -/
  | anySpace (name : Option String)
  /-- A name in no space. -/
  | noSpace (name : Option String)
deriving Repr, DecidableEq

/-- Reads a name after `|`. -/
def nameAfterBar (inAttr : Bool) : Reader (Option String) := do
  match ← take with
  | .token (.ident n) => return some n
  | v =>
    if v.head == .delim '*' && !inAttr then return none
    else throw (if inAttr then .badAttrName v.head else .badSpacedName v.head)

/-- Whether a bar follows, which is then taken. -/
def takeBar : Reader Bool := do
  match ← peek? with
  | some (.token (.delim '|')) =>
    discard take?
    return true
  | _ => return false

/-- Looks for a name with its space. Named spaces are unknown. -/
def qualifiedName (inAttr : Bool) : Reader NameFound := do
  match ← peek? with
  | none => throw .ended
  | some (.token (.ident n)) =>
    discard take?
    if ← takeBar then throw (.unknownSpace n)
    return .plain (some n)
  | some (.token (.delim '*')) =>
    discard take?
    if ← takeBar then return .anySpace (← nameAfterBar inAttr)
    if inAttr then throw (.missingBar (← take).head)
    return .plain none
  | some (.token (.delim '|')) =>
    discard take?
    return .noSpace (← nameAfterBar inAttr)
  | some _ => return .absent

/-! ## Conditions -/

/-- Attributes of HTML whose values are compared without regard to case. -/
def caselessAttrs : List String :=
  ["accept", "accept-charset", "align", "alink", "axis", "bgcolor", "charset", "checked", "clear",
   "codetype", "color", "compact", "declare", "defer", "dir", "direction", "disabled", "enctype",
   "face", "frame", "hreflang", "http-equiv", "lang", "language", "link", "media", "method",
   "multiple", "nohref", "noresize", "noshade", "nowrap", "readonly", "rel", "rev", "rules",
   "scope", "scrolling", "selected", "shape", "target", "text", "type", "valign", "valuetype",
   "vlink"]

/-- The comparison that a token stands for. -/
def relation? : Token → Option AttrRelation
  | .delim '=' => some .equals
  | .includes => some .word
  | .dashMatch => some .dashed
  | .startsWith => some .starts
  | .endsWith => some .ends
  | .contains => some .contains
  | _ => none

/-- Reads what stands between the square brackets of a condition on an attribute. -/
def attrCondition : Reader Condition := do
  skipBlanks
  let (anySpace, name) ← match ← qualifiedName true with
    | .plain (some n) | .noSpace (some n) => pure (false, n)
    | .anySpace (some n) => pure (true, n)
    | _ =>
      let v ← take
      throw (.unnamedAttr v.head)
  let lowerName := asciiLower name
  match ← takeSolid? with
  | none => return .attr ⟨anySpace, name, lowerName, none⟩
  | some v =>
    match relation? v.head with
    | none => throw (.noComparison v.head)
    | some relation =>
      let value ← match (← takeSolid).head with
        | .ident s | .string s => pure s
        | t => throw (.badAttrValue t)
      let byName : CaseRule :=
        if !anySpace && caselessAttrs.contains lowerName then .ignoredInHtml else .exact
      let rule ← match ← takeSolid? with
        | none => pure byName
        | some v =>
          match v.head with
          | .ident f =>
            if asciiLower f == "i" then pure CaseRule.ignored
            else if asciiLower f == "s" then pure CaseRule.exact
            else throw (.unexpected v.head)
          | t => throw (.unexpected t)
      return .attr ⟨anySpace, name, lowerName, some (relation, value, rule)⟩

/-- The number in a name such as `n-3`, brought into the range of 32 bits. -/
def dashDigits? (s : String) : Option Int :=
  match s.toList with
  | n :: '-' :: ds =>
    if (n == 'n' || n == 'N') && !ds.isEmpty && ds.all Char.isDigit then
      some (Token.clamp (-((ds.foldl (fun k d => k * 10 + (d.toNat - '0'.toNat)) 0 : Nat) : Int)))
    else none
  | _ => none

/-- Reads the number without sign that must follow. -/
def unsignedAfter (a sign : Int) : Reader (Int × Int) := do
  match (← takeSolid).head with
  | .number ⟨false, _, some b⟩ => return (a, sign * b)
  | t => throw (.unexpected t)

/-- Reads what may follow `n`. -/
def offset (a : Int) : Reader (Int × Int) := do
  let vs ← get
  match ← takeSolid? with
  | some (.token (.delim '+')) => unsignedAfter a 1
  | some (.token (.delim '-')) => unsignedAfter a (-1)
  | some (.token (.number ⟨true, _, some b⟩)) => return (a, b)
  | _ =>
    set vs
    return (a, 0)

/-- Reads the rest of a place among siblings that starts with a name. -/
def placeFromName (name : String) (signAllowed : Bool) : Reader (Int × Int) := do
  let n := asciiLower name
  if n == "even" then return (2, 0)
  else if n == "odd" then return (2, 1)
  else if n == "n" then offset 1
  else if n == "n-" then unsignedAfter 1 (-1)
  else if n == "-n" && signAllowed then offset (-1)
  else if n == "-n-" && signAllowed then unsignedAfter (-1) (-1)
  else
    let (digits, a) := match name.toList with
      | '-' :: rest => if signAllowed then (String.ofList rest, (-1 : Int)) else (name, 1)
      | _ => (name, 1)
    match dashDigits? digits with
    | some b => return (a, b)
    | none => throw (.unexpected (.ident name))

/-- Reads a place among siblings, `a * n + b`. -/
def place : Reader (Int × Int) := do
  match (← takeSolid).head with
  | .number ⟨_, _, some b⟩ => return (0, b)
  | .dimension ⟨_, _, some a⟩ unit =>
    let u := asciiLower unit
    if u == "n" then offset a
    else if u == "n-" then unsignedAfter a (-1)
    else match dashDigits? unit with
      | some b => return (a, b)
      | none => throw (.unexpected (.ident unit))
  | .ident name => placeFromName name true
  | .delim '+' =>
    match (← take).head with
    | .ident name => placeFromName name false
    | t => throw (.unexpected t)
  | t => throw (.unexpected t)

/-- The condition of a name after a colon. -/
def plainPseudo (name : String) : Reader Condition := do
  let n := asciiLower name
  let only (sameType : Bool) : Condition :=
    .isAny [.compound [.nth ⟨sameType, false⟩ 0 1, .nth ⟨sameType, true⟩ 0 1]]
  if n == "first-child" then return .nth ⟨false, false⟩ 0 1
  else if n == "last-child" then return .nth ⟨false, true⟩ 0 1
  else if n == "only-child" then return only false
  else if n == "root" then return .root
  else if n == "empty" then return .empty
  else if n == "scope" then return .scope
  else if n == "first-of-type" then return .nth ⟨true, false⟩ 0 1
  else if n == "last-of-type" then return .nth ⟨true, true⟩ 0 1
  else if n == "only-of-type" then return only true
  else throw (.unsupportedPseudo name)

/-! ## Selectors -/

/-- Whether a combinator follows, which is then taken with the blanks around it. Blanks alone are
one if something follows them. -/
def combinator? : Reader (Option Combinator) := do
  let blank := match ← peek? with
    | some (.token (.blank _)) => true
    | _ => false
  skipBlanks
  match ← peek? with
  | none => return none
  | some (.token (.delim '>')) =>
    discard take?
    return some .child
  | some (.token (.delim '+')) =>
    discard take?
    return some .next
  | some (.token (.delim '~')) =>
    discard take?
    return some .later
  | some _ => return if blank then some .descendant else none

/-- Reads the name of an element, if there is one. -/
def typeConditions? : Reader (Option (List Condition)) := do
  let named (n : Option String) : List Condition :=
    match n with
    | some n => [.name n (asciiLower n)]
    | none => [.any]
  let found : NameFound ← tryCatch (qualifiedName false) fun
    | .ended => pure .absent
    | e => throw e
  match found with
  | .absent => return none
  | .plain n | .anySpace n => return some (named n)
  | .noSpace n => return some (.noSpace :: named n)

section Levels

variable (inner : ListReader)

/-- Reads the selectors of a condition that holds only for selectors without combinators. -/
def hostCondition (compound : Allowed → Reader Selector) (allowed : Allowed) :
    Reader Condition := do
  discard (compound { allowed with pseudoElements := false, combinators := false })
  return .never

/-- Reads the condition of a function after a colon, from the values in its parentheses. -/
def functionPseudo (compound : Allowed → Reader Selector) (allowed : Allowed) (name : String) :
    Reader Condition := do
  let n := asciiLower name
  let nth (counting : Counting) : Reader Condition := do
    let (a, b) ← place
    return .nth counting a b
  if n == "nth-child" then nth ⟨false, false⟩
  else if n == "nth-of-type" then nth ⟨true, false⟩
  else if n == "nth-last-child" then nth ⟨false, true⟩
  else if n == "nth-last-of-type" then nth ⟨true, true⟩
  else if n == "is" || n == "where" then
    return .isAny (← inner { allowed with pseudoElements := false } { forgiving := true })
  else if n == "has" then
    if !allowed.relative then throw .misplaced
    return .has (← inner { allowed with pseudoElements := false, relative := false }
      { relative := true })
  else if n == "host" then hostCondition compound allowed
  else if n == "not" then
    return .isNot (← inner { allowed with pseudoElements := false } {})
  else throw (.unsupportedPseudo name)

/-- Names that are pseudo-elements even after a single colon. -/
def isOldPseudoElement (name : String) : Bool :=
  ["before", "after", "first-line", "first-letter"].contains (asciiLower name)

/-- Reads a condition after its colon. -/
def pseudo (compound : Allowed → Reader Selector) (allowed : Allowed) : Reader Condition := do
  let first ← take
  let (double, v) ← if first.head == .colon then do pure (true, ← take) else pure (false, first)
  let checkElement (name : String) : Reader Unit := do
    if double || isOldPseudoElement name then
      if !allowed.pseudoElements then throw .misplaced
      throw (.unsupportedPseudo name)
  match v with
  | .token (.ident name) =>
    checkElement name
    plainPseudo name
  | .block (.function name) content =>
    checkElement name
    within content (functionPseudo inner compound allowed name)
  | v => throw (.unnamedPseudo v.head)

/-- Reads one condition, if there is one. -/
def condition? (compound : Allowed → Reader Selector) (allowed : Allowed) :
    Reader (Option Condition) := do
  match ← peek? with
  | some (.token (.idHash id)) =>
    discard take?
    return some (.id id)
  | some (.token (.delim '.')) =>
    discard take?
    match (← take).head with
    | .ident name => return some (.hasClass name)
    | t => throw (.unnamedClass t)
  | some (.block .openSquare content) =>
    discard take?
    return some (← within content attrCondition)
  | some (.token .colon) =>
    discard take?
    return some (← pseudo inner compound allowed)
  | _ => return none

/-- Reads conditions on top of `acc`, as many as follow. The number bounds the count of values. -/
def conditionsOnto (compound : Allowed → Reader Selector) (allowed : Allowed) :
    Nat → List Condition → Reader (List Condition)
  | 0, acc => return acc
  | n + 1, acc => do
    match ← condition? inner compound allowed with
    | some c => conditionsOnto compound allowed n (c :: acc)
    | none => return acc

/-- Reads the conditions on one element; `none` if there are none. -/
def conditions? (compound : Allowed → Reader Selector) (allowed : Allowed) :
    Reader (Option (List Condition)) := do
  skipBlanks
  let type ← typeConditions?
  let more ← conditionsOnto inner compound allowed (← get).length []
  match type, more with
  | none, [] => return none
  | type, more => return some (type.getD [] ++ more.reverse)

/-- Reads a selector whose left part is read already. -/
def selectorFrom (compound : Allowed → Reader Selector) (allowed : Allowed) :
    Nat → Option (Combinator × Selector) → Reader Selector
  | 0, _ => throw .emptySelector
  | n + 1, left => do
    match ← conditions? inner compound allowed with
    | none => throw (if left.isSome then .danglingCombinator else .emptySelector)
    | some cs =>
      let here := match left with
        | some (k, s) => Selector.combined cs k s
        | none => Selector.compound cs
      match ← combinator? with
      | none => return here
      | some k =>
        if !allowed.combinators then throw .misplaced
        selectorFrom compound allowed n (some (k, here))

/-- Reads a selector. One that is relative starts at the element from which it looks. -/
def selector (compound : Allowed → Reader Selector) (allowed : Allowed) (relative : Bool) :
    Reader Selector := do
  skipBlanks
  let left ← if relative then do
      let k ← combinator?
      pure (some (k.getD .descendant, Selector.compound [.anchor]))
    else pure none
  selectorFrom inner compound allowed ((← get).length + 1) left

/-- The values up to the next comma, whether there is one, and the values after it. -/
def upToComma (vs : List Value) : List Value × Option (List Value) :=
  let isComma : Value → Bool
    | .token .comma => true
    | _ => false
  let before := vs.takeWhile fun v => !isComma v
  match vs.drop before.length with
  | [] => (before, none)
  | _ :: rest => (before, some rest)

mutual

/-- The first token in a value that can only be a mistake. -/
def Value.mistake? : Value → Option Token
  | .token t => if t.isMistake then some t else none
  | .block _ content => Value.mistakeIn? content

/-- The first token in a list of values that can only be a mistake. -/
def Value.mistakeIn? : List Value → Option Token
  | [] => none
  | v :: vs =>
    match Value.mistake? v with
    | some t => some t
    | none => Value.mistakeIn? vs

end

/-- Reads one selector of a list, all of the values given. -/
def member (compound : Allowed → Reader Selector) (allowed : Allowed) (kind : ListKind) :
    Reader Selector := fun vs =>
  let (result, rest) := selector inner compound allowed kind.relative vs
  let atEnd := ((expectEnd rest).1 : Except Fault Unit)
  match result, atEnd with
  | .ok s, .ok () => (.ok s, rest)
  | r, e =>
    if kind.forgiving then
      match Value.mistakeIn? rest with
      | some t => (.error (.unexpected t), rest)
      | none => (.ok (.compound [.never]), [])
    else
      match r, e with
      | .error f, _ => (.error f, rest)
      | _, .error f => (.error f, rest)
      | r, _ => (r, rest)

/-- Reads a list of selectors on top of `acc`, last one first. -/
def membersOnto (compound : Allowed → Reader Selector) (allowed : Allowed) (kind : ListKind) :
    Nat → List Selector → Reader (List Selector)
  | 0, acc => return acc.reverse
  | n + 1, acc => fun vs =>
    let (mine, others) := upToComma vs
    match member inner compound allowed kind mine with
    | (.error f, _) => (.error f, vs)
    | (.ok s, _) =>
      match others with
      | none => (.ok (s :: acc).reverse, [])
      | some rest => membersOnto compound allowed kind n (s :: acc) rest

end Levels

/-- Reads a list of selectors with at most the given number of levels inside. -/
def listAt : Nat → ListReader
  | 0, _, _ => throw .emptySelector
  | n + 1, allowed, kind => do
    let compound (allowed : Allowed) : Reader Selector :=
      oneAt n allowed
    membersOnto (listAt n) compound allowed kind ((← get).length + 1) []
where
  /-- Reads one selector with at most the given number of levels inside. -/
  oneAt : Nat → Allowed → Reader Selector
    | 0, _ => throw .emptySelector
    | n + 1, allowed => selector (listAt n) (fun a => oneAt n a) allowed false

/-- Reads the selectors of a text. -/
def parse (expression : String) : Except Fault (List Selector) :=
  let tokens := Token.read expression.toList
  (listAt (tokens.length + 2) {} {} (Value.ofTokens tokens)).1

end PageCrawl.Selector
