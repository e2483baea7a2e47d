import PageCrawl.Settings.Decimal
import PageCrawl.Settings.Environment
import PageCrawl.Text.Split

/-!
# Log filters

Which events of a run are told. A filter is a list of directives with commas between them: a level
for everything, a level for the events of a part of the program, or a condition on the stretch of
the run in which an event falls. The directives that do not look at such a stretch decide: of those
that speak of an event, the most specific one.

A directive that cannot be read makes the whole filter unusable.
-/

namespace PageCrawl.Log

open Text

/-- How much is told; each level tells all that the ones before it do. -/
inductive Level
  | off
  | error
  | warn
  | info
  | debug
  | trace
deriving Repr, DecidableEq, Inhabited

namespace Level

/-- All levels with their names. -/
def names : List (String × Level) :=
  [("off", .off), ("error", .error), ("warn", .warn), ("info", .info), ("debug", .debug),
   ("trace", .trace)]

/-- The name of a level. -/
def name (l : Level) : String :=
  ((names.find? fun p => p.2 == l).map (·.1)).getD ""

/-- The rank of a level among the levels. -/
def rank (l : Level) : Nat := names.findIdx fun p => p.2 == l

/-- Reads a level: its number, or its name in letters of any case. An empty text means errors. -/
def read (cs : List Char) : Option Level :=
  let byRank := match Decimal.readTrimmed cs with
    | .ok n => (names[n]?).map (·.2)
    | .error _ => none
  byRank <|>
    (if cs.isEmpty then some .error
     else (names.find? fun p => eqIgnoringCase p.1 (String.ofList cs)).map (·.2))

end Level

/-- A condition on a field: that there is one, or that it has a value. -/
structure FieldCondition where
  name : String
  value : Option String
deriving Repr, DecidableEq, Inhabited

/-- A part of a filter. -/
structure Directive where
  level : Level := .trace
  /-- What the name of the part of the program begins with. -/
  target : Option String := none
  /-- The name of a stretch of the run. -/
  span : Option String := none
  fields : List FieldCondition := []
deriving Repr, DecidableEq, Inhabited

namespace Directive

/-! ## Reading -/

/-- Where reading a directive stands. The numbers are places in the text at which the part that is
being read begins. -/
inductive Place
  | start
  | levelOrTarget (start : Nat)
  | span (start : Nat)
  | field (start : Nat)
  | fields
  | target
  | level (start : Nat)
deriving Repr, DecidableEq, Inhabited

/-- The part of a text between two places. -/
def slice (cs : List Char) (a b : Nat) : List Char := (cs.drop a).take (b - a)

/-- Whether a directive may begin with a character. -/
def isOpening (c : Char) : Bool :=
  c == '-' || c == ':' || c == '_' || c.isAlphanum || 0x80 ≤ c.toNat

/-- Reads a condition on a field. -/
def readField (cs : List Char) : Option FieldCondition :=
  if cs.isEmpty then none
  else
    let name := cs.takeWhile (· != '=')
    let value := match cs.dropWhile (· != '=') with
      | '=' :: rest => some (String.ofList (rest.takeWhile (· != '=')))
      | _ => none
    some ⟨String.ofList name, value⟩

/-- Reads one character of a directive. -/
def step (whole : List Char) (d : Directive) (place : Place) (i : Nat) (c : Char) :
    Option (Directive × Place) :=
  match place with
  | .start =>
    if c == '[' then some (d, .span (i + 1))
    else if isOpening c then some (d, .levelOrTarget i)
    else none
  | .levelOrTarget a =>
    let named := { d with target := some (String.ofList (slice whole a i)) }
    if c == '=' then some (named, .level (i + 1))
    else if c == '[' then some (named, .span (i + 1))
    else some (d, place)
  | .span a =>
    let name := slice whole a i
    if c == ']' then some ({ d with span := some (String.ofList name) }, .target)
    else if c == '\x7b' then
      some ({ d with span := if name.isEmpty then none else some (String.ofList name) },
        .field (i + 1))
    else some (d, place)
  | .field a =>
    if c == '\x7d' || c == ',' then do
      let f ← readField (slice whole a i)
      let d := { d with fields := d.fields ++ [f] }
      return (d, if c == '\x7d' then .fields else .field (i + 1))
    else some (d, place)
  | .fields => if c == ']' then some (d, .target) else none
  | .target => if c == '=' then some (d, .level (i + 1)) else none
  | .level _ => some (d, place)

/-- Reads the characters of a directive from a place on. -/
def steps (whole : List Char) : Directive → Place → Nat → List Char → Option (Directive × Place)
  | d, place, _, [] => some (d, place)
  | d, place, i, c :: cs => do
    let (d, place) ← step whole d place i c
    steps whole d place (i + 1) cs

/-- Reads a directive. Blanks around it do not count when it is taken apart, but the parts are
looked up at their places in the text with them. -/
def read (cs : List Char) : Option Directive := do
  let (d, place) ← steps cs {} .start 0 (trim cs)
  match place with
  | .levelOrTarget a =>
    let rest := cs.drop a
    match Level.read rest with
    | some level => return { d with level }
    | none => return { d with target := some (String.ofList rest) }
  | .level a =>
    let rest := cs.drop a
    if rest.isEmpty then return d else return { d with level := ← Level.read rest }
  | .target => return d
  | _ => none

/-! ## Order and text -/

/-- Whether the directive looks at the stretch of the run in which an event falls. -/
def isDynamic (d : Directive) : Bool := d.span.isSome || !d.fields.isEmpty

/-- Whether the directive can be judged by an event alone. -/
def isStatic (d : Directive) : Bool := d.span.isNone && d.fields.all (·.value.isNone)

/-- How specific a directive is. -/
def weight (d : Directive) : List Nat :=
  [(d.target.map fun t => t.utf8ByteSize + 1).getD 0, if d.span.isSome then 1 else 0,
   d.fields.length]

/-- What a directive speaks of, apart from its level. -/
def subject (d : Directive) : List String :=
  [d.target.getD "", d.span.getD ""] ++ d.fields.flatMap fun f => [f.name, f.value.getD ""]

/-- Lexicographic order. -/
def lexLt {α : Type} (lt : α → α → Bool) : List α → List α → Bool
  | _, [] => false
  | [], _ :: _ => true
  | a :: as, b :: bs => lt a b || (!lt b a && lexLt lt as bs)

/-- Whether a directive comes before another: the more specific one does. -/
def before (d e : Directive) : Bool :=
  let byWeight := lexLt (fun a b : Nat => a < b)
  byWeight e.weight d.weight
    || (!byWeight d.weight e.weight && lexLt (fun a b : String => a < b) e.subject d.subject)

/-- Puts a directive in its place. It replaces one that speaks of the same. -/
def insert (d : Directive) : List Directive → List Directive
  | [] => [d]
  | e :: es =>
    if before d e then d :: e :: es
    else if before e d then e :: insert d es
    else d :: es

/-- A directive as text. -/
def text (d : Directive) : String :=
  let fields := d.fields.map fun f => f.name ++ ((f.value.map ("=" ++ ·)).getD "")
  let set := if fields.isEmpty then "" else "\x7b" ++ String.intercalate "," fields ++ "\x7d"
  let inside := if d.isDynamic then "[" ++ d.span.getD "" ++ set ++ "]" else ""
  let subject := d.target.getD "" ++ inside
  (if subject.isEmpty then "" else subject ++ "=") ++ d.level.name

end Directive

/-- Which events are told. -/
structure Filter where
  /-- The directives that can be judged by an event alone, the most specific first. -/
  statics : List Directive := []
  /-- The other ones. -/
  dynamics : List Directive := []
deriving Repr, DecidableEq, Inhabited

namespace Filter

/-- The filter of directives. -/
def ofDirectives (ds : List Directive) : Filter where
  statics := ((ds.filter fun d => !d.isDynamic) ++
      (ds.filter fun d => d.isDynamic && d.isStatic)).foldl (fun set d => d.insert set) []
  dynamics := (ds.filter (·.isDynamic)).foldl (fun set d => d.insert set) []

/-- Reads a filter. -/
def read (s : String) : Option Filter := do
  let ds ← ((split (· == ',') s.toList).filter (!·.isEmpty)).mapM Directive.read
  return ofDirectives ds

/-- A filter as text. -/
def text (f : Filter) : String :=
  String.intercalate "," ((f.statics ++ f.dynamics).map Directive.text)

/-- What the names of all parts of the program begin with. -/
def program : String := "lala_spider"

/-- The filter that tells of the program at a level. -/
def ofLevel (level : Level) : Filter := ofDirectives [{ level, target := some program }]

/-- The variable with a filter. -/
def variableName : String := "RUST_LOG"

/-- The filter of a run: wishes for more or less count before the environment, and more before
less. -/
def choose (verbose quiet : Bool) (env : Environment) : Filter :=
  if verbose then ofLevel .debug
  else if quiet then ofLevel .error
  else ((env.get? variableName).bind read).getD (ofLevel .info)

end Filter

end PageCrawl.Log
