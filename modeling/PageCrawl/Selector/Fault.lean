import PageCrawl.Selector.Token
import PageCrawl.Text.Quoted

/-!
# What can be wrong with a selector

The ways in which reading a selector fails, and the text that tells of each. Two kinds of tokens
have no text of their own: a single punctuation mark and an unquoted address. Where a message
would have to show one there is none, and the attempt to tell ends the program (`message?` is
`none`).
-/

namespace PageCrawl.Selector

open PageCrawl.Text

/-- What is wrong with a selector. -/
inductive Fault
  /-- The selector ends too early. -/
  | ended
  /-- A token stands where it may not. -/
  | unexpected (t : Token)
  /-- A pseudo-class or pseudo-element has no name. -/
  | unnamedPseudo (t : Token)
  | unsupportedPseudo (name : String)
  | emptySelector
  /-- A combinator has nothing on its right. -/
  | danglingCombinator
  /-- Something stands where its kind is not allowed. -/
  | misplaced
  | unnamedClass (t : Token)
  | unknownSpace (spacePrefix : String)
  | unnamedAttr (t : Token)
  /-- After the name of an attribute no comparison follows. -/
  | noComparison (t : Token)
  | badAttrValue (t : Token)
  | badAttrName (t : Token)
  | missingBar (t : Token)
  | badSpacedName (t : Token)
deriving Repr, DecidableEq, Inhabited

/-- A value laid out over several lines, one for each name and part. -/
inductive Layout
  | leaf (text : String)
  | tuple (name : String) (parts : List Layout)
  | record (name : String) (fields : List (String × Layout))
deriving Inhabited

namespace Layout

/-- A line end with an indent of four blanks a level. -/
def newline (level : Nat) : String := "\n" ++ String.ofList (List.replicate (4 * level) ' ')

mutual

/-- Writes a value that starts at the given level. -/
def render (level : Nat) : Layout → String
  | .leaf text => text
  | .tuple name parts => name ++ "(" ++ renderParts (level + 1) parts ++ newline level ++ ")"
  | .record name fields =>
    name ++ " \x7b" ++ renderFields (level + 1) fields ++ newline level ++ "\x7d"

/-- Writes the parts of a tuple. -/
def renderParts (level : Nat) : List Layout → String
  | [] => ""
  | p :: ps => newline level ++ render level p ++ "," ++ renderParts level ps

/-- Writes the fields of a record. -/
def renderFields (level : Nat) : List (String × Layout) → String
  | [] => ""
  | (name, f) :: fs =>
    newline level ++ name ++ ": " ++ render level f ++ "," ++ renderFields level fs

end

end Layout

namespace Token

/-- The name of a token's kind and what it holds. -/
def layout (t : Token) : Layout :=
  let text (kind s : String) : Layout := .tuple kind [.leaf (quoted s)]
  let int : Option Int → Layout
    | some i => .tuple "Some" [.leaf (toString i)]
    | none => .leaf "None"
  let sign (n : Numeral) : String × Layout := ("has_sign", .leaf (toString n.signed))
  match t with
  | .ident s => text "Ident" s
  | .atKeyword s => text "AtKeyword" s
  | .hash s => text "Hash" s
  | .idHash s => text "IDHash" s
  | .string s => text "QuotedString" s
  | .url s => text "UnquotedUrl" s
  | .delim c => .tuple "Delim" [.leaf (quotedChar c)]
  | .number n =>
    .record "Number" [sign n, ("value", .leaf n.value.precise), ("int_value", int n.int?)]
  | .percentage n =>
    .record "Percentage" [sign n, ("unit_value", .leaf n.value.precise), ("int_value", int n.int?)]
  | .dimension n unit =>
    .record "Dimension" [sign n, ("value", .leaf n.value.precise), ("int_value", int n.int?),
      ("unit", .leaf (quoted unit))]
  | .blank s => text "WhiteSpace" s
  | .colon => .leaf "Colon"
  | .semicolon => .leaf "Semicolon"
  | .comma => .leaf "Comma"
  | .includes => .leaf "IncludeMatch"
  | .dashMatch => .leaf "DashMatch"
  | .startsWith => .leaf "PrefixMatch"
  | .endsWith => .leaf "SuffixMatch"
  | .contains => .leaf "SubstringMatch"
  | .openComment => .leaf "CDO"
  | .closeComment => .leaf "CDC"
  | .function s => text "Function" s
  | .openParen => .leaf "ParenthesisBlock"
  | .openSquare => .leaf "SquareBracketBlock"
  | .openCurly => .leaf "CurlyBracketBlock"
  | .badUrl s => text "BadUrl" s
  | .badString s => text "BadString" s
  | .closeParen => .leaf "CloseParenthesis"
  | .closeSquare => .leaf "CloseSquareBracket"
  | .closeCurly => .leaf "CloseCurlyBracket"

/-- A number as a message shows it: one that is written with a sign shows a sign of its own in
front of its value. -/
def numeralText (n : Numeral) : String :=
  if n.signed then (if n.value.isPositive then "+" else "-") ++ n.value.plain else n.value.plain

/-- A token as a message shows it, if it can be shown. -/
def text? : Token → Option String
  | .ident s => some s
  | .atKeyword s => some ("@" ++ s)
  | .hash s | .idHash s => some ("#" ++ s)
  | .string s => some ("\"" ++ s ++ "\"")
  | .url _ | .delim _ => none
  | .number n => some (numeralText n)
  | .percentage n => some (numeralText n ++ "%")
  | .dimension n unit => some (numeralText n ++ unit)
  | .blank _ => some " "
  | .colon => some ":"
  | .semicolon => some ";"
  | .comma => some ","
  | .includes => some "~="
  | .dashMatch => some "|="
  | .startsWith => some "^="
  | .endsWith => some "$="
  | .contains => some "*="
  | .openComment => some "<!--"
  | .closeComment => some "-->"
  | .function s => some (s ++ "()")
  | .openParen => some "<("
  | .openSquare => some "<["
  | .openCurly => some "<\x7b"
  | .badUrl s => some ("<Bad URL \"" ++ s ++ "\">")
  | .badString s => some ("<Bad String \"" ++ s ++ "\">")
  | .closeParen => some "<)"
  | .closeSquare => some "<]"
  | .closeCurly => some "<\x7d"

end Token

namespace Fault

/-- The text of a fault that should not be met in practice. -/
def internal (l : Layout) : String :=
  "Unexpected error occurred. Please report this to the developer\n" ++ l.render 0

/-- What a fault says. -/
def message? : Fault → Option String
  | .ended => some "Unexpected EOL"
  | .unexpected t => t.text?.map fun s => "Token " ++ quoted s ++ " was not expected"
  | .unnamedPseudo t =>
    t.text?.map fun s => "Expected identity for pseudoelement, got " ++ quoted s ++ " instead"
  | .unsupportedPseudo name =>
    some (internal (.tuple "UnsupportedPseudoClassOrElement" [.leaf (quoted name)]))
  | .emptySelector => some (internal (.leaf "EmptySelector"))
  | .danglingCombinator => some (internal (.leaf "DanglingCombinator"))
  | .misplaced => some (internal (.leaf "InvalidState"))
  | .unnamedClass t => some (internal (.tuple "ClassNeedsIdent" [t.layout]))
  | .unknownSpace s => some (internal (.tuple "ExpectedNamespace" [.leaf (quoted s)]))
  | .unnamedAttr t => some (internal (.tuple "NoQualifiedNameInAttributeSelector" [t.layout]))
  | .noComparison t => some (internal (.tuple "UnexpectedTokenInAttributeSelector" [t.layout]))
  | .badAttrValue t => some (internal (.tuple "BadValueInAttr" [t.layout]))
  | .badAttrName t => some (internal (.tuple "InvalidQualNameInAttr" [t.layout]))
  | .missingBar t => some (internal (.tuple "ExpectedBarInAttr" [t.layout]))
  | .badSpacedName t => some (internal (.tuple "ExplicitNamespaceUnexpectedToken" [t.layout]))

end Fault

end PageCrawl.Selector
