import PageCrawl.Html.CharRef
import PageCrawl.Html.Token

/-!
# Reading tokens

`Lexer.next` reads the tokens at the front of a text and returns them with the rest, which is
shorter. What may stand there depends on the `Content` in which the tree builder is, and a
`<![CDATA[` section counts as one only inside foreign elements.

Tags, comments and doctypes are read by small machines that take one character at a time
(`TagReader`, `CommentReader`); text is cut off by spans, at the next `<` of markup or at the end
tag that closes an element whose content is text (`splitAtEndTag`, `splitScript`).
-/

namespace PageCrawl.Html.Lexer

open PageCrawl.Text CharRef

/-- NUL may not stand in names, values and comments and is replaced there. -/
def replaceNul (c : Char) : Char := if c == '\x00' then '\uFFFD' else c

/-- Line ends are read as line feeds: a carriage return, alone or before a line feed, is one. Text
with references is left to `CharRef.decode`, for which they are not all alike. -/
def normalizeLineEnds (cs : List Char) : List Char :=
  go false cs []
where
  /-- Puts the rest of the text on top of what is done, last character first. -/
  go (afterReturn : Bool) : List Char → List Char → List Char
    | [], acc => acc.reverse
    | '\r' :: cs, acc => go true cs ('\n' :: acc)
    | '\n' :: cs, acc => if afterReturn then go false cs acc else go false cs ('\n' :: acc)
    | c :: cs, acc => go false cs (c :: acc)

/-! ## Text -/

/-- Groups decoded text into runs of blanks, runs without blanks, NUL characters and faults. The
run under way is kept last character first. -/
def runsOnto : List Piece → Bool → List Char → List Token → List Token
  | [], blank, run, acc => (close blank run acc).reverse
  | .fault :: ps, blank, run, acc => runsOnto ps false [] (.fault :: close blank run acc)
  | .char c :: ps, blank, run, acc =>
    if c == '\x00' then runsOnto ps false [] (.nul :: close blank run acc)
    else if isMarkupBlank c == blank || run.isEmpty then
      runsOnto ps (isMarkupBlank c) (c :: run) acc
    else runsOnto ps (isMarkupBlank c) [c] (close blank run acc)
where
  /-- Ends the run under way. -/
  close (blank : Bool) (run : List Char) (acc : List Token) : List Token :=
    if run.isEmpty then acc
    else
      let text := String.ofList run.reverse
      (if blank then .blanks text else .words text) :: acc

/-- The tokens of a decoded text. -/
def runs (ps : List Piece) : List Token := runsOnto ps false [] []

/-- The tokens of a text that holds no references. -/
def plainRuns (cs : List Char) : List Token := runs ((normalizeLineEnds cs).map .char)

/-- A text that is no part of the page's own, such as that of a comment. -/
def aside (cs : List Char) : String := String.ofList ((normalizeLineEnds cs).map replaceNul)

/-! ## Tags -/

/-- Where in a tag the reader is. -/
inductive TagPlace
  | name
  | beforeAttr
  | attrName
  | afterAttrName
  | beforeValue
  /-- In a value, within the given quotes or bare. -/
  | value (quote : Option Char)
  | afterQuoted
  | slash
deriving Repr, DecidableEq

/-- A tag under way. Texts are kept last character first. -/
structure TagReader where
  place : TagPlace := .name
  name : List Char := []
  attrs : List Attribute := []
  attrName : List Char := []
  attrValue : List Char := []

namespace TagReader

/-- Puts the attribute under way to the others, unless there is one of its name. -/
def closeAttr (r : TagReader) : TagReader :=
  if r.attrName.isEmpty then r
  else
    let name := String.ofList r.attrName.reverse
    let kept := if r.attrs.any (·.name == name) then r.attrs
      else ⟨name, String.ofList (decodeAttribute r.attrValue.reverse)⟩ :: r.attrs
    { r with attrs := kept, attrName := [], attrValue := [] }

/-- Starts a new attribute. -/
def openAttr (r : TagReader) (c : Char) : TagReader :=
  { r.closeAttr with place := .attrName, attrName := [(replaceNul c).toLower] }

/-- What a character does between attributes. -/
def between (r : TagReader) (c : Char) : TagReader :=
  if isMarkupBlank c then { r with place := .beforeAttr }
  else if c == '/' then { r with place := .slash }
  else r.openAttr c

/-- What any character but a closing `>` does. -/
def step (r : TagReader) (c : Char) : TagReader :=
  match r.place with
  | .name =>
    if isMarkupBlank c then { r with place := .beforeAttr }
    else if c == '/' then { r with place := .slash }
    else { r with name := (replaceNul c).toLower :: r.name }
  | .attrName =>
    if isMarkupBlank c then { r with place := .afterAttrName }
    else if c == '/' then { r with place := .slash }
    else if c == '=' then { r with place := .beforeValue }
    else { r with attrName := (replaceNul c).toLower :: r.attrName }
  | .afterAttrName =>
    if isMarkupBlank c then r
    else if c == '/' then { r with place := .slash }
    else if c == '=' then { r with place := .beforeValue }
    else r.openAttr c
  | .beforeValue =>
    if isMarkupBlank c then r
    else if c == '"' || c == '\'' then { r with place := .value (some c) }
    else { r with place := .value none, attrValue := replaceNul c :: r.attrValue }
  | .value (some quote) =>
    if c == quote then { r with place := .afterQuoted }
    else { r with attrValue := replaceNul c :: r.attrValue }
  | .value none =>
    if isMarkupBlank c then { r with place := .beforeAttr }
    else { r with attrValue := replaceNul c :: r.attrValue }
  | .beforeAttr | .afterQuoted | .slash => r.between c

/-- Whether a `>` ends the tag here. -/
def endsHere (r : TagReader) : Bool :=
  match r.place with
  | .value (some _) => false
  | _ => true

/-- The finished tag. -/
def finish (r : TagReader) : Tag :=
  let r := r.closeAttr
  { name := String.ofList r.name.reverse, attrs := r.attrs.reverse,
    selfClosing := r.place == .slash }

/-- Reads a tag to its `>`. A tag that the page does not finish is none. -/
def read (r : TagReader) : List Char → Option (Tag × List Char)
  | [] => none
  | c :: cs => if c == '>' && r.endsHere then some (r.finish, cs) else (r.step c).read cs

end TagReader

/-- Reads a tag from its name on, as a start or an end tag. -/
def tag (isEnd : Bool) (cs : List Char) : List Token × List Char :=
  match TagReader.read {} cs with
  | none => ([], [])
  | some (t, rest) => ([if isEnd then .endTag t.name else .startTag t], rest)

/-! ## Comments -/

/-- Where in a comment the reader is. -/
inductive CommentPlace
  | start
  | startDash
  | body
  /-- After `-`. -/
  | dash
  /-- After `--`. -/
  | dashes
  /-- After `--!`. -/
  | bang
deriving Repr, DecidableEq

/-- What a character that does not end the comment does: the next place and the text on top of
the text so far, last character first. -/
def commentStep (place : CommentPlace) (text : List Char) (c : Char) :
    CommentPlace × List Char :=
  let more (held : List Char) : CommentPlace × List Char := (.body, c :: (held ++ text))
  match place with
  | .start => if c == '-' then (.startDash, text) else more []
  | .startDash => if c == '-' then (.dashes, text) else more ['-']
  | .body => if c == '-' then (.dash, text) else more []
  | .dash => if c == '-' then (.dashes, text) else more ['-']
  | .dashes =>
    if c == '-' then (.dashes, '-' :: text)
    else if c == '!' then (.bang, text)
    else more ['-', '-']
  | .bang => if c == '-' then (.dash, '!' :: '-' :: '-' :: text) else more ['!', '-', '-']

/-- Reads a comment after its `<!--`. The end of the page ends it too. -/
def comment (place : CommentPlace) (text : List Char) : List Char → Token × List Char
  | [] => (.comment (aside text.reverse), [])
  | c :: cs =>
    if c == '>' && place != .body && place != .dash then (.comment (aside text.reverse), cs)
    else
      let (place, text) := commentStep place text c
      comment place text cs

/-- Reads what looks like markup but is none: a comment up to the next `>`. -/
def bogusComment (cs : List Char) : Token × List Char :=
  let text := cs.takeWhile (· ≠ '>')
  (.comment (aside text), cs.drop (text.length + 1))

/-! ## Doctypes -/

/-- The rest of a text that starts with a keyword, in any case. -/
def afterKeyword? (keyword : List Char) (cs : List Char) : Option (List Char) :=
  if (cs.take keyword.length).map Char.toLower == keyword then some (cs.drop keyword.length)
  else none

/-- Skips to the end of a doctype. -/
def skipDoctype (d : Doctype) (cs : List Char) : Doctype × List Char :=
  (d, cs.drop ((cs.takeWhile (· ≠ '>')).length + 1))

/-- A quoted identifier: its text, whether its quote was closed, and the rest. -/
def quoted (quote : Char) (cs : List Char) : String × Bool × List Char :=
  let text := cs.takeWhile fun c => c ≠ quote && c ≠ '>'
  let rest := cs.drop text.length
  (aside text, rest.head? == some quote, rest.drop 1)

/-- A doctype after its system identifier. -/
def afterSystemId (d : Doctype) (cs : List Char) : Doctype × List Char :=
  match cs.dropWhile isMarkupBlank with
  | [] => ({ d with malformed := true }, [])
  | '>' :: rest => (d, rest)
  | rest => skipDoctype d rest

/-- A doctype where its system identifier may stand; without one it is malformed if the
identifier is `needed`. -/
def systemId (needed : Bool) (d : Doctype) (cs : List Char) : Doctype × List Char :=
  match cs.dropWhile isMarkupBlank with
  | [] => ({ d with malformed := true }, [])
  | '>' :: rest => ({ d with malformed := d.malformed || needed }, rest)
  | c :: rest =>
    if c == '"' || c == '\'' then
      let (text, closed, rest) := quoted c rest
      let d := { d with systemId := some text }
      if closed then afterSystemId d rest else ({ d with malformed := true }, rest)
    else skipDoctype { d with malformed := true } (c :: rest)

/-- A doctype where its public identifier must stand. -/
def publicId (d : Doctype) (cs : List Char) : Doctype × List Char :=
  match cs.dropWhile isMarkupBlank with
  | [] => ({ d with malformed := true }, [])
  | '>' :: rest => ({ d with malformed := true }, rest)
  | c :: rest =>
    if c == '"' || c == '\'' then
      let (text, closed, rest) := quoted c rest
      let d := { d with publicId := some text }
      if closed then systemId false d rest else ({ d with malformed := true }, rest)
    else skipDoctype { d with malformed := true } (c :: rest)

/-- Reads a doctype after `<!doctype`. -/
def doctype (cs : List Char) : Doctype × List Char :=
  match cs.dropWhile isMarkupBlank with
  | [] => ({ malformed := true }, [])
  | '>' :: rest => ({ malformed := true }, rest)
  | cs =>
    let name := cs.takeWhile fun c => !isMarkupBlank c && c ≠ '>'
    let d : Doctype := { name := some (String.ofList (name.map fun c => (replaceNul c).toLower)) }
    match (cs.drop name.length).dropWhile isMarkupBlank with
    | [] => ({ d with malformed := true }, [])
    | '>' :: rest => (d, rest)
    | rest =>
      match afterKeyword? ['p', 'u', 'b', 'l', 'i', 'c'] rest with
      | some rest => publicId d rest
      | none =>
        match afterKeyword? ['s', 'y', 's', 't', 'e', 'm'] rest with
        | some rest => systemId true d rest
        | none => skipDoctype { d with malformed := true } rest

/-! ## Elements whose content is text -/

/-- Whether the text, right after `</`, goes on with the given name and then with something that
ends a name. -/
def closes (name : List Char) (cs : List Char) : Bool :=
  match afterKeyword? name cs with
  | some (c :: _) => isMarkupBlank c || c == '/' || c == '>'
  | _ => false

/-- Splits a text before the end tag of the given name. What comes before is given last character
first. -/
def splitAtEndTag (name : List Char) : List Char → List Char → List Char × List Char
  | before, [] => (before, [])
  | before, c :: cs =>
    let here := c == '<' && match cs with
      | '/' :: rest => closes name rest
      | _ => false
    if here then (before, c :: cs) else splitAtEndTag name (c :: before) cs

/-- How far a script has got into a comment that hides its end tag. -/
inductive ScriptPlace
  /-- Outside comments. -/
  | code
  /-- After `<`. -/
  | open
  /-- After `<!`. -/
  | bang
  /-- After `<!-`. -/
  | bangDash
  /-- In a comment, with the number of dashes just before, at most two. -/
  | hidden (dashes : Nat)
  /-- In a comment, after `<`. -/
  | hiddenOpen
  /-- In a comment, after `<` and these letters, last one first. -/
  | hiddenName (letters : List Char)
  /-- In a script within a comment, with the number of dashes just before, at most two. -/
  | nested (dashes : Nat)
  /-- In a script within a comment, after `<`. -/
  | nestedOpen
  /-- In a script within a comment, after `</` and these letters, last one first. -/
  | nestedName (letters : List Char)
deriving Repr, DecidableEq

/-- The word that opens and closes the script within a comment, last letter first. -/
def scriptWord : List Char := ['t', 'p', 'i', 'r', 'c', 's']

namespace ScriptPlace

/-- What a character does outside comments. -/
def inCode (c : Char) : ScriptPlace := if c == '<' then .open else .code

/-- What a character does in a comment. -/
def inHidden (dashes : Nat) (c : Char) : ScriptPlace :=
  if c == '-' then .hidden (min 2 (dashes + 1))
  else if c == '<' then .hiddenOpen
  else if c == '>' && dashes == 2 then .code
  else .hidden 0

/-- What a character does in a script within a comment. -/
def inNested (dashes : Nat) (c : Char) : ScriptPlace :=
  if c == '-' then .nested (min 2 (dashes + 1))
  else if c == '<' then .nestedOpen
  else if c == '>' && dashes == 2 then .code
  else .nested 0

/-- Whether a character ends a name. -/
def endsName (c : Char) : Bool := isMarkupBlank c || c == '/' || c == '>'

/-- Where the next character of the script leads. -/
def step (place : ScriptPlace) (c : Char) : ScriptPlace :=
  match place with
  | .code => inCode c
  | .open => if c == '!' then .bang else inCode c
  | .bang => if c == '-' then .bangDash else inCode c
  | .bangDash => if c == '-' then .hidden 2 else inCode c
  | .hidden dashes => inHidden dashes c
  | .hiddenOpen => if c.isAlpha then .hiddenName [c.toLower] else inHidden 0 c
  | .hiddenName letters =>
    if endsName c then (if letters == scriptWord then .nested 0 else .hidden 0)
    else if c.isAlpha then .hiddenName (c.toLower :: letters)
    else inHidden 0 c
  | .nested dashes => inNested dashes c
  | .nestedOpen => if c == '/' then .nestedName [] else inNested 0 c
  | .nestedName letters =>
    if endsName c then (if letters == scriptWord then .hidden 0 else .nested 0)
    else if c.isAlpha then .nestedName (c.toLower :: letters)
    else inNested 0 c

/-- Whether an end tag that opens here ends the script. -/
def endable : ScriptPlace → Bool
  | .nested _ | .nestedOpen | .nestedName _ => false
  | _ => true

end ScriptPlace

/-- Splits a script before its end tag. What comes before is given last character first. -/
def splitScript (name : List Char) : ScriptPlace → List Char → List Char → List Char × List Char
  | _, before, [] => (before, [])
  | place, before, c :: cs =>
    let here := c == '<' && place.endable && match cs with
      | '/' :: rest => closes name rest
      | _ => false
    if here then (before, c :: cs) else splitScript name (place.step c) (c :: before) cs

/-- The text of an element whose content is text, followed by its end tag. -/
def textContent (decoded : Bool) (split : List Char × List Char) : List Token × List Char :=
  let text := split.1.reverse.map replaceNul
  let tokens := if decoded then runs (decode text) else plainRuns text
  let (close, rest) := tag true (split.2.drop 2)
  (tokens ++ close, rest)

/-! ## All of it -/

/-- A `<![CDATA[` section after its opening. -/
def cdata : List Char → List Char → List Char × List Char
  | text, [] => (text.reverse, [])
  | text, ']' :: ']' :: '>' :: rest => (text.reverse, rest)
  | text, c :: rest => cdata (c :: text) rest

/-- What follows `<!`. -/
def declaration (inForeign : Bool) (cs : List Char) : List Token × List Char :=
  match cs with
  | '-' :: '-' :: rest => let (t, rest) := comment .start [] rest; ([t], rest)
  | _ =>
    match afterKeyword? ['d', 'o', 'c', 't', 'y', 'p', 'e'] cs with
    | some rest => let (d, rest) := doctype rest; ([.doctype d], rest)
    | none =>
      if inForeign && cs.take 7 == ['[', 'C', 'D', 'A', 'T', 'A', '['] then
        let (text, rest) := cdata [] (cs.drop 7)
        (plainRuns text, rest)
      else let (t, rest) := bogusComment cs; ([t], rest)

/-- What stands at a `<` of markup, given the text after it. -/
def markup (inForeign : Bool) : List Char → List Token × List Char
  | '!' :: rest => declaration inForeign rest
  | '?' :: rest => let (t, rest) := bogusComment ('?' :: rest); ([t], rest)
  | '/' :: rest =>
    match rest with
    | [] => ([.words "</"], [])
    | '>' :: rest => ([.fault], rest)
    | c :: cs =>
      if c.isAlpha then tag true (c :: cs)
      else let (t, rest) := bogusComment (c :: cs); ([t], rest)
  | c :: rest => if c.isAlpha then tag false (c :: rest) else ([.words "<"], c :: rest)
  | [] => ([.words "<"], [])

/-- The tokens at the front of a text and the rest of it. `element` is the name of the element
whose content is read, `inForeign` says whether the current element is foreign. -/
def next (content : Content) (element : String) (inForeign : Bool) (cs : List Char) :
    List Token × List Char :=
  match content with
  | .plain => (plainRuns (cs.map replaceNul), [])
  | .raw => textContent false (splitAtEndTag element.toList [] cs)
  | .escapable => textContent true (splitAtEndTag element.toList [] cs)
  | .script => textContent false (splitScript element.toList .code [] cs)
  | .markup =>
    match cs with
    | '<' :: rest => markup inForeign rest
    | _ =>
      let text := cs.takeWhile (· ≠ '<')
      (runs (decode text), cs.drop text.length)

end PageCrawl.Html.Lexer
