import PageCrawl.Html.Builder.Formatting

/-!
# The rules of tree building

For each `Mode` one function says what a token does to the page under construction. Its answer is
an `Outcome`: the token is used up, it is to be read again in another mode, or the text that
follows is to be read in a way of its own.

Many modes hand tokens on to others: most to `inBody`, which has the rules for nearly all tags,
and that to `inHead`. `step` chooses the function for the mode, or `foreign` inside drawings and
formulas, and `Builder.feed` follows a token until it is used up.
-/

namespace PageCrawl.Html.Build

open PageCrawl.Text

/-- What became of a token. -/
inductive Outcome
  /-- It is used up. -/
  | done
  /-- It is to be read again, in the current mode. -/
  | again (t : Token)
  /-- It is used up, and the text that follows is read in the given way. -/
  | reads (c : Content)
deriving Repr, DecidableEq

/-- Goes to a mode and reads the token again. -/
def againIn (m : Mode) (t : Token) : Build Outcome := do
  setMode m
  return .again t

/-- Does something that uses the token up. -/
def finish (act : Build Unit) : Build Outcome := do
  act
  return .done

/-- Takes no notice of a token. -/
def ignore : Build Outcome := return .done

/-- Starts an element whose content is text. -/
def startText (tag : Tag) (c : Content) : Build Outcome := do
  start tag
  modify fun b => { b with returnMode := b.mode, mode := .text }
  return .reads c

/-! ## Rules that several modes share -/

/-- Tags that belong into the head and may stand in the body. -/
def headTags : List String :=
  ["base", "basefont", "bgsound", "link", "meta", "noframes", "script", "style", "template",
   "title"]

/-- Starts an element of `headTags`, or `noscript`. -/
def startInHead (tag : Tag) : Build Outcome :=
  match tag.name with
  | "title" => startText tag .escapable
  | "noframes" | "style" | "noscript" => startText tag .raw
  | "script" => startText tag .script
  | "template" => finish do
    start tag
    setMarker
    noFrameset
    setMode .inTemplate
    modify fun b => { b with templateModes := .inTemplate :: b.templateModes }
  | _ => finish (startVoid tag)

/-- Ends a template. -/
def endTemplate : Build Outcome := finish do
  if ← isOpen "template" then
    popWhile Element.endsItselfInTemplate
    popThroughNamed "template"
    forgetToMarker
    modify fun b => { b with templateModes := b.templateModes.drop 1 }
    resetMode

/-- A second `html` tag lends its attributes to the first. -/
def startHtmlAgain (tag : Tag) : Build Outcome := finish do
  unless ← isOpen "template" do
    mergeAttrs (← htmlNode) tag

/-- The end of the page inside a template closes it. -/
def endInTemplate : Build Outcome := do
  if ← isOpen "template" then
    popThroughNamed "template"
    forgetToMarker
    modify fun b => { b with templateModes := b.templateModes.drop 1 }
    resetMode
    return .again .eof
  else return .done

/-! ## Before the body -/

/-- The rules of the mode `initial`. -/
def initial (t : Token) : Build Outcome := do
  match t with
  | .blanks _ => ignore
  | .comment text => finish do
    let n ← newNode (.comment text)
    changeTree (·.append Tree.root n)
  | t =>
    modify fun b => { b with legacyTables := true }
    againIn .beforeHtml t

/-- Makes the outermost element. -/
def startHtml (tag : Tag) : Build Unit := do
  let n ← newElement (elementOf tag)
  push n
  changeTree (·.append Tree.root n)

/-- Whether an end tag stands for the start of what is missing. -/
def endsEarly (name : String) : Bool := ["head", "body", "html", "br"].contains name

/-- The rules of the mode `beforeHtml`. -/
def beforeHtml (t : Token) : Build Outcome := do
  let otherwise : Build Outcome := do
    startHtml { name := "html" }
    againIn .beforeHead t
  match t with
  | .blanks _ => ignore
  | .comment text => finish do
    let n ← newNode (.comment text)
    changeTree (·.append Tree.root n)
  | .startTag tag =>
    if tag.name == "html" then
      startHtml tag
      setMode .beforeHead
      return .done
    else otherwise
  | .endTag name => if endsEarly name then otherwise else ignore
  | _ => otherwise

/-- The rules of the mode `beforeHead`. -/
def beforeHead (t : Token) : Build Outcome := do
  let begin (tag : Tag) : Build Unit := do
    let n ← openElement tag
    modify fun b => { b with head := some n, mode := .inHead }
  let otherwise : Build Outcome := do
    begin { name := "head" }
    return .again t
  match t with
  | .blanks _ => ignore
  | .comment text => finish (insertComment text)
  | .startTag tag =>
    if tag.name == "html" then startHtmlAgain tag
    else if tag.name == "head" then finish (begin tag)
    else otherwise
  | .endTag name => if endsEarly name then otherwise else ignore
  | _ => otherwise

/-- The rules of the mode `inHead`. -/
def inHead (t : Token) : Build Outcome := do
  let otherwise : Build Outcome := do
    discard pop
    againIn .afterHead t
  match t with
  | .blanks text => finish (insertText text)
  | .comment text => finish (insertComment text)
  | .startTag tag =>
    if tag.name == "html" then startHtmlAgain tag
    else if headTags.contains tag.name || tag.name == "noscript" then startInHead tag
    else if tag.name == "head" then ignore
    else otherwise
  | .endTag name =>
    if name == "head" then finish do
      discard pop
      setMode .afterHead
    else if name == "template" then endTemplate
    else if endsEarly name then otherwise
    else ignore
  | _ => otherwise

/-- The rules of the mode `afterHead`. Tags that belong into the head still go there. -/
def afterHead (t : Token) : Build Outcome := do
  let otherwise : Build Outcome := do
    startNamed "body"
    againIn .inBody t
  match t with
  | .blanks text => finish (insertText text)
  | .comment text => finish (insertComment text)
  | .startTag tag =>
    if tag.name == "html" then startHtmlAgain tag
    else if tag.name == "body" then finish do
      start tag
      noFrameset
      setMode .inBody
    else if tag.name == "frameset" then finish do
      start tag
      setMode .inFrameset
    else if headTags.contains tag.name then
      match (← get).head with
      | none => refused
      | some head =>
        push head
        let outcome ← startInHead tag
        removeOpened head
        return outcome
    else if tag.name == "head" then ignore
    else otherwise
  | .endTag name =>
    if name == "template" then endTemplate
    else if name == "body" || name == "html" || name == "br" then otherwise
    else ignore
  | _ => otherwise

/-! ## The body -/

/-- Blocks that end an open paragraph. -/
def blockTags : List String :=
  ["address", "article", "aside", "blockquote", "center", "details", "dialog", "dir", "div", "dl",
   "fieldset", "figcaption", "figure", "footer", "header", "hgroup", "main", "menu", "nav", "ol",
   "p", "section", "summary", "ul"]

/-- Elements that an end tag of their own closes together with all within them. -/
def closableBlocks : List String :=
  ["address", "article", "aside", "blockquote", "button", "center", "details", "dialog", "dir",
   "div", "dl", "fieldset", "figcaption", "figure", "footer", "header", "hgroup", "listing", "main",
   "menu", "nav", "ol", "pre", "section", "summary", "ul"]

/-- Names of headings. -/
def headingTags : List String := ["h1", "h2", "h3", "h4", "h5", "h6"]

/-- Formatting elements other than links and `nobr`. -/
def formattingTags : List String :=
  ["b", "big", "code", "em", "font", "i", "s", "small", "strike", "strong", "tt", "u"]

/-- Starts an item of a list; an open item of the same list ends. -/
def startItem (tag : Tag) : Build Unit := do
  noFrameset
  let family := if tag.name == "li" then ["li"] else ["dd", "dt"]
  let b ← get
  let rec toClose : List NodeId → Option String
    | [] => none
    | n :: outer =>
      match b.tree.element? n with
      | some e =>
        if e.isHtmlIn family then some e.name
        else if e.isSpecial && !e.isHtmlIn ["address", "div", "p"] then none
        else toClose outer
      | none => toClose outer
  match toClose b.opened with
  | some name =>
    endImpliedExcept name
    popThroughNamed name
  | none => pure ()
  closeParagraph
  start tag

/-- Whether an `input` tag is hidden. -/
def isHidden (tag : Tag) : Bool := (tag.attr? "type").any (eqIgnoringCase · "hidden")

/-- Starts a drawing or a formula. -/
def startForeign (space : Space) (name : String) (tag : Tag) : Build Unit := do
  let n ← insert ⟨space, name, Foreign.attrs space tag.attrs⟩
  unless tag.selfClosing do push n

/-- Starts an element that has no rules of its own. -/
def startOther (tag : Tag) : Build Unit := do
  reconstruct
  start tag

/-- Starts an element that holds nothing, with the formatting around it. -/
def startEmbedded (tag : Tag) : Build Unit := do
  reconstruct
  startVoid tag
  unless tag.name == "input" && isHidden tag do noFrameset

/-- What a start tag does in the body. -/
def startInBody (tag : Tag) : Build Outcome := do
  let tag := if tag.name == "image" then { tag with name := "img" } else tag
  let name := tag.name
  if name == "html" then startHtmlAgain tag
  else if headTags.contains name then startInHead tag
  else if name == "body" then finish do
    match ← bodyNode? with
    | some n =>
      unless ← isOpen "template" do
        noFrameset
        mergeAttrs n tag
    | none => pure ()
  else if name == "frameset" then
    if (← get).framesetOk then
      match ← bodyNode? with
      | none => return .done
      | some n => finish do
        changeTree (·.detach n)
        modify fun b => { b with opened := b.opened.drop (b.opened.length - 1) }
        start tag
        setMode .inFrameset
    else return .done
  else if blockTags.contains name then finish do
    closeParagraph
    start tag
  else if headingTags.contains name then finish do
    closeParagraph
    if ← currentIs Element.isHeading then discard pop
    start tag
  else if name == "pre" || name == "listing" then finish do
    closeParagraph
    start tag
    modify fun b => { b with dropLineFeed := true }
    noFrameset
  else if name == "form" then finish do
    let template ← isOpen "template"
    if (← get).form.isNone || template then
      closeParagraph
      let n ← openElement tag
      unless ← isOpen "template" do modify fun b => { b with form := some n }
  else if name == "li" || name == "dd" || name == "dt" then finish (startItem tag)
  else if name == "plaintext" then
    closeParagraph
    start tag
    return .reads .plain
  else if name == "button" then finish do
    if ← inScopeNamed Element.bounds "button" then
      endImplied
      popThroughNamed "button"
    reconstruct
    start tag
    noFrameset
  else if name == "a" then finish do
    closeOpenLink
    reconstruct
    startFormatting tag
  else if formattingTags.contains name then finish do
    reconstruct
    startFormatting tag
  else if name == "nobr" then finish do
    reconstruct
    if ← inScopeNamed Element.bounds "nobr" then
      closeFormatting "nobr"
      reconstruct
    startFormatting tag
  else if name == "applet" || name == "marquee" || name == "object" then finish do
    reconstruct
    start tag
    setMarker
    noFrameset
  else if name == "table" then finish do
    unless (← get).legacyTables do closeParagraph
    start tag
    noFrameset
    setMode .inTable
  else if ["area", "br", "embed", "img", "keygen", "wbr", "input"].contains name then
    finish (startEmbedded tag)
  else if name == "param" || name == "source" || name == "track" then finish (startVoid tag)
  else if name == "hr" then finish do
    closeParagraph
    startVoid tag
    noFrameset
  else if name == "textarea" then
    modify fun b => { b with dropLineFeed := true }
    noFrameset
    startText tag .escapable
  else if name == "xmp" then
    closeParagraph
    reconstruct
    noFrameset
    startText tag .raw
  else if name == "iframe" then
    noFrameset
    startText tag .raw
  else if name == "noembed" || name == "noscript" then startText tag .raw
  else if name == "select" then finish do
    reconstruct
    start tag
    noFrameset
    let inTable := [Mode.inTable, .inCaption, .inTableBody, .inRow, .inCell].contains (← get).mode
    setMode (if inTable then .inSelectInTable else .inSelect)
  else if name == "optgroup" || name == "option" then finish do
    if ← currentIs (·.isHtml "option") then discard pop
    startOther tag
  else if name == "rb" || name == "rtc" then finish do
    if ← inScopeNamed Element.bounds "ruby" then endImplied
    start tag
  else if name == "rp" || name == "rt" then finish do
    if ← inScopeNamed Element.bounds "ruby" then endImpliedExcept "rtc"
    start tag
  else if name == "math" then finish (startForeign .math name tag)
  else if name == "svg" then finish (startForeign .svg name tag)
  else if ["caption", "col", "colgroup", "frame", "head", "tbody", "td", "tfoot", "th", "thead",
      "tr"].contains name then ignore
  else finish (startOther tag)

/-- Ends a form. -/
def endForm : Build Unit := do
  if ← isOpen "template" then
    if ← inScopeNamed Element.bounds "form" then
      endImplied
      popThroughNamed "form"
  else
    let form := (← get).form
    modify fun b => { b with form := none }
    match form with
    | none => pure ()
    | some n =>
      let b ← get
      if findInScope b.tree Element.bounds (· == n) b.opened then
        endImplied
        removeOpened n

/-- What an end tag does in the body. -/
def endInBody (name : String) : Build Outcome := do
  if name == "template" then endTemplate
  else if name == "body" || name == "html" then
    if ← inScopeNamed Element.bounds "body" then
      setMode .afterBody
      if name == "html" then return .again (.endTag name)
    return .done
  else if closableBlocks.contains name then finish do
    if ← inScopeNamed Element.bounds name then
      endImplied
      popThroughNamed name
  else if name == "form" then finish endForm
  else if name == "p" then finish do
    unless ← inScopeNamed Element.boundsButton "p" do startNamed "p"
    endImpliedExcept "p"
    popThroughNamed "p"
  else if name == "li" || name == "dd" || name == "dt" then finish do
    let bound := if name == "li" then Element.boundsListItem else Element.bounds
    if ← inScopeNamed bound name then
      endImpliedExcept name
      popThroughNamed name
  else if headingTags.contains name then finish do
    if ← inScope Element.bounds Element.isHeading then
      endImplied
      popThrough Element.isHeading
  else if name == "a" || name == "nobr" || formattingTags.contains name then
    finish (closeFormatting name)
  else if name == "applet" || name == "marquee" || name == "object" then finish do
    if ← inScopeNamed Element.bounds name then
      endImplied
      popThroughNamed name
      forgetToMarker
  else if name == "br" then finish (startEmbedded { name })
  else finish (closeOther name)

/-- The rules of the mode `inBody`. -/
def inBody (t : Token) : Build Outcome := do
  match t with
  | .blanks text => finish do
    reconstruct
    insertText text
  | .words text => finish do
    reconstruct
    noFrameset
    insertText text
  | .comment text => finish (insertComment text)
  | .startTag tag => startInBody tag
  | .endTag name => endInBody name
  | .eof => if (← get).templateModes.isEmpty then return .done else endInTemplate
  | .nul | .doctype _ | .fault => ignore

/-- The rules of the mode `text`. -/
def text (t : Token) : Build Outcome := do
  match t with
  | .blanks text | .words text => finish (insertText text)
  | .endTag _ => finish do
    discard pop
    modify fun b => { b with mode := b.returnMode }
  | .eof =>
    discard pop
    modify fun b => { b with mode := b.returnMode }
    return .again .eof
  | _ => refused

/-! ## Tables -/

/-- Moves what a token makes out of the table around it. -/
def foster (t : Token) : Build Outcome := do
  modify fun b => { b with fostering := true }
  let outcome ← inBody t
  modify fun b => { b with fostering := false }
  return outcome

/-- Text in a table waits until its end shows whether it holds more than blanks. -/
def startTableText (t : Token) : Build Outcome := do
  if ← currentIs Element.fosters then
    modify fun b => { b with returnMode := b.mode }
    againIn .inTableText t
  else foster t

/-- Closes elements down to a table, starts one and goes to the mode of its content. -/
def startInTable (context : Element → Bool) (tag : Tag) (m : Mode) : Build Unit := do
  popWhile fun e => !context e
  start tag
  setMode m

/-- The rules of the mode `inTable`. -/
def inTable (t : Token) : Build Outcome := do
  match t with
  | .nul | .blanks _ | .words _ => startTableText t
  | .comment text => finish (insertComment text)
  | .startTag tag =>
    let name := tag.name
    if name == "caption" then finish do
      popWhile fun e => !e.isTableContext
      setMarker
      start tag
      setMode .inCaption
    else if name == "colgroup" then finish (startInTable Element.isTableContext tag .inColumnGroup)
    else if name == "col" then
      startInTable Element.isTableContext { name := "colgroup" } .inColumnGroup
      return .again t
    else if name == "tbody" || name == "tfoot" || name == "thead" then
      finish (startInTable Element.isTableContext tag .inTableBody)
    else if name == "td" || name == "th" || name == "tr" then
      startInTable Element.isTableContext { name := "tbody" } .inTableBody
      return .again t
    else if name == "table" then
      if ← inScopeNamed Element.boundsTable "table" then
        popThroughNamed "table"
        resetMode
        return .again t
      else return .done
    else if name == "style" || name == "script" || name == "template" then startInHead tag
    else if name == "input" then
      if isHidden tag then finish (startVoid tag) else foster t
    else if name == "form" then finish do
      let template ← isOpen "template"
      if !template && (← get).form.isNone then
        let n ← insert (elementOf tag)
        modify fun b => { b with form := some n }
    else foster t
  | .endTag name =>
    if name == "table" then finish do
      if ← inScopeNamed Element.boundsTable "table" then
        popThroughNamed "table"
        resetMode
    else if ["body", "caption", "col", "colgroup", "html", "tbody", "td", "tfoot", "th", "thead",
        "tr"].contains name then ignore
    else if name == "template" then endTemplate
    else foster t
  | .eof => inBody t
  | .doctype _ | .fault => foster t

/-- Puts the waiting text of a table in its place: into the table if it is blank, before the table
otherwise. -/
def releaseText (fostered : Bool) : List (Bool × String) → Build Unit
  | [] => pure ()
  | (blank, s) :: rest => do
    if fostered then discard (foster (if blank then .blanks s else .words s))
    else insertText s
    releaseText fostered rest

/-- The rules of the mode `inTableText`. -/
def inTableText (t : Token) : Build Outcome := do
  match t with
  | .nul => ignore
  | .blanks s => finish (modify fun b => { b with pendingText := (true, s) :: b.pendingText })
  | .words s => finish (modify fun b => { b with pendingText := (false, s) :: b.pendingText })
  | t =>
    let pending := (← get).pendingText.reverse
    modify fun b => { b with pendingText := [] }
    releaseText (pending.any fun p => !p.1) pending
    againIn (← get).returnMode t

/-- The rules of the mode `inCaption`. -/
def inCaption (t : Token) : Build Outcome := do
  let close (last : Build Outcome) : Build Outcome := do
    if ← inScopeNamed Element.boundsTable "caption" then
      endImplied
      popThroughNamed "caption"
      forgetToMarker
      last
    else return .done
  match t with
  | .startTag tag =>
    if ["caption", "col", "colgroup", "tbody", "td", "tfoot", "th", "thead", "tr"].contains tag.name
    then close (againIn .inTable t)
    else inBody t
  | .endTag name =>
    if name == "caption" then close (finish (setMode .inTable))
    else if name == "table" then close (againIn .inTable t)
    else if ["body", "col", "colgroup", "html", "tbody", "td", "tfoot", "th", "thead",
        "tr"].contains name then ignore
    else inBody t
  | _ => inBody t

/-- The rules of the mode `inColumnGroup`. -/
def inColumnGroup (t : Token) : Build Outcome := do
  let otherwise : Build Outcome := do
    if ← currentIs (·.isHtml "colgroup") then
      discard pop
      againIn .inTable t
    else return .done
  match t with
  | .blanks text => finish (insertText text)
  | .comment text => finish (insertComment text)
  | .startTag tag =>
    if tag.name == "html" then startHtmlAgain tag
    else if tag.name == "col" then finish (startVoid tag)
    else if tag.name == "template" then startInHead tag
    else otherwise
  | .endTag name =>
    if name == "colgroup" then finish do
      if ← currentIs (·.isHtml "colgroup") then
        discard pop
        setMode .inTable
    else if name == "col" then ignore
    else if name == "template" then endTemplate
    else otherwise
  | .eof => inBody t
  | _ => otherwise

/-- The rules of the mode `inTableBody`. -/
def inTableBody (t : Token) : Build Outcome := do
  let close : Build Outcome := do
    if ← inScope Element.boundsTable (·.isHtmlIn ["table", "tbody", "tfoot"]) then
      popWhile fun e => !e.isRowGroupContext
      discard pop
      againIn .inTable t
    else return .done
  match t with
  | .startTag tag =>
    if tag.name == "tr" then finish (startInTable Element.isRowGroupContext tag .inRow)
    else if tag.name == "th" || tag.name == "td" then
      startInTable Element.isRowGroupContext { name := "tr" } .inRow
      return .again t
    else if ["caption", "col", "colgroup", "tbody", "tfoot", "thead"].contains tag.name then close
    else inTable t
  | .endTag name =>
    if name == "tbody" || name == "tfoot" || name == "thead" then finish do
      if ← inScopeNamed Element.boundsTable name then
        popWhile fun e => !e.isRowGroupContext
        discard pop
        setMode .inTable
    else if name == "table" then close
    else if ["body", "caption", "col", "colgroup", "html", "td", "th", "tr"].contains name then
      ignore
    else inTable t
  | _ => inTable t

/-- The rules of the mode `inRow`. -/
def inRow (t : Token) : Build Outcome := do
  let closeRow (last : Build Outcome) : Build Outcome := do
    if ← inScopeNamed Element.boundsTable "tr" then
      popWhile fun e => !e.isRowContext
      discard pop
      last
    else return .done
  match t with
  | .startTag tag =>
    if tag.name == "th" || tag.name == "td" then finish do
      startInTable Element.isRowContext tag .inCell
      setMarker
    else if ["caption", "col", "colgroup", "tbody", "tfoot", "thead", "tr"].contains tag.name then
      closeRow (againIn .inTableBody t)
    else inTable t
  | .endTag name =>
    if name == "tr" then closeRow (finish (setMode .inTableBody))
    else if name == "table" then closeRow (againIn .inTableBody t)
    else if name == "tbody" || name == "tfoot" || name == "thead" then
      if ← inScopeNamed Element.boundsTable name then closeRow (againIn .inTableBody t)
      else return .done
    else if ["body", "caption", "col", "colgroup", "html", "td", "th"].contains name then ignore
    else inTable t
  | _ => inTable t

/-- The rules of the mode `inCell`. -/
def inCell (t : Token) : Build Outcome := do
  let closeCell : Build Outcome := do
    endImplied
    popThrough Element.isCell
    forgetToMarker
    againIn .inRow t
  match t with
  | .startTag tag =>
    if ["caption", "col", "colgroup", "tbody", "td", "tfoot", "th", "thead", "tr"].contains tag.name
    then
      if ← inScope Element.boundsTable Element.isCell then closeCell else return .done
    else inBody t
  | .endTag name =>
    if name == "td" || name == "th" then finish do
      if ← inScopeNamed Element.boundsTable name then
        endImplied
        popThroughNamed name
        forgetToMarker
        setMode .inRow
    else if ["body", "caption", "col", "colgroup", "html"].contains name then ignore
    else if ["table", "tbody", "tfoot", "thead", "tr"].contains name then
      if ← inScopeNamed Element.boundsTable name then closeCell else return .done
    else inBody t
  | _ => inBody t

/-! ## Choices, templates, framesets and the end -/

/-- The rules of the mode `inSelect`. -/
def inSelect (t : Token) : Build Outcome := do
  match t with
  | .blanks text | .words text => finish (insertText text)
  | .comment text => finish (insertComment text)
  | .startTag tag =>
    let name := tag.name
    if name == "html" then startHtmlAgain tag
    else if name == "option" then finish do
      if ← currentIs (·.isHtml "option") then discard pop
      start tag
    else if name == "optgroup" then finish do
      if ← currentIs (·.isHtml "option") then discard pop
      if ← currentIs (·.isHtml "optgroup") then discard pop
      start tag
    else if name == "select" then finish do
      if ← inScopeNamed Element.boundsSelect "select" then
        popThroughNamed "select"
        resetMode
    else if name == "input" || name == "keygen" || name == "textarea" then
      if ← inScopeNamed Element.boundsSelect "select" then
        popThroughNamed "select"
        resetMode
        return .again t
      else return .done
    else if name == "script" || name == "template" then startInHead tag
    else ignore
  | .endTag name =>
    if name == "optgroup" then finish do
      let b ← get
      let around := b.opened.tail.head?.any fun n => (b.tree.element? n).any (·.isHtml "optgroup")
      if (← currentIs (·.isHtml "option")) && around then discard pop
      if ← currentIs (·.isHtml "optgroup") then discard pop
    else if name == "option" then finish do
      if ← currentIs (·.isHtml "option") then discard pop
    else if name == "select" then finish do
      if ← inScopeNamed Element.boundsSelect "select" then
        popThroughNamed "select"
        resetMode
    else if name == "template" then endTemplate
    else ignore
  | .eof => inBody t
  | _ => ignore

/-- The rules of the mode `inSelectInTable`. -/
def inSelectInTable (t : Token) : Build Outcome := do
  let parts := ["caption", "table", "tbody", "tfoot", "thead", "tr", "td", "th"]
  let leave : Build Outcome := do
    popThroughNamed "select"
    resetMode
    return .again t
  match t with
  | .startTag tag => if parts.contains tag.name then leave else inSelect t
  | .endTag name =>
    if parts.contains name then
      if ← inScopeNamed Element.boundsTable name then leave else return .done
    else inSelect t
  | _ => inSelect t

/-- The rules of the mode `inTemplate`. -/
def inTemplate (t : Token) : Build Outcome := do
  let goOn (m : Mode) : Build Outcome := do
    modify fun b => { b with templateModes := m :: b.templateModes.drop 1 }
    againIn m t
  match t with
  | .blanks _ | .words _ | .comment _ => inBody t
  | .startTag tag =>
    let name := tag.name
    if headTags.contains name then startInHead tag
    else if ["caption", "colgroup", "tbody", "tfoot", "thead"].contains name then goOn .inTable
    else if name == "col" then goOn .inColumnGroup
    else if name == "tr" then goOn .inTableBody
    else if name == "td" || name == "th" then goOn .inRow
    else goOn .inBody
  | .endTag name => if name == "template" then endTemplate else ignore
  | .eof => endInTemplate
  | _ => ignore

/-- The rules of the mode `afterBody`. -/
def afterBody (t : Token) : Build Outcome := do
  match t with
  | .blanks _ => inBody t
  | .comment text => finish do
    let n ← newNode (.comment text)
    let html ← htmlNode
    changeTree (·.append html n)
  | .startTag tag => if tag.name == "html" then startHtmlAgain tag else againIn .inBody t
  | .endTag name =>
    if name == "html" then finish (setMode .afterAfterBody) else againIn .inBody t
  | .eof => ignore
  | _ => againIn .inBody t

/-- The rules of the mode `inFrameset`. -/
def inFrameset (t : Token) : Build Outcome := do
  match t with
  | .blanks text => finish (insertText text)
  | .comment text => finish (insertComment text)
  | .startTag tag =>
    if tag.name == "html" then startHtmlAgain tag
    else if tag.name == "frameset" then finish (start tag)
    else if tag.name == "frame" then finish (startVoid tag)
    else if tag.name == "noframes" then startInHead tag
    else ignore
  | .endTag name =>
    if name == "frameset" && (← get).opened.length != 1 then finish do
      discard pop
      unless ← currentIs (·.isHtml "frameset") do setMode .afterFrameset
    else return .done
  | _ => ignore

/-- The rules of the mode `afterFrameset`. -/
def afterFrameset (t : Token) : Build Outcome := do
  match t with
  | .blanks text => finish (insertText text)
  | .comment text => finish (insertComment text)
  | .startTag tag =>
    if tag.name == "html" then startHtmlAgain tag
    else if tag.name == "noframes" then startInHead tag
    else ignore
  | .endTag name => if name == "html" then finish (setMode .afterAfterFrameset) else ignore
  | _ => ignore

/-- The rules of the mode `afterAfterBody`. -/
def afterAfterBody (t : Token) : Build Outcome := do
  match t with
  | .blanks _ => inBody t
  | .comment text => finish do
    let n ← newNode (.comment text)
    changeTree (·.append Tree.root n)
  | .startTag tag => if tag.name == "html" then startHtmlAgain tag else againIn .inBody t
  | .eof => ignore
  | _ => againIn .inBody t

/-- The rules of the mode `afterAfterFrameset`. -/
def afterAfterFrameset (t : Token) : Build Outcome := do
  match t with
  | .blanks _ => inBody t
  | .comment text => finish do
    let n ← newNode (.comment text)
    changeTree (·.append Tree.root n)
  | .startTag tag =>
    if tag.name == "html" then startHtmlAgain tag
    else if tag.name == "noframes" then startInHead tag
    else ignore
  | _ => ignore

/-- What a token does in the current mode. -/
def inMode (t : Token) : Build Outcome := do
  match (← get).mode with
  | .initial => initial t
  | .beforeHtml => beforeHtml t
  | .beforeHead => beforeHead t
  | .inHead => inHead t
  | .afterHead => afterHead t
  | .inBody => inBody t
  | .text => text t
  | .inTable => inTable t
  | .inTableText => inTableText t
  | .inCaption => inCaption t
  | .inColumnGroup => inColumnGroup t
  | .inTableBody => inTableBody t
  | .inRow => inRow t
  | .inCell => inCell t
  | .inSelect => inSelect t
  | .inSelectInTable => inSelectInTable t
  | .inTemplate => inTemplate t
  | .afterBody => afterBody t
  | .inFrameset => inFrameset t
  | .afterFrameset => afterFrameset t
  | .afterAfterBody => afterAfterBody t
  | .afterAfterFrameset => afterAfterFrameset t

/-! ## Foreign elements -/

/-- Whether a token is read by the rules for foreign elements, given the current element. -/
def isForeign (e : Element) (t : Token) : Bool :=
  let isText := match t with
    | .blanks _ | .words _ | .nul => true
    | _ => false
  let startName := match t with
    | .startTag tag => some tag.name
    | _ => none
  if e.space == .html || t == .eof then false
  else if e.isTextIntegration &&
      (isText || startName.any fun n => n != "mglyph" && n != "malignmark") then false
  else if e.isHtmlIntegration && (isText || startName.isSome) then false
  else !(e.space == .math && e.name == "annotation-xml" && startName == some "svg")

/-- How many elements stay open when an end tag of the given name closes a foreign element;
`none` if the search meets an element of HTML first, and all if it closes nothing. The innermost
element is foreign. -/
def foreignEnd? (t : Tree) (name : String) (isFirst : Bool) : List NodeId → Option (Option Nat)
  | [] | [_] => some none
  | n :: outer =>
    match t.element? n with
    | some e =>
      if !isFirst && e.space == .html then none
      else if asciiLower e.name == name then some (some outer.length)
      else foreignEnd? t name false outer
    | none => foreignEnd? t name false outer

/-- The rules for tokens in foreign elements. -/
def foreign (t : Token) : Build Outcome := do
  match t with
  | .nul => finish (insertText "\uFFFD")
  | .blanks text => finish (insertText text)
  | .words text => finish do
    noFrameset
    insertText text
  | .comment text => finish (insertComment text)
  | .startTag tag =>
    if Foreign.breaksOut tag then
      discard pop
      popWhile fun e => !(e.space == .html || e.isTextIntegration || e.isHtmlIntegration)
      return .again t
    else
      match ← element? (← current) with
      | none => refused
      | some e => finish do
        let name := if e.space == .svg then Foreign.svgTag tag.name else tag.name
        startForeign e.space name tag
  | .endTag name =>
    let b ← get
    match foreignEnd? b.tree name true b.opened with
    | none => inMode t
    | some none => return .done
    | some (some left) =>
      modify fun b => { b with opened := b.opened.drop (b.opened.length - left) }
      return .done
  | .doctype _ | .fault | .eof => ignore

/-- What a token does. -/
def step (t : Token) : Build Outcome := do
  let b ← get
  match b.opened with
  | [] => inMode t
  | n :: _ =>
    match b.tree.element? n with
    | some e => if isForeign e t then foreign t else inMode t
    | none => inMode t

/-- Follows a token until it is used up, for at most the given number of readings. -/
def follow : Nat → Token → Build Content
  | 0, _ => refused
  | n + 1, t => do
    match ← step t with
    | .done => return .markup
    | .again t => follow n t
    | .reads c => return c

/-- A doctype counts at the very front of a page only. -/
def readDoctype (d : Doctype) (legacy : Bool) : Build Unit := do
  if (← get).mode == .initial then
    let n ← newNode (.doctype (d.name.getD ""))
    changeTree (·.append Tree.root n)
    modify fun b => { b with legacyTables := legacy, mode := .beforeHtml }

/-- A token without the line feed it starts with. -/
def withoutLineFeed : Token → Option Token
  | .blanks s =>
    match s.toList with
    | ['\n'] => none
    | '\n' :: rest => some (.blanks (String.ofList rest))
    | _ => some (.blanks s)
  | t => some t

end PageCrawl.Html.Build
