import PageCrawl.Html.Builder

/-!
# Formatting elements

Elements such as `b` and `a` survive badly nested tags: when a block ends inside them they are
opened again behind it, and when one is closed inside a block it is split around the block. The
list of formatting elements remembers which ones are to be opened again; `reconstruct` does so, and
`closeFormatting` is the splitting.
-/

namespace PageCrawl.Html.Build

/-- The entries since the last marker, latest first. -/
def sinceMarker (entries : List FormatEntry) : List (NodeId × Tag) :=
  match entries with
  | .element n tag :: rest => (n, tag) :: sinceMarker rest
  | _ => []

/-- Whether an entry is the one of a node. -/
def isEntryOf (n : NodeId) : FormatEntry → Bool
  | .element m _ => m == n
  | .marker => false

/-- Takes the entry of a node out of the list. -/
def forget (n : NodeId) : Build Unit := modify fun b =>
  { b with formatting := b.formatting.eraseP (isEntryOf n) }

/-- Forgets the entries since the last marker, and the marker. -/
def forgetToMarker : Build Unit := modify fun b =>
  { b with formatting := (b.formatting.dropWhile (· != .marker)).drop 1 }

/-- Keeps later formatting apart from earlier. -/
def setMarker : Build Unit := modify fun b => { b with formatting := .marker :: b.formatting }

/-- Opens formatting elements again, the earliest first, and puts them on top of the entries
`done`, latest first. -/
def reopen : List (NodeId × Tag) → List FormatEntry → Build (List FormatEntry)
  | [], done => return done
  | (_, tag) :: later, done => do
    let n ← openElement tag
    reopen later (.element n tag :: done)

/-- Opens the latest formatting elements again that are no longer open. -/
def reconstruct : Build Unit := do
  let b ← get
  let closed : FormatEntry → Bool
    | .marker => false
    | .element n _ => !b.opened.contains n
  let lost := b.formatting.takeWhile closed
  unless lost.isEmpty do
    let entries ← reopen (sinceMarker lost).reverse (b.formatting.drop lost.length)
    modify fun b => { b with formatting := entries }

/-- Opens a formatting element. Of more than three alike since the last marker the earliest is
forgotten. -/
def startFormatting (tag : Tag) : Build Unit := do
  let alike := (sinceMarker (← get).formatting).filter fun (_, t) => t.sameElement tag
  if alike.length ≥ 3 then
    match alike.getLast? with
    | some (n, _) => forget n
    | none => pure ()
  let n ← openElement tag
  modify fun b => { b with formatting := .element n tag :: b.formatting }

/-- How many elements stay open when the innermost one of the given name is closed; `none` if a
special element stands in between. -/
def enclosing? (t : Tree) (name : String) : List NodeId → Option Nat
  | [] => none
  | n :: outer =>
    let e := t.element? n
    if e.any (·.isHtml name) then some outer.length
    else if e.any Element.isSpecial then none
    else enclosing? t name outer

/-- Closes the innermost open element of the given name and all within it, unless a special
element stands in between. -/
def closeOther (name : String) : Build Unit := do
  let b ← get
  match enclosing? b.tree name b.opened with
  | none => pure ()
  | some left =>
    endImpliedExcept name
    modify fun b => { b with opened := b.opened.drop (b.opened.length - left) }

/-- Where the entry of the split element goes. -/
inductive Bookmark
  /-- In the place of the closed element's entry. -/
  | replace
  /-- Right after the entry of a node. -/
  | after (n : NodeId)

/-- Splits the elements between a block and the formatting element around it: each formatting
element is made anew and takes what was split so far; other elements, and those beyond the third,
are closed. Returns the outermost node of the result, the elements that stay open, innermost
first, and the bookmark. -/
def splitBetween (block : NodeId) :
    List NodeId → Nat → NodeId → List NodeId → Bookmark → Build (NodeId × List NodeId × Bookmark)
  | [], _, last, kept, mark => return (last, kept.reverse, mark)
  | n :: outer, count, last, kept, mark => do
    let entry := (← get).formatting.find? (isEntryOf n)
    match entry with
    | some (.element _ tag) =>
      if count ≥ 3 then
        forget n
        splitBetween block outer (count + 1) last kept mark
      else
        let m ← newElement (elementOf tag)
        modify fun b => { b with
          formatting := b.formatting.map fun x => if isEntryOf n x then .element m tag else x }
        let mark := if last == block then .after m else mark
        changeTree (·.detach last)
        changeTree (·.append m last)
        splitBetween block outer (count + 1) m (m :: kept) mark
    | _ => splitBetween block outer (count + 1) last kept mark

/-- One round of closing a formatting element of the given name. Returns whether to go on. -/
def closeFormattingOnce (name : String) : Build Bool := do
  let b ← get
  match (sinceMarker b.formatting).find? fun (_, tag) => tag.name == name with
  | none =>
    closeOther name
    return false
  | some (n, tag) =>
    if !b.opened.contains n then
      forget n
      return false
    else if !findInScope b.tree Element.bounds (· == n) b.opened then
      return false
    else
      let within := b.opened.takeWhile (· != n)
      let outer := b.opened.drop (within.length + 1)
      let special := fun m => (b.tree.element? m).any Element.isSpecial
      match within.reverse.find? special, outer with
      | none, _ =>
        modify fun b => { b with opened := outer }
        forget n
        return false
      | some _, [] => refused
      | some block, ancestor :: _ =>
        let above := within.takeWhile (· != block)
        let between := within.drop (above.length + 1)
        let (last, kept, mark) ← splitBetween block between 0 block [] .replace
        changeTree (·.detach last)
        putNode (← placeFor (some ancestor)) last
        let m ← newElement (elementOf tag)
        changeTree fun t => some (t.moveChildren block m)
        changeTree (·.append block m)
        let entry := FormatEntry.element m tag
        modify fun b => { b with
          formatting := match mark with
            | .replace => b.formatting.map fun x => if isEntryOf n x then entry else x
            | .after k => (b.formatting.flatMap fun x =>
                if isEntryOf k x then [entry, x] else [x]).eraseP (isEntryOf n)
          opened := above ++ m :: block :: kept ++ outer }
        return true

/-- Closes a formatting element, up to the given number of times. -/
def closeFormattingTimes (name : String) : Nat → Build Unit
  | 0 => pure ()
  | n + 1 => do
    if ← closeFormattingOnce name then closeFormattingTimes name n

/-- Closes a formatting element of the given name, splitting it around the blocks within. -/
def closeFormatting (name : String) : Build Unit := do
  let b ← get
  let plain : Bool := match b.opened with
    | n :: _ => (b.tree.element? n).any (·.isHtml name) && !b.formatting.any (isEntryOf n)
    | [] => false
  if plain then discard pop else closeFormattingTimes name 8

/-- A link that opens inside a link closes it first. -/
def closeOpenLink : Build Unit := do
  let b ← get
  let link := (sinceMarker b.formatting).find? fun (n, _) => (b.tree.element? n).any (·.isHtml "a")
  match link with
  | none => pure ()
  | some (n, _) =>
    closeFormatting "a"
    forget n
    removeOpened n

end PageCrawl.Html.Build
