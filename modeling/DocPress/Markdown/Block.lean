import DocPress.Markdown.Block.List
import DocPress.Markdown.Block.Table

namespace DocPress.Markdown

structure Blocks where
  tokens : List Token := []
  definitions : Definitions := []
  /-- The line after them. -/
  next : Nat
  /-- No blank line stands between two of them. -/
  tight : Bool := true

abbrev BlockReader := Area → Nat → Nat → Blocks

namespace Area

def beginsBlock (a : Area) (inParagraph : Bool) (i : Nat) : Bool :=
  (a.fenceOpening? i).isSome || a.beginsQuote i || a.isThematicBreak i ||
  (a.listMarker? inParagraph i).isSome || (a.htmlKind? i).any (·.interruptsParagraph) ||
  (a.headingRank? i).isSome

def endsParagraph (a : Area) (inParagraph : Bool) (i limit : Nat) : Bool :=
  (a.tableHead? i limit).isSome || a.beginsBlock inParagraph i

/-- The line continues a paragraph whatever it looks like. -/
def isLazy (a : Area) (i : Nat) : Bool := a.isCode i || a.column i < 0

def paragraphEnd (a : Area) (inParagraph : Bool) : Nat → Nat → Nat
  | 0, i => i
  | count + 1, i =>
    if a.isEmpty i then i
    else if a.isLazy i || !a.endsParagraph inParagraph i a.stop then
      paragraphEnd a inParagraph count (i + 1)
    else i

def paragraph (a : Area) (i : Nat) : Reading :=
  let next := a.paragraphEnd true (a.stop - (i + 1)) (i + 1)
  let content := Text.trim (a.text i next a.indent false)
  { tokens := a.textBlock .paragraph i next next [] content, next }

def underlineRank? (a : Area) (i : Nat) : Option Nat :=
  match a.content i with
  | [] => none
  | c :: rest =>
    if a.isOutdented i || !(rest.dropWhile (· = c)).all CodePoint.isSpace then none
    else if c = '=' then some 1
    else if c = '-' then some 2
    else none

def underline? (a : Area) (limit : Nat) : Nat → Nat → Option (Nat × Nat)
  | 0, _ => none
  | count + 1, i =>
    if a.isEmpty i then none
    else if a.isCode i then underline? a limit count (i + 1)
    else
      match a.underlineRank? i with
      | some rank => some (i, rank)
      | none =>
        if a.column i < 0 || !a.endsParagraph true i limit then underline? a limit count (i + 1)
        else none

def underlinedHeading? (a : Area) (i limit : Nat) : Option Reading :=
  if a.isCode i then none
  else
    (a.underline? limit (limit - (i + 1)) (i + 1)).map fun (last, rank) =>
      let content := Text.trim (a.text i last a.indent false)
      { tokens := a.textBlock (.heading rank) i (last + 1) last [] content, next := last + 1 }

def definition? (a : Area) (i : Nat) : Option Reading :=
  if a.isCode i || (a.content i).head? ≠ some ('[' : CodePoint) then none
  else
    let last := a.paragraphEnd false (a.stop - (i + 1)) (i + 1)
    let lines := (List.range' i (last - i)).map fun k =>
      a.content k ++ if (a.line k).ended then DocPress.text "\n" else []
    (readDefinition? lines.flatten).map fun (definition, count) =>
      { tokens := [], definitions := [definition], next := i + count }

/-- Takes the quotation marks off the lines from `i` on. A line without one continues the quote if
it can continue a paragraph. -/
def unquote : Nat → Nat → Bool → Area → Area × Nat
  | 0, i, _, a => (a, i)
  | count + 1, i, afterEmpty, a =>
    let l := a.line i
    if l.isEmpty then (a, i)
    else if l.content.head? = some ('>' : CodePoint) ∧ ¬ a.isOutdented i then
      let l := l.unquoted
      unquote count (i + 1) l.isEmpty (a.updated i l)
    else if afterEmpty then (a, i)
    else if a.beginsBlock false i then
      ({ a.updated i { l with column := l.column - a.indent } with stop := i }, i)
    else unquote count (i + 1) afterEmpty (a.updated i { l with column := -1 })

def quote? (inner : BlockReader) (a : Area) (i limit : Nat) : Option Reading :=
  if a.beginsQuote i then
    let l := (a.line i).unquoted
    let (quoted, last) := unquote (limit - (i + 1)) (i + 1) l.isEmpty (a.updated i l)
    let blocks := inner { quoted.inside with indent := 0 } i last
    some
      { tokens := a.wrap .blockquote i blocks.next [] blocks.tokens
        definitions := blocks.definitions, next := blocks.next }
  else none

structure Items where
  tokens : List Token := []
  definitions : Definitions := []
  tight : Bool := true
  /-- A blank line ends the last item. -/
  endsEmpty : Bool := false
  next : Nat

def item (inner : BlockReader) (a : Area) (limit : Nat) (m : ListMarker) (items : Items) : Items :=
  let i := items.next
  let start := a.itemStart m i
  let blocks : Blocks :=
    if start.isBare && a.isEmpty (i + 1) then { next := min (i + 2) limit }
    else
      inner
        { (a.inside.inside).updated i start.line with
          indent := start.indent, listIndent := some a.indent } i limit
  { tokens := items.tokens ++
      a.inside.wrap .listItem i blocks.next [] blocks.tokens
    definitions := items.definitions ++ blocks.definitions
    tight := items.tight && blocks.tight && !items.endsEmpty
    endsEmpty := blocks.next - i > 1 && a.isEmpty (blocks.next - 1)
    next := blocks.next }

def items (inner : BlockReader) (a : Area) (limit : Nat) : Nat → ListMarker → Items → Items
  | 0, _, found => found
  | count + 1, m, found =>
    let found := a.item inner limit m found
    let i := found.next
    if i ≥ limit || a.isOutdented i || a.isCode i || a.beginsListEnd i then found
    else
      match ListMarker.read? (a.content i) with
      | some m' => if m.isLike m' then items inner a limit count m' found else found
      | none => found

/-- The paragraphs right in the items of a list are written without tags. -/
def tighten (level : Nat) (tokens : List Token) : List Token :=
  tokens.map fun t =>
    if t.element = .paragraph ∧ t.level = level then { t with hidden := true } else t

def list? (inner : BlockReader) (a : Area) (i limit : Nat) : Option Reading :=
  (a.listMarker? false i).map fun m =>
    let found := a.items inner limit (limit - i) m { next := i }
    let tokens := if found.tight then tighten (a.level + 2) found.tokens else found.tokens
    { tokens := a.wrap m.element i found.next m.attributes tokens
      definitions := found.definitions, next := found.next }

def block (inner : BlockReader) (a : Area) (i limit : Nat) : Reading :=
  (a.table? (a.beginsBlock false) i limit <|> a.code? i limit <|> a.fence? i limit <|>
    a.quote? inner i limit <|> a.thematicBreak? i <|> a.list? inner i limit <|> a.definition? i <|>
    a.html? i limit <|> a.heading? i <|> a.underlinedHeading? i limit).getD (a.paragraph i)

/-- Blocks nested deeper are left out. -/
def maxNesting : Nat := 20

def blocksFrom (inner : BlockReader) (a : Area) (limit : Nat) : Nat → Bool → Blocks → Blocks
  | 0, _, found => found
  | count + 1, sawEmpty, found =>
    if found.next ≥ limit then found
    else
      let i := a.skipEmpty found.next
      if i ≥ limit || a.isOutdented i then { found with next := i }
      else if a.level ≥ maxNesting then { found with next := limit }
      else
        let r := a.block inner i limit
        let endsEmpty := r.next - 1 < limit && a.isEmpty (r.next - 1)
        let skips := r.next < limit && a.isEmpty r.next
        blocksFrom inner a limit count (sawEmpty || endsEmpty || skips)
          { tokens := found.tokens ++ r.tokens
            definitions := found.definitions ++ r.definitions
            next := if skips then r.next + 1 else r.next
            tight := !sawEmpty }

def blocks : Nat → BlockReader
  | 0, _, _, limit => { next := limit }
  | n + 1, a, first, limit => a.blocksFrom (blocks n) limit (limit - first) false { next := first }

end Area

def readBlocks (t : Text) : Blocks :=
  let lines := (Line.split t).toArray
  Area.blocks (Area.maxNesting + 2) { lines, stop := lines.size } 0 lines.size

end DocPress.Markdown
