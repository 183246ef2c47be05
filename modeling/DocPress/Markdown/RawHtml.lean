import DocPress.Text.Pattern

namespace DocPress.Markdown.RawHtml

open Text (Pattern)

def isAttributeStart (c : CodePoint) : Bool := c.isLetter || c == '_' || c == ':'

def isAttributePoint (c : CodePoint) : Bool :=
  c.isAlphanumeric || c == ':' || c == '.' || c == '_' || c == '-'

def isTagPoint (c : CodePoint) : Bool := c.isAlphanumeric || c == '-'

def isUnquotedPoint (c : CodePoint) : Bool :=
  c.val > 0x20 && !(c ∈ text "\x22\x27=<>\x60")

def blanks : Pattern := .many (.point CodePoint.isBlank)

def quotedBy (quote : CodePoint) : Pattern :=
  .sequences [.literal [quote], .many (.point (· ≠ quote)), .literal [quote]]

def attributeValue : Pattern :=
  .choice (.sequence (.point isUnquotedPoint) (.many (.point isUnquotedPoint)))
    (.choice (quotedBy '\x27') (quotedBy '\x22'))

def tagAttribute : Pattern :=
  .sequences
    [.point CodePoint.isBlank, blanks, .point isAttributeStart, .many (.point isAttributePoint),
      .optional (.sequences [blanks, .literal (text "="), blanks, attributeValue])]

def tagName : Pattern := .sequence (.point CodePoint.isLetter) (.many (.point isTagPoint))

def openTag : Pattern :=
  .sequences
    [.literal (text "<"), tagName, .many tagAttribute, blanks, .optional (.literal (text "/")),
      .literal (text ">")]

def closeTag : Pattern :=
  .sequences [.literal (text "</"), tagName, blanks, .literal (text ">")]

def commentBody : Pattern :=
  let other : Pattern := .point (· ≠ '-')
  .choice other
    (.choice (.sequence (.literal (text "-")) other)
      (.sequence (.literal (text "--")) (.point (· ≠ '>'))))

def comment : Pattern :=
  .choice (.sequences [.literal (text "<!--"), .optional (.literal (text "-")), .literal (text ">")])
    (.sequences [.literal (text "<!--"), .many commentBody, .literal (text "-->")])

def declaration : Pattern :=
  .sequences
    [.literal (text "<!"), .point CodePoint.isLetter, .many (.point (· ≠ '>')), .literal (text ">")]

def tag : Pattern := .choice openTag closeTag

/-- What follows the first `closing` in a text that begins with `opening`. -/
def afterEnclosed? (opening closing : String) (t : Text) : Option Text :=
  (Text.after? (text opening) t).bind fun rest => (Text.breakOn (text closing) rest).map (·.2)

/-- What follows the tag, comment, instruction or declaration at the beginning of a text. -/
def afterInline? (t : Text) : Option Text :=
  tag.after? t <|> comment.after? t <|> afterEnclosed? "<?" "?>" t <|> declaration.after? t <|>
    afterEnclosed? "<![CDATA[" "]]>" t

/-- Lower case for the comparison of names, which takes in letters outside of ASCII. -/
def foldPoint (c : CodePoint) : CodePoint :=
  if c.val = 0x130 ∨ c.val = 0x131 then 'i'
  else if c.val = 0x17F then 's'
  else if c.val = 0x212A then 'k'
  else c.toLower

def fold (t : Text) : Text := t.map foldPoint

def verbatimNames : List String := ["script", "pre", "style", "textarea"]

/-- Elements that make a block of HTML up to the next blank line. -/
def blockNames : List String :=
  ["address", "article", "aside", "base", "basefont", "blockquote", "body", "caption", "center",
    "col", "colgroup", "dd", "details", "dialog", "dir", "div", "dl", "dt", "fieldset",
    "figcaption", "figure", "footer", "form", "frame", "frameset", "h1", "h2", "h3", "h4", "h5",
    "h6", "head", "header", "hr", "html", "iframe", "legend", "li", "link", "main", "menu",
    "menuitem", "nav", "noframes", "ol", "optgroup", "option", "p", "param", "search", "section",
    "summary", "table", "tbody", "td", "tfoot", "th", "thead", "title", "tr", "track", "ul"]

/-- The kinds of HTML block, by the line that begins them. -/
inductive BlockKind where
  | verbatim
  | comment
  | instruction
  | declaration
  | characterData
  | element
  | tag
deriving DecidableEq

def endsName (t : Text) (closings : List String) : Bool :=
  match t with
  | [] => true
  | c :: _ => c.isBlank || closings.any fun closing => t.startsWith (text closing)

def beginsVerbatim (line : Text) : Bool :=
  verbatimNames.any fun name =>
    match Text.after? (text "<" ++ text name) (fold line) with
    | some rest => endsName rest [">"]
    | none => false

def beginsElement (line : Text) : Bool :=
  ["<", "</"].any fun opening =>
    blockNames.any fun name =>
      match Text.after? (text opening ++ text name) (fold line) with
      | some rest => endsName rest [">", "/>"]
      | none => false

def beginsDeclaration (line : Text) : Bool :=
  match Text.after? (text "<!") line with
  | some (c :: _) => c.isLetter
  | _ => false

def blockKind? (line : Text) : Option BlockKind :=
  if beginsVerbatim line then some .verbatim
  else if line.startsWith (text "<!--") then some .comment
  else if line.startsWith (text "<?") then some .instruction
  else if beginsDeclaration line then some .declaration
  else if line.startsWith (text "<![CDATA[") then some .characterData
  else if beginsElement line then some .element
  else
    match tag.matchThen line fun rest => if rest.isBlank then some rest else none with
    | some _ => some .tag
    | none => none

namespace BlockKind

def interruptsParagraph (kind : BlockKind) : Bool := kind ≠ tag

def endsAt (kind : BlockKind) (line : Text) : Bool :=
  match kind with
  | verbatim => verbatimNames.any fun name =>
    Text.contains (text "</" ++ text name ++ text ">") (fold line)
  | comment => Text.contains (text "-->") line
  | instruction => Text.contains (text "?>") line
  | declaration => Text.contains (text ">") line
  | characterData => Text.contains (text "]]>") line
  | element | tag => line.isEmpty

end BlockKind

end DocPress.Markdown.RawHtml
