import DocPress.Text.Basic

namespace DocPress.Markdown

inductive Element where
  | paragraph
  | heading (rank : Nat)
  | blockquote
  | bulletList
  | orderedList
  | listItem
  | table
  | tableHead
  | tableBody
  | tableRow
  | headerCell
  | cell
  | thematicBreak
  | codeBlock
  | fence
  | htmlBlock
  /-- The text of a block. -/
  | inline
  | text
  /-- Text that was escaped. -/
  | escapedText
  | softBreak
  | hardBreak
  | code
  | htmlInline
  | emphasis
  | strong
  | strikethrough
  | link
  | image
deriving DecidableEq, Inhabited

namespace Element

def tag : Element → Text
  | paragraph => DocPress.text "p"
  | heading rank => DocPress.text "h" ++ Text.ofNat rank
  | blockquote => DocPress.text "blockquote"
  | bulletList => DocPress.text "ul"
  | orderedList => DocPress.text "ol"
  | listItem => DocPress.text "li"
  | table => DocPress.text "table"
  | tableHead => DocPress.text "thead"
  | tableBody => DocPress.text "tbody"
  | tableRow => DocPress.text "tr"
  | headerCell => DocPress.text "th"
  | cell => DocPress.text "td"
  | thematicBreak => DocPress.text "hr"
  | codeBlock | fence | code => DocPress.text "code"
  | softBreak | hardBreak => DocPress.text "br"
  | emphasis => DocPress.text "em"
  | strong => DocPress.text "strong"
  | strikethrough => DocPress.text "s"
  | link => DocPress.text "a"
  | image => DocPress.text "img"
  | htmlBlock | htmlInline | inline | text | escapedText => []

/-- The element stands on lines of its own, as opposed to within a line. -/
def isBlock : Element → Bool
  | paragraph | heading _ | blockquote | bulletList | orderedList | listItem | table | tableHead
  | tableBody | tableRow | headerCell | cell | thematicBreak | codeBlock | fence | htmlBlock
  | inline => true
  | text | escapedText | softBreak | hardBreak | code | htmlInline | emphasis | strong
  | strikethrough | link | image => false

end Element

inductive Place where
  | opening
  | alone
  | closing
deriving DecidableEq, Inhabited

abbrev LineRange := Nat × Nat

structure Token where
  element : Element
  place : Place := .alone
  attributes : List (Text × Text) := []
  lines : Option LineRange := none
  level : Nat := 0
  content : Text := []
  /-- What follows the opening marker of a fence. -/
  info : Text := []
  /-- The tag of a paragraph in a list without blank lines is not written. -/
  hidden : Bool := false
  children : List Token := []
deriving Inhabited

end DocPress.Markdown
