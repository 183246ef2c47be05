import DocPress.Markdown.Block
import DocPress.Markdown.Inline

namespace DocPress.Markdown

/-- Newlines of one kind, and no null characters. -/
def normalize (t : Text) : Text :=
  (Text.unifyNewlines t).map fun c => if c.val = 0 then .replacement else c

def readInline (definitions : Definitions) (t : Token) : Token :=
  if t.element = .inline then { t with children := Inline.tokens definitions t.content } else t

/-- Reads a document. The definitions of links hold in all of it. -/
def tokens (t : Text) : List Token :=
  let blocks := readBlocks (normalize t)
  blocks.tokens.map (readInline blocks.definitions)

end DocPress.Markdown
