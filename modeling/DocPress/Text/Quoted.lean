import DocPress.Text.Printable

namespace DocPress.Text

def singleQuote : CodePoint := '\x27'

def doubleQuote : CodePoint := '\x22'

def shortEscapes : List (CodePoint × CodePoint) := [('\\', '\\'), ('\t', 't'), ('\n', 'n'), ('\r', 'r')]

/-- Two, four or eight digits, as few as the code point needs. -/
def numericEscape (c : CodePoint) : Text :=
  if c.val < 0x100 then text "\\x" ++ hex 2 c.val
  else if c.val < 0x10000 then text "\\u" ++ hex 4 c.val
  else text "\\U" ++ hex 8 c.val

def escapePoint (quote c : CodePoint) : Text :=
  if c = quote then ['\\', c]
  else match shortEscapes.lookup c with
    | some letter => ['\\', letter]
    | none => if c.isPrintable then [c] else numericEscape c

def quoteFor (t : Text) : CodePoint :=
  if singleQuote ∈ t ∧ doubleQuote ∉ t then doubleQuote else singleQuote

def quoted (t : Text) : Text := quoteFor t :: (t.flatMap (escapePoint (quoteFor t)) ++ [quoteFor t])

end DocPress.Text
