import DocPress.Markdown.Escape
import DocPress.Markdown.Token
import DocPress.Text.Blank

namespace DocPress.Markdown

def attributesHtml (attributes : List (Text × Text)) : Text :=
  attributes.flatMap fun (name, value) =>
    text " " ++ escapeHtml name ++ text "=\x22" ++ escapeHtml value ++ text "\x22"

namespace Token

mutual

def alternative : Token → Text
  | { element, content, children, .. } =>
    match element with
    | .text | .escapedText | .htmlInline => content
    | .softBreak | .hardBreak => DocPress.text "\n"
    | .image => alternatives children
    | _ => []

def alternatives : List Token → Text
  | [] => []
  | t :: rest => t.alternative ++ alternatives rest

end

def language (t : Token) : Text := (Text.firstWord? (unescape t.info)).getD []

def languageClass (language : Text) : List (Text × Text) :=
  if language.isEmpty then [] else [(DocPress.text "class", DocPress.text "language-" ++ language)]

/-- No newline stands between an opening tag and text, or the closing tag of the same element. -/
def breaksAfter (t : Token) (next : Option Token) : Bool :=
  t.element.isBlock &&
    !(t.place = .opening && next.any fun n =>
      n.element = .inline || n.hidden || (n.place = .closing && n.element.tag == t.element.tag))

/-- The tag of a token. A tag after a paragraph without tags begins a line. -/
def tagHtml (previous : Option Token) (t : Token) (next : Option Token) : Text :=
  if t.hidden then []
  else
    let newline :=
      if t.element.isBlock && t.place ≠ .closing && previous.any (·.hidden) then
        DocPress.text "\n"
      else []
    let slash := if t.place = .alone then DocPress.text " /" else []
    newline ++ DocPress.text (if t.place = .closing then "</" else "<") ++ t.element.tag ++
      attributesHtml t.attributes ++ slash ++
      DocPress.text (if t.breaksAfter next then ">\n" else ">")

def codeHtml (attributes : List (Text × Text)) (content : Text) : Text :=
  DocPress.text "<pre><code" ++ attributesHtml attributes ++ DocPress.text ">" ++
    escapeHtml content ++ DocPress.text "</code></pre>\n"

mutual

def piece (previous : Option Token) (t : Token) (next : Option Token) : Text :=
  match t with
  | t@{ element, content, children, .. } =>
    match element with
    | .inline => html none children
    | .text | .escapedText => escapeHtml content
    | .htmlBlock | .htmlInline => content
    | .softBreak => DocPress.text "\n"
    | .hardBreak => DocPress.text "<br />\n"
    | .code => DocPress.text "<code>" ++ escapeHtml content ++ DocPress.text "</code>"
    | .codeBlock => codeHtml [] content
    | .fence => codeHtml (languageClass t.language) content
    | .image =>
      let alternative := alternatives children
      { t with attributes := t.attributes.map fun (name, value) =>
          (name, if name = DocPress.text "alt" then alternative else value) }.tagHtml previous next
    | _ => t.tagHtml previous next

def html (previous : Option Token) : List Token → Text
  | [] => []
  | t :: rest => t.piece previous rest.head? ++ html (some t) rest

end

end Token

def html (tokens : List Token) : Text := Token.html none tokens

end DocPress.Markdown
