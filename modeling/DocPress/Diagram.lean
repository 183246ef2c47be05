import DocPress.Markdown.Document
import DocPress.Markdown.Html
import DocPress.Markdown.Node

namespace DocPress

open Markdown

namespace Diagram

def language : Text := text "mermaid"

/-- A block of code whose info string begins with the language of diagrams. -/
def isSource (t : Token) : Bool :=
  (t.element = .fence || t.element = .codeBlock) && t.info.startsWith language

def figure (picture : Text) : Text :=
  text "<figure class='mermaid-graph'>" ++ picture ++ text "</figure>"

def replaced (t : Token) (picture : Text) : Token :=
  { element := .htmlBlock, lines := t.lines, level := t.level, content := figure picture }

variable {m : Type → Type} [Monad m] (render : Text → m Text)

mutual

/-- Draws the diagrams of a node, its own first. What is drawn for elements in a text is not shown:
the text stays as it is. -/
def substituteNode : Node → m Node
  | .leaf t children =>
    if isSource t then do
      let picture ← render t.content
      discard (substitute children)
      return .leaf (replaced t picture) []
    else do
      discard (substitute children)
      return .leaf t children
  | .nest opening children closing => do return .nest opening (← substitute children) closing

/-- Draws the diagrams of a document in order, up to the first that fails. -/
def substitute : List Node → m (List Node)
  | [] => pure []
  | n :: rest => do
    let n ← substituteNode n
    return n :: (← substitute rest)

end

end Diagram

def Markdown.nodes (markdown : Text) : List Node := Node.group (tokens markdown)

def Markdown.nodesHtml (nodes : List Node) : Text := html (Node.flatten nodes)

/-- The HTML of a document; without a renderer, diagrams stay as code. -/
def compile {m : Type → Type} [Monad m] (render : Option (Text → m Text)) (markdown : Text) :
    m Text :=
  match render with
  | some render => do return nodesHtml (← Diagram.substitute render (nodes markdown))
  | none => pure (nodesHtml (nodes markdown))

end DocPress
