import DocPress.Assets
import DocPress.Composition
import DocPress.Pdf
import DocPress.Project
import DocPress.Template

namespace DocPress.Build

inductive Format where
  | pdf
  | html
deriving DecidableEq

def Format.named : List (Text × Format) := [(text "pdf", .pdf), (text "html", .html)]

structure Product where
  page : Path
  pdf : Option Path

variable {m : Type → Type} [Monad m] [MonadLiftT Run m]

def compileDocument (render : Text → m Text) (entry : Path) : m Text := do
  let composed ← liftM (World.ask fun s => do Composition.compose s entry (← s.readText entry) none)
  compile (some render) composed

def pageName : Text := text "index.html"

def pdfName : Text := text "index.pdf"

def writePage (project : Project) (page : Text) : Run Path := do
  World.makeDirectories project.htmlDirectory
  discard (Assets.copy project.assetsPath project.htmlDirectory)
  let file := project.htmlDirectory.child pageName
  World.writeText file page
  return file

def writePdf (settings : Settings) (project : Project) (page : Path) : Run Path := do
  World.makeDirectories project.pdfDirectory
  Pdf.write settings none page (project.pdfDirectory.child pdfName)

def build (settings : Settings) (render : Text → m Text) (project : Project) (format : Text) :
    m Product := do
  let format ← liftM (World.ask fun _ => match Format.named.lookup format with
    | some format => .ok format
    | none => .error (.project (.unknownFormat format)))
  let document ← compileDocument render project.entryPath
  let page ← liftM (World.ask (Template.page · project.templatePath document))
  let file ← liftM (writePage project page)
  match format with
  | .html => return ⟨file, none⟩
  | .pdf => return ⟨file, some (← liftM (writePdf settings project file))⟩

end DocPress.Build
