import DocPress.FileSystem.Walk
import DocPress.Json.Reader

namespace DocPress

/-- Why the text of a file could not be had. -/
inductive Unread where
  | system (fault : SystemFault)
  | malformed (fault : Text.Utf8.FaultAt)
  | blankImport
  | unnamed (path : Path)
deriving DecidableEq

inductive DiagramFault where
  | noTool
  | notStarted (fault : SystemFault)
  | late (seconds : Text)
  | exited (status : Int) (errors : Text)
  | noPicture (reason : Unread)
  /-- Reported by a renderer of its own. -/
  | reported (message : Text) (errors : Option Text)
deriving DecidableEq

inductive ProjectFault where
  | unread (file : Path)
  | invalid (file : Path) (fault : Json.Fault) (content : Text)
  | notObject (file : Path)
  | missing (file : Path) (keys : List Text)
  | notText (file : Path) (keys : List Text)
  | noAssets (directory : Path)
  | unknownFormat (format : Text)
deriving DecidableEq

inductive PrintFault where
  | noBrowser
  | notStarted (browser : Text) (fault : SystemFault)
  | exited (status : Int) (errors : Text)
  | nothingWritten (output : Path)
deriving DecidableEq

inductive Fault where
  | importTooDeep (file : Text) (depth maximum : Int)
  | unread (path : Path) (reason : Unread)
  | unnamedFile (path : Path)
  | noDirectory (path : Path)
  | pathNotUnicode (path : Text)
  | diagram (fault : DiagramFault)
  | project (fault : ProjectFault)
  | template (path : Path)
  | print (fault : PrintFault)
  | system (fault : SystemFault)
  /-- The working directory is gone, or what was written to an open file did not get there. -/
  | pathless (errno : Errno)
  | sameFile (source target : Text)
  /-- A path with a NUL, or a number with too many digits. -/
  | badValue
  | wrongType
  | noMember
  | tooLarge
  | notEncodable
  | notDecodable
  | loopOfLinks
  | noHome
  /-- A label that closes a style it has not opened. -/
  | unbalancedLabel
deriving DecidableEq

def Unread.message : Unread → Text
  | system fault => fault.message
  | malformed fault => fault.message
  | blankImport => text "@import without a path"
  | unnamed path => path.shown ++ text " has an empty name"

def DiagramFault.message : DiagramFault → Text
  | noTool =>
    text "Mermaid CLI (mmdc) not found. Install with: npm install -g @mermaid-js/mermaid-cli, or " ++
      text "set MMDC_PATH / \x60thener config set-renderer --mmdc PATH\x60."
  | notStarted fault => text "Could not run mmdc: " ++ fault.message
  | late seconds => text "mmdc did not finish within " ++ seconds ++ text " seconds"
  | exited status errors =>
    text "mmdc rendering failed (exit " ++ .ofInt status ++ text "):\n" ++ errors.trim
  | noPicture reason => text "mmdc produced no readable SVG output: " ++ reason.message
  | reported message _ => message

def commaSeparated (keys : List Text) : Text := Text.join (text ", ") keys

def ProjectFault.message : ProjectFault → Text
  | unread file => text "Could not read project file " ++ file.toText
  | invalid file fault content =>
    text "Invalid project file " ++ file.toText ++ text ": " ++ fault.message content
  | notObject file => text "Project file " ++ file.toText ++ text " must contain a JSON object"
  | missing file keys =>
    text "Project file " ++ file.toText ++ text " is missing: " ++ commaSeparated keys
  | notText file keys =>
    text "Project file " ++ file.toText ++ text " has non-string paths: " ++ commaSeparated keys
  | noAssets directory => text "Assets directory not found: " ++ directory.toText
  | unknownFormat format =>
    text "Unsupported output format: " ++ format ++ text " (use pdf or html)"

def PrintFault.message : PrintFault → Text
  | noBrowser =>
    text "No headless browser found. Install Chromium or set THENER_BROWSER / " ++
      text "\x60thener config set-browser PATH\x60."
  | notStarted browser fault => text "Could not run " ++ browser ++ text ": " ++ fault.message
  | exited status errors =>
    text "PDF export failed (exit " ++ .ofInt status ++ text "):\n" ++ errors.trim
  | nothingWritten output => text "Browser finished but wrote no PDF to " ++ output.toText

/-- The message of a fault that a user is told about; the last ones have none. -/
def Fault.message? : Fault → Option Text
  | importTooDeep file depth maximum =>
    text "Import depth exceeded while importing " ++ file ++ text " (depth " ++ .ofInt depth ++
      text ", maximum " ++ .ofInt maximum ++ text ")"
  | unread path reason => text "Could not read file " ++ path.toText ++ text ": " ++ reason.message
  | unnamedFile path => text "Could not determine the file name of " ++ path.toText
  | noDirectory path => text "Could not read the directory " ++ path.toText
  | pathNotUnicode path => text "Path is not valid UTF-8: " ++ path.quoted
  | diagram fault => fault.message
  | project fault => fault.message
  | template path => text "Could not load template " ++ path.toText
  | print fault => fault.message
  | system fault => fault.message
  | pathless errno => errno.report
  | sameFile source target => source ++ text " and " ++ target ++ text " are the same file"
  | badValue | wrongType | noMember | tooLarge | notEncodable | notDecodable | loopOfLinks | noHome
  | unbalancedLabel => none

theorem bind_eq_ok_iff {ε α β : Type} {first : Except ε α} {second : α → Except ε β} {b : β} :
    first >>= second = .ok b ↔ ∃ a, first = .ok a ∧ second a = .ok b := by
  cases first with
  | error e => simp [bind, Except.bind]
  | ok a => simp [bind, Except.bind]

theorem bind_eq_error_iff {ε α β : Type} {first : Except ε α} {second : α → Except ε β} {e : ε} :
    first >>= second = .error e ↔
      first = .error e ∨ ∃ a, first = .ok a ∧ second a = .error e := by
  cases first with
  | error e => simp [bind, Except.bind]
  | ok a => simp [bind, Except.bind]

theorem exists_of_mapM_eq_ok {ε α β : Type} {f : α → Except ε β} {l : List α} {bs : List β} {a : α}
    (h : l.mapM f = .ok bs) (ha : a ∈ l) : ∃ b, f a = .ok b := by
  induction l generalizing bs with
  | nil => cases ha
  | cons x l ih =>
    rw [List.mapM_cons, bind_eq_ok_iff] at h
    obtain ⟨b, hx, h⟩ := h
    obtain ⟨bs, hbs, -⟩ := bind_eq_ok_iff.1 h
    rcases List.mem_cons.1 ha with rfl | ha
    · exact ⟨b, hx⟩
    · exact ih hbs ha

theorem mapM_eq_error_iff {ε α β : Type} {f : α → Except ε β} {l : List α} {e : ε} :
    l.mapM f = .error e ↔ ∃ before a after bs,
      l = before ++ a :: after ∧ before.mapM f = .ok bs ∧ f a = .error e := by
  induction l with
  | nil =>
    refine iff_of_false (fun h => by cases h) ?_
    rintro ⟨before, a, after, -, h, -⟩
    exact absurd h.symm (by simp)
  | cons x l ih =>
    rw [List.mapM_cons, bind_eq_error_iff]
    simp only [bind_eq_error_iff, ih]
    constructor
    · rintro (hx | ⟨b, hx, ⟨before, a, after, bs, rfl, hbs, ha⟩ | ⟨_, _, h⟩⟩)
      · exact ⟨[], x, l, [], rfl, rfl, hx⟩
      · refine ⟨x :: before, a, after, b :: bs, rfl, ?_, ha⟩
        rw [List.mapM_cons, hx, hbs]
        rfl
      · cases h
    · rintro ⟨before, a, after, bs, hl, hbs, ha⟩
      cases before with
      | nil =>
        obtain ⟨rfl, rfl⟩ := List.cons.inj hl
        exact .inl ha
      | cons y before =>
        obtain ⟨rfl, rfl⟩ := List.cons.inj hl
        rw [List.mapM_cons, bind_eq_ok_iff] at hbs
        obtain ⟨b, hb, hbs⟩ := hbs
        obtain ⟨bs, hbs, -⟩ := bind_eq_ok_iff.1 hbs
        exact .inr ⟨b, hb, .inl ⟨before, a, after, bs, rfl, hbs, ha⟩⟩

end DocPress
