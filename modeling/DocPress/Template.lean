import DocPress.Site

namespace DocPress.Template

def contentName : Text := text "contenido"

def placeholder (name : Text) : Text := text "#\x7b" ++ name ++ text "\x7d#"

/-- Puts `value` for every placeholder of that name. -/
def fill (name content value : Text) : Text := Text.substitute (placeholder name) value content

def page (s : Site) (file : Path) (document : Text) : Except Fault Text :=
  match s.readText file with
  | .ok content => .ok (fill contentName content document)
  | .error (.unread _ _) => .error (.template file)
  | .error fault => .error fault

end DocPress.Template
