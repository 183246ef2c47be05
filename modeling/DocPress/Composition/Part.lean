import DocPress.Text.Basic

namespace DocPress.Composition

def startOpening : Text := text "<!-- Importado del archivo "

def endOpening : Text := text "<!-- fin del archivo "

def markerClosing : Text := text " -->"

def startMarker (name : Text) : Text := startOpening ++ name ++ markerClosing

def endMarker (name : Text) : Text := endOpening ++ name ++ markerClosing

def block (name : Text) (body : List Text) : Text :=
  Text.join (text "\n") (startMarker name :: (body ++ [endMarker name]))

/-- A line, or an import tree: a file with its lines and the trees of the files it imports. -/
inductive Part where
  | line (expanded : Text)
  | file (name : Text) (parts : List Part)

namespace Part

mutual

def written : Part → Text
  | line expanded => expanded
  | file name parts => block name (writtenEach parts)

def writtenEach : List Part → List Text
  | [] => []
  | p :: rest => p.written :: writtenEach rest

end

mutual

/-- How many files at most are within one another. -/
def height : Part → Nat
  | line _ => 0
  | file _ parts => greatestHeight parts + 1

def greatestHeight : List Part → Nat
  | [] => 0
  | p :: rest => Nat.max p.height (greatestHeight rest)

end

theorem writtenEach_eq_map (parts : List Part) : writtenEach parts = parts.map written := by
  induction parts with
  | nil => rfl
  | cons p rest ih => simp [writtenEach, ih]

theorem height_le_greatestHeight {p : Part} {parts : List Part} (h : p ∈ parts) :
    p.height ≤ greatestHeight parts := by
  induction parts with
  | nil => simp at h
  | cons q rest ih =>
    rcases List.mem_cons.1 h with rfl | h
    · exact Nat.le_max_left _ _
    · exact Nat.le_trans (ih h) (Nat.le_max_right _ _)

end Part

end DocPress.Composition
