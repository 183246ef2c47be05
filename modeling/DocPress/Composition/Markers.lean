import DocPress.Composition.Part

namespace DocPress.Composition

def between? (opening closing line : Text) : Option Text :=
  (Text.after? opening line).bind fun rest =>
    if closing.isSuffixOf rest then some (rest.take (rest.length - closing.length)) else none

def startName? (line : Text) : Option Text := between? startOpening markerClosing line

def endName? (line : Text) : Option Text := between? endOpening markerClosing line

theorem between?_eq_some {opening closing line name : Text} :
    between? opening closing line = some name ↔ line = opening ++ name ++ closing := by
  constructor
  · intro h
    obtain ⟨rest, hr, h⟩ := Option.bind_eq_some_iff.1 h
    split at h
    · rename_i hc
      obtain ⟨before, rfl⟩ := List.isSuffixOf_iff_suffix.1 hc
      have hn : before = name := by simpa using h
      rw [Text.after?_eq_some.1 hr, hn, List.append_assoc]
    · simp at h
  · rintro rfl
    have ha : Text.after? opening (opening ++ name ++ closing) = some (name ++ closing) :=
      Text.after?_eq_some.2 (List.append_assoc ..)
    rw [between?, ha]
    simp

theorem startName?_startMarker (name : Text) : startName? (startMarker name) = some name :=
  between?_eq_some.2 rfl

theorem endName?_endMarker (name : Text) : endName? (endMarker name) = some name :=
  between?_eq_some.2 rfl

structure OpenFile where
  name : Text
  parts : List Part

inductive Progress where
  /-- These files are open, the innermost first. -/
  | within (files : List OpenFile)
  | finished (tree : Part)

namespace Progress

/-- Adds a part to the innermost open file; a tree outside of all files is the whole document. -/
def add (p : Part) : List OpenFile → Progress
  | [] => finished p
  | f :: rest => within ({ f with parts := p :: f.parts } :: rest)

/-- Reads one line. An end marker must name the innermost open file. -/
def next? (progress : Progress) (line : Text) : Option Progress :=
  match progress with
  | finished _ => none
  | within files =>
    match startName? line, endName? line, files with
    | some name, _, _ => some (within (⟨name, []⟩ :: files))
    | none, some name, f :: rest =>
      if f.name = name then some (add (.file name f.parts.reverse) rest) else none
    | none, none, _ :: _ => some (add (.line line) files)
    | none, _, [] => none

end Progress

def treeOf? (document : Text) : Option Part :=
  match (Text.splitAt '\n' document).foldlM Progress.next? (.within []) with
  | some (.finished tree) => some tree
  | _ => none

end DocPress.Composition
