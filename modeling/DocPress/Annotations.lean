import DocPress.Text.Blank

namespace DocPress.Annotations

def idMarker : Text := text "@#"

def classMarker : Text := text "@."

def commentMarker : Text := text "@//"

/-- A name also ends where one of these begins. -/
def nameTerminators : List Text :=
  [idMarker, classMarker, commentMarker, text "\x27", text "<", text ">"]

def idSpan (name : Text) : Text := text "<span id='" ++ name ++ text "'></span>"

def classSpan (name : Text) : Text := text "<span class='" ++ name ++ text "'></span>"

def tagName (word : Text) : Text :=
  word.take ((nameTerminators.filterMap (Text.find? · word)).foldl min word.length)

/-- Replaces the tags of `line` from position `start` on, at most `fuel` of them. A tag is `marker`
and a name, and `replacement` of the name takes its place; the search goes on after what was put in.
A marker without a name ends the scan. There is no result where a marker is found with only blanks
from there on, which takes a marker that is empty or blank itself. -/
def replaceTagsFrom (marker : Text) (replacement : Text → Text) : Nat → Text → Nat → Option Text
  | 0, line, _ => some line
  | fuel + 1, line, start =>
    match Text.findFrom? marker line start with
    | none => some line
    | some at_ =>
      match Text.firstWord? (line.drop at_) with
      | none => none
      | some word =>
        let name := tagName (word.drop marker.length)
        if name = [] then some line
        else
          let put := replacement name
          replaceTagsFrom marker replacement fuel
            (line.take at_ ++ put ++ line.drop (at_ + marker.length + name.length))
            (at_ + put.length)

def replaceTags? (marker : Text) (replacement : Text → Text) (line : Text) : Option Text :=
  replaceTagsFrom marker replacement (line.length + 2) line 0

/-- For a marker that is neither empty nor blank, where `replaceTags?` always answers. -/
def replaceTags (marker : Text) (replacement : Text → Text) (line : Text) : Text :=
  (replaceTags? marker replacement line).getD line

def stripComment (line : Text) : Text :=
  match Text.breakOn commentMarker line with
  | some (before, _) => before
  | none => line

/-- Ids first, then classes, comments last. -/
def expand (line : Text) : Text :=
  stripComment (replaceTags classMarker classSpan (replaceTags idMarker idSpan line))

end DocPress.Annotations
