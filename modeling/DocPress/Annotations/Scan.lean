import DocPress.Annotations

namespace DocPress.Annotations

/-- The longest name at the start of a text: it ends at a blank or a terminator. -/
def nameOf : Text → Text
  | [] => []
  | c :: r =>
    if c.isBlank ∨ nameTerminators.any (·.isPrefixOf (c :: r)) then [] else c :: nameOf r

def afterName (t : Text) : Text := t.drop (nameOf t).length

theorem nameOf_isPrefix (t : Text) : nameOf t <+: t := by
  induction t with
  | nil => exact List.nil_prefix
  | cons c r ih =>
    unfold nameOf
    split
    · exact List.nil_prefix
    · exact List.cons_prefix_cons.2 ⟨rfl, ih⟩

theorem nameOf_append_afterName (t : Text) : nameOf t ++ afterName t = t := by
  obtain ⟨rest, h⟩ := nameOf_isPrefix t
  have hd : afterName t = rest := by
    calc afterName t = (nameOf t ++ rest).drop (nameOf t).length := by rw [afterName, h]
      _ = rest := List.drop_left
  rw [hd, h]

theorem length_afterName_le (t : Text) : (afterName t).length ≤ t.length := by
  simp [afterName]

theorem length_afterName_lt {t : Text} (h : nameOf t ≠ []) : (afterName t).length < t.length := by
  have hpos := List.length_pos_iff.2 h
  have hlen := congrArg List.length (nameOf_append_afterName t)
  rw [List.length_append] at hlen
  omega

theorem length_after_le {marker t before after : Text}
    (h : Text.breakOn marker t = some (before, after)) : after.length ≤ t.length := by
  rw [Text.breakOn_eq_some h, List.length_append]
  omega

/-- A line with `replacement` of the name put for each of its tags, up to a marker without a name.
-/
def substituted (marker : Text) (replacement : Text → Text) (line : Text) : Text :=
  match _ : Text.breakOn marker line with
  | none => line
  | some (before, after) =>
    if _ : nameOf after = [] then line
    else before ++ replacement (nameOf after) ++ substituted marker replacement (afterName after)
termination_by line.length
decreasing_by
  exact Nat.lt_of_lt_of_le (length_afterName_lt ‹_›) (length_after_le ‹_›)

/-- What follows a marker at the start of a text, where markers of its kind still count. -/
def marked? (counts : Bool) (marker t : Text) : Option Text :=
  if counts then Text.after? marker t else none

theorem idMarker_ne_nil : idMarker ≠ [] := by decide

theorem classMarker_ne_nil : classMarker ≠ [] := by decide

theorem length_of_marked? {counts : Bool} {marker t rest : Text} (hm : marker ≠ [])
    (h : marked? counts marker t = some rest) : rest.length < t.length := by
  have hpos := List.length_pos_iff.2 hm
  cases counts with
  | false => simp [marked?] at h
  | true =>
    have ht : t = marker ++ rest := Text.after?_eq_some.1 (by simpa [marked?] using h)
    rw [ht, List.length_append]
    omega

inductive Piece where
  | point (c : CodePoint)
  | bare (marker : Text)
  | id (name : Text)
  | «class» (name : Text)
deriving DecidableEq

namespace Piece

def source : Piece → Text
  | point c => [c]
  | bare marker => marker
  | id name => idMarker ++ name
  | «class» name => classMarker ++ name

def written : Piece → Text
  | point c => [c]
  | bare marker => marker
  | id name => idSpan name
  | «class» name => classSpan name

def name? : Piece → Option Text
  | id name | «class» name => some name
  | _ => none

end Piece

/-- The pieces of a line, read once from left to right up to the comment. A marker without a name ends
the tags of its kind: `ids` and `classes` tell whether the kind still counts. -/
def piecesOf (ids classes : Bool) (line : Text) : List Piece :=
  match line with
  | [] => []
  | c :: r =>
    if (Text.after? commentMarker (c :: r)).isSome then []
    else
      match _ : marked? ids idMarker (c :: r), _ : marked? classes classMarker (c :: r) with
      | some rest, _ =>
        if nameOf rest = [] then .bare idMarker :: piecesOf false classes rest
        else .id (nameOf rest) :: piecesOf ids classes (afterName rest)
      | none, some rest =>
        if nameOf rest = [] then .bare classMarker :: piecesOf ids false rest
        else .class (nameOf rest) :: piecesOf ids classes (afterName rest)
      | none, none => .point c :: piecesOf ids classes r
termination_by line.length
decreasing_by
  · exact length_of_marked? idMarker_ne_nil ‹_›
  · exact Nat.lt_of_le_of_lt (length_afterName_le _) (length_of_marked? idMarker_ne_nil ‹_›)
  · exact length_of_marked? classMarker_ne_nil ‹_›
  · exact Nat.lt_of_le_of_lt (length_afterName_le _) (length_of_marked? classMarker_ne_nil ‹_›)
  · exact Nat.lt_succ_self _

/-- What a line turns into. -/
abbrev scan (ids classes : Bool) (line : Text) : Text := (piecesOf ids classes line).flatMap Piece.written

end DocPress.Annotations
