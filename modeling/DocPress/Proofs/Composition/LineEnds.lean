import DocPress.Proofs.Composition.Recomposition
import DocPress.Proofs.FileSystem.Reading
import DocPress.Proofs.Text.Storable
import DocPress.Proofs.Text.Substitution
import DocPress.Proofs.Text.Utf8

namespace DocPress

namespace Text

/-- A text with newlines has a first line; it is enough to go on from what follows that one. -/
@[elab_as_elim]
theorem line_induction {motive : Text → Prop} (last : ∀ t, ('\n' : CodePoint) ∉ t → motive t)
    (line : ∀ l rest, ('\n' : CodePoint) ∉ l → motive rest →
      motive (l ++ ('\n' : CodePoint) :: rest)) (t : Text) :
    motive t := by
  by_cases ht : ('\n' : CodePoint) ∈ t
  · obtain ⟨l, rest, he, hl⟩ := List.eq_append_cons_of_mem ht
    have hshort : rest.length < t.length := by
      rw [he, List.length_append, List.length_cons]
      omega
    exact he ▸ line l rest hl (line_induction last line rest)
  · exact last t ht
termination_by t.length

/-- A carriage return stands right before a newline only. -/
def ReturnsEndLines (t : Text) : Prop :=
  ∀ i < t.length, t[i]? = some ('\r' : CodePoint) → t[i + 1]? = some ('\n' : CodePoint)

instance (t : Text) : Decidable t.ReturnsEndLines :=
  inferInstanceAs (Decidable (∀ i < t.length, _))

/-- A newline in the place of each carriage return with a newline after it. -/
def withoutReturns (t : Text) : Text := substitute (text "\r\n") (text "\n") t

def withLastNewline (t : Text) : Text :=
  if t = [] ∨ t.getLast? = some ('\n' : CodePoint) then t else t ++ [('\n' : CodePoint)]

namespace ReturnsEndLines

variable {a b t : Text}

theorem of_append (h : (a ++ b).ReturnsEndLines) : b.ReturnsEndLines := by
  intro i hi hreturn
  have hnext := h (a.length + i) (by rw [List.length_append]; omega)
    (by rw [List.getElem?_append_right (Nat.le_add_right ..), Nat.add_sub_cancel_left, hreturn])
  rwa [Nat.add_assoc, List.getElem?_append_right (Nat.le_add_right ..),
    Nat.add_sub_cancel_left] at hnext

theorem of_line (h : (a ++ ('\n' : CodePoint) :: b).ReturnsEndLines) : b.ReturnsEndLines :=
  h.of_append.of_append (a := [('\n' : CodePoint)])

theorem head?_eq (h : (a ++ ('\r' : CodePoint) :: b).ReturnsEndLines) :
    b.head? = some ('\n' : CodePoint) := by
  have hnext := h a.length (by simp) (by simp)
  rwa [List.getElem?_append_right (Nat.le_add_right ..), Nat.add_sub_cancel_left,
    List.getElem?_cons_succ, ← List.head?_eq_getElem?] at hnext

theorem of_noReturn (h : t.NoReturn) : t.ReturnsEndLines :=
  fun _ _ hreturn => absurd (List.mem_of_getElem? hreturn) h

theorem noReturn (h : t.ReturnsEndLines) (hn : ('\n' : CodePoint) ∉ t) : t.NoReturn := by
  intro hm
  obtain ⟨a, b, rfl⟩ := List.append_of_mem hm
  exact hn (List.mem_append_right a (List.mem_cons_of_mem _ (List.mem_of_head? h.head?_eq)))

theorem exists_line_eq (h : (a ++ ('\n' : CodePoint) :: b).ReturnsEndLines)
    (hn : ('\n' : CodePoint) ∉ a) :
    a.NoReturn ∨ ∃ l, NoReturn l ∧ a = l ++ [('\r' : CodePoint)] := by
  by_cases hm : ('\r' : CodePoint) ∈ a
  · obtain ⟨l, rest, rfl, hl⟩ := List.eq_append_cons_of_mem hm
    rw [List.append_assoc, List.cons_append] at h
    cases rest with
    | nil => exact .inr ⟨l, hl, rfl⟩
    | cons c rest =>
      have hc : c = ('\n' : CodePoint) := Option.some.inj h.head?_eq
      exact absurd (by simp [hc]) hn
  · exact .inl hm

end ReturnsEndLines

theorem withoutReturns_append {a : Text} (h : a.NoReturn) (rest : Text) :
    withoutReturns (a ++ rest) = a ++ withoutReturns rest :=
  (avoids_of_notMem h).substitute (text "\n")

theorem withoutReturns_of_noReturn {t : Text} (h : t.NoReturn) : withoutReturns t = t := by
  have ht := withoutReturns_append h []
  rw [List.append_nil] at ht
  rw [ht]
  exact List.append_nil t

theorem withoutReturns_return (rest : Text) :
    withoutReturns (('\r' : CodePoint) :: ('\n' : CodePoint) :: rest) =
      ('\n' : CodePoint) :: withoutReturns rest :=
  substitute_append (by decide) (text "\n") rest

theorem withoutReturns_newline (rest : Text) :
    withoutReturns (('\n' : CodePoint) :: rest) = ('\n' : CodePoint) :: withoutReturns rest := rfl

theorem noReturn_newline : NoReturn [('\n' : CodePoint)] := by
  unfold NoReturn
  decide

/-- Where carriage returns stand before newlines only, there is one way to make all line ends the
same. -/
theorem withoutReturns_eq_unifyNewlines {t : Text} (h : t.ReturnsEndLines) :
    withoutReturns t = unifyNewlines t := by
  induction t using line_induction with
  | last t hn =>
    rw [withoutReturns_of_noReturn (h.noReturn hn), unifyNewlines_of_noReturn (h.noReturn hn)]
  | line l rest hn ih =>
    have hrest := ih h.of_line
    rcases h.exists_line_eq hn with hl | ⟨l, hl, rfl⟩
    · have hnewline := unifyNewlines_append noReturn_newline rest
      rw [withoutReturns_append hl, withoutReturns_newline, unifyNewlines_append hl, hrest]
      exact congrArg (l ++ ·) hnewline.symm
    · have hreturn : unifyNewlines (('\r' : CodePoint) :: ('\n' : CodePoint) :: rest) =
          ('\n' : CodePoint) :: unifyNewlines rest := by
        rw [unifyNewlines.eq_def]
        rfl
      rw [List.append_assoc, List.singleton_append, withoutReturns_append hl,
        withoutReturns_return, unifyNewlines_append hl, hreturn, hrest]

theorem withLastNewline_append (a rest : Text) :
    withLastNewline (a ++ ('\n' : CodePoint) :: rest) =
      a ++ ('\n' : CodePoint) :: withLastNewline rest := by
  have hne : a ++ ('\n' : CodePoint) :: rest ≠ [] :=
    List.append_ne_nil_of_right_ne_nil _ (List.cons_ne_nil _ _)
  have hlast : (a ++ ('\n' : CodePoint) :: rest).getLast? = some ('\n' : CodePoint) ↔
      rest = [] ∨ rest.getLast? = some ('\n' : CodePoint) := by
    cases rest with
    | nil => simp
    | cons c r => simp [List.getLast?_append, List.getLast?_cons_cons]
  unfold withLastNewline
  by_cases hr : rest = [] ∨ rest.getLast? = some ('\n' : CodePoint)
  · rw [if_pos (.inr (hlast.2 hr)), if_pos hr]
  · rw [if_neg (not_or.2 ⟨hne, mt hlast.1 hr⟩), if_neg hr, List.append_assoc, List.cons_append]

end Text

namespace Composition

open Text (NoReturn ReturnsEndLines withoutReturns withLastNewline)

theorem withoutReturn_of_noReturn {line : Text} (h : line.NoReturn) : withoutReturn line = line :=
  if_neg fun hlast => h (List.mem_of_getLast? hlast)

theorem withoutReturn_concat (line : Text) : withoutReturn (line ++ [('\r' : CodePoint)]) = line := by
  rw [withoutReturn, if_pos List.getLast?_concat, List.dropLast_concat]

theorem sourceLines_append {line : Text} (h : ('\n' : CodePoint) ∉ line) (rest : Text) :
    sourceLines (line ++ ('\n' : CodePoint) :: rest) = withoutReturn line :: sourceLines rest := by
  obtain ⟨first, more, hrest⟩ := List.exists_cons_of_ne_nil (Text.splitAt_ne_nil '\n' rest)
  have hsplit : Text.splitAt '\n' (line ++ ('\n' : CodePoint) :: rest) = line :: first :: more := by
    rw [Text.splitAt_append, Text.splitAt_of_notMem h, List.singleton_append, hrest]
  -- The line is not the last piece, so whether that one is empty is up to the rest alone.
  simp only [sourceLines, hsplit, hrest, List.getLast?_cons_cons]
  split <;> rfl

theorem sourceLines_of_notMem {t : Text} (hne : t ≠ []) (h : ('\n' : CodePoint) ∉ t) :
    sourceLines t = [withoutReturn t] := by
  have hlast : [t].getLast? ≠ some [] := fun hlast => hne (Option.some.inj hlast)
  simp only [sourceLines, Text.splitAt_of_notMem h, if_neg hlast, List.map_singleton]

/-- What a line leaves when its carriage return goes with the others. -/
theorem withoutReturns_line {line rest : Text}
    (h : (line ++ ('\n' : CodePoint) :: rest).ReturnsEndLines) (hn : ('\n' : CodePoint) ∉ line) :
    withoutReturns (line ++ ('\n' : CodePoint) :: rest) =
      withoutReturn line ++ ('\n' : CodePoint) :: withoutReturns rest := by
  rcases h.exists_line_eq hn with hl | ⟨line, hl, rfl⟩
  · rw [Text.withoutReturns_append hl, Text.withoutReturns_newline, withoutReturn_of_noReturn hl]
  · rw [List.append_assoc, List.singleton_append, Text.withoutReturns_append hl,
      Text.withoutReturns_return, withoutReturn_concat]

/-- The source lines with a newline after each are the text with all line ends made newlines. -/
theorem flatten_sourceLines {t : Text} (h : t.ReturnsEndLines) :
    (sourceLines t).flatMap (· ++ [('\n' : CodePoint)]) = withLastNewline (withoutReturns t) := by
  induction t using Text.line_induction with
  | last t hn =>
    have hreturn := h.noReturn hn
    rw [Text.withoutReturns_of_noReturn hreturn]
    by_cases hne : t = []
    · rw [hne]
      rfl
    · have hlast : t.getLast? ≠ some ('\n' : CodePoint) :=
        fun hlast => hn (List.mem_of_getLast? hlast)
      rw [sourceLines_of_notMem hne hn, withoutReturn_of_noReturn hreturn, withLastNewline,
        if_neg (not_or.2 ⟨hne, hlast⟩)]
      exact List.flatMap_singleton ..
  | line l rest hn ih =>
    rw [sourceLines_append hn, List.flatMap_cons, ih h.of_line, withoutReturns_line h hn,
      Text.withLastNewline_append, List.append_assoc]
    rfl

theorem noReturn_of_mem_sourceLines {t : Text} (h : t.ReturnsEndLines) :
    ∀ l ∈ sourceLines t, NoReturn l := by
  induction t using Text.line_induction with
  | last t hn =>
    have hreturn := h.noReturn hn
    exact fun l hl hm => hreturn (subset_of_mem_sourceLines hl hm)
  | line l rest hn ih =>
    have hl : NoReturn (withoutReturn l) := by
      rcases h.exists_line_eq hn with hl | ⟨l, hl, rfl⟩
      · rwa [withoutReturn_of_noReturn hl]
      · rwa [withoutReturn_concat]
    rw [sourceLines_append hn]
    exact List.forall_mem_cons.2 ⟨hl, ih h.of_line⟩

/-- Lines can be told from the text that they make up, a newline after each. -/
theorem sourceLines_flatMap {lines : List Text} (hn : ∀ l ∈ lines, ('\n' : CodePoint) ∉ l)
    (hr : ∀ l ∈ lines, NoReturn l) :
    sourceLines (lines.flatMap (· ++ [('\n' : CodePoint)])) = lines := by
  induction lines with
  | nil => rfl
  | cons l rest ih =>
    obtain ⟨hnl, hnrest⟩ := List.forall_mem_cons.1 hn
    obtain ⟨hrl, hrrest⟩ := List.forall_mem_cons.1 hr
    rw [List.flatMap_cons, List.append_assoc, List.singleton_append, sourceLines_append hnl,
      withoutReturn_of_noReturn hrl, ih hnrest hrrest]

/-- Texts have the same source lines if and only if they differ in their line ends only. -/
theorem sourceLines_eq_iff {t t' : Text} (h : t.ReturnsEndLines) (h' : t'.ReturnsEndLines) :
    sourceLines t = sourceLines t' ↔
      withLastNewline (withoutReturns t) = withLastNewline (withoutReturns t') := by
  rw [← flatten_sourceLines h, ← flatten_sourceLines h']
  constructor
  · exact congrArg _
  · intro hflat
    rw [← sourceLines_flatMap (fun _ => newline_notMem_of_mem_sourceLines)
      (noReturn_of_mem_sourceLines h), hflat]
    exact sourceLines_flatMap (fun _ => newline_notMem_of_mem_sourceLines)
      (noReturn_of_mem_sourceLines h')

section

variable {s : Site} {maximum depth : Int} {file : Path} {base : Option Path} {t t' : Text}

theorem composeAt_congr (h : sourceLines t = sourceLines t') :
    composeAt s maximum depth file t base = composeAt s maximum depth file t' base := by
  unfold composeAt
  cases (maximum - depth).toNat with
  | zero => rfl
  | succ remaining => rw [treeFrom_succ, treeFrom_succ, h]

theorem readText_of_encode? {document : Path} {bytes : Bytes}
    (hread : s.readBytes document.toText = .ok bytes) (henc : Text.Utf8.encode? t = some bytes) :
    s.readText document = .ok (Text.unifyNewlines t) :=
  Site.readText_eq_ok_iff_readBytes.2 ⟨bytes, t, hread, Text.Utf8.decode_of_encode? henc, rfl⟩

end

/-- Texts that are the same when each carriage return before a newline is left out and what is not
empty ends with a newline are composed to the same document or fail in the same way, and so does what
is read of a file that holds one of them. -/
theorem composeAt_lineEnds (s : Site) (maximum depth : Int) (file : Path) (base : Option Path)
    {t t' : Text} (ht : t.ReturnsEndLines) (ht' : t'.ReturnsEndLines)
    (h : withLastNewline (withoutReturns t) = withLastNewline (withoutReturns t')) :
    composeAt s maximum depth file t base = composeAt s maximum depth file t' base ∧
      ∀ document bytes, s.readBytes document.toText = .ok bytes →
        Text.Utf8.encode? t = some bytes → ∃ code, s.readText document = .ok code ∧
          composeAt s maximum depth file code base = composeAt s maximum depth file t' base := by
  refine ⟨composeAt_congr ((sourceLines_eq_iff ht ht').2 h), fun document bytes hread henc => ?_⟩
  -- What is read of the file has no carriage returns, so leaving them out changes nothing of it.
  have hunified : (Text.unifyNewlines t).NoReturn := return_notMem_unifyNewlines t
  have hcode : withLastNewline (withoutReturns (Text.unifyNewlines t)) =
      withLastNewline (withoutReturns t') := by
    rw [Text.withoutReturns_of_noReturn hunified, ← Text.withoutReturns_eq_unifyNewlines ht, h]
  exact ⟨_, readText_of_encode? hread henc,
    composeAt_congr ((sourceLines_eq_iff (.of_noReturn hunified) ht').2 hcode)⟩

def returnEnds : Text := text "x@//y\r\n\r\n@import b\r\n"

def mixedEnds : Text := text "x@//y\n\r\n@import b"

def endsSite : Site :=
  ⟨⟨[([text "a.md"], .file (Text.Utf8.encodeLenient returnEnds) false),
    ([text "b.md"], .file (Text.Utf8.encodeLenient (text "z")) false)]⟩, []⟩

theorem composeAt_lineEnds_mixed :
    returnEnds.ReturnsEndLines ∧ mixedEnds.ReturnsEndLines ∧
      withLastNewline (withoutReturns returnEnds) = withLastNewline (withoutReturns mixedEnds) ∧
      endsSite.readBytes (text "/a.md") = .ok (Text.Utf8.encodeLenient returnEnds) ∧
      Text.Utf8.encode? returnEnds = some (Text.Utf8.encodeLenient returnEnds) ∧
      endsSite.readText (.ofText (text "/a.md")) = .ok (text "x@//y\n\n@import b\n") ∧
      ∀ t ∈ [returnEnds, mixedEnds, text "x@//y\n\n@import b\n"],
        composeAt endsSite 2 0 (.ofText (text "/a.md")) t none =
          .ok (Text.join (text "\n") [text "<!-- Importado del archivo a.md -->", text "x", [],
            text "<!-- Importado del archivo b.md -->", text "z",
            text "<!-- fin del archivo b.md -->", text "<!-- fin del archivo a.md -->"]) := by
  have hends : returnEnds.ReturnsEndLines := by decide +kernel
  have hmixed : mixedEnds.ReturnsEndLines := by decide +kernel
  have hsame : withLastNewline (withoutReturns returnEnds) =
      withLastNewline (withoutReturns mixedEnds) := by
    decide +kernel
  have hread : endsSite.readBytes (text "/a.md") = .ok (Text.Utf8.encodeLenient returnEnds) :=
    eq_ok_of_toOption (by decide +kernel)
  have henc : Text.Utf8.encode? returnEnds = some (Text.Utf8.encodeLenient returnEnds) := by
    decide +kernel
  have hloaded : endsSite.readText (.ofText (text "/a.md")) =
      .ok (text "x@//y\n\n@import b\n") := eq_ok_of_toOption (by decide +kernel)
  obtain ⟨hgiven, hfile⟩ :=
    composeAt_lineEnds endsSite 2 0 (.ofText (text "/a.md")) none hends hmixed hsame
  obtain ⟨code, hcode, hcomposed⟩ := hfile (.ofText (text "/a.md")) _ hread henc
  obtain rfl := Except.ok.inj (hcode.symm.trans hloaded)
  refine ⟨hends, hmixed, hsame, hread, henc, hloaded, ?_⟩
  simp only [List.forall_mem_cons, hgiven, hcomposed]
  exact ⟨eq_ok_of_toOption (by decide +kernel), eq_ok_of_toOption (by decide +kernel),
    eq_ok_of_toOption (by decide +kernel), nofun⟩

end Composition

end DocPress
