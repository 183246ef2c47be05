import DocPress.Markdown.Html
import DocPress.Proofs.Text.Search
import Mathlib.Data.List.TakeWhile

namespace DocPress.Markdown

def isEscape (c : CodePoint) : Bool := c = '\\' || c = '&'

theorem unescapeFuel_cons {c : CodePoint} (hc : isEscape c = false) (fuel : Nat) (t : Text) :
    unescapeFuel (fuel + 1) (c :: t) = c :: unescapeFuel fuel t := by
  obtain ⟨hb, ha⟩ := Bool.or_eq_false_iff.1 hc
  rw [unescapeFuel.eq_def]
  exact (if_neg (of_decide_eq_false hb)).trans (if_neg (of_decide_eq_false ha))

theorem unescape_append {w : Text} (hw : ∀ c ∈ w, isEscape c = false) (rest : Text) :
    unescape (w ++ rest) = w ++ unescape rest := by
  induction w with
  | nil => rfl
  | cons c w ih =>
    obtain ⟨hc, hw⟩ := List.forall_mem_cons.1 hw
    rw [List.cons_append, unescape, List.length_cons, unescapeFuel_cons hc]
    exact congrArg (c :: ·) (ih hw)

theorem isEscape_of_isBlank {c : CodePoint} (h : c.isBlank = true) : isEscape c = false := by
  apply Bool.eq_false_iff.2
  intro he
  rcases Bool.or_eq_true_iff.1 he with he | he
  · rw [of_decide_eq_true he] at h
    exact absurd h (by decide)
  · rw [of_decide_eq_true he] at h
    exact absurd h (by decide)

/-- A blank begins no escape, so where one stands first there is still no word. -/
theorem takeWhile_unescape {t : Text} (h : ∀ c ∈ t.head?, c.isBlank = true) :
    (unescape t).takeWhile (!·.isBlank) = [] := by
  cases t with
  | nil => rfl
  | cons c t =>
    have hblank : c.isBlank = true := h c rfl
    rw [unescape, List.length_cons, unescapeFuel_cons (isEscape_of_isBlank hblank)]
    exact List.takeWhile_cons_of_neg (by simp [hblank])

namespace Token

/-- The info string does not begin with its first word as it is read: there are blanks before the
word or an escape in it. -/
def hidesLanguage (t : Token) : Bool :=
  t.info.head?.any (·.isBlank) || (t.info.takeWhile (!·.isBlank)).any isEscape

theorem language_eq_takeWhile {t : Token} (h : t.hidesLanguage = false) :
    t.language = t.info.takeWhile (!·.isBlank) := by
  obtain ⟨hhead, hescape⟩ := Bool.or_eq_false_iff.1 h
  have hword : ∀ d ∈ t.info.takeWhile (!·.isBlank), d.isBlank = false := by
    intro d hd
    simpa using List.mem_takeWhile_imp hd
  have hplain : ∀ d ∈ t.info.takeWhile (!·.isBlank), isEscape d = false := by
    simpa using hescape
  have hrest : ∀ d ∈ (t.info.dropWhile (!·.isBlank)).head?, d.isBlank = true := by
    intro d hd
    have hnot := List.head?_dropWhile_not (!·.isBlank) t.info
    rw [Option.mem_def.1 hd] at hnot
    simpa using hnot
  by_cases hne : t.info.takeWhile (!·.isBlank) = []
  · -- The first word is empty only if there is no info string.
    have hnil : t.info = [] := by
      cases hinfo : t.info with
      | nil => rfl
      | cons c info => simp_all
    rw [language, hnil]
    rfl
  · have hsplit : t.info = t.info.takeWhile (!·.isBlank) ++ t.info.dropWhile (!·.isBlank) :=
      List.takeWhile_append_dropWhile.symm
    rw [language, hsplit, unescape_append hplain, Text.firstWord?_append hne hword,
      takeWhile_unescape hrest, List.append_nil, ← hsplit]
    rfl

end Token

end DocPress.Markdown
