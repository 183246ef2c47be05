import DocPress.Proofs.Text.Substitution
import DocPress.Template

namespace DocPress.Template

theorem placeholder_ne_nil (name : Text) : placeholder name ≠ [] := List.cons_ne_nil _ _

section

variable {name content value : Text}

theorem fill_eq_join (name content value : Text) :
    fill name content value = Text.join value (Text.pieces (placeholder name) content) :=
  (Text.isCut_pieces (placeholder_ne_nil name) content).substitute_eq (placeholder_ne_nil name) value

theorem infix_fill (hc : placeholder name <:+: content) (hv : placeholder name <:+: value) :
    placeholder name <:+: fill name content value := by
  have hcut := Text.isCut_pieces (placeholder_ne_nil name) content
  rw [fill_eq_join]
  exact hv.trans (Text.infix_join (hcut.infix_iff.1 hc))

/-- No place of the placeholder is left, and none has come about between the pieces and the value. -/
theorem infix_of_infix_fill (hne : value ≠ []) (hhead : ∀ c ∈ value.head?, c ∉ placeholder name)
    (hlast : ∀ c ∈ value.getLast?, c ∉ placeholder name)
    (h : placeholder name <:+: fill name content value) :
    placeholder name <:+: content ∧ placeholder name <:+: value := by
  have hm := placeholder_ne_nil name
  have hpieces := (Text.isCut_pieces hm content).absent hm
  constructor
  · refine Decidable.byContradiction fun hc => hc ?_
    rwa [fill, Text.substitute_of_absent value hc] at h
  · refine Decidable.byContradiction fun hv => ?_
    rw [fill_eq_join] at h
    exact Text.not_infix_join hm hne hhead hlast hv hpieces h

end

/-- The pieces of the content between the leftmost placeholders that do not overlap are joined by the
value; content without a placeholder stays as it is. With a value whose first and last code points do
not occur in the placeholder, there is a placeholder in the outcome only where there is one in the
content and one in the value. -/
theorem fill_verbatim (name content value : Text) :
    (∃ pieces, Text.IsCut (placeholder name) content pieces ∧
      fill name content value = Text.join value pieces) ∧
    (¬placeholder name <:+: content → fill name content value = content) ∧
    (value ≠ [] → (∀ c ∈ value.head?, c ∉ placeholder name) →
      (∀ c ∈ value.getLast?, c ∉ placeholder name) →
      (placeholder name <:+: fill name content value ↔
        placeholder name <:+: content ∧ placeholder name <:+: value)) := by
  refine ⟨⟨_, Text.isCut_pieces (placeholder_ne_nil name) content, fill_eq_join name content value⟩,
    Text.substitute_of_absent value, fun hne hhead hlast => ?_⟩
  exact ⟨infix_of_infix_fill hne hhead hlast, fun ⟨hc, hv⟩ => infix_fill hc hv⟩

/-- A placeholder within what is another one but for it, and one that shares its sharp sign. -/
def crowdedPage : Text := text "#\x7bcontenido#\x7bcontenido\x7d#\x7bcontenido\x7d#"

def heading : Text := text "<h1>#\x7bcontenido</h1>\n"

theorem fill_verbatim_crowded :
    heading ≠ [] ∧ (∀ c ∈ heading.head?, c ∉ placeholder contentName) ∧
      (∀ c ∈ heading.getLast?, c ∉ placeholder contentName) ∧
      fill contentName crowdedPage heading =
        text "#\x7bcontenido<h1>#\x7bcontenido</h1>\n\x7bcontenido\x7d#" ∧
      ¬placeholder contentName <:+: fill contentName crowdedPage heading := by
  have hne : heading ≠ [] := by decide
  have hhead : ∀ c ∈ heading.head?, c ∉ placeholder contentName := by decide
  have hlast : ∀ c ∈ heading.getLast?, c ∉ placeholder contentName := by decide
  have hvalue : ¬placeholder contentName <:+: heading := by decide +kernel
  have hplaces := (fill_verbatim contentName crowdedPage heading).2.2 hne hhead hlast
  exact ⟨hne, hhead, hlast, by decide +kernel, fun h => hvalue (hplaces.1 h).2⟩

end DocPress.Template
