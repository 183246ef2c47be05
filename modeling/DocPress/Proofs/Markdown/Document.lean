import DocPress.Proofs.Markdown.BlockStream
import DocPress.Proofs.Markdown.InlineStream

namespace DocPress.Markdown

open Token

/-- Reading the text of a block gives the block its children and changes nothing else. -/
theorem readInline_eq (definitions : Definitions) (t : Token) :
    readInline definitions t = { t with children := (readInline definitions t).children } := by
  cases t
  rw [readInline]
  split <;> rfl

theorem isBlock_of_mem_within_readInline (definitions : Definitions) {t : Token} (h : t.IsUnread) :
    ∀ u ∈ (readInline definitions t).within, u.element.isBlock = false := by
  rw [within_eq, ← forall_isInline_iff, readInline]
  split
  · exact Inline.isInline_tokens definitions t.content
  · rw [h.children]
    exact List.forall_mem_nil _

theorem exists_isUnread_of_mem_tokens {markdown : Text} {t : Token} (h : t ∈ tokens markdown) :
    ∃ u definitions, u.IsUnread ∧ t = readInline definitions u := by
  obtain ⟨u, hu, ht⟩ := List.mem_map.1 h
  have hunread := (isBlockStream_readBlocks (normalize markdown)).unread u hu
  exact ⟨u, _, hunread, ht.symm⟩

theorem isBlock_of_mem_within {markdown : Text} {t u : Token} (h : t ∈ tokens markdown)
    (hu : u ∈ t.within) : u.element.isBlock = false := by
  obtain ⟨v, definitions, hv, rfl⟩ := exists_isUnread_of_mem_tokens h
  exact isBlock_of_mem_within_readInline definitions hv u hu

theorem info_eq_nil {markdown : Text} {t : Token} (h : t ∈ tokens markdown)
    (hf : t.element ≠ .fence) : t.info = [] := by
  obtain ⟨u, definitions, hu, rfl⟩ := exists_isUnread_of_mem_tokens h
  rw [readInline_eq] at hf ⊢
  exact hu.info hf

theorem element_eq_of_hidden {markdown : Text} {t : Token} (h : t ∈ tokens markdown)
    (hh : t.hidden = true) : t.element = .paragraph := by
  obtain ⟨u, definitions, hu, rfl⟩ := exists_isUnread_of_mem_tokens h
  rw [readInline_eq] at hh ⊢
  exact hu.hidden hh

theorem isStream_tokens (markdown : Text) : IsStream (tokens markdown) where
  nested := by
    apply (isBlockStream_readBlocks (normalize markdown)).nested.map
    · intro t
      rw [readInline_eq]
    · intro t
      rw [readInline_eq]
  noFenceWithin := by
    intro t ht u hu he
    have hb := isBlock_of_mem_within ht hu
    rw [he] at hb
    cases hb
  noCodeInfo := by
    intro u hu he
    obtain ⟨t, ht, rfl | hu⟩ := mem_allTokens.1 hu
    · apply info_eq_nil ht
      rw [he]
      decide
    · have hb := isBlock_of_mem_within ht hu
      rw [he] at hb
      cases hb

end DocPress.Markdown
