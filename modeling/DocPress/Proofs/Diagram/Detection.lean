import DocPress.Proofs.Diagram.Html
import DocPress.Proofs.Markdown.Language

namespace DocPress

open Markdown Token Node

/-- The HTML of the token is a listing with the label of diagrams. -/
def Markdown.Token.isListing (t : Token) : Bool :=
  t.element = .fence &&
    languageClass t.language = [(DocPress.text "class", DocPress.text "language-mermaid")]

namespace Diagram

theorem element_of_isListing {t : Token} (h : t.isListing = true) : t.element = .fence :=
  of_decide_eq_true (Bool.and_eq_true_iff.1 h).1

theorem language_of_isListing {t : Token} (h : t.isListing = true) : t.language = language := by
  have hc := of_decide_eq_true (Bool.and_eq_true_iff.1 h).2
  have hlabel : DocPress.text "language-mermaid" = DocPress.text "language-" ++ language := by decide
  unfold languageClass at hc
  split at hc
  · cases hc
  · rw [hlabel] at hc
    exact List.append_cancel_left (Prod.mk.inj (List.singleton_inj.1 hc)).2

/-- A listing labelled as a diagram is one, unless its info string hides the label. -/
theorem isDiagram_of_isListing {t : Token} (h : t.isListing = true)
    (hplain : t.hidesLanguage = false) : t.isDiagram = true := by
  have hword : t.info.takeWhile (!·.isBlank) = language := by
    rw [← language_eq_takeWhile hplain, language_of_isListing h]
  have hprefix : language <+: t.info := hword ▸ List.takeWhile_prefix _
  exact Bool.and_eq_true_iff.2
    ⟨decide_eq_true (element_of_isListing h), List.isPrefixOf_iff_prefix.2 hprefix⟩

theorem isListing_replaced (t : Token) (picture : Text) : (replaced t picture).isListing = false :=
  rfl

theorem content_mem_sources {ts : List Token} {t : Token} (ht : t ∈ ts) (hd : t.isDiagram = true) :
    t.content ∈ sources ts :=
  List.mem_map_of_mem (List.mem_filter.2 ⟨ht, hd⟩)

section Drawn

variable {ε : Type} {answer : List Text → Except ε Text} {given : List Text} {ts ts' : List Token}

theorem Drawn.mem_of_not (h : Drawn answer given ts ts') {t : Token} (ht : t ∈ ts)
    (hd : t.isDiagram = false) : t ∈ ts' := by
  obtain ⟨i, hi⟩ := List.getElem?_of_mem ht
  exact List.mem_of_getElem? (h.kept hi hd)

theorem Drawn.mem_cases (h : Drawn answer given ts ts') {u : Token} (hu : u ∈ ts') :
    (u ∈ ts ∧ u.isDiagram = false) ∨ ∃ t picture, u = Diagram.replaced t picture := by
  obtain ⟨i, hi⟩ := List.getElem?_of_mem hu
  have hlt : i < ts.length := by
    rw [← h.length_eq]
    exact (List.getElem?_eq_some_iff.1 hi).1
  have ht : ts[i]? = some ts[i] := List.getElem?_eq_getElem hlt
  cases hd : ts[i].isDiagram with
  | false =>
    obtain rfl : u = ts[i] := Option.some.inj (hi.symm.trans (h.kept ht hd))
    exact .inl ⟨List.getElem_mem hlt, hd⟩
  | true =>
    obtain ⟨picture, -, hr⟩ := h.replaced ht hd
    exact .inr ⟨_, picture, Option.some.inj (hi.symm.trans hr)⟩

theorem Drawn.listing_iff (h : Drawn answer given ts ts') (hs : IsStream ts) (u : Token) :
    (u ∈ allTokens ts' ∧ u.isListing = true) ↔
      u ∈ ts ∧ u.isListing = true ∧ u.isDiagram = false := by
  constructor
  · rintro ⟨hu, hl⟩
    obtain ⟨t, ht, hut⟩ := mem_allTokens.1 hu
    rcases h.mem_cases ht with ⟨hts, hd⟩ | ⟨t, picture, rfl⟩
    · rcases hut with rfl | hw
      · exact ⟨hts, hl, hd⟩
      · exact absurd (element_of_isListing hl) (hs.noFenceWithin t hts u hw)
    · rcases hut with rfl | hw
      · rw [isListing_replaced] at hl
        cases hl
      · cases hw
  · rintro ⟨hu, hl, hd⟩
    exact ⟨mem_allTokens.2 ⟨u, h.mem_of_not hu hd, .inl rfl⟩, hl⟩

end Drawn

/-- With a renderer that answers all it is given, the listings of a document that are labelled as
diagrams are drawn if their info string begins with the label, and only those are left where blanks
before the first word or an escape in it hide the label. -/
theorem compile_listings (markdown : Text) {ε : Type} (answer : List Text → Except ε Text)
    (hok : ∀ given, ∃ picture, answer given = .ok picture) :
    ∃ ts', (compile (some (recorded answer)) markdown).run [] =
        (.ok (Markdown.html ts'), sources (tokens markdown)) ∧
      (∀ t ∈ tokens markdown, t.isListing = true → t.hidesLanguage = false →
        t.isDiagram = true ∧ t.content ∈ sources (tokens markdown)) ∧
      ∀ u, (u ∈ allTokens ts' ∧ u.isListing = true) ↔
        u ∈ tokens markdown ∧ u.isListing = true ∧ u.hidesLanguage = true ∧ u.isDiagram = false := by
  have hs : IsStream (tokens markdown) := isStream_tokens markdown
  obtain ⟨ts', hrun, hd⟩ := run_mapM_drawn_of_ok [] fun _ _ => hok _
  have hwalk : (substitute (recorded answer) (nodes markdown)).run [] =
      (.ok (group ts'), sources (tokens markdown)) := by
    rw [nodes, substitute_group (recorded answer) hs.nested (plain_of_isStream hs)]
    exact run_map_of_ok hrun group
  refine ⟨ts', ?_, fun t ht hl hplain => ?_, fun u => ?_⟩
  · rw [compile, run_bind_of_ok hwalk, nodesHtml, flatten_group]
    rfl
  · have hdiagram := isDiagram_of_isListing hl hplain
    exact ⟨hdiagram, content_mem_sources ht hdiagram⟩
  · rw [hd.listing_iff hs]
    refine and_congr_right fun _ => and_congr_right fun hl => ⟨fun hdiagram => ⟨?_, hdiagram⟩, And.right⟩
    refine Decidable.byContradiction fun hplain => ?_
    rw [isDiagram_of_isListing hl (Bool.eq_false_iff.2 hplain)] at hdiagram
    cases hdiagram

/-- A diagram in a quote, with more words after the label: no listing is left. -/
theorem compile_listings_quoted :
    let markdown := text "> ```mermaid x\n> pie\n> ```\n"
    let numbered : List Text → Except Unit Text := fun given => .ok (Text.ofNat given.length)
    (∀ given, ∃ picture, numbered given = .ok picture) ∧
      ∃ ts', (compile (some (recorded numbered)) markdown).run [] =
          (.ok (Markdown.html ts'), [text "pie\n"]) ∧
        ∀ u ∈ allTokens ts', u.isListing = false := by
  intro markdown numbered
  have hok : ∀ given, ∃ picture, numbered given = .ok picture := fun given => ⟨_, rfl⟩
  have hs : sources (tokens markdown) = [text "pie\n"] := by decide +kernel
  have hplain : ∀ t ∈ tokens markdown, t.hidesLanguage = false := by decide +kernel
  obtain ⟨ts', hrun, -, hleft⟩ := compile_listings markdown numbered hok
  refine ⟨hok, ts', hs ▸ hrun, fun u hu => Bool.eq_false_iff.2 fun hl => ?_⟩
  obtain ⟨ht, -, hhidden, -⟩ := (hleft u).1 ⟨hu, hl⟩
  rw [hplain u ht] at hhidden
  cases hhidden

/-- A blank before the label: the renderer is given nothing, and the listing is labelled all the
same. -/
theorem compile_leaves_spaced :
    let markdown := text "``` mermaid\npie\n```\n"
    let numbered : List Text → Except Unit Text := fun given => .ok (Text.ofNat given.length)
    (tokens markdown).any isListing = true ∧
      (compile (some (recorded numbered)) markdown).run [] =
        (.ok (text "<pre><code class=\x22language-mermaid\x22>pie\n</code></pre>\n"), []) := by
  intro markdown numbered
  have hno : ∀ t ∈ tokens markdown, t.isDiagram = false := by decide +kernel
  have hhtml : Markdown.html (tokens markdown) =
      text "<pre><code class=\x22language-mermaid\x22>pie\n</code></pre>\n" := by decide +kernel
  refine ⟨by decide +kernel, ?_⟩
  rw [compile_of_not_isDiagram _ hno, compile_none, hhtml]
  rfl

end Diagram

end DocPress
