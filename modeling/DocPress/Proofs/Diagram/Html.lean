import DocPress.Proofs.Diagram.Renderer
import DocPress.Proofs.Markdown.Html

namespace DocPress

open Markdown Token Node

namespace Diagram

theorem element_of_isDiagram {t : Token} (h : t.isDiagram = true) : t.element = .fence :=
  of_decide_eq_true (Bool.and_eq_true_iff.1 h).1

theorem piece_of_isDiagram {t : Token} (h : t.isDiagram = true) (previous next : Option Token) :
    t.piece previous next = codeHtml (languageClass t.language) t.content := by
  have he := element_of_isDiagram h
  obtain ⟨element, place, attributes, lines, level, content, info, hidden, children⟩ := t
  obtain rfl : element = .fence := he
  rfl

theorem piece_replaced (t : Token) (picture : Text) (previous next : Option Token) :
    (replaced t picture).piece previous next = figure picture := rfl

theorem seen_replaced {t : Token} (hd : t.isDiagram = true) (hp : t.place = .alone)
    (hh : t.hidden = false) (picture : Text) : (replaced t picture).seen = t.seen := by
  simp [replaced, seen, element_of_isDiagram hd, hp, hh]

theorem Drawn.map_seen {ε : Type} {answer : List Text → Except ε Text} {given : List Text}
    {ts ts' : List Token} (h : Drawn answer given ts ts') (hn : Nested ts)
    (hh : ∀ t ∈ ts, t.isDiagram = true → t.hidden = false) : ts.map seen = ts'.map seen := by
  apply List.ext_getElem?
  intro i
  rw [List.getElem?_map, List.getElem?_map]
  cases ht : ts[i]? with
  | none =>
    have hi : ts'.length ≤ i := by
      rw [h.length_eq]
      exact List.getElem?_eq_none_iff.1 ht
    rw [List.getElem?_eq_none hi]
  | some t =>
    have hm : t ∈ ts := List.mem_of_getElem? ht
    cases hd : t.isDiagram with
    | false => rw [h.kept ht hd]
    | true =>
      -- A hidden fence, or one that opens or closes, would be seen as another token than its figure.
      have hp : t.place = .alone := by
        apply hn.place_eq t hm
        rw [element_of_isDiagram hd]
        rfl
      obtain ⟨picture, _, hr⟩ := h.replaced ht hd
      rw [hr, Option.map_some, Option.map_some, seen_replaced hd hp (hh t hm hd)]

theorem hidden_of_isDiagram {markdown : Text} {t : Token} (h : t ∈ tokens markdown)
    (hd : t.isDiagram = true) : t.hidden = false := by
  apply Bool.eq_false_iff.2
  intro hh
  have he := element_eq_of_hidden h hh
  rw [element_of_isDiagram hd] at he
  cases he

theorem nodesHtml_eq_flatten_pieces (nodes : List Node) :
    nodesHtml nodes = (pieces none (flatten nodes)).flatten :=
  html_eq_flatten_pieces none _

/-- The pieces of HTML `after` are those `before`, with the figure of the answer to each diagram in
the place of its listing. -/
structure DrawnPieces {ε : Type} (answer : List Text → Except ε Text) (ts : List Token)
    (before after : List Text) : Prop where
  length_eq : after.length = before.length
  kept : ∀ (i : Nat) (t : Token), ts[i]? = some t → t.isDiagram = false → after[i]? = before[i]?
  replaced : ∀ (i : Nat) (t : Token), ts[i]? = some t → t.isDiagram = true →
    before[i]? = some (codeHtml (languageClass t.language) t.content) ∧
    ∃ picture, answer (sources (ts.take (i + 1))) = .ok picture ∧ after[i]? = some (figure picture)

theorem Drawn.drawnPieces {ε : Type} {answer : List Text → Except ε Text} {ts ts' : List Token}
    (h : Drawn answer [] ts ts') (hseen : ts.map seen = ts'.map seen) :
    DrawnPieces answer ts (pieces none ts) (pieces none ts') where
  length_eq := by rw [length_pieces, length_pieces, h.length_eq]
  kept := by
    intro i t ht hd
    exact (getElem?_pieces_congr rfl hseen (by rw [ht, h.kept ht hd])).symm
  replaced := by
    intro i t ht hd
    obtain ⟨picture, hp, hr⟩ := h.replaced ht hd
    refine ⟨?_, picture, hp, ?_⟩
    · rw [getElem?_pieces, ht, Option.map_some, piece_of_isDiagram hd]
    · rw [getElem?_pieces, hr, Option.map_some, piece_replaced]

variable {m : Type → Type} [Monad m]

theorem substitute_of_not_isDiagram [LawfulMonad m] (render : Text → m Text) {markdown : Text}
    (h : ∀ t ∈ tokens markdown, t.isDiagram = false) :
    substitute render (nodes markdown) = pure (nodes markdown) := by
  apply substitute_of_free
  refine freeEach_groupFrom _ [] [] ?_ (List.forall_mem_nil _) trivial
  intro u hu
  obtain ⟨t, ht, rfl | hu⟩ := mem_allTokens.1 hu
  · rw [(plain_of_isStream (isStream_tokens markdown) u ht).1]
    exact h u ht
  · exact (plain_of_isStream (isStream_tokens markdown) t ht).2 u hu

theorem compile_of_not_isDiagram [LawfulMonad m] (render : Text → m Text) {markdown : Text}
    (h : ∀ t ∈ tokens markdown, t.isDiagram = false) :
    compile (some render) markdown = compile none markdown := by
  simp only [compile]
  rw [substitute_of_not_isDiagram render h, pure_bind]

theorem compile_none (markdown : Text) :
    (compile none markdown : m Text) = pure (Markdown.html (tokens markdown)) := by
  rw [compile, nodesHtml, nodes, flatten_group]

/-- Drawing the diagrams of a stream changes the HTML of these, each from its listing into its
figure, and leaves the piece of every other token as it is. The streams of documents are such. A
document without diagrams is the same with a renderer as without one, and without one its HTML is
that of its tokens. -/
theorem compile_local :
    (∀ {ts : List Token}, IsStream ts → (∀ t ∈ ts, t.isDiagram = true → t.hidden = false) →
      ∀ {ε : Type} (answer : List Text → Except ε Text),
      (∀ k < (sources ts).length,
        ∃ picture, answer ((sources ts).take (k + 1)) = .ok picture) →
      ∃ nodes, (substitute (recorded answer) (group ts)).run [] = (.ok nodes, sources ts) ∧
        nodesHtml (group ts) = (pieces none ts).flatten ∧
        nodesHtml nodes = (pieces none (flatten nodes)).flatten ∧
        DrawnPieces answer ts (pieces none ts) (pieces none (flatten nodes))) ∧
    (∀ markdown : Text, IsStream (tokens markdown) ∧
      ∀ t ∈ tokens markdown, t.isDiagram = true → t.hidden = false) ∧
    (∀ markdown : Text, (∀ t ∈ tokens markdown, t.isDiagram = false) →
      ∀ {m : Type → Type} [Monad m] [LawfulMonad m] (render : Text → m Text),
        compile (some render) markdown = compile none markdown) ∧
    ∀ (markdown : Text) {m : Type → Type} [Monad m],
      (compile none markdown : m Text) = pure (Markdown.html (tokens markdown)) := by
  refine ⟨?_, ?_, ?_, ?_⟩
  · intro ts h hh ε answer hok
    obtain ⟨ts', hrun, hd⟩ := run_mapM_drawn_of_ok [] hok
    refine ⟨group ts', ?_, ?_, nodesHtml_eq_flatten_pieces _, ?_⟩
    · rw [substitute_group (recorded answer) h.nested (plain_of_isStream h)]
      exact run_map_of_ok hrun group
    · rw [nodesHtml_eq_flatten_pieces, flatten_group]
    · rw [flatten_group]
      exact hd.drawnPieces (hd.map_seen h.nested hh)
  · exact fun markdown => ⟨isStream_tokens markdown, fun _ => hidden_of_isDiagram⟩
  · exact fun markdown h _ _ _ render => compile_of_not_isDiagram render h
  · exact fun markdown _ _ => compile_none markdown

/-- A diagram between two paragraphs without tags, and a document without one. -/
theorem compile_local_tight :
    let ts := tokens (text "* one\n  ```mermaid\n  pie\n  ```\n  two\n")
    let numbered : List Text → Except Unit Text := fun given => .ok (Text.ofNat given.length)
    (∃ nodes, (substitute (recorded numbered) (group ts)).run [] = (.ok nodes, [text "pie\n"]) ∧
      (pieces none ts)[5]? =
        some (text "<pre><code class=\x22language-mermaid\x22>pie\n</code></pre>\n") ∧
      (pieces none (flatten nodes))[5]? = some (text "<figure class='mermaid-graph'>1</figure>") ∧
      (pieces none (flatten nodes))[7]? = some (text "two")) ∧
    ∀ render : Text → Except Unit Text,
      compile (some render) (text "```sh\nls\n```\n") =
        .ok (text "<pre><code class=\x22language-sh\x22>ls\n</code></pre>\n") := by
  intro ts numbered
  have hs : sources ts = [text "pie\n"] := by decide +kernel
  refine ⟨?_, ?_⟩
  · have hts := compile_local.2.1 (text "* one\n  ```mermaid\n  pie\n  ```\n  two\n")
    obtain ⟨nodes, hrun, _, _, hp⟩ := compile_local.1 hts.1 hts.2 numbered fun _ _ => ⟨_, rfl⟩
    have hdiagram : (ts[5]?.any isDiagram) = true := by decide +kernel
    have hother : (ts[7]?.any fun t => !t.isDiagram) = true := by decide +kernel
    obtain ⟨t, ht, hd⟩ := (Option.any_eq_true _ _).1 hdiagram
    obtain ⟨u, hu, hn⟩ := (Option.any_eq_true _ _).1 hother
    obtain ⟨_, picture, ha, hr⟩ := hp.replaced 5 t ht hd
    have hone : sources (ts.take 6) = [text "pie\n"] := by decide +kernel
    rw [hone] at ha
    obtain rfl : Text.ofNat 1 = picture := Except.ok.inj ha
    have hf : figure (Text.ofNat 1) = text "<figure class='mermaid-graph'>1</figure>" := by
      decide +kernel
    refine ⟨nodes, hs ▸ hrun, by decide +kernel, by rw [hr, hf], ?_⟩
    rw [hp.kept 7 u hu (by simpa using hn)]
    decide +kernel
  · intro render
    have hno : ∀ t ∈ tokens (text "```sh\nls\n```\n"), t.isDiagram = false := by decide +kernel
    have hhtml : Markdown.html (tokens (text "```sh\nls\n```\n")) =
        text "<pre><code class=\x22language-sh\x22>ls\n</code></pre>\n" := by decide +kernel
    rw [compile_local.2.2.1 _ hno render, compile_local.2.2.2, hhtml]
    rfl

end Diagram

end DocPress
