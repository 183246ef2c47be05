import DocPress.Markdown.Inline
import DocPress.Proofs.Markdown.Stream
import DocPress.Proofs.Yields

namespace DocPress.Markdown

open Token

/-- Neither the token nor one within it is a block. -/
def Token.IsInline (t : Token) : Prop :=
  t.element.isBlock = false ∧ ∀ u ∈ t.within, u.element.isBlock = false

theorem Token.within_eq (t : Token) : t.within = allTokens t.children := by
  cases t
  rfl

theorem forall_isInline_iff {ts : List Token} :
    (∀ t ∈ ts, t.IsInline) ↔ ∀ u ∈ allTokens ts, u.element.isBlock = false := by
  induction ts with
  | nil => simp [allTokens]
  | cons t ts ih =>
    rw [List.forall_mem_cons, ih, allTokens, List.forall_mem_cons, List.forall_mem_append, IsInline,
      and_assoc]

namespace Token.IsInline

theorem of_children {t : Token} (he : t.element.isBlock = false) (hc : t.children = []) :
    t.IsInline := by
  refine ⟨he, ?_⟩
  rw [within_eq, hc]
  exact List.forall_mem_nil _

theorem congr {t u : Token} (h : u.IsInline) (he : t.element.isBlock = false)
    (hc : t.children = u.children) : t.IsInline := by
  refine ⟨he, ?_⟩
  rw [within_eq, hc, ← within_eq]
  exact h.2

end Token.IsInline

section Array

variable {α : Type} {p : α → Prop} {a : Array α}

theorem forall_mem_setIfInBounds (h : ∀ x ∈ a, p x) (i : Nat) {x : α} (hx : p x) :
    ∀ y ∈ a.setIfInBounds i x, p y := by
  intro y hy
  rcases Array.mem_or_eq_of_mem_setIfInBounds hy with hy | rfl
  · exact h y hy
  · exact hx

theorem forall_mem_modify (h : ∀ x ∈ a, p x) (i : Nat) {f : α → α} (hf : ∀ x, p x → p (f x)) :
    ∀ y ∈ a.modify i f, p y := by
  intro y hy
  obtain ⟨j, hj, rfl⟩ := Array.mem_iff_getElem.1 hy
  rw [Array.getElem_modify]
  split
  · exact hf _ (h _ (Array.getElem_mem _))
  · exact h _ (Array.getElem_mem _)

theorem forall_mem_swapIfInBounds (h : ∀ x ∈ a, p x) (i j : Nat) :
    ∀ y ∈ a.swapIfInBounds i j, p y := by
  intro y hy
  obtain ⟨k, hk, rfl⟩ := Array.mem_iff_getElem.1 hy
  rw [Array.getElem_swapIfInBounds]
  split
  · exact h _ (Array.getElem_mem _)
  · split
    · exact h _ (Array.getElem_mem _)
    · exact h _ (Array.getElem_mem _)

end Array

theorem forall_isInline_strikeTokens (ds : Array Delimiter) {ts : Array Token}
    (h : ∀ t ∈ ts, t.IsInline) : ∀ t ∈ strikeTokens ds ts, t.IsInline := by
  rw [strikeTokens]
  refine List.foldlRecOn (motive := fun ts : Array Token => ∀ t ∈ ts, t.IsInline) _ _ ?_ ?_
  · refine List.foldlRecOn (motive := fun s : Array Token × List Nat => ∀ t ∈ s.1, t.IsInline)
      _ _ h ?_
    rintro ⟨ts, lone⟩ hs ⟨first, last⟩ _
    exact forall_mem_setIfInBounds (forall_mem_setIfInBounds hs _ (.of_children rfl rfl)) _
      (.of_children rfl rfl)
  · intro ts hs i _
    exact forall_mem_swapIfInBounds hs _ _

theorem forall_isInline_emphasizeTokens (ds : Array Delimiter) (i : Nat) {ts : Array Token}
    (h : ∀ t ∈ ts, t.IsInline) : ∀ t ∈ emphasizeTokens ds i ts, t.IsInline := by
  have hpair : ∀ (ts : Array Token) (first last : Nat) (isStrong : Bool),
      (∀ t ∈ ts, t.IsInline) →
      let element : Element := if isStrong then .strong else .emphasis
      ∀ t ∈ (ts.setIfInBounds first { element, place := .opening }).setIfInBounds last
        { element, place := .closing }, t.IsInline := by
    intro ts first last isStrong hts element
    have he : element.isBlock = false := by cases isStrong <;> rfl
    exact forall_mem_setIfInBounds (forall_mem_setIfInBounds hts _ (.of_children he rfl)) _
      (.of_children he rfl)
  have hclear : ∀ (ts : Array Token) (first last : Nat), (∀ t ∈ ts, t.IsInline) →
      let clear (t : Token) : Token := { t with content := [] }
      ∀ t ∈ (ts.modify first clear).modify last clear, t.IsInline := by
    intro ts first last hts clear
    have hc : ∀ t : Token, t.IsInline → (clear t).IsInline := fun t ht => ht.congr ht.1 rfl
    exact forall_mem_modify (forall_mem_modify hts _ hc) _ hc
  fun_induction emphasizeTokens ds i ts with
  | case1 => exact h
  | case2 _ _ _ _ ih => exact ih h
  | case3 _ _ _ _ _ _ ih => exact ih h
  | case4 => exact hclear _ _ _ (hpair _ _ _ _ h)
  | case5 _ _ _ _ _ _ _ _ _ _ _ _ _ ih => exact ih (hclear _ _ _ (hpair _ _ _ _ h))
  | case6 _ _ _ _ _ _ _ _ _ _ _ ih => exact ih (hpair _ _ _ _ h)

theorem forall_isInline_resolveDelimiters (ds : Array Delimiter) {ts : Array Token}
    (h : ∀ t ∈ ts, t.IsInline) : ∀ t ∈ resolveDelimiters ds ts, t.IsInline :=
  forall_isInline_emphasizeTokens _ _ (forall_isInline_strikeTokens _ h)

namespace Inline

/-- Every token so far is inline. -/
def Builder.IsInline (b : Builder) : Prop := ∀ t ∈ b.tokens, t.IsInline

namespace Builder.IsInline

variable {b : Builder}

theorem empty : IsInline {} := fun _ h => by simp at h

theorem pending (h : b.IsInline) (pending : Text) : IsInline { b with pending } := h

theorem flush (h : b.IsInline) : b.flush.IsInline := by
  rw [Builder.flush]
  split
  · exact h
  · exact Array.forall_mem_push.2 ⟨.of_children rfl rfl, h⟩

theorem push (h : b.IsInline) {t : Token} (ht : t.IsInline) : (b.push t).IsInline :=
  Array.forall_mem_push.2 ⟨ht, h.flush⟩

theorem addNewline (h : b.IsInline) : b.addNewline.IsInline := by
  have ht : ∀ n, Token.IsInline { element := if n ≥ 2 then .hardBreak else .softBreak } := by
    intro n
    refine .of_children ?_ rfl
    dsimp only
    split <;> rfl
  exact (h.pending _).push (ht _)

theorem addMarker (h : b.IsInline) (run : MarkerRun) (content : Text) (runLength : Nat) :
    (b.addMarker run content runLength).IsInline :=
  push h (.of_children rfl rfl)

theorem addMarker_repeat (h : b.IsInline) (run : MarkerRun) (content : Text)
    (runLength count : Nat) :
    (Nat.repeat (Builder.addMarker run content runLength) count b).IsInline := by
  induction count with
  | zero => exact h
  | succ count ih => exact ih.addMarker run content runLength

theorem addMarkers (h : b.IsInline) (run : MarkerRun) : (b.addMarkers run).IsInline := by
  rw [Builder.addMarkers]
  split
  · refine addMarker_repeat ?_ _ _ _ _
    split
    · exact h.push (.of_children rfl rfl)
    · exact h
  · exact h.addMarker_repeat _ _ _ _

theorem resolve (h : b.IsInline) : ∀ t ∈ b.resolve, t.IsInline :=
  forall_isInline_resolveDelimiters _ h.flush

theorem addLink (h : b.IsInline) (url title : Text) {content : Array Token}
    (hc : ∀ t ∈ content, t.IsInline) : (b.addLink url title content).IsInline := by
  have ho : ∀ attributes,
      (b.push { element := .link, place := .opening, attributes }).IsInline :=
    fun attributes => h.push (.of_children rfl rfl)
  exact push (b := { b.push _ with tokens := _ }) (Array.forall_mem_append.2 ⟨ho _, hc⟩)
    (.of_children rfl rfl)

theorem addImage (h : b.IsInline) (target : Target) (content : Text) {children : List Token}
    (hc : ∀ t ∈ children, t.IsInline) : (b.addImage target content children).IsInline := by
  refine push h ⟨rfl, ?_⟩
  rw [within_eq]
  exact forall_isInline_iff.1 hc

end Builder.IsInline

theorem forall_isInline_setLevels (level : Nat) {ts : List Token} (h : ∀ t ∈ ts, t.IsInline) :
    ∀ t ∈ setLevels level ts, t.IsInline := by
  induction ts generalizing level with
  | nil => exact h
  | cons t ts ih =>
    obtain ⟨ht, hts⟩ := List.forall_mem_cons.1 h
    rw [setLevels]
    split
    · exact List.forall_mem_cons.2 ⟨ht.congr ht.1 rfl, ih _ hts⟩
    · exact List.forall_mem_cons.2 ⟨ht.congr ht.1 rfl, ih _ hts⟩
    · exact List.forall_mem_cons.2 ⟨ht.congr ht.1 rfl, ih _ hts⟩

theorem forall_isInline_joinText {ts : List Token} (h : ∀ t ∈ ts, t.IsInline) :
    ∀ t ∈ joinText ts, t.IsInline := by
  refine List.foldrRecOn (motive := fun ts : List Token => ∀ t ∈ ts, t.IsInline) ts _
    (List.forall_mem_nil _) ?_
  intro rest hr t ht
  split
  · exact List.forall_mem_singleton.2 (h t ht)
  · rename_i n rest
    obtain ⟨hn, hr⟩ := List.forall_mem_cons.1 hr
    split
    · exact List.forall_mem_cons.2 ⟨hn.congr hn.1 rfl, hr⟩
    · exact List.forall_mem_cons.2 ⟨h t ht, List.forall_mem_cons.2 ⟨hn, hr⟩⟩

theorem isInline_showEscape {t : Token} (h : t.IsInline) : (showEscape t).IsInline := by
  rw [showEscape]
  split
  · exact h.congr rfl rfl
  · exact h

theorem forall_isInline_resolved {b : Builder} (h : b.IsInline) :
    ∀ t ∈ joinText (setLevels 0 b.resolve.toList), t.IsInline :=
  forall_isInline_joinText (forall_isInline_setLevels _ fun t ht =>
    h.resolve t (Array.mem_toList_iff.1 ht))

theorem yields_build (fuel : Nat) (s : Source) (level pos last : Nat) {b : Builder}
    (h : b.IsInline) : Yields Builder.IsInline (build fuel s level pos last b) := by
  induction fuel generalizing s level pos last b with
  | zero => exact yields_pure h
  | succ fuel ih =>
    rw [build]
    split
    · exact yields_pure h
    · -- What is done with an element does not depend on how it was recognized.
      extract_lets next
      have hnext : ∀ found, Yields Builder.IsInline (next found) := by
        rintro (_ | ⟨found, pos⟩)
        · exact ih _ _ _ _ (h.pending _)
        · cases found with
          | plain t => exact ih _ _ _ _ (h.pending _)
          | newline => exact ih _ _ _ _ h.addNewline
          | hardBreak => exact ih _ _ _ _ (h.push (.of_children rfl rfl))
          | escaped t => exact ih _ _ _ _ (h.push (.of_children rfl rfl))
          | code t => exact ih _ _ _ _ (h.push (.of_children rfl rfl))
          | html t => exact ih _ _ _ _ (h.push (.of_children rfl rfl))
          | markers run => exact ih _ _ _ _ (h.addMarkers run)
          | autolink url shown =>
            refine ih _ _ _ _ (h.addLink _ _ fun t ht => ?_)
            obtain rfl := List.mem_singleton.1 (Array.mem_toList_iff.2 ht)
            exact .of_children rfl rfl
          | link target first close =>
            exact (ih _ _ _ _ .empty).bind fun content hc =>
              ih _ _ _ _ (h.addLink _ _ hc.resolve)
          | image target first close =>
            have hc : ∀ inner : Source,
                (build fuel inner 0 0 inner.chars.size {} (Memory.fresh inner)).1.IsInline :=
              fun inner => (ih _ _ _ _ .empty).run_fst _
            exact ih _ _ _ _ (h.addImage _ _ (forall_isInline_resolved (hc _)))
      split
      · exact (yields_true _).bind fun found _ => hnext found
      · exact (yields_true _).bind fun found _ => hnext found

theorem isInline_of_build {fuel : Nat} {s : Source} {level pos last : Nat} {memory memory' : Memory}
    {b b' : Builder} (h : b.IsInline)
    (hb : build fuel s level pos last b memory = (b', memory')) : b'.IsInline := by
  have h' := (yields_build fuel s level pos last h).run_fst memory
  rwa [hb] at h'

theorem isInline_tokens (definitions : Definitions) (t : Text) :
    ∀ u ∈ tokens definitions t, u.IsInline := by
  rw [tokens]
  dsimp only
  split
  case h_1 b memory hb =>
    refine forall_isInline_joinText (List.forall_mem_map.2 fun u hu => ?_)
    exact isInline_showEscape (forall_isInline_resolved (isInline_of_build .empty hb) u hu)

end Inline

end DocPress.Markdown
