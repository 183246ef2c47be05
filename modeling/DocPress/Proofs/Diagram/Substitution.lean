import DocPress.Proofs.Markdown.Document
import DocPress.Proofs.Yields

namespace DocPress

open Markdown Token Node

def Markdown.Token.isDiagram (t : Token) : Bool :=
  t.element = .fence && t.info.startsWith Diagram.language

namespace Diagram

def sources (ts : List Token) : List Text := (ts.filter isDiagram).map (·.content)

theorem isSource_eq_isDiagram {t : Token} (h : t.element = .codeBlock → t.info = []) :
    isSource t = t.isDiagram := by
  by_cases hc : t.element = .codeBlock
  · have hl : Text.startsWith [] language = false := by decide
    simp [isSource, isDiagram, hc, h hc, hl]
  · simp [isSource, isDiagram, hc]

theorem isSource_eq_false {t : Token} (hf : t.element ≠ .fence)
    (hc : t.element = .codeBlock → t.info = []) : isSource t = false := by
  simp [isSource_eq_isDiagram hc, isDiagram, hf]

mutual

/-- There is no diagram in a node. -/
def Free : Node → Prop
  | .leaf t children => isSource t = false ∧ FreeEach children
  | .nest _ children _ => FreeEach children

def FreeEach : List Node → Prop
  | [] => True
  | n :: rest => Free n ∧ FreeEach rest

end

theorem freeEach_iff {nodes : List Node} : FreeEach nodes ↔ ∀ n ∈ nodes, Free n := by
  induction nodes with
  | nil => simp [FreeEach]
  | cons n rest ih => simp [FreeEach, ih]

theorem freeEach_unfinished {pending : List Pending} {done : List Node}
    (hp : ∀ p ∈ pending, isSource p.1 = false ∧ FreeEach p.2) (hd : FreeEach done) :
    FreeEach (unfinished pending done) := by
  induction pending generalizing done with
  | nil =>
    rw [freeEach_iff] at hd ⊢
    simpa [unfinished] using hd
  | cons p pending ih =>
    obtain ⟨opening, before⟩ := p
    obtain ⟨⟨ho, hb⟩, hp⟩ := List.forall_mem_cons.1 hp
    refine ih hp ?_
    rw [freeEach_iff] at hd hb ⊢
    intro n hn
    rcases List.mem_append.1 hn with hn | hn
    · exact hd n hn
    · rcases List.mem_cons.1 hn with rfl | hn
      · exact ⟨ho, trivial⟩
      · exact hb n hn

mutual

theorem free_ofToken : ∀ t : Token, isSource t = false → (∀ u ∈ t.within, isSource u = false) →
    Free (ofToken t)
  | { children, .. }, ht, hw =>
    ⟨ht, freeEach_groupFrom children [] [] hw (List.forall_mem_nil _) trivial⟩

theorem freeEach_groupFrom : ∀ (ts : List Token) (pending : List Pending) (done : List Node),
    (∀ u ∈ allTokens ts, isSource u = false) →
    (∀ p ∈ pending, isSource p.1 = false ∧ FreeEach p.2) → FreeEach done →
    FreeEach (groupFrom pending done ts)
  | [], pending, done, _, hp, hd => freeEach_unfinished hp hd
  | t :: rest, pending, done, ht, hp, hd => by
    obtain ⟨hs, hw⟩ := List.forall_mem_cons.1 ht
    obtain ⟨hw, hr⟩ := List.forall_mem_append.1 hw
    have hn : Free (ofToken t) := free_ofToken t hs hw
    -- Closing tokens need not match here, so `done` and every pending level stay free at once.
    cases hplace : t.place with
    | alone =>
      rw [groupFrom_alone hplace]
      exact freeEach_groupFrom rest _ _ hr hp ⟨hn, hd⟩
    | opening =>
      rw [groupFrom_opening hplace]
      exact freeEach_groupFrom rest _ _ hr (List.forall_mem_cons.2 ⟨⟨hs, hd⟩, hp⟩) trivial
    | closing =>
      cases pending with
      | nil =>
        rw [groupFrom.eq_def]
        simp only [hplace]
        exact freeEach_groupFrom rest _ _ hr hp ⟨⟨hs, trivial⟩, hd⟩
      | cons p pending =>
        obtain ⟨opening, before⟩ := p
        obtain ⟨⟨_, hb⟩, hp⟩ := List.forall_mem_cons.1 hp
        rw [groupFrom_closing hplace]
        refine freeEach_groupFrom rest _ _ hr hp ⟨?_, hb⟩
        rw [freeEach_iff] at hd
        exact freeEach_iff.2 fun n hn => hd n (List.mem_reverse.1 hn)

end

section Substitute

variable {m : Type → Type} [Monad m] (render : Text → m Text)

def drawn (t : Token) : m Token :=
  if t.isDiagram then replaced t <$> render t.content else pure t

theorem drawn_of_not_isSingle {t : Token} (h : t.element.isSingle = false) :
    drawn render t = pure t := by
  have hf : t.element ≠ .fence := by
    rintro he
    rw [he] at h
    cases h
  simp [drawn, isDiagram, hf]

variable [LawfulMonad m]

theorem discard_pure {α : Type} (a : α) : (discard (pure a) : m PUnit) = pure () := by
  rw [discard, LawfulFunctor.map_const, Function.comp_apply, map_pure]

mutual

theorem substituteNode_of_free : ∀ n : Node, Free n → substituteNode render n = pure n
  | .leaf t children, h => by
    simp [substituteNode, h.1, substitute_of_free children h.2, discard_pure]
  | .nest opening children closing, h => by
    have hc : FreeEach children := h
    simp [substituteNode, substitute_of_free children hc]

theorem substitute_of_free : ∀ nodes : List Node, FreeEach nodes →
    substitute render nodes = pure nodes
  | [], _ => by simp [substitute]
  | n :: rest, h => by
    simp [substitute, substituteNode_of_free n h.1, substitute_of_free rest h.2]

end

/-- Only the token itself may be a diagram, and only as a fence. -/
def Plain (t : Token) : Prop :=
  isSource t = t.isDiagram ∧ ∀ u ∈ t.within, isSource u = false

theorem plain_of_isStream {ts : List Token} (h : IsStream ts) : ∀ t ∈ ts, Plain t := by
  intro t ht
  refine ⟨isSource_eq_isDiagram (h.noCodeInfo t (mem_allTokens.2 ⟨t, ht, .inl rfl⟩)), ?_⟩
  intro u hu
  exact isSource_eq_false (h.noFenceWithin t ht u hu)
    (h.noCodeInfo u (mem_allTokens.2 ⟨t, ht, .inr hu⟩))

theorem substituteNode_ofToken {t : Token} (h : Plain t) :
    substituteNode render (ofToken t) = ofToken <$> drawn render t := by
  obtain ⟨ht, hw⟩ := h
  obtain ⟨element, place, attributes, lines, level, content, info, hidden, children⟩ := t
  have hc : substitute render (groupFrom [] [] children) = pure (groupFrom [] [] children) :=
    substitute_of_free render _ (freeEach_groupFrom children [] [] hw (List.forall_mem_nil _) trivial)
  simp only [ofToken, substituteNode, hc, drawn, ht, discard_pure, pure_bind]
  split
  · simp [ofToken, replaced, groupFrom, unfinished]
  · simp [ofToken]

theorem yields_drawn {t : Token} (hp : t.place = .alone) (hs : t.element.isSingle = true) :
    Yields (fun t' => t'.place = .alone ∧ t'.element.isSingle = true) (drawn render t) := by
  unfold drawn
  split
  · exact (yields_true _).map fun _ _ => ⟨rfl, rfl⟩
  · exact yields_pure ⟨hp, hs⟩

theorem mapM_drawn_pair {opening closing : Token} (ho : opening.element.isSingle = false)
    (hc : closing.element.isSingle = false) (inner rest : List Token) :
    (opening :: (inner ++ closing :: rest)).mapM (drawn render) = do
      let inner ← inner.mapM (drawn render)
      let rest ← rest.mapM (drawn render)
      return opening :: (inner ++ closing :: rest) := by
  rw [List.mapM_cons, List.mapM_append, List.mapM_cons, drawn_of_not_isSingle render ho,
    drawn_of_not_isSingle render hc]
  simp only [pure_bind, bind_assoc]

theorem yields_nested {ts : List Token} (h : Nested ts) :
    Yields Nested (ts.mapM (drawn render)) := by
  induction h with
  | nil => exact yields_pure .nil
  | single hp hs _ ih =>
    rw [List.mapM_cons]
    exact (yields_drawn render hp hs).bind fun t ht => ih.bind fun ts hts =>
      yields_pure (.single ht.1 ht.2 hts)
  | pair ho hc he hs _ _ ihi ihr =>
    rw [mapM_drawn_pair render hs (by rw [he, hs])]
    exact ihi.bind fun inner hi => ihr.bind fun rest hr =>
      yields_pure (.pair ho hc he hs hi hr)

/-- Drawing the diagrams of a tree is drawing them token by token in the stream, in its order. -/
theorem substitute_group {ts : List Token} (h : Nested ts) (hp : ∀ t ∈ ts, Plain t) :
    substitute render (group ts) = group <$> ts.mapM (drawn render) := by
  -- The drawn tokens have to be nested again to be grouped one by one, and what a renderer gives is
  -- not known: hence `Yields`.
  induction h with
  | nil => simp [group, groupFrom, unfinished, substitute]
  | @single t ts hplace hs hn ih =>
    obtain ⟨ht, hp⟩ := List.forall_mem_cons.1 hp
    have hmap : (group <$> do
          let t ← drawn render t
          let ts ← ts.mapM (drawn render)
          return t :: ts) = do
        let t ← drawn render t
        let ts ← ts.mapM (drawn render)
        return ofToken t :: group ts := by
      simp only [map_bind, map_pure]
      exact (yields_drawn render hplace hs).congr_bind fun t ht =>
        (yields_nested render hn).congr_bind fun ts hts => by
          rw [hts.isWhole.group_cons ht.1]
    rw [List.mapM_cons, hmap, hn.isWhole.group_cons hplace, substitute,
      substituteNode_ofToken render ht, ih hp]
    simp only [bind_map_left]
  | @pair opening closing inner rest ho hc he hs hi hr ihi ihr =>
    obtain ⟨_, hp⟩ := List.forall_mem_cons.1 hp
    obtain ⟨hpi, hp⟩ := List.forall_mem_append.1 hp
    have hmap : (group <$> do
          let inner ← inner.mapM (drawn render)
          let rest ← rest.mapM (drawn render)
          return opening :: (inner ++ closing :: rest)) = do
        let inner ← inner.mapM (drawn render)
        let rest ← rest.mapM (drawn render)
        return .nest opening (group inner) closing :: group rest := by
      simp only [map_bind, map_pure]
      exact (yields_nested render hi).congr_bind fun inner hi =>
        (yields_nested render hr).congr_bind fun rest hr => by
          rw [IsWhole.group_pair ho hc hi.isWhole hr.isWhole]
    rw [mapM_drawn_pair render hs (by rw [he, hs]), hmap,
      IsWhole.group_pair ho hc hi.isWhole hr.isWhole, substitute, substituteNode, ihi hpi,
      ihr (List.forall_mem_cons.1 hp).2]
    simp only [bind_map_left, bind_assoc, pure_bind]

end Substitute

end Diagram

end DocPress
