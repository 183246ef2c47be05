import DocPress.Proofs.Text.Pieces
import DocPress.Proofs.Text.Spelling

namespace DocPress.Text

variable {marker : Text}

theorem avoids_of_breakOn {t before after : Text} (h : breakOn marker t = some (before, after)) :
    Avoids marker before (marker ++ after) := by
  induction t generalizing before with
  | nil =>
    obtain ⟨hbefore, -⟩ := List.append_eq_nil_iff.1 (breakOn_eq_some h).symm
    rw [(List.append_eq_nil_iff.1 hbefore).1]
    exact avoids_nil
  | cons c r ih =>
    by_cases hp : marker <+: c :: r
    · obtain ⟨rest, hrest⟩ := Option.isSome_iff_exists.1 (after?_isSome_iff.2 hp)
      rw [breakOn, hrest] at h
      obtain ⟨rfl, -⟩ := Prod.mk.inj (Option.some.inj h)
      exact avoids_nil
    · rw [breakOn_cons hp] at h
      obtain ⟨⟨b, a⟩, hb, he⟩ := Option.map_eq_some_iff.1 h
      obtain ⟨rfl, rfl⟩ := Prod.mk.inj he
      rw [breakOn_eq_some hb, List.append_assoc] at hp
      exact avoids_cons.2 ⟨hp, ih hb⟩

theorem breakOn_of_avoids (hm : marker ≠ []) {before after : Text}
    (h : Avoids marker before (marker ++ after)) :
    breakOn marker (before ++ (marker ++ after)) = some (before, after) := by
  induction before with
  | nil => exact breakOn_append hm after
  | cons c before ih =>
    obtain ⟨hc, hrest⟩ := avoids_cons.1 h
    rw [List.cons_append, breakOn_cons hc, ih hrest]
    rfl

/-- A text breaks where the marker stands and does not begin before. -/
theorem breakOn_eq_some_iff (hm : marker ≠ []) {t before after : Text} :
    breakOn marker t = some (before, after) ↔
      t = before ++ (marker ++ after) ∧ Avoids marker before (marker ++ after) := by
  constructor
  · exact fun h => ⟨by rw [breakOn_eq_some h, List.append_assoc], avoids_of_breakOn h⟩
  · rintro ⟨rfl, h⟩
    exact breakOn_of_avoids hm h

theorem avoids_of_absent {t : Text} (h : ¬marker <:+: t) : Avoids marker t [] := by
  intro b hb _ hp
  rw [List.append_nil] at hp
  exact h (hp.isInfix.trans hb.isInfix)

theorem Avoids.absent (hm : marker ≠ []) {u s : Text} (h : Avoids marker u s) :
    ¬marker <:+: u := by
  rintro ⟨a, b, rfl⟩
  have hne : marker ++ b ≠ [] := List.append_ne_nil_of_left_ne_nil hm b
  refine h (marker ++ b) ?_ hne ?_
  · rw [List.append_assoc]
    exact List.suffix_append a (marker ++ b)
  · rw [List.append_assoc]
    exact List.prefix_append marker (b ++ s)

/-- The pieces of a text between the leftmost places of a marker that do not overlap: each but the
last one reaches up to the first place in what is left of the text. -/
inductive IsCut (marker : Text) : Text → List Text → Prop
  | last {t : Text} : ¬marker <:+: t → IsCut marker t [t]
  | next {before after : Text} {ps : List Text} : Avoids marker before (marker ++ after) →
      IsCut marker after ps → IsCut marker (before ++ (marker ++ after)) (before :: ps)

theorem isCut_pieces (hm : marker ≠ []) (t : Text) : IsCut marker t (pieces marker t) := by
  cases hb : breakOn marker t with
  | none =>
    rw [pieces_of_breakOn_eq_none hb]
    exact .last (not_infix_of_breakOn_eq_none hm hb)
  | some p =>
    obtain ⟨before, after⟩ := p
    obtain ⟨ht, havoids⟩ := (breakOn_eq_some_iff hm).1 hb
    have hshort : after.length < t.length := length_lt_of_breakOn hm hb
    rw [pieces_of_breakOn hm hb, ht]
    exact .next havoids (isCut_pieces hm after)
termination_by t.length

theorem substituteFrom_append (value u rest : Text) :
    substituteFrom marker value u.length (u ++ rest) = substitute marker value rest := by
  induction u with
  | nil => rfl
  | cons c u ih => exact ih

theorem substitute_append (hm : marker ≠ []) (value rest : Text) :
    substitute marker value (marker ++ rest) = value ++ substitute marker value rest := by
  obtain ⟨c, m, rfl⟩ := List.exists_cons_of_ne_nil hm
  have hp : (c :: m).isPrefixOf (c :: (m ++ rest)) = true :=
    List.isPrefixOf_iff_prefix.2 ⟨rest, rfl⟩
  rw [List.cons_append, substitute, substituteFrom, if_pos ⟨hm, hp⟩]
  exact congrArg (value ++ ·) (substituteFrom_append value m rest)

theorem substitute_of_absent (value : Text) {t : Text} (h : ¬marker <:+: t) :
    substitute marker value t = t := by
  have ha := (avoids_of_absent h).substitute value
  simpa [substitute, substituteFrom] using ha

namespace IsCut

variable {t : Text} {ps : List Text}

theorem ne_nil (h : IsCut marker t ps) : ps ≠ [] := by
  cases h <;> exact List.cons_ne_nil _ _

theorem substitute_eq (hm : marker ≠ []) (h : IsCut marker t ps) (value : Text) :
    substitute marker value t = join value ps := by
  induction h with
  | last hnone => rw [substitute_of_absent value hnone, join_singleton]
  | next havoids hrest ih =>
    rw [havoids.substitute, substitute_append hm, ih, join_cons _ _ hrest.ne_nil, List.append_assoc]

theorem absent (hm : marker ≠ []) (h : IsCut marker t ps) : ∀ p ∈ ps, ¬marker <:+: p := by
  induction h with
  | last hnone => exact List.forall_mem_singleton.2 hnone
  | next havoids _ ih => exact List.forall_mem_cons.2 ⟨havoids.absent hm, ih⟩

theorem infix_iff (h : IsCut marker t ps) : marker <:+: t ↔ 1 < ps.length := by
  cases h with
  | last hnone => exact iff_of_false hnone (Nat.lt_irrefl 1)
  | @next before after rest _ hrest =>
    have hlength := List.length_pos_iff.2 hrest.ne_nil
    refine iff_of_true ⟨before, after, List.append_assoc ..⟩ ?_
    rw [List.length_cons]
    omega

end IsCut

theorem infix_join {value : Text} {ps : List Text} (h : 1 < ps.length) : value <:+: join value ps := by
  obtain ⟨p, q, rest, rfl⟩ : ∃ p q rest, ps = p :: q :: rest := by
    match ps, h with
    | p :: q :: rest, _ => exact ⟨p, q, rest, rfl⟩
  rw [join_cons_cons]
  exact ⟨p, join value (q :: rest), rfl⟩

/-- A marker that a value's ends do not occur in reaches neither into it nor out of it. -/
theorem not_infix_append_append (hm : marker ≠ []) {a value b : Text} (hne : value ≠ [])
    (hhead : ∀ c ∈ value.head?, c ∉ marker) (hlast : ∀ c ∈ value.getLast?, c ∉ marker)
    (ha : ¬marker <:+: a) (hv : ¬marker <:+: value) (hb : ¬marker <:+: b) :
    ¬marker <:+: a ++ value ++ b := by
  obtain ⟨c, v, rfl⟩ := List.exists_cons_of_ne_nil hne
  have hc : c ∉ marker := hhead c rfl
  -- One seam at a time: no place reaches over the last code point of the value, nor over its first.
  have hrest : ¬marker <:+: v ++ b := by
    rcases List.eq_nil_or_concat v with rfl | ⟨u, d, hd⟩
    · exact hb
    · rw [List.concat_eq_append] at hd
      subst hd
      have hd : d ∉ marker := hlast d (by rw [← List.cons_append, List.getLast?_concat]; rfl)
      have hu : ¬marker <:+: u := fun hi => hv (hi.trans ⟨[c], [d], rfl⟩)
      rw [List.append_assoc]
      exact not_infix_append_cons hm hd hu hb
  rw [List.append_assoc, List.cons_append]
  exact not_infix_append_cons hm hc ha hrest

theorem not_infix_join (hm : marker ≠ []) {value : Text} {ps : List Text} (hne : value ≠ [])
    (hhead : ∀ c ∈ value.head?, c ∉ marker) (hlast : ∀ c ∈ value.getLast?, c ∉ marker)
    (hv : ¬marker <:+: value) (hps : ∀ p ∈ ps, ¬marker <:+: p) : ¬marker <:+: join value ps := by
  induction ps with
  | nil => exact fun hi => hm (List.infix_nil.1 hi)
  | cons p rest ih =>
    obtain ⟨hp, hrest⟩ := List.forall_mem_cons.1 hps
    by_cases hr : rest = []
    · rw [hr, join_singleton]
      exact hp
    · rw [join_cons _ _ hr]
      exact not_infix_append_append hm hne hhead hlast hp hv (ih hrest)

end DocPress.Text
