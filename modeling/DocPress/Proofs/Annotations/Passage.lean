import DocPress.Proofs.Annotations.Substitution
import Mathlib.Data.List.Infix

namespace DocPress.Annotations

def markers : List Text := [idMarker, classMarker, commentMarker]

theorem markers_subset : markers ⊆ nameTerminators := by decide

def atSign : CodePoint := '@'

def quote : CodePoint := '\x27'

def less : CodePoint := '<'

theorem head?_of_mem_markers : ∀ marker ∈ markers, marker.head? = some atSign := by decide

theorem ne_nil_of_mem_markers {marker : Text} (hm : marker ∈ markers) : marker ≠ [] := by
  rintro rfl
  exact absurd hm (by decide)

theorem quote_notMem_of_mem_markers : ∀ marker ∈ markers, quote ∉ marker := by decide

/-- No occurrence of the marker begins in the text, whatever follows. -/
def Skips (marker : Text) : Text → Prop
  | [] => True
  | c :: a => (∀ x, ¬marker <+: c :: (a ++ x)) ∧ Skips marker a

section Skips

variable {marker : Text}

theorem Skips.append {a b : Text} (ha : Skips marker a) (hb : Skips marker b) :
    Skips marker (a ++ b) := by
  induction a with
  | nil => exact hb
  | cons c a ih =>
    rw [List.cons_append]
    refine ⟨fun x => ?_, ih ha.2⟩
    rw [List.append_assoc]
    exact ha.1 (b ++ x)

theorem skips_of_notMem (hm : marker ∈ markers) {a : Text} (h : atSign ∉ a) : Skips marker a := by
  induction a with
  | nil => trivial
  | cons c a ih =>
    refine ⟨fun x hp => ?_, ih fun ha => h (List.mem_cons_of_mem _ ha)⟩
    have hc : c = atSign := by
      obtain ⟨d, rest, rfl⟩ := List.exists_cons_of_ne_nil (ne_nil_of_mem_markers hm)
      have hd : d = atSign := Option.some.inj (head?_of_mem_markers _ hm)
      rw [← (List.cons_prefix_cons.1 hp).1, hd]
    exact h (hc ▸ List.mem_cons_self)

theorem skips_marker (hm : marker ∈ markers) {other : Text} (ho : other ∈ markers)
    (hne : marker ≠ other) : Skips marker other := by
  -- Two markers differ in the second place, and no marker begins there.
  have hsecond : ∀ a ∈ markers, ∀ b ∈ markers, a ≠ b → ¬a.take 2 <+: b.take 2 := by decide
  have htail : ∀ b ∈ markers, atSign ∉ b.tail := by decide
  have hlong : ∀ b ∈ markers, 2 ≤ b.length := by decide
  obtain ⟨c, rest, rfl⟩ := List.exists_cons_of_ne_nil (ne_nil_of_mem_markers ho)
  refine ⟨fun x hp => hsecond marker hm _ ho hne ?_, skips_of_notMem hm (htail _ ho)⟩
  have htake : (c :: (rest ++ x)).take 2 = (c :: rest).take 2 := by
    rw [← List.cons_append, List.take_append_of_le_length (hlong _ ho)]
  exact htake ▸ List.IsPrefix.take hp 2

/-- A quote keeps a name from running on into a marker. -/
theorem skips_nameOf (hm : marker ∈ markers) (t : Text) : Skips marker (nameOf t ++ [quote]) := by
  have hq : quote ∉ marker := quote_notMem_of_mem_markers marker hm
  have hquote : Skips marker [quote] := skips_of_notMem hm (by decide)
  induction t with
  | nil => exact hquote
  | cons c r ih =>
    by_cases hc : nameOf (c :: r) = []
    · rw [hc]
      exact hquote
    obtain ⟨hb, ht⟩ := nameOf_cons_ne_nil hc
    rw [nameOf_cons hb ht, List.cons_append]
    refine ⟨fun x hp => ht marker (markers_subset hm) ?_, ih⟩
    rw [List.append_assoc, List.singleton_append, ← List.cons_append] at hp
    exact (Text.prefix_of_prefix_append_cons hq hp).trans
      (List.cons_prefix_cons.2 ⟨rfl, nameOf_isPrefix r⟩)

theorem skips_span (hm : marker ∈ markers) (opening closing t : Text) (ho : atSign ∉ opening)
    (hc : atSign ∉ closing) :
    Skips marker (opening ++ nameOf t ++ quote :: closing) := by
  have h : opening ++ nameOf t ++ quote :: closing = opening ++ (nameOf t ++ [quote]) ++ closing := by
    simp
  rw [h]
  exact ((skips_of_notMem hm ho).append (skips_nameOf hm t)).append (skips_of_notMem hm hc)

theorem skips_idSpan (hm : marker ∈ markers) (t : Text) : Skips marker (idSpan (nameOf t)) :=
  skips_span hm (text "<span id='") (text "></span>") t (by decide) (by decide)

theorem skips_classSpan (hm : marker ∈ markers) (t : Text) : Skips marker (classSpan (nameOf t)) :=
  skips_span hm (text "<span class='") (text "></span>") t (by decide) (by decide)

end Skips

/-- A text that ends, or goes on with a marker or markup. -/
def Stops (t : Text) : Prop := t = [] ∨ ∃ u ∈ text "<" :: markers, u <+: t

/-- Two texts are the same up to where both of them stop. -/
inductive SameStart : Text → Text → Prop
  | stop {t t' : Text} : Stops t → Stops t' → SameStart t t'
  | cons (c : CodePoint) {r r' : Text} : SameStart r r' → SameStart (c :: r) (c :: r')

theorem stops_nil : Stops [] := .inl rfl

theorem stops_marker {marker : Text} (hm : marker ∈ markers) (rest : Text) :
    Stops (marker ++ rest) :=
  .inr ⟨marker, List.mem_cons_of_mem _ hm, List.prefix_append _ _⟩

theorem stops_less (rest : Text) : Stops (less :: rest) :=
  .inr ⟨text "<", List.mem_cons_self, ⟨rest, rfl⟩⟩

theorem Stops.nameOf_eq {t : Text} (h : Stops t) : nameOf t = [] := by
  rcases h with rfl | ⟨u, hu, hp⟩
  · rfl
  · have hsub : text "<" :: markers ⊆ nameTerminators := by decide
    exact nameOf_of_startsWith (hsub hu) hp

/-- A text that neither begins with a marker or markup nor is the beginning of one. -/
def Apart (p : Text) : Prop := ∀ u ∈ text "<" :: markers, ¬u <+: p ∧ ¬p <+: u

theorem Apart.of_notMem {p : Text} (hn : p ≠ []) (ha : atSign ∉ p) (hl : less ∉ p) : Apart p := by
  have hhead : ∀ u ∈ text "<" :: markers, u.head? = some atSign ∨ u.head? = some less := by decide
  obtain ⟨c, p, rfl⟩ := List.exists_cons_of_ne_nil hn
  intro u hu
  cases u with
  | nil => exact absurd (hhead _ hu) (by simp)
  | cons d u =>
    have hdc : d ≠ c := by
      rintro rfl
      rcases hhead _ hu with hd | hd
      · exact ha (Option.some.inj hd ▸ List.mem_cons_self)
      · exact hl (Option.some.inj hd ▸ List.mem_cons_self)
    exact ⟨fun hp => hdc (List.cons_prefix_cons.1 hp).1,
      fun hp => hdc (List.cons_prefix_cons.1 hp).1.symm⟩

theorem Stops.not_prefix {t p : Text} (h : Stops t) (hn : p ≠ []) (ha : Apart p) : ¬p <+: t := by
  intro hp
  rcases h with rfl | ⟨u, hu, hpu⟩
  · exact hn (List.prefix_nil.1 hp)
  · rcases List.prefix_or_prefix_of_prefix hpu hp with h | h
    · exact (ha u hu).1 h
    · exact (ha u hu).2 h

namespace SameStart

theorem refl (t : Text) : SameStart t t := by
  induction t with
  | nil => exact .stop stops_nil stops_nil
  | cons c r ih => exact ih.cons c

theorem prefix_iff {t t' p : Text} (h : SameStart t t') (ha : atSign ∉ p) (hl : less ∉ p) :
    p <+: t ↔ p <+: t' := by
  induction h generalizing p with
  | stop hs hs' =>
    by_cases hn : p = []
    · simp [hn]
    · have hp : Apart p := .of_notMem hn ha hl
      exact iff_of_false (hs.not_prefix hn hp) (hs'.not_prefix hn hp)
  | cons c _ ih =>
    cases p with
    | nil => simp
    | cons d p =>
      rw [List.cons_prefix_cons, List.cons_prefix_cons,
        ih (mt (List.mem_cons_of_mem d) ha) (mt (List.mem_cons_of_mem d) hl)]

theorem prefix_cons_iff {t t' p : Text} {c : CodePoint} (h : SameStart t t')
    (hp : Apart (c :: p)) (ha : atSign ∉ p) (hl : less ∉ p) : c :: p <+: t ↔ c :: p <+: t' := by
  cases h with
  | stop hs hs' =>
    have hn : c :: p ≠ [] := List.cons_ne_nil c p
    exact iff_of_false (hs.not_prefix hn hp) (hs'.not_prefix hn hp)
  | cons d h => rw [List.cons_prefix_cons, List.cons_prefix_cons, h.prefix_iff ha hl]

/-- Behind its first code point a terminator is free of at signs and markup. -/
theorem terminator_prefix_iff {t t' u : Text} (h : SameStart t t') (hu : u ∈ nameTerminators)
    (c : CodePoint) : u <+: c :: t ↔ u <+: c :: t' := by
  have htail : ∀ u ∈ nameTerminators, u ≠ [] ∧ atSign ∉ u.tail ∧ less ∉ u.tail := by decide
  obtain ⟨hn, ha, hl⟩ := htail u hu
  obtain ⟨d, p, rfl⟩ := List.exists_cons_of_ne_nil hn
  rw [List.cons_prefix_cons, List.cons_prefix_cons, h.prefix_iff (p := p) ha hl]

theorem nameOf_eq {t t' : Text} (h : SameStart t t') : nameOf t = nameOf t' := by
  induction h with
  | stop hs hs' => rw [hs.nameOf_eq, hs'.nameOf_eq]
  | @cons c r r' h ih =>
    -- A name goes on over `c` in both texts or in none: a terminator begins with `c` and goes on
    -- with what the two have in common.
    by_cases hb : c.isBlank = true
    · rw [nameOf_of_isBlank hb, nameOf_of_isBlank hb]
    · by_cases ht : ∀ u ∈ nameTerminators, ¬u <+: c :: r
      · have ht' : ∀ u ∈ nameTerminators, ¬u <+: c :: r' := fun u hu =>
          mt (h.terminator_prefix_iff hu c).2 (ht u hu)
        rw [nameOf_cons (by simpa using hb) ht, nameOf_cons (by simpa using hb) ht', ih]
      · simp only [not_forall, not_not] at ht
        obtain ⟨u, hu, hp⟩ := ht
        rw [nameOf_of_startsWith hu hp, nameOf_of_startsWith hu ((h.terminator_prefix_iff hu c).1 hp)]

end SameStart

end DocPress.Annotations
