import DocPress.Proofs.Path.Absolute
import DocPress.Proofs.Text.Search

namespace DocPress

namespace Path

/-- The last component of a path is its own, whatever directory the path is meant from. -/
theorem absolute_eq_concat {p : Path} (hn : p.name ≠ []) (hd : p.name ≠ dotDot) (base : Path) :
    base.absolute p =
      ⟨(base.absolute p.parent).root, (base.absolute p.parent).parts ++ [p.name]⟩ := by
  have hpush : ∀ (absolute : Bool) (front : List Text),
      ((front ++ [p.name]).foldl (push absolute) []).reverse =
        (front.foldl (push absolute) []).reverse ++ [p.name] := by
    intro absolute front
    simp [List.foldl_append, push, hd]
  have hparts := parts_eq_of_name_ne_nil hn
  by_cases ha : p.isAbsolute = true
  · have hpa : p.parent.isAbsolute = true := ha
    rw [absolute_of_isAbsolute base ha, absolute_of_isAbsolute base hpa, normalize, hparts, hpush]
    rfl
  · have hpa : ¬p.parent.isAbsolute = true := ha
    simp only [absolute, join, ha, hpa, Bool.false_eq_true, if_false, normalize]
    rw [hparts, ← List.append_assoc, hpush]
    rfl

theorem parent_absolute {p : Path} (hn : p.name ≠ []) (hd : p.name ≠ dotDot) (base : Path) :
    (base.absolute p).parent = base.absolute p.parent := by
  rw [absolute_eq_concat hn hd]
  simp [parent]

theorem name_absolute {p : Path} (hn : p.name ≠ []) (hd : p.name ≠ dotDot) (base : Path) :
    (base.absolute p).name = p.name := by
  rw [absolute_eq_concat hn hd]
  simp [name]

/-- What a path keeps of its text between slashes. -/
structure IsComponent (part : Text) : Prop where
  ne_nil : part ≠ []
  ne_dot : part ≠ dot
  slash_notMem : slash ∉ part

instance (part : Text) : Decidable (IsComponent part) :=
  decidable_of_iff (part ≠ [] ∧ part ≠ dot ∧ slash ∉ part)
    ⟨fun ⟨hn, hd, hs⟩ => ⟨hn, hd, hs⟩, fun ⟨hn, hd, hs⟩ => ⟨hn, hd, hs⟩⟩

/-- A path as it is read off a text. -/
def WellFormed (p : Path) : Prop := ∀ part ∈ p.parts, IsComponent part

instance (p : Path) : Decidable p.WellFormed :=
  inferInstanceAs (Decidable (∀ part ∈ p.parts, IsComponent part))

theorem wellFormed_ofText (t : Text) : (ofText t).WellFormed := by
  intro part hp
  obtain ⟨hsplit, hkeep⟩ := List.mem_filter.1 hp
  have hkeep : part ≠ [] ∧ part ≠ dot := by simpa using hkeep
  exact ⟨hkeep.1, hkeep.2, Text.sep_notMem_of_mem_splitAt hsplit⟩

theorem isUnicode_toText_ofText {t : Text} (h : t.isUnicode = true) :
    (ofText t).toText.isUnicode = true := by
  apply isUnicode_toText_iff.2
  intro part hp
  exact Text.isUnicode_of_subset (Text.subset_of_mem_splitAt (List.mem_filter.1 hp).1) h

theorem WellFormed.normalize {p : Path} (h : p.WellFormed) : p.normalize.WellFormed :=
  fun part hp => h part (mem_of_mem_normalize hp)

theorem WellFormed.parent {p : Path} (h : p.WellFormed) : p.parent.WellFormed :=
  fun part hp => h part (List.dropLast_subset _ hp)

theorem WellFormed.join {p q : Path} (hp : p.WellFormed) (hq : q.WellFormed) :
    (p.join q).WellFormed := by
  unfold Path.join
  split
  · exact hq
  · intro part hpart
    exact (List.mem_append.1 hpart).elim (hp part) (hq part)

theorem WellFormed.absolute {base p : Path} (hb : base.WellFormed) (hp : p.WellFormed) :
    (base.absolute p).WellFormed := (hb.join hp).normalize

theorem WellFormed.withSuffix? {suffix : Text} {p q : Path} (hp : p.WellFormed)
    (h : p.withSuffix? suffix = some q) (hs : slash ∉ suffix) (hlong : 1 < suffix.length) :
    q.WellFormed := by
  obtain ⟨hn, rfl⟩ := withSuffix?_eq_some.1 h
  intro part hpart
  rcases List.mem_append.1 hpart with hpart | hpart
  · exact hp part (List.dropLast_subset _ hpart)
  · obtain rfl := List.mem_singleton.1 hpart
    have hname : IsComponent p.name := hp _ (by rw [parts_eq_of_name_ne_nil hn]; simp)
    have hlength : 1 < ((splitSuffix p.name).1 ++ suffix).length := by
      rw [List.length_append]
      omega
    refine ⟨fun he => by simp [he] at hlength, fun he => ?_, ?_⟩
    · rw [he] at hlength
      exact absurd hlength (by decide)
    · rw [List.mem_append, not_or]
      exact ⟨fun hm => hname.slash_notMem (splitSuffix_fst_subset _ hm), hs⟩

theorem splitSuffix_append {stem ext : Text} (hstem : stem ≠ []) (hext : ext ≠ [])
    (hdot : CodePoint.ofChar '.' ∉ ext) :
    splitSuffix (stem ++ CodePoint.ofChar '.' :: ext) = (stem, CodePoint.ofChar '.' :: ext) := by
  have htake : ((stem ++ CodePoint.ofChar '.' :: ext).reverse.takeWhile
      (· ≠ CodePoint.ofChar '.')).reverse = ext := by
    have hall : ∀ c ∈ ext.reverse, decide (c ≠ CodePoint.ofChar '.') = true := by
      intro c hc
      have hne : c ≠ CodePoint.ofChar '.' := fun he => hdot (he ▸ List.mem_reverse.1 hc)
      simpa using hne
    rw [List.reverse_append, List.reverse_cons, List.append_assoc,
      List.takeWhile_append_of_pos hall]
    simp
  have hcut : (stem ++ CodePoint.ofChar '.' :: ext).take
      ((stem ++ CodePoint.ofChar '.' :: ext).length - ext.length - 1) = stem := by
    have hlength : (stem ++ CodePoint.ofChar '.' :: ext).length - ext.length - 1 = stem.length := by
      simp only [List.length_append, List.length_cons]
      omega
    rw [hlength, List.take_left]
  have hproper : ext ≠ stem ++ CodePoint.ofChar '.' :: ext := by
    intro he
    have hlength := congrArg List.length he
    simp only [List.length_append, List.length_cons] at hlength
    omega
  simp only [splitSuffix, htake, hcut, hext, hproper, hstem, or_self, if_false]

/-- A document that has the suffix of documents keeps its path. -/
theorem withSuffix?_of_suffix {p : Path} {stem ext : Text}
    (hp : p.name = stem ++ CodePoint.ofChar '.' :: ext) (hstem : stem ≠ []) (hext : ext ≠ [])
    (hdot : CodePoint.ofChar '.' ∉ ext) : p.withSuffix? (CodePoint.ofChar '.' :: ext) = some p := by
  have hn : p.name ≠ [] := by simp [hp]
  have hparts := parts_eq_of_name_ne_nil hn
  rw [withSuffix?_eq_some, hp, splitSuffix_append hstem hext hdot, ← hp]
  exact ⟨hn, congrArg (fun parts => { p with parts := parts }) hparts⟩

theorem length_parts_of_withSuffix? {suffix : Text} {p q : Path}
    (h : p.withSuffix? suffix = some q) : q.parts.length = p.parts.length := by
  obtain ⟨hn, rfl⟩ := withSuffix?_eq_some.1 h
  have hne : p.parts ≠ [] := by
    intro hp
    exact hn (by simp [name, hp])
  have hpos := List.length_pos_iff.2 hne
  simp only [List.length_append, List.length_dropLast, List.length_singleton]
  omega

/-- An absolute path without `..`: it says itself where it leads. -/
structure IsPlain (p : Path) : Prop where
  isAbsolute : p.isAbsolute = true
  wellFormed : p.WellFormed
  dotDot_notMem : dotDot ∉ p.parts

theorem IsPlain.parent {p : Path} (h : p.IsPlain) : p.parent.IsPlain :=
  ⟨h.isAbsolute, h.wellFormed.parent, fun hm => h.dotDot_notMem (List.dropLast_subset _ hm)⟩

theorem IsPlain.normalize_eq {p : Path} (h : p.IsPlain) : p.normalize = p :=
  normalize_of_dotDot_notMem h.dotDot_notMem

theorem isPlain_absolute {base p : Path} (ha : base.isAbsolute = true) (hb : base.WellFormed)
    (hp : p.WellFormed) : (base.absolute p).IsPlain := by
  have hjoin : (base.join p).isAbsolute = true := isAbsolute_absolute ha p
  exact ⟨hjoin, hb.absolute hp, dotDot_notMem_normalize hjoin⟩

theorem IsPlain.withSuffix? {suffix : Text} {p q : Path} (hp : p.IsPlain)
    (h : p.withSuffix? suffix = some q) (hs : slash ∉ suffix) (hlong : 2 < suffix.length) :
    q.IsPlain := by
  have hw : q.WellFormed := hp.wellFormed.withSuffix? h hs (by omega)
  have hlength := length_name_of_withSuffix? h
  have hname : dotDot ≠ (splitSuffix p.name).1 ++ suffix := by
    intro he
    rw [name_of_withSuffix? h, ← he] at hlength
    exact absurd hlength (Nat.not_lt.2 (Nat.le_of_lt hlong))
  obtain ⟨-, rfl⟩ := withSuffix?_eq_some.1 h
  refine ⟨hp.isAbsolute, hw, fun hm => ?_⟩
  rcases List.mem_append.1 hm with hm | hm
  · exact hp.dotDot_notMem (List.dropLast_subset _ hm)
  · exact hname (List.mem_singleton.1 hm)

theorem head?_join {parts : List Text} (h : ∀ part ∈ parts, IsComponent part) :
    (Text.join [slash] parts).head? ≠ some slash := by
  cases parts with
  | nil => simp [Text.join]
  | cons part rest =>
    obtain ⟨hne, -, hslash⟩ := h part List.mem_cons_self
    obtain ⟨c, r, rfl⟩ := List.exists_cons_of_ne_nil hne
    have hc : c ≠ slash := fun he => hslash (he ▸ List.mem_cons_self)
    cases rest with
    | nil => simp [Text.join_singleton, hc]
    | cons part' rest => simp [Text.join_cons_cons, hc]

theorem takeWhile_root_append (r : Root) {t : Text} (h : t.head? ≠ some slash) :
    (Root.toText r ++ t).takeWhile (· = slash) = Root.toText r := by
  have ht : t.takeWhile (· = slash) = [] := by
    cases t with
    | nil => rfl
    | cons c r =>
      have hc : ¬c = slash := fun he => h (congrArg some he)
      simp [hc]
  have hroot : ∀ c ∈ Root.toText r, decide (c = slash) = true := by
    cases r <;> decide
  rw [List.takeWhile_append_of_pos hroot, ht, List.append_nil]

theorem ofSlashes_root (r : Root) : Root.ofSlashes (Root.toText r).length = r := by
  cases r <;> rfl

theorem splitAt_root_append (r : Root) (t : Text) :
    ∃ blank, (∀ part ∈ blank, part = []) ∧
      Text.splitAt slash (Root.toText r ++ t) = blank ++ Text.splitAt slash t := by
  cases r with
  | relative => exact ⟨[], by simp, rfl⟩
  | single => exact ⟨[[]], by simp, rfl⟩
  | double => exact ⟨[[], []], by simp, rfl⟩

/-- Between the slashes of a path's text stand its components, and pieces that say nothing. -/
theorem splitAt_toText {p : Path} (h : p.WellFormed) :
    ∃ silent, (∀ part ∈ silent, part = [] ∨ part = dot) ∧
      (Text.splitAt slash p.toText = silent ++ p.parts ∨
        p.parts = [] ∧ Text.splitAt slash p.toText = silent) := by
  by_cases hdot : p.root = .relative ∧ p.parts = []
  · exact ⟨[dot], by simp, .inr ⟨hdot.2, by rw [toText, if_pos hdot]; decide⟩⟩
  · rw [toText, if_neg hdot]
    obtain ⟨blank, hblank, hsplit⟩ := splitAt_root_append p.root (Text.join [slash] p.parts)
    rw [hsplit]
    by_cases hparts : p.parts = []
    · refine ⟨blank ++ [[]], ?_, .inr ⟨hparts, by rw [hparts]; rfl⟩⟩
      intro part hp
      rcases List.mem_append.1 hp with hp | hp
      · exact .inl (hblank part hp)
      · exact .inl (List.mem_singleton.1 hp)
    · refine ⟨blank, fun part hp => .inl (hblank part hp), .inl ?_⟩
      rw [Text.splitAt_join hparts fun part hp => (h part hp).slash_notMem]

theorem splitParts_toText {p : Path} (h : p.WellFormed) : splitParts p.toText = p.parts := by
  obtain ⟨silent, hsilent, hsplit⟩ := splitAt_toText h
  have hdrop : silent.filter (fun part => part ≠ [] && part ≠ dot) = [] := by
    rw [List.filter_eq_nil_iff]
    intro part hp
    rcases hsilent part hp with rfl | rfl <;> simp
  have hkeep : p.parts.filter (fun part => part ≠ [] && part ≠ dot) = p.parts := by
    rw [List.filter_eq_self]
    intro part hp
    simp [(h part hp).ne_nil, (h part hp).ne_dot]
  rw [splitParts]
  rcases hsplit with hsplit | ⟨hparts, hsplit⟩
  · rw [hsplit, List.filter_append, hdrop, hkeep, List.nil_append]
  · rw [hsplit, hdrop, hparts]

/-- The text of a path says which path it is. -/
theorem ofText_toText {p : Path} (h : p.WellFormed) (ha : p.isAbsolute = true) :
    ofText p.toText = p := by
  have hr : p.root ≠ .relative := by simpa [isAbsolute] using ha
  have hroot : Root.ofSlashes (p.toText.takeWhile (· = slash)).length = p.root := by
    rw [toText, if_neg fun hd => hr hd.1, takeWhile_root_append _ (head?_join h), ofSlashes_root]
  rw [ofText, hroot, splitParts_toText h]

theorem head?_toText_eq_slash_iff {p : Path} (h : p.WellFormed) :
    p.toText.head? = some slash ↔ p.isAbsolute = true := by
  cases hr : p.root with
  | relative =>
    have hrel : p.isAbsolute = false := by simp [isAbsolute, hr]
    simp only [hrel, Bool.false_eq_true, iff_false]
    rw [toText, hr]
    split
    · decide
    · exact head?_join h
  | single => simp [toText, isAbsolute, hr, Root.toText, text, slash]
  | double => simp [toText, isAbsolute, hr, Root.toText, text, slash]

theorem toText_ne_nil {p : Path} (h : p.WellFormed) : p.toText ≠ [] := by
  intro hnil
  obtain ⟨silent, hsilent, hsplit⟩ := splitAt_toText h
  have hr : p.root = .relative := by
    refine Decidable.byContradiction fun hr => ?_
    have ha : p.isAbsolute = true := by simpa [isAbsolute] using hr
    have hslash := (head?_toText_eq_slash_iff h).2 ha
    rw [hnil] at hslash
    cases hslash
  by_cases hp : p.parts = []
  · rw [toText, if_pos ⟨hr, hp⟩] at hnil
    exact absurd hnil (by decide)
  · obtain ⟨part, rest, hparts⟩ := List.exists_cons_of_ne_nil hp
    have hpart : part ≠ [] := (h part (by rw [hparts]; exact List.mem_cons_self)).ne_nil
    rw [toText, if_neg fun hd => hp hd.2, hparts, hr] at hnil
    cases rest with
    | nil => exact hpart (by simpa [Root.toText, Text.join_singleton] using hnil)
    | cons => simp [Text.join_cons_cons] at hnil

theorem subset_join (sep : Text) {part : Text} {parts : List Text} (h : part ∈ parts) :
    part ⊆ Text.join sep parts := by
  induction parts with
  | nil => cases h
  | cons first rest ih =>
    by_cases hr : rest = []
    · subst hr
      rw [Text.join_singleton, List.mem_singleton.1 h]
      exact List.Subset.refl _
    · rw [Text.join_cons _ _ hr, List.append_assoc]
      rcases List.mem_cons.1 h with rfl | h
      · exact List.subset_append_left _ _
      · exact fun c hc => List.mem_append_right _ (List.mem_append_right _ (ih h hc))

theorem part_subset_toText {p : Path} {part : Text} (h : part ∈ p.parts) : part ⊆ p.toText := by
  rw [toText, if_neg fun hd => List.ne_nil_of_mem h hd.2]
  exact fun c hc => List.mem_append_right _ (subset_join _ h hc)

theorem mem_toText {p : Path} {c : CodePoint} (h : c ∈ p.toText) :
    c = slash ∨ c ∈ dot ∨ ∃ part ∈ p.parts, c ∈ part := by
  have hjoin : ∀ parts : List Text, c ∈ Text.join [slash] parts →
      c = slash ∨ ∃ part ∈ parts, c ∈ part := by
    intro parts
    induction parts with
    | nil => exact fun hc => absurd hc List.not_mem_nil
    | cons part rest ih =>
      by_cases hr : rest = []
      · subst hr
        rw [Text.join_singleton]
        exact fun hc => .inr ⟨part, List.mem_cons_self, hc⟩
      · rw [Text.join_cons _ _ hr, List.append_assoc, List.mem_append, List.mem_append]
        rintro (hc | hc | hc)
        · exact .inr ⟨part, List.mem_cons_self, hc⟩
        · exact .inl (List.mem_singleton.1 hc)
        · exact (ih hc).imp_right fun ⟨q, hq, hm⟩ => ⟨q, List.mem_cons_of_mem _ hq, hm⟩
  have hroot : ∀ r : Root, c ∈ Root.toText r → c = slash := by
    rintro (_ | _ | _) hc <;> simp_all [Root.toText, text, slash]
  unfold toText at h
  split at h
  · exact .inr (.inl h)
  · rcases List.mem_append.1 h with hc | hc
    · exact .inl (hroot _ hc)
    · exact (hjoin _ hc).imp_right .inr

theorem mem_of_mem_toText_ofText {t : Text} {c : CodePoint} (h : c ∈ (ofText t).toText) :
    c = slash ∨ c ∈ dot ∨ c ∈ t := by
  refine (mem_toText h).imp_right (Or.imp_right ?_)
  rintro ⟨part, hpart, hc⟩
  exact Text.subset_of_mem_splitAt (List.mem_filter.1 hpart).1 hc

end Path

end DocPress
