import DocPress.Proofs.FileSystem.Reading
import DocPress.Proofs.Path.Relative

namespace DocPress

namespace Path

theorem isAbsolute_ofText_iff {t : Text} : (ofText t).isAbsolute = true ↔ t.head? = some slash := by
  cases t with
  | nil => decide
  | cons c r =>
    by_cases hc : c = slash
    · have hroot : ∀ n, Root.ofSlashes (n + 1) ≠ .relative := by
        intro n
        unfold Root.ofSlashes
        split <;> simp_all
      simp [ofText, isAbsolute, hroot, hc]
    · have hslashes : (c :: r).takeWhile (· = slash) = [] :=
        List.takeWhile_cons_of_neg (by simpa using hc)
      simp [ofText, isAbsolute, hslashes, Root.ofSlashes, hc]

theorem splitParts_append (a b : Text) :
    splitParts (a ++ slash :: b) = splitParts a ++ splitParts b := by
  rw [splitParts, Text.splitAt_append, List.filter_append]
  rfl

theorem takeWhile_slash_append {p q : Text} (h : q.head? ≠ some slash) :
    (p ++ q).takeWhile (· = slash) = p.takeWhile (· = slash) := by
  induction p with
  | nil =>
    cases q with
    | nil => rfl
    | cons c q => exact List.takeWhile_cons_of_neg (by simpa using h)
  | cons c p ih => by_cases hc : c = slash <;> simp [hc, ih]

theorem takeWhile_slash_append_of_mem {p : Text} {c : CodePoint} (hm : c ∈ p) (hc : c ≠ slash)
    (rest : Text) : (p ++ rest).takeWhile (· = slash) = p.takeWhile (· = slash) := by
  induction p with
  | nil => cases hm
  | cons d p ih =>
    by_cases hd : d = slash
    · have hp : c ∈ p := (List.mem_cons.1 hm).resolve_left fun he => hc (he.trans hd)
      simp [hd, ih hp]
    · simp [hd]

/-- Two texts of paths as the text of one: a slash stands between them where the first one says
something and does not end in a slash. -/
def joinText (p q : Text) : Text :=
  if q.head? = some slash then q
  else if p = [] ∨ p.getLast? = some slash then p ++ q
  else p ++ slash :: q

theorem ofText_joinText (p q : Text) : ofText (joinText p q) = (ofText p).join (ofText q) := by
  unfold joinText
  by_cases hq : q.head? = some slash
  · rw [if_pos hq, join_of_isAbsolute _ (isAbsolute_ofText_iff.2 hq)]
  · have hrelative : (ofText q).isAbsolute = false :=
      Bool.eq_false_iff.2 (mt isAbsolute_ofText_iff.1 hq)
    -- Of the joined text only the slashes at its beginning and its components count.
    have hjoin : ∀ t, t.takeWhile (· = slash) = p.takeWhile (· = slash) →
        splitParts t = splitParts p ++ splitParts q → ofText t = (ofText p).join (ofText q) := by
      intro t hslashes hparts
      rw [join_of_relative _ hrelative, ofText, hslashes, hparts]
      rfl
    rw [if_neg hq]
    by_cases hp : p = [] ∨ p.getLast? = some slash
    · rw [if_pos hp]
      refine hjoin _ (takeWhile_slash_append hq) ?_
      rcases hp with rfl | hp
      · rfl
      · obtain ⟨front, rfl⟩ := List.getLast?_eq_some_iff.1 hp
        have hnone : splitParts [] = [] := rfl
        rw [List.append_assoc, List.singleton_append, splitParts_append, splitParts_append, hnone,
          List.append_nil]
    · obtain ⟨hne, hlast⟩ := not_or.1 hp
      have hmem := List.getLast_mem hne
      rw [List.getLast?_eq_some_getLast hne, Option.some.injEq] at hlast
      rw [if_neg hp]
      exact hjoin _ (takeWhile_slash_append_of_mem hmem hlast _) (splitParts_append p q)

theorem isUnicode_toText_join {p q : Path} (hp : p.toText.isUnicode = true)
    (hq : q.toText.isUnicode = true) : (p.join q).toText.isUnicode = true := by
  rw [isUnicode_toText_iff] at hp hq ⊢
  unfold join
  split
  · exact hq
  · exact List.forall_mem_append.2 ⟨hp, hq⟩

theorem absolute_join (base p q : Path) : base.absolute (p.join q) = (base.absolute p).absolute q :=
  calc base.absolute (p.join q) = (base.join p).absolute q := by
        rw [absolute, absolute, join_assoc]
    _ = (base.join p).normalize.absolute q := (absolute_normalize _ _).symm

theorem IsPlain.absolute_dotDot {p : Path} (h : p.IsPlain) :
    p.absolute (ofText dotDot) = p.parent := by
  have hup : ofText dotDot = ⟨.relative, [dotDot]⟩ := by decide
  have hpush : push true p.parts.reverse dotDot = p.parts.reverse.tail := by
    cases hp : p.parts.reverse with
    | nil => rfl
    | cons top rest =>
      have htop : top ∈ p.parts := List.mem_reverse.1 (hp ▸ List.mem_cons_self)
      have hne : top ≠ dotDot := fun he => h.dotDot_notMem (he ▸ htop)
      rw [push, if_pos rfl]
      exact if_neg hne
  -- The components of `p` are pushed as they are, and the step up takes the last one off again.
  rw [hup, absolute, join_of_relative _ rfl, normalize, Path.parent]
  change Path.mk p.root ((p.parts ++ [dotDot]).foldl (push p.isAbsolute) []).reverse = _
  rw [h.isAbsolute, List.foldl_append, foldl_push_of_dotDot_notMem true h.dotDot_notMem,
    List.append_nil, List.foldl_cons, List.foldl_nil, hpush, ← List.dropLast_reverse,
    List.reverse_reverse]

end Path

namespace Site

/-- Resolving a path gives the path that is meant, if only its components are valid Unicode. -/
theorem absolute_eq_ok {s : Site} {base p : Path} (hb : base.toText.isUnicode = true)
    (hp : p.toText.isUnicode = true) : s.absolute p (some base) = .ok (base.absolute p) :=
  absolute_eq_ok_iff.2
    ⟨isStranded_some s p base, Path.isUnicode_toText_normalize (Path.isUnicode_toText_join hb hp), rfl⟩

/-- What is meant by `p` from the absolute directory `b` is absolute, without empty components, `.` and
`..`. It is what it is from everywhere else, and `q` as it is meant from there is what `p` with `q`
joined to it is from `b`. Where there is no `..`, it has all components of the two; a `..` takes the
last one away. -/
theorem absolute_resolved (s : Site) {b p q : Text} (hb : (Path.ofText b).isAbsolute = true)
    (hbu : b.isUnicode = true) (hpu : p.isUnicode = true) (hqu : q.isUnicode = true) :
    ∃ r, s.absolute (.ofText p) (some (.ofText b)) = .ok r ∧ r.IsPlain ∧
      Path.ofText r.toText = r ∧ (∀ base, s.absolute r base = .ok r) ∧
      (∃ r', s.absolute (.ofText q) (some r) = .ok r' ∧
        s.absolute ((Path.ofText p).join (.ofText q)) (some (.ofText b)) = .ok r' ∧
        s.absolute (.ofText (Path.joinText p q)) (some (.ofText b)) = .ok r') ∧
      (Path.dotDot ∉ ((Path.ofText b).join (.ofText p)).parts →
        r = (Path.ofText b).join (.ofText p)) ∧
      s.absolute (.ofText Path.dotDot) (some r) = .ok r.parent := by
  have hbase : (Path.ofText b).toText.isUnicode = true := Path.isUnicode_toText_ofText hbu
  have hp : (Path.ofText p).toText.isUnicode = true := Path.isUnicode_toText_ofText hpu
  have hq : (Path.ofText q).toText.isUnicode = true := Path.isUnicode_toText_ofText hqu
  have hplain : ((Path.ofText b).absolute (.ofText p)).IsPlain :=
    Path.isPlain_absolute hb (Path.wellFormed_ofText b) (Path.wellFormed_ofText p)
  have hr : ((Path.ofText b).absolute (.ofText p)).toText.isUnicode = true :=
    Path.isUnicode_toText_normalize (Path.isUnicode_toText_join hbase hp)
  refine ⟨_, absolute_eq_ok hbase hp, hplain, Path.ofText_toText hplain.wellFormed hplain.isAbsolute,
    fun base => ?_, ⟨_, absolute_eq_ok hr hq, ?_, ?_⟩, Path.normalize_of_dotDot_notMem, ?_⟩
  · refine absolute_eq_ok_iff.2 ⟨isStranded_of_isAbsolute hplain.isAbsolute s base, hr, ?_⟩
    rw [Path.absolute_of_isAbsolute _ hplain.isAbsolute, hplain.normalize_eq]
  · rw [← Path.absolute_join]
    exact absolute_eq_ok hbase (Path.isUnicode_toText_join hp hq)
  · rw [← Path.absolute_join, Path.ofText_joinText]
    exact absolute_eq_ok hbase (Path.isUnicode_toText_join hp hq)
  · rw [absolute_eq_ok hr (by decide), hplain.absolute_dotDot]

/-- Two slashes at the beginning, and more steps up than there are directories. -/
theorem absolute_resolved_climbing :
    (Path.ofText (text "//é/./b")).isAbsolute = true ∧ Text.isUnicode (text "//é/./b") = true ∧
      Text.isUnicode (text "../../..//x/") = true ∧ Text.isUnicode (text "../y/.") = true ∧
      Path.joinText (text "../../..//x/") (text "../y/.") = text "../../..//x/../y/." ∧
      Site.absolute ⟨.empty, []⟩ (.ofText (text "../../..//x/../y/."))
          (some (.ofText (text "//é/./b"))) = .ok (.ofText (text "//y")) ∧
      ∃ r, Site.absolute ⟨.empty, []⟩ (.ofText (text "../../..//x/"))
          (some (.ofText (text "//é/./b"))) = .ok r ∧ r.IsPlain ∧
        Site.absolute ⟨.empty, []⟩ (.ofText (text "../y/.")) (some r) = .ok (.ofText (text "//y")) := by
  have hb : (Path.ofText (text "//é/./b")).isAbsolute = true := by decide
  have hbu : Text.isUnicode (text "//é/./b") = true := by decide
  have hpu : Text.isUnicode (text "../../..//x/") = true := by decide
  have hqu : Text.isUnicode (text "../y/.") = true := by decide
  have hjoin : Path.joinText (text "../../..//x/") (text "../y/.") = text "../../..//x/../y/." := by
    decide
  obtain ⟨r, hr, hplain, -, -, ⟨r', hq, -, hjoined⟩, -, -⟩ :=
    absolute_resolved ⟨.empty, []⟩ hb hbu hpu hqu
  have hrun : Site.absolute ⟨.empty, []⟩ (.ofText (text "../../..//x/../y/."))
      (some (.ofText (text "//é/./b"))) = .ok (.ofText (text "//y")) :=
    absolute_eq_ok_iff.2 (by decide +kernel)
  rw [hjoin, hrun] at hjoined
  obtain rfl := Except.ok.inj hjoined
  exact ⟨hb, hbu, hpu, hqu, hjoin, hrun, r, hr, hplain, hq⟩

end Site

end DocPress
