import DocPress.Proofs.Composition.DepthBound

namespace DocPress.Composition

variable {s : Site} {maximum maximum' : Int} {levels levels' : Nat}

/-- A line becomes the same with more levels left, if the file that it imports does. -/
theorem partOf_agree_of_more
    (ih : ∀ {depth : Int} {file : Path} {code : Text} {base : Option Path},
      Agree False (treeFrom s maximum levels depth file code base)
        (treeFrom s maximum' levels' depth file code base))
    (depth : Int) (directory : Path) (line : Text) :
    Agree False (partOf (importedTree s maximum levels depth directory) line)
      (partOf (importedTree s maximum' levels' depth directory) line) := by
  unfold partOf
  split
  · exact Agree.bind (agree_refl _) fun document _ => Agree.bind (agree_refl _) fun code _ => ih
  · exact agree_refl _

/-- More levels change nothing where those that there were are enough: what fails first then does so
before any import is too deep. -/
theorem treeFrom_agree_of_more (h : levels ≤ levels') {depth : Int} {file : Path} {code : Text}
    {base : Option Path} :
    Agree False (treeFrom s maximum levels depth file code base)
      (treeFrom s maximum' levels' depth file code base) := by
  -- The files below are composed with one level less, so the levels of both runs are not fixed.
  induction levels generalizing levels' depth file code base with
  | zero =>
    by_cases hu : file.toText.isUnicode = true
    · exact agree_of_isTooDeep (treeFrom_zero_of_isUnicode hu ..) _
    · rw [treeFrom_of_not_isUnicode hu, treeFrom_of_not_isUnicode hu]
      exact agree_refl _
  | succ levels ih =>
    obtain ⟨levels', rfl⟩ := Nat.exists_eq_add_one_of_ne_zero (Nat.ne_zero_of_lt h)
    have hless : levels ≤ levels' := Nat.le_of_succ_le_succ h
    rw [treeFrom_succ, treeFrom_succ]
    refine Agree.bind (agree_refl _) fun _ _ => Agree.bind (agree_refl _) fun name _ =>
      Agree.bind (agree_refl _) fun directory _ => Agree.bind ?_ fun _ _ => agree_refl _
    exact Agree.mapM fun before line after parts _ _ =>
      partOf_agree_of_more (ih hless) depth directory line

/-- Raising the bound changes nothing but what was cut off: a composition that ends in a document, or
in another fault, ends in the same under the higher bound, and one that is cut off by the higher bound
is so by the lower one. -/
theorem composeAt_higherBound (h : maximum ≤ maximum') (s : Site) (depth : Int) (file : Path)
    (code : Text) (base : Option Path) :
    (¬IsTooDeep (composeAt s maximum depth file code base) →
      composeAt s maximum' depth file code base = composeAt s maximum depth file code base) ∧
    (IsTooDeep (composeAt s maximum' depth file code base) →
      IsTooDeep (composeAt s maximum depth file code base)) := by
  have hlevels : (maximum - depth).toNat ≤ (maximum' - depth).toNat := by omega
  have hagree : Agree False (composeAt s maximum depth file code base)
      (composeAt s maximum' depth file code base) :=
    (treeFrom_agree_of_more hlevels).map Part.written
  have hsame : ¬IsTooDeep (composeAt s maximum depth file code base) →
      composeAt s maximum' depth file code base = composeAt s maximum depth file code base :=
    fun hshort => (hagree hshort False.elim).symm
  refine ⟨hsame, fun hdeep => ?_⟩
  by_contra hshort
  rw [hsame hshort] at hdeep
  exact hshort hdeep

/-- After an import that is not too deep for either bound one that leads nowhere is the fault; where
the imports go round, both bounds cut them off. -/
theorem composeAt_higherBound_rounds :
    (2 : Int) ≤ 5 ∧
      (∃ reason, composeAt ⟨rounds, []⟩ 5 0 roundsEntry (text "@import b\n@import c\n@import a") none =
        .error (.unread (.ofText (text "/c.md")) reason)) ∧
      IsTooDeep (composeAt ⟨rounds, []⟩ 2 0 roundsEntry roundsCode none) := by
  have hlower : composeAt ⟨rounds, []⟩ 2 0 roundsEntry (text "@import b\n@import c\n@import a") none =
      .error (.unread (.ofText (text "/c.md")) (.system ⟨.noEntry, text "/c.md"⟩)) := by
    decide +kernel
  have hdeep : composeAt ⟨rounds, []⟩ 5 0 roundsEntry roundsCode none =
      .error (.importTooDeep (text "/b.md") 5 5) := by
    decide +kernel
  have hle : (2 : Int) ≤ 5 := by decide
  refine ⟨hle, ⟨.system ⟨.noEntry, text "/c.md"⟩, ?_⟩, ?_⟩
  · rw [(composeAt_higherBound hle ⟨rounds, []⟩ 0 roundsEntry _ none).1, hlower]
    rw [hlower]
    rintro ⟨_, _, _, h⟩
    cases h
  · exact (composeAt_higherBound hle ⟨rounds, []⟩ 0 roundsEntry roundsCode none).2 ⟨_, _, _, hdeep⟩

end DocPress.Composition
