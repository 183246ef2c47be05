import DocPress.Proofs.FileSystem.LinkFree
import DocPress.World

namespace DocPress.FileSystem

variable {fs fs' fs'' : FileSystem} {l : Location} {e : Entry}

/-- A name that the system takes. -/
def Takes (name : Text) : Prop := IsName name ∧ Site.check name = .ok ()

/-- Every entry is in a directory, and has a name that the system takes. -/
structure IsTree (fs : FileSystem) : Prop where
  isOpen : ∀ {l e}, fs.entryAt l = some e → fs.Open l.dropLast
  takes : ∀ {l e}, fs.entryAt l = some e → ∀ name ∈ l, Takes name

theorem prefix_dropLast {k l : Location} (h : k <+: l) (hne : k ≠ l) : k <+: l.dropLast := by
  obtain ⟨rest, rfl⟩ := h
  have hrest : rest ≠ [] := fun hr => hne (by simp [hr])
  rw [List.dropLast_append_of_ne_nil hrest]
  exact List.prefix_append k _

theorem IsTree.open_of_prefix (h : fs.IsTree) {k : Location} (he : fs.entryAt l = some e)
    (hk : k <+: l) (hne : k ≠ l) : fs.Open k :=
  fun j hj => h.isOpen he j (hj.trans (prefix_dropLast hk hne))

/-- Below what is no directory there is nothing. -/
theorem IsTree.entryAt_below (h : fs.IsTree) {k : Location} (hl : fs.entryAt l ≠ some .directory)
    (hk : l <+: k) (hne : l ≠ k) : fs.entryAt k = none := by
  cases he : fs.entryAt k with
  | none => rfl
  | some e => exact absurd (h.open_of_prefix he hk hne).entryAt_eq hl

theorem isTree_congr (h : ∀ l, fs'.entryAt l = fs.entryAt l) : fs'.IsTree ↔ fs.IsTree := by
  have hopen : ∀ l, fs'.Open l ↔ fs.Open l := fun l => by simp only [Open, h]
  constructor
  · exact fun ht => ⟨fun he => (hopen _).1 (ht.isOpen ((h _).trans he)),
      fun he => ht.takes ((h _).trans he)⟩
  · exact fun ht => ⟨fun he => (hopen _).2 (ht.isOpen ((h _).symm.trans he)),
      fun he => ht.takes ((h _).symm.trans he)⟩

instance (name : Text) : Decidable (IsName name) :=
  decidable_of_iff (Path.IsComponent name ∧ name ≠ Path.dotDot ∧ CodePoint.ofChar '\x00' ∉ name ∧
      IsShort name)
    ⟨fun ⟨hc, hd, hn, hs⟩ => ⟨hc, hd, hn, hs⟩, fun ⟨hc, hd, hn, hs⟩ => ⟨hc, hd, hn, hs⟩⟩

instance (name : Text) : Decidable (Takes name) :=
  inferInstanceAs (Decidable (IsName name ∧ Site.check name = .ok ()))

theorem isTree_of_forall
    (h : ∀ p ∈ fs.entries, (∀ k ∈ p.1.dropLast.inits, fs.entryAt k = some .directory) ∧
      ∀ name ∈ p.1, Takes name) : fs.IsTree := by
  have hmem : ∀ {l e}, fs.entryAt l = some e → l = [] ∨ (l, e) ∈ fs.entries := by
    intro l e he
    unfold entryAt at he
    split at he
    · exact .inl ‹_›
    · obtain ⟨_, _, hl, -⟩ := List.lookup_eq_some_iff.1 he
      exact .inr (by rw [hl]; simp)
  constructor
  · intro l e he
    rcases hmem he with rfl | hm
    · exact open_nil
    · exact open_of_inits (h _ hm).1
  · intro l e he name hn
    rcases hmem he with rfl | hm
    · cases hn
    · exact (h _ hm).2 name hn

section Walk

variable {follow : Bool} {viaLink viaLink' : Location → List Text → Except Errno Location}

theorem walkNames_last {here : Location} {name : Text} (hskip : ¬(name = [] ∨ name = Path.dot))
    (hup : ¬name = Path.dotDot) (hshort : ¬maxNameBytes < (Text.Utf8.encodeLenient name).length)
    (hlink : ∀ target, fs.entryAt (here ++ [name]) ≠ some (.link target)) :
    walkNames fs follow viaLink here [name] = .ok (here ++ [name]) := by
  rw [walkNames, if_neg hskip, if_neg hup, if_neg hshort]
  cases he : fs.entryAt (here ++ [name]) with
  | none => simp only [he, if_true]
  | some e =>
    cases e with
    | link target => exact absurd he (hlink target)
    | directory => simp only [he, walkNames]
    | file => simp only [he, if_true]
    | sink => simp only [he, if_true]

/-- A walk gets to the same place where there are more entries, as long as that place is no link. -/
theorem walkNames_of_added (hold : ∀ k e, fs.entryAt k = some e → fs'.entryAt k = some e)
    (hnew : fs.entryAt l = none → ∀ target, fs'.entryAt l ≠ some (.link target))
    (hv : ∀ here names, viaLink here names = .ok l → viaLink' here names = .ok l)
    {here : Location} {names : List Text} (h : walkNames fs follow viaLink here names = .ok l) :
    walkNames fs' follow viaLink' here names = .ok l := by
  -- Names that are no directories end a walk, so only the last one can meet a new entry.
  fun_induction walkNames fs follow viaLink here names with
  | case1 here => exact h
  | case2 here name rest hskip ih =>
    rw [walkNames, if_pos hskip]
    exact ih h
  | case3 here rest hskip ih =>
    rw [walkNames, if_neg hskip, if_pos rfl]
    exact ih h
  | case4 => cases h
  | case5 here name rest hskip hup hshort there he ih =>
    have he' : fs'.entryAt (here ++ [name]) = some .directory := hold _ _ he
    rw [walkNames, if_neg hskip, if_neg hup, if_neg hshort]
    simp only [he']
    exact ih h
  | case6 here name rest hskip hup hshort there target he hlast =>
    have he' : fs'.entryAt (here ++ [name]) = some (.link target) := hold _ _ he
    rw [walkNames, if_neg hskip, if_neg hup, if_neg hshort]
    simp only [he', if_pos hlast]
    exact h
  | case7 here name rest hskip hup hshort there target he hlast =>
    have he' : fs'.entryAt (here ++ [name]) = some (.link target) := hold _ _ he
    rw [walkNames, if_neg hskip, if_neg hup, if_neg hshort]
    simp only [he', if_neg hlast]
    exact hv _ _ h
  | case8 here name hskip hup hshort there e _ hlink he =>
    obtain rfl : here ++ [name] = l := Except.ok.inj h
    have he' : fs'.entryAt (here ++ [name]) = some e := hold _ _ he
    refine walkNames_last hskip hup hshort fun target ht => hlink target ?_
    exact Option.some.inj (he'.symm.trans ht)
  | case9 => cases h
  | case10 here name hskip hup hshort there he =>
    -- The walk ends at the entry that was missing, whatever is there now.
    obtain rfl : here ++ [name] = l := Except.ok.inj h
    exact walkNames_last hskip hup hshort (hnew he)
  | case11 => cases h

theorem walk_of_added (hold : ∀ k e, fs.entryAt k = some e → fs'.entryAt k = some e)
    (hnew : fs.entryAt l = none → ∀ target, fs'.entryAt l ≠ some (.link target)) (n : Nat)
    {here : Location} {names : List Text} (h : walk fs follow n here names = .ok l) :
    walk fs' follow n here names = .ok l := by
  induction n generalizing here names with
  | zero => exact walkNames_of_added hold hnew (fun _ _ h => by cases h) h
  | succ n ih => exact walkNames_of_added hold hnew (fun _ _ h => ih h) h

theorem locate_of_added (hold : ∀ k e, fs.entryAt k = some e → fs'.entryAt k = some e)
    (hnew : fs.entryAt l = none → ∀ target, fs'.entryAt l ≠ some (.link target))
    {here : Location} {path : Text} (h : fs.locate here path follow = .ok l) :
    fs'.locate here path follow = .ok l := by
  unfold locate at h ⊢
  by_cases h1 : path = []
  · rw [if_pos h1] at h
    cases h
  rw [if_neg h1] at h ⊢
  by_cases h2 : maxPathBytes < (Text.Utf8.encodeLenient path).length
  · rw [if_pos h2] at h
    cases h
  rw [if_neg h2] at h ⊢
  exact walk_of_added hold hnew _ h

end Walk

/-- Some directories are new, and nothing else has changed. -/
def NewDirectories (before after : FileSystem) : Prop :=
  ∀ l, after.entryAt l = before.entryAt l ∨
    before.entryAt l = none ∧ after.entryAt l = some .directory

theorem newDirectories_refl (fs : FileSystem) : NewDirectories fs fs := fun _ => .inl rfl

theorem NewDirectories.trans (h : NewDirectories fs fs') (h' : NewDirectories fs' fs'') :
    NewDirectories fs fs'' := by
  intro l
  rcases h l with h | ⟨hn, h⟩ <;> rcases h' l with h' | ⟨hn', h'⟩
  · exact .inl (h'.trans h)
  · exact .inr ⟨h.symm.trans hn', h'⟩
  · exact .inr ⟨hn, h'.trans h⟩
  · exact .inr ⟨hn, h'⟩

theorem NewDirectories.file_iff (h : NewDirectories fs fs') (l : Location) (content : Bytes)
    (executable : Bool) : fs'.entryAt l = some (.file content executable) ↔
      fs.entryAt l = some (.file content executable) := by
  rcases h l with h | ⟨hn, hd⟩
  · rw [h]
  · simp [hn, hd]

theorem makeDirectory_eq_ok_iff {here : Location} {path : Text} :
    fs.makeDirectory here path = .ok fs' ↔
      ∃ l, fs.locate here path false = .ok l ∧ fs.entryAt l = none ∧ fs' = fs.put l .directory := by
  rw [makeDirectory, bind_eq_ok_iff]
  refine exists_congr fun l => and_congr_right fun _ => ?_
  cases fs.entryAt l with
  | none => simp [eq_comm]
  | some e => simp

theorem ne_nil_of_none (h : fs.entryAt l = none) : l ≠ [] := by
  rintro rfl
  cases h

theorem newDirectories_put (h : fs.entryAt l = none) : NewDirectories fs (fs.put l .directory) := by
  intro k
  rw [entryAt_put fs (ne_nil_of_none h)]
  by_cases hk : k = l
  · exact .inr ⟨hk ▸ h, if_pos hk⟩
  · exact .inl (if_neg hk)

theorem newDirectories_of_makeDirectory {here : Location} {path : Text}
    (h : fs.makeDirectory here path = .ok fs') : NewDirectories fs fs' := by
  obtain ⟨l, -, hn, rfl⟩ := makeDirectory_eq_ok_iff.1 h
  exact newDirectories_put hn

end DocPress.FileSystem
