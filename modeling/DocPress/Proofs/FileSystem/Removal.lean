import DocPress.Proofs.FileSystem.Growth

namespace DocPress.FileSystem

variable {fs : FileSystem} {l : Location}

/-- A name that a walk does not pass over, and that does not lead up. -/
def IsProper (name : Text) : Prop := ¬(name = [] ∨ name = Path.dot) ∧ name ≠ Path.dotDot

section Walk

variable {viaLink : Location → List Text → Except Errno Location}

theorem getLast?_of_cons {name first : Text} {rest : List Text} (hr : rest ≠ [])
    (h : (first :: rest).getLast? = some name) : rest.getLast? = some name := by
  rwa [List.getLast?_cons_of_ne_nil hr] at h

theorem walkNames_missing
    (hv : ∀ here names, fs.Open here → viaLink here names = .ok l →
      ∃ name, names.getLast? = some name ∧ IsProper name)
    {here : Location} {names : List Text} (hopen : fs.Open here) (hnone : fs.entryAt l = none)
    (h : walkNames fs false viaLink here names = .ok l) :
    ∃ name, names.getLast? = some name ∧ IsProper name := by
  -- All that the walk goes through is there, so what is missing is its last name.
  fun_induction walkNames fs false viaLink here names with
  | case1 here =>
    cases h
    rw [hopen.entryAt_eq] at hnone
    cases hnone
  | case2 here first rest hskip ih =>
    obtain ⟨name, hlast, hp⟩ := ih hopen h
    exact ⟨name, getLast?_cons_of_some hlast, hp⟩
  | case3 here rest hskip ih =>
    obtain ⟨name, hlast, hp⟩ := ih hopen.dropLast h
    exact ⟨name, getLast?_cons_of_some hlast, hp⟩
  | case4 => cases h
  | case5 here first rest hskip hup hshort there he ih =>
    obtain ⟨name, hlast, hp⟩ := ih (hopen.concat he) h
    exact ⟨name, getLast?_cons_of_some hlast, hp⟩
  | case6 here first rest hskip hup hshort there target he hlast =>
    obtain rfl : here ++ [first] = l := Except.ok.inj h
    rw [he] at hnone
    cases hnone
  | case7 here first rest hskip hup hshort there target he hlast =>
    have hr : rest ≠ [] := fun hr => hlast ⟨hr, rfl⟩
    obtain ⟨name, hname, hp⟩ := hv _ _ (hopen.startOf target) h
    rw [List.getLast?_append_of_ne_nil _ hr] at hname
    exact ⟨name, getLast?_cons_of_some hname, hp⟩
  | case8 here first hskip hup hshort there e _ _ he =>
    obtain rfl : here ++ [first] = l := Except.ok.inj h
    rw [he] at hnone
    cases hnone
  | case9 => cases h
  | case10 here first hskip hup => exact ⟨first, rfl, hskip, hup⟩
  | case11 => cases h

theorem walkNames_proper {name : Text} (hp : IsProper name)
    (hv : ∀ here names, names.getLast? = some name → viaLink here names = .ok l →
      l.getLast? = some name)
    {here : Location} {names : List Text} (hlast : names.getLast? = some name)
    (h : walkNames fs false viaLink here names = .ok l) : l.getLast? = some name := by
  fun_induction walkNames fs false viaLink here names with
  | case1 => cases hlast
  | case2 here first rest hskip ih =>
    refine ih (getLast?_of_cons ?_ hlast) h
    rintro rfl
    cases hlast
    exact hp.1 hskip
  | case3 here rest hskip ih =>
    refine ih (getLast?_of_cons ?_ hlast) h
    rintro rfl
    cases hlast
    exact hp.2 rfl
  | case4 => cases h
  | case5 here first rest hskip hup hshort there he ih =>
    by_cases hr : rest = []
    · subst hr
      cases hlast
      obtain rfl : here ++ [first] = l := Except.ok.inj h
      exact List.getLast?_concat
    · exact ih (getLast?_of_cons hr hlast) h
  | case6 here first rest hskip hup hshort there target he hnofollow =>
    obtain rfl := hnofollow.1
    cases hlast
    obtain rfl : here ++ [first] = l := Except.ok.inj h
    exact List.getLast?_concat
  | case7 here first rest hskip hup hshort there target he hfollow =>
    have hr : rest ≠ [] := fun hr => hfollow ⟨hr, rfl⟩
    refine hv _ _ ?_ h
    rw [List.getLast?_append_of_ne_nil _ hr]
    exact getLast?_of_cons hr hlast
  | case8 here first hskip hup hshort there e =>
    cases hlast
    obtain rfl : here ++ [first] = l := Except.ok.inj h
    exact List.getLast?_concat
  | case9 => cases h
  | case10 here first hskip hup hshort there =>
    cases hlast
    obtain rfl : here ++ [first] = l := Except.ok.inj h
    exact List.getLast?_concat
  | case11 => cases h

theorem walk_missing {n : Nat} {here : Location} {names : List Text} (hopen : fs.Open here)
    (hnone : fs.entryAt l = none) (h : walk fs false n here names = .ok l) :
    ∃ name, names.getLast? = some name ∧ IsProper name := by
  induction n generalizing here names with
  | zero => exact walkNames_missing (fun _ _ _ h => by cases h) hopen hnone h
  | succ n ih => exact walkNames_missing (fun _ _ ho h => ih ho h) hopen hnone h

theorem walk_proper {name : Text} (hp : IsProper name) {n : Nat} {here : Location}
    {names : List Text} (hlast : names.getLast? = some name)
    (h : walk fs false n here names = .ok l) : l.getLast? = some name := by
  induction n generalizing here names with
  | zero => exact walkNames_proper hp (fun _ _ _ h => by cases h) hlast h
  | succ n ih => exact walkNames_proper hp (fun _ _ hl h => ih hl h) hlast h

end Walk

/-- What is left of the names of a path leads to no root where it once led to nothing. -/
theorem ne_nil_of_locate {fs' : FileSystem} {here here' k : Location} {path : Text}
    (hopen : fs.Open here) (hnone : fs.entryAt l = none) (h : fs.locate here path false = .ok l)
    (h' : fs'.locate here' path false = .ok k) : k ≠ [] := by
  have hwalk : ∀ {fs : FileSystem} {here l : Location}, fs.locate here path false = .ok l →
      walk fs false maxLinks (startOf here path) (Text.splitAt Path.slash path) = .ok l := by
    intro fs here l h
    unfold locate at h
    split at h
    · cases h
    · split at h
      · cases h
      · exact h
  obtain ⟨name, hname, hp⟩ := walk_missing (hopen.startOf path) hnone (hwalk h)
  rintro rfl
  exact absurd (walk_proper hp hname (hwalk h')) (by simp)

theorem entryAt_of_erase {k : Location} {e : Entry} (h : (fs.erase l).entryAt k = some e) :
    fs.entryAt k = some e := by
  by_cases hk : k = []
  · subst hk
    exact h
  · rw [entryAt_erase fs l hk] at h
    split at h
    · cases h
    · exact h

/-- Nothing is found any more where a directory was found. -/
theorem find_erase {here : Location} {path : Text} (hl : l ≠ [])
    (h : fs.find here path false = .ok (l, .directory)) (found : Location × Entry) :
    (fs.erase l).find here path false ≠ .ok found := by
  intro hfound
  obtain ⟨k, e⟩ := found
  obtain ⟨hk, he⟩ := find_eq_ok_iff_locate.1 hfound
  have hsame : fs.locate here path false = .ok k :=
    locate_of_added (fun _ _ => entryAt_of_erase) (fun hn => by rw [he] at hn; cases hn) hk
  obtain rfl : k = l := Except.ok.inj (hsame.symm.trans (find_eq_ok_iff_locate.1 h).1)
  rw [entryAt_erase fs k hl, if_pos List.prefix_rfl] at he
  cases he

end DocPress.FileSystem
