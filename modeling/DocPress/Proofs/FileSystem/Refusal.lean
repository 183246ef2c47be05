import DocPress.Proofs.FileSystem.Reading

namespace DocPress

namespace FileSystem

/-- What a walk is refused for: there is nothing usable under a name, or a name is too long. -/
def IsRefusal (e : Errno) : Prop := e.meansAbsent = true ∨ e = .nameTooLong

variable {fs : FileSystem} {follow : Bool}

theorem isRefusal_of_walkNames {viaLink : Location → List Text → Except Errno Location}
    (hv : ∀ {here : Location} {names : List Text} {e : Errno},
      viaLink here names = .error e → IsRefusal e)
    {here : Location} {names : List Text} {e : Errno}
    (h : walkNames fs follow viaLink here names = .error e) : IsRefusal e := by
  fun_induction walkNames fs follow viaLink here names with
  | case1 => cases h
  | case2 here name rest hskip ih => exact ih h
  | case3 here rest hskip ih => exact ih h
  | case4 =>
    cases h
    exact .inr rfl
  | case5 here name rest hskip hup hshort there he ih => exact ih h
  | case6 => cases h
  | case7 => exact hv h
  | case8 => cases h
  | case9 =>
    -- Past a name that is no directory there is only the end of the walk.
    cases h
    exact .inl rfl
  | case10 => cases h
  | case11 =>
    cases h
    exact .inl rfl

theorem isRefusal_of_walk {n : Nat} {here : Location} {names : List Text} {e : Errno}
    (h : walk fs follow n here names = .error e) : IsRefusal e := by
  induction n generalizing here names e with
  | zero =>
    apply isRefusal_of_walkNames _ h
    intro _ _ _ he
    cases he
    exact .inl rfl
  | succ n ih => exact isRefusal_of_walkNames ih h

/-- Only a name that is too long is refused as one, where no link brings in others. -/
theorem exists_long_of_walkNames (hfree : fs.LinkFree)
    {viaLink : Location → List Text → Except Errno Location} {here : Location} {names : List Text}
    (h : walkNames fs follow viaLink here names = .error .nameTooLong) :
    ∃ name ∈ names, ¬IsShort name := by
  have hlater : ∀ {name : Text} {rest : List Text}, (∃ n ∈ rest, ¬IsShort n) →
      ∃ n ∈ name :: rest, ¬IsShort n :=
    fun ⟨n, hn, hlong⟩ => ⟨n, List.mem_cons_of_mem _ hn, hlong⟩
  fun_induction walkNames fs follow viaLink here names with
  | case1 => cases h
  | case2 here name rest hskip ih => exact hlater (ih h)
  | case3 here rest hskip ih => exact hlater (ih h)
  | case4 here name rest hskip hup hlong =>
    exact ⟨name, List.mem_cons_self, Nat.not_le.2 hlong⟩
  | case5 here name rest hskip hup hshort there he ih => exact hlater (ih h)
  | case6 here name rest hskip hup hshort there target he => exact absurd he (hfree _ target)
  | case7 here name rest hskip hup hshort there target he => exact absurd he (hfree _ target)
  | case8 => cases h
  | case9 => cases h
  | case10 => cases h
  | case11 => cases h

theorem isLong_of_find (hfree : fs.LinkFree) {here : Location} {p : Path} (hp : p.IsPlain)
    (h : fs.find here p.toText follow = .error .nameTooLong) :
    ¬p.Fits ∨ ∃ name ∈ p.parts, ¬IsShort name := by
  rcases bind_eq_error_iff.1 h with hl | ⟨l, -, hl⟩
  · rw [locate_toText hp.wellFormed] at hl
    split at hl
    · exact .inr (exists_long_of_walkNames hfree hl)
    · exact .inl ‹_›
  · split at hl <;> cases hl

theorem isRefusal_of_find {here : Location} {path : Text} {e : Errno}
    (h : fs.find here path follow = .error e) : IsRefusal e := by
  rcases bind_eq_error_iff.1 h with hl | ⟨l, -, hl⟩
  · unfold locate at hl
    split at hl
    · cases hl
      exact .inl rfl
    · split at hl
      · cases hl
        exact .inr rfl
      · exact isRefusal_of_walk hl
  · split at hl
    · cases hl
    · cases hl
      exact .inl rfl

end FileSystem

namespace Site

variable {s : Site} {p : Path} {fault : Fault}

theorem entry_eq_error_system {path : Text} {e : SystemFault}
    (h : s.entry path = .error (.system e)) :
    e.path = path ∧ s.files.find s.here path true = .error e.errno := by
  unfold entry at h
  rcases bind_eq_error_iff.1 h with hc | ⟨_, -, h⟩
  · unfold check at hc
    split at hc
    · cases hc
    · split at hc <;> cases hc
  rcases bind_eq_error_iff.1 h with hr | ⟨_, -, h⟩
  · cases hf : s.files.find s.here path true with
    | ok found =>
      rw [hf] at hr
      cases hr
    | error e' =>
      rw [hf] at hr
      cases hr
      exact ⟨rfl, rfl⟩
  · cases h

/-- What is at a path can always be said, unless the path is too long. -/
theorem find_of_holds_eq_error {accepts : Entry → Bool} {path : Text}
    (h : s.holds accepts path = .error fault) :
    fault = .system ⟨.nameTooLong, path⟩ ∧ s.files.find s.here path true = .error .nameTooLong := by
  unfold holds at h
  cases he : s.entry path with
  | ok e =>
    rw [he] at h
    cases h
  | error f =>
    rw [he] at h
    cases f with
    | system e =>
      obtain ⟨errno, path'⟩ := e
      obtain ⟨hp, hf⟩ := entry_eq_error_system he
      obtain rfl : path' = path := hp
      simp only at h
      split at h
      · cases h
      · rename_i hn
        obtain rfl : errno = .nameTooLong := (FileSystem.isRefusal_of_find hf).resolve_left hn
        exact ⟨(Except.error.inj h).symm, hf⟩
    | _ => cases h

theorem isDirectory_eq_error (h : s.isDirectory p = .error fault) :
    fault = .system ⟨.nameTooLong, p.toText⟩ :=
  (find_of_holds_eq_error h).1

theorem isFile_eq_error (h : s.isFile p = .error fault) :
    fault = .system ⟨.nameTooLong, p.toText⟩ :=
  (find_of_holds_eq_error h).1

theorem isLong_of_isDirectory (hfree : s.files.LinkFree) (hp : p.IsPlain)
    (h : s.isDirectory p = .error fault) :
    ¬p.Fits ∨ ∃ name ∈ p.parts, ¬FileSystem.IsShort name :=
  FileSystem.isLong_of_find hfree hp (find_of_holds_eq_error h).2

/-- A document whose path is valid Unicode is unread for a reason, or has a NUL in its path. -/
theorem readText_eq_error (hu : p.toText.isUnicode = true) (h : s.readText p = .error fault) :
    (∃ reason, fault = .unread p reason) ∨
      fault = .badValue ∧ CodePoint.ofChar '\x00' ∈ p.toText := by
  by_cases hn : CodePoint.ofChar '\x00' ∈ p.toText
  · right
    have hc : check p.toText = .error .badValue := if_pos hn
    rw [readText_of_check_eq_error hc] at h
    exact ⟨(Except.error.inj h).symm, hn⟩
  · exact .inl (exists_unread_of_readText (check_of_isUnicode hu hn) h)

end Site

end DocPress
