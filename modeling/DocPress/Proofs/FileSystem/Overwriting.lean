import DocPress.Proofs.FileSystem.Reading

namespace DocPress

namespace FileSystem

variable {fs : FileSystem} {l : Location} {old new : Bytes} {x y : Bool}

theorem ne_nil_of_file (h : fs.entryAt l = some (.file old x)) : l ≠ [] := by
  rintro rfl
  cases h

theorem walkNames_put (h : fs.entryAt l = some (.file old x)) (follow : Bool)
    (viaLink : Location → List Text → Except Errno Location) (here : Location) (names : List Text) :
    walkNames (fs.put l (.file new y)) follow viaLink here names =
      walkNames fs follow viaLink here names := by
  induction names generalizing here with
  | nil => rfl
  | cons name rest ih =>
    rw [walkNames, walkNames, ih, ih]
    by_cases hl : here ++ [name] = l
    · have hput : (fs.put l (.file new y)).entryAt (here ++ [name]) = some (.file new y) := by
        rw [entryAt_put fs (ne_nil_of_file h), if_pos hl]
      have hfile : fs.entryAt (here ++ [name]) = some (.file old x) := hl ▸ h
      simp only [hput, hfile]
    · have hput : (fs.put l (.file new y)).entryAt (here ++ [name]) = fs.entryAt (here ++ [name]) := by
        rw [entryAt_put fs (ne_nil_of_file h), if_neg hl]
      simp only [hput, ih]

theorem walk_put (h : fs.entryAt l = some (.file old x)) (follow : Bool) (n : Nat) :
    walk (fs.put l (.file new y)) follow n = walk fs follow n := by
  induction n with
  | zero =>
    funext here names
    exact walkNames_put h follow _ here names
  | succ n ih =>
    funext here names
    rw [walk, ih]
    exact walkNames_put h follow _ here names

theorem find_put (h : fs.entryAt l = some (.file old x)) {here k : Location} {path : Text}
    {follow : Bool} {e : Entry} (hf : fs.find here path follow = .ok (k, e)) :
    (fs.put l (.file new y)).find here path follow =
      .ok (k, if k = l then .file new y else e) := by
  obtain ⟨hk, he⟩ := find_eq_ok_iff_locate.1 hf
  apply find_eq_ok_iff_locate.2
  constructor
  · simp only [locate, walk_put h] at hk ⊢
    exact hk
  · rw [entryAt_put fs (ne_nil_of_file h)]
    split
    · rfl
    · exact he

end FileSystem

namespace Site

variable {s : Site} {l : Location} {old new : Bytes} {x : Bool}

/-- The site with a file written anew. -/
def rewrite (s : Site) (l : Location) (content : Bytes) (executable : Bool) : Site :=
  ⟨s.files.put l (.file content executable), s.here⟩

theorem isStranded_rewrite (h : s.files.entryAt l = some (.file old x)) (executable : Bool)
    (p : Path) (base : Option Path) :
    (s.rewrite l new executable).isStranded p base = s.isStranded p base := by
  have hhere : (s.rewrite l new executable).files.isDirectoryAt s.here =
      s.files.isDirectoryAt s.here := by
    unfold FileSystem.isDirectoryAt
    rw [rewrite, FileSystem.entryAt_put _ (FileSystem.ne_nil_of_file h)]
    split
    · rename_i heq
      simp [heq, h]
    · rfl
  exact congrArg (fun b => base.isNone && !p.isAbsolute && !b) hhere

theorem isDirectory_eq_ok_true_iff {p : Path} :
    s.isDirectory p = .ok true ↔ check p.toText = .ok () ∧
      ∃ k, s.files.find s.here p.toText true = .ok (k, .directory) := by
  constructor
  · intro h
    unfold isDirectory holds entry at h
    cases hc : check p.toText with
    | error fault =>
      cases fault with
      | system refused =>
        simp only [hc, bind, Except.bind] at h
        split at h <;> cases h
      | _ => simp [hc, bind, Except.bind] at h
    | ok =>
      cases hf : s.files.find s.here p.toText true with
      | error e =>
        simp only [hc, hf, refuse, bind, Except.bind] at h
        split at h <;> cases h
      | ok found =>
        obtain ⟨k, e⟩ := found
        have he : e = .directory := by
          simpa [hc, hf, refuse, bind, Except.bind, pure, Except.pure] using h
        exact ⟨rfl, k, by rw [he]⟩
  · rintro ⟨hc, k, hf⟩
    exact isDirectory_of_find hc hf

theorem isDirectory_rewrite (h : s.files.entryAt l = some (.file old x)) {p : Path}
    (hd : s.isDirectory p = .ok true) (executable : Bool) :
    (s.rewrite l new executable).isDirectory p = .ok true := by
  obtain ⟨hc, k, hf⟩ := isDirectory_eq_ok_true_iff.1 hd
  have hk : k ≠ l := by
    rintro rfl
    rw [(FileSystem.find_eq_ok_iff_locate.1 hf).2] at h
    cases h
  have hput : (s.rewrite l new executable).files.find s.here p.toText true =
      .ok (k, if k = l then .file new executable else .directory) := FileSystem.find_put h hf
  rw [if_neg hk] at hput
  exact isDirectory_eq_ok_true_iff.2 ⟨hc, k, hput⟩

/-- What is read at the place of the file is new, all else is as it was. -/
theorem readText_rewrite (h : s.files.entryAt l = some (.file old x)) {p : Path} {code code' : Text}
    {k : Location} {e : Entry} (hf : s.files.find s.here p.toText true = .ok (k, e))
    (hr : s.readText p = .ok code) {executable : Bool}
    (hnew : (Entry.file new executable).text? = some code') :
    (s.rewrite l new executable).readText p = .ok (if k = l then code' else code) := by
  obtain ⟨hc, -⟩ := readText_eq_ok_iff.1 hr
  have he : e.text? = some code := (readText_of_find hc hf).1 hr
  apply readText_eq_ok_iff.2
  refine ⟨hc, k, _, FileSystem.find_put h hf, ?_⟩
  split
  · exact hnew
  · exact he

end Site

end DocPress
