import DocPress.Composition

namespace DocPress.Composition

mutual

/-- A file has this tree when its text is `code` and it is looked for from `base`. -/
inductive HasTree (s : Site) : Path → Text → Option Path → Part → Prop
  | file {file : Path} {code : Text} {base : Option Path} {name : Text} {directory : Path}
      {parts : List Part} :
      file.toText.isUnicode = true → displayName file = .ok name →
      container s file base = .ok directory → HasParts s directory (sourceLines code) parts →
      HasTree s file code base (.file name parts)

/-- The lines of a file in `directory` stand for these parts. -/
inductive HasParts (s : Site) : Path → List Text → List Part → Prop
  | nil {directory : Path} : HasParts s directory [] []
  | line {directory : Path} {line : Text} {rest : List Text} {parts : List Part} :
      Text.after? importMarker line = none → HasParts s directory rest parts →
      HasParts s directory (line :: rest) (.line (Annotations.expand line) :: parts)
  | imported {directory document : Path} {line target code : Text} {tree : Part}
      {rest : List Text} {parts : List Part} :
      Text.after? importMarker line = some target →
      importedFile s directory target.trim = .ok document → s.readText document = .ok code →
      HasTree s document code (some directory) tree → HasParts s directory rest parts →
      HasParts s directory (line :: rest) (tree :: parts)

end

/-- The tree of an import's target, read with `remaining` levels left. -/
def importedTree (s : Site) (maximum : Int) (remaining : Nat) (depth : Int) (directory : Path)
    (target : Text) : Except Fault Part := do
  let document ← importedFile s directory target
  treeFrom s maximum remaining (depth + 1) document (← s.readText document) (some directory)

theorem treeFrom_succ (s : Site) (maximum : Int) (remaining : Nat) (depth : Int) (file : Path)
    (code : Text) (base : Option Path) :
    treeFrom s maximum (remaining + 1) depth file code base = (do
      discard (Site.pathText file.toText)
      let name ← displayName file
      let directory ← container s file base
      return .file name (← (sourceLines code).mapM
        (partOf (importedTree s maximum remaining depth directory)))) := rfl

theorem discard_pathText_eq_ok {path : Text} {u : Unit} :
    (discard (Site.pathText path) : Except Fault Unit) = .ok u ↔ path.isUnicode = true := by
  unfold Site.pathText
  split <;> simp_all [discard, Functor.mapConst, Except.map]

theorem mapM_partOf_eq_ok_iff {s : Site} {maximum : Int} {remaining : Nat} {depth : Int}
    (ih : ∀ {depth : Int} {file : Path} {code : Text} {base : Option Path} {tree : Part},
      treeFrom s maximum remaining depth file code base = .ok tree ↔
        HasTree s file code base tree ∧ tree.height ≤ remaining)
    {directory : Path} {lines : List Text} {parts : List Part} :
    lines.mapM (partOf (importedTree s maximum remaining depth directory)) = .ok parts ↔
      HasParts s directory lines parts ∧ Part.greatestHeight parts ≤ remaining := by
  induction lines generalizing parts with
  | nil =>
    constructor
    · intro h
      have hp : parts = [] := by simpa [pure, Except.pure, eq_comm] using h
      subst hp
      exact ⟨.nil, Nat.zero_le _⟩
    · rintro ⟨h, -⟩
      cases h
      rfl
  | cons line rest ihl =>
    rw [List.mapM_cons, bind_eq_ok_iff]
    simp only [bind_eq_ok_iff, ihl]
    constructor
    · rintro ⟨p, hp, ps, ⟨hps, hle⟩, h⟩
      have hparts : p :: ps = parts := by simpa [pure, Except.pure] using h
      subst hparts
      unfold partOf at hp
      split at hp
      · rename_i target ht
        obtain ⟨document, hd, hp⟩ := bind_eq_ok_iff.1 hp
        obtain ⟨code, hc, hp⟩ := bind_eq_ok_iff.1 hp
        obtain ⟨htree, hh⟩ := ih.1 hp
        exact ⟨.imported ht hd hc htree hps, Nat.max_le.2 ⟨hh, hle⟩⟩
      · rename_i ht
        have hl : Part.line (Annotations.expand line) = p := by simpa using hp
        subst hl
        exact ⟨.line ht hps, Nat.max_le.2 ⟨Nat.zero_le _, hle⟩⟩
    · rintro ⟨h, hle⟩
      cases h with
      | line ht hps =>
        exact ⟨_, by simp [partOf, ht], _, ⟨hps, (Nat.max_le.1 hle).2⟩, rfl⟩
      | imported ht hd hc htree hps =>
        refine ⟨_, ?_, _, ⟨hps, (Nat.max_le.1 hle).2⟩, rfl⟩
        simp only [partOf, ht]
        exact bind_eq_ok_iff.2 ⟨_, hd, bind_eq_ok_iff.2 ⟨_, hc, ih.2 ⟨htree, (Nat.max_le.1 hle).1⟩⟩⟩

theorem treeFrom_eq_ok_iff {s : Site} {maximum : Int} {remaining : Nat} {depth : Int} {file : Path}
    {code : Text} {base : Option Path} {tree : Part} :
    treeFrom s maximum remaining depth file code base = .ok tree ↔
      HasTree s file code base tree ∧ tree.height ≤ remaining := by
  induction remaining generalizing depth file code base tree with
  | zero =>
    constructor
    · intro h
      obtain ⟨_, _, h⟩ := bind_eq_ok_iff.1 h
      cases h
    · rintro ⟨⟨⟩, h⟩
      exact absurd h (by simp [Part.height])
  | succ remaining ih =>
    rw [treeFrom_succ]
    simp only [bind_eq_ok_iff, discard_pathText_eq_ok, mapM_partOf_eq_ok_iff ih]
    constructor
    · rintro ⟨_, hu, name, hn, directory, hd, parts, ⟨hp, hle⟩, h⟩
      cases h
      exact ⟨.file hu hn hd hp, Nat.succ_le_succ hle⟩
    · rintro ⟨h, hle⟩
      cases h with
      | file hu hn hd hp =>
        exact ⟨(), hu, _, hn, _, hd, _, ⟨hp, Nat.le_of_succ_le_succ hle⟩, rfl⟩

end DocPress.Composition
