import DocPress.Proofs.Composition.Spelling

namespace DocPress.Composition

variable {s : Site} {file directory : Path} {code line : Text} {base : Option Path} {tree : Part}
  {q : Question}

/-- A question about an absolute path without `..` that is answered as a composition needs it. -/
def Question.IsAnswered (s : Site) : Question → Prop
  | .directory path => path.IsPlain ∧ s.isDirectory path = .ok true
  | .document path => path.IsPlain ∧ ∃ code, s.readText path = .ok code

theorem hasParts_singleton {before after : List Text} {parts : List Part}
    (h : HasParts s directory (before ++ line :: after) parts) :
    ∃ part, HasParts s directory [line] [part] := by
  obtain ⟨_, _, -, -, hline⟩ := hasParts_append h
  cases hline with
  | line hl => exact ⟨_, .line hl .nil⟩
  | imported hl hd hc ht => exact ⟨_, .imported hl hd hc ht .nil⟩

theorem Asks.isAnswered (h : Asks s file code base q) (hp : file.IsPlain)
    (ht : HasTree s file code base tree) : q.IsAnswered s := by
  -- A line that asks is one whose part is known.
  refine @Asks.rec s
    (fun file code base q _ => file.IsPlain → ∀ tree, HasTree s file code base tree → q.IsAnswered s)
    (fun directory line q _ => directory.IsPlain → ∀ part, HasParts s directory [line] [part] →
      q.IsAnswered s) ?directory ?line ?document ?within file code base q h hp tree ht
  case directory =>
    intro file directory code name base _ _ hd hp tree ht
    cases ht with
    | file _ _ hd' =>
      obtain rfl := container_of_isPlain hp hd'
      obtain ⟨hd', his⟩ := container_eq_ok_iff.1 hd'
      cases hd.symm.trans hd'
      exact ⟨hp.parent, his⟩
  case line =>
    intro file directory code name line base before after parts q _ _ hd hs _ _ ih hp tree ht
    cases ht with
    | file _ _ hd' hparts =>
      obtain rfl := Except.ok.inj (hd'.symm.trans hd)
      obtain rfl := container_of_isPlain hp hd
      rw [hs] at hparts
      obtain ⟨part, hpart⟩ := hasParts_singleton hparts
      exact ih hp.parent part hpart
  case document =>
    intro directory document line target hl hd hp part hpart
    have hline : HasParts s directory ([] ++ [line]) [part] := hpart
    obtain ⟨code, tree, hc, -⟩ := hasTree_of_hasParts hline hl hd
    exact ⟨isPlain_of_importedFile hp hd, code, hc⟩
  case within =>
    intro directory document line target code q hl hd hc _ ih hp part hpart
    have hline : HasParts s directory ([] ++ [line]) [part] := hpart
    obtain ⟨code', tree, hc', ht⟩ := hasTree_of_hasParts hline hl hd
    obtain rfl := Except.ok.inj (hc.symm.trans hc')
    exact ih (isPlain_of_importedFile hp hd) tree ht

/-- A document is composed again where the answers that it was composed from are the same. -/
theorem composeFile_of_sameAnswers {files files' : FileSystem} {here here' : Location}
    {document : Text} (hp : file.IsPlain) (h : composeFile ⟨files, here⟩ file = .ok document)
    (hcode : ∀ code, Site.readText ⟨files, here⟩ file = .ok code →
      Site.readText ⟨files', here⟩ file = .ok code)
    (hq : ∀ code q, Site.readText ⟨files, here⟩ file = .ok code →
      Asks ⟨files, here⟩ file code none q → q.IsAnswered ⟨files, here⟩ →
      q.SameAnswer ⟨files, here⟩ ⟨files', here⟩) :
    composeFile ⟨files', here'⟩ file = .ok document := by
  obtain ⟨code, tree, hr, ht, hlinks, rfl⟩ := composeFile_eq_ok_iff.1 h
  have hread : Site.readText ⟨files', here'⟩ file = .ok code := by
    rw [Site.readText_of_isAbsolute hp.isAbsolute files' here' here]
    exact hcode code hr
  have hcompose : compose ⟨files, here⟩ file code none = .ok tree.written :=
    (composeFile_of_readText hr).symm.trans h
  have hagree : Agree ((maxImportDepth : Int) - 0 < maxImportDepth - 0)
      (composeAt ⟨files, here⟩ maxImportDepth 0 file code none)
      (composeAt ⟨files', here'⟩ maxImportDepth 0 file code none) :=
    composeAt_agree hp.isAbsolute fun q hasks => hq code q hr hasks (hasks.isAnswered hp ht)
  rw [composeFile_of_readText hread]
  refine (hagree ?_ fun h => absurd h (Int.lt_irrefl _)).symm.trans hcompose
  have hok : composeAt ⟨files, here⟩ maxImportDepth 0 file code none = .ok tree.written := hcompose
  rw [hok]
  exact not_isTooDeep_ok _

end DocPress.Composition
