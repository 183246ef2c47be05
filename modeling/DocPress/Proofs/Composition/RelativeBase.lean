import DocPress.Proofs.Composition.Relocation
import DocPress.Proofs.FileSystem.Standpoint

namespace DocPress.Composition

open Site (pathOf)

/-- The second path is what the first means from the working directory. -/
structure Denotes (s : Site) (p q : Path) : Prop where
  wellFormed : p.WellFormed
  normalize_eq : p.normalize = p
  eq_absolute : q = Path.absolute (pathOf s.here) p

/-- An import that is relative all the way leads to a document whose directory means the same when
it is said from the importing file's directory once more. -/
structure CountsOnce (s : Site) (directory : Path) (target : Text) : Prop where
  name_ne_nil : (directory.absolute (.ofText target)).name ≠ []
  name_ne_dotDot : (directory.absolute (.ofText target)).name ≠ Path.dotDot
  directory_eq : ∀ document, importedFile s directory target = .ok document →
    Path.absolute (pathOf s.here) (directory.absolute document.parent) =
      Path.absolute (pathOf s.here) document.parent
  fits : ∀ document, importedFile s directory target = .ok document →
    document.Fits ∧ (Path.absolute (pathOf s.here) document).Fits ∧
      (directory.absolute document.parent).Fits

/-- The import is absolute, by its target or by its directory, or its directory counts once. -/
def MeansTheSame (s : Site) (directory : Path) (target : Text) : Prop :=
  (directory.absolute (.ofText target)).isAbsolute = true ∨ CountsOnce s directory target

/-- Two runs compose one file, the second with its directory made absolute. -/
structure SameFile (s : Site) (file base file' base' : Path) : Prop where
  wellFormed : file.WellFormed
  wellFormed_base : base.WellFormed
  isUnicode_iff : file'.toText.isUnicode = true ↔ file.toText.isUnicode = true
  name_eq : file'.name = file.name
  directory_eq : base'.absolute file'.parent =
    Path.absolute (pathOf s.here) (base.absolute file.parent)
  fits : (base.absolute file.parent).Fits
  fits' : (base'.absolute file'.parent).Fits

section Denotes

variable {s : Site} {p q : Path}

theorem Denotes.isUnicode_iff (h : Denotes s p q) (hs : s.WellPlaced)
    (hu : (pathOf s.here).toText.isUnicode = true) :
    q.toText.isUnicode = true ↔ p.toText.isUnicode = true := by
  rw [h.eq_absolute]
  exact Site.isUnicode_absolute_iff hs hu h.normalize_eq

theorem Denotes.isDirectory_alike (h : Denotes s p q) (hs : s.WellPlaced)
    (hu : (pathOf s.here).toText.isUnicode = true) (hp : p.Fits) (hq : q.Fits) :
    Alike Eq (s.isDirectory p) (s.isDirectory q) := by
  obtain ⟨hw, hn, rfl⟩ := h
  unfold Site.isDirectory Site.holds Site.entry
  rw [Site.check_absolute hs hu hn, Site.find_absolute hs hw hn hp hq]
  cases Site.check p.toText with
  | error e => exact alike_refl _
  | ok =>
    cases s.files.find s.here (Path.absolute (pathOf s.here) p).toText true with
    | ok found => exact rfl
    | error e => cases e <;> exact rfl

theorem Denotes.readText_eq_ok_iff (h : Denotes s p q) (hs : s.WellPlaced)
    (hu : (pathOf s.here).toText.isUnicode = true) (hp : p.Fits) (hq : q.Fits) {code : Text} :
    s.readText q = .ok code ↔ s.readText p = .ok code := by
  obtain ⟨hw, hn, rfl⟩ := h
  rw [Site.readText_eq_ok_iff, Site.readText_eq_ok_iff, Site.check_absolute hs hu hn,
    Site.find_absolute hs hw hn hp hq]

theorem Denotes.readText_alike (h : Denotes s p q) (hs : s.WellPlaced)
    (hu : (pathOf s.here).toText.isUnicode = true) (hp : p.Fits) (hq : q.Fits) :
    Alike Eq (s.readText p) (s.readText q) := by
  have hiff : ∀ code, s.readText q = .ok code ↔ s.readText p = .ok code :=
    fun _ => h.readText_eq_ok_iff hs hu hp hq
  cases hread : s.readText p with
  | ok code =>
    rw [(hiff code).2 hread]
    exact rfl
  | error f =>
    cases hread' : s.readText q with
    | ok code =>
      rw [(hiff code).1 hread'] at hread
      cases hread
    | error g =>
      -- The system does not take either path, or neither can be read.
      have hcheck : Site.check q.toText = Site.check p.toText := by
        rw [h.eq_absolute]
        exact Site.check_absolute hs hu h.normalize_eq
      cases hc : Site.check p.toText with
      | error e =>
        rw [hc] at hcheck
        cases hread.symm.trans (Site.readText_of_check_eq_error hc)
        cases hread'.symm.trans (Site.readText_of_check_eq_error hcheck)
        exact .refl _
      | ok =>
        rw [hc] at hcheck
        obtain ⟨_, rfl⟩ := Site.exists_unread_of_readText hc hread
        obtain ⟨_, rfl⟩ := Site.exists_unread_of_readText hcheck hread'
        exact rfl

theorem Denotes.withSuffix? (h : Denotes s p q) (hd : p.name ≠ Path.dotDot) {document : Path}
    (hdoc : p.withSuffix? documentSuffix = some document) :
    ∃ document', q.withSuffix? documentSuffix = some document' ∧ Denotes s document document' := by
  have hlong : 3 < document.name.length := Path.length_name_of_withSuffix? hdoc
  have hname : document.name ≠ [] := by
    intro he
    simp [he] at hlong
  have hdots : document.name ≠ Path.dotDot := by
    intro he
    rw [he] at hlong
    exact absurd hlong (by decide)
  have hnormalize : document.normalize = document := by
    rw [Path.normalize_eq_iff_parent hname hdots, Path.parent_of_withSuffix? hdoc]
    exact (Path.normalize_eq_iff_parent (Path.withSuffix?_eq_some.1 hdoc).1 hd).1 h.normalize_eq
  have hwell : document.WellFormed := h.wellFormed.withSuffix? hdoc (by decide) (by decide)
  refine ⟨Path.absolute (pathOf s.here) document, ?_, hwell, hnormalize, rfl⟩
  rw [h.eq_absolute]
  exact Path.withSuffix?_absolute hd hdots hdoc _

theorem absolute_alike (hs : s.WellPlaced) (hu : (pathOf s.here).toText.isUnicode = true)
    {base p' base' : Path} (hp : p.WellFormed) (hb : base.WellFormed)
    (h : base'.absolute p' = Path.absolute (pathOf s.here) (base.absolute p)) :
    Alike (Denotes s) (s.absolute p (some base)) (s.absolute p' (some base')) := by
  have hdenotes : Denotes s (base.absolute p) (base'.absolute p') :=
    ⟨hb.absolute hp, Path.normalize_absolute _ _, h⟩
  have hiff := hdenotes.isUnicode_iff hs hu
  simp only [Site.absolute_some, Site.pathText]
  by_cases hunicode : (base.absolute p).toText.isUnicode = true
  · simp only [if_pos hunicode, if_pos (hiff.2 hunicode)]
    exact hdenotes
  · simp only [if_neg hunicode, if_neg (mt hiff.1 hunicode)]
    exact rfl

theorem displayName_alike {file file' : Path} (h : file'.name = file.name) :
    Alike Eq (displayName file) (displayName file') := by
  unfold displayName
  rw [h]
  split
  · exact rfl
  · exact alike_refl _

end Denotes

section Runs

variable {s : Site} {file base file' base' directory directory' : Path}

theorem SameFile.container_alike (h : SameFile s file base file' base') (hs : s.WellPlaced)
    (hu : (pathOf s.here).toText.isUnicode = true) :
    Alike (Denotes s) (container s file (some base)) (container s file' (some base')) := by
  refine Alike.bind (absolute_alike hs hu h.wellFormed.parent h.wellFormed_base h.directory_eq)
    fun directory directory' hd hd' hdenotes => ?_
  obtain rfl := (siteAbsolute_eq_ok_iff.1 hd).2
  obtain rfl := (siteAbsolute_eq_ok_iff.1 hd').2
  refine Alike.bind (hdenotes.isDirectory_alike hs hu h.fits h.fits') fun there _ _ _ hthere => ?_
  subst hthere
  cases there with
  | true => exact hdenotes
  | false => exact rfl

/-- From either directory an import means the same path. -/
theorem Denotes.absolute_eq (h : Denotes s directory directory') (p : Path) :
    directory'.absolute p = Path.absolute (pathOf s.here) (directory.absolute p) := by
  have htop := Site.isAbsolute_pathOf s.here
  rw [h.eq_absolute, Path.absolute_absolute htop]
  exact Path.absolute_normalize _ p

theorem importedFile_alike_of_countsOnce (h : Denotes s directory directory')
    (hs : s.WellPlaced) (hu : (pathOf s.here).toText.isUnicode = true) {target : Text}
    (hne : target ≠ []) (hcounts : CountsOnce s directory target) :
    Alike (Denotes s) (importedFile s directory target) (importedFile s directory' target) := by
  unfold importedFile
  rw [if_neg hne, if_neg hne]
  refine Alike.bind (absolute_alike hs hu (Path.wellFormed_ofText target) h.wellFormed
    (h.absolute_eq _)) fun p p' hp hp' hdenotes => ?_
  obtain rfl := (siteAbsolute_eq_ok_iff.1 hp).2
  obtain ⟨document, hdoc⟩ : ∃ document, (directory.absolute (.ofText target)).withSuffix?
      documentSuffix = some document := ⟨_, if_neg hcounts.name_ne_nil⟩
  obtain ⟨document', hdoc', hdocument⟩ := hdenotes.withSuffix? hcounts.name_ne_dotDot hdoc
  simp only [hdoc, hdoc']
  exact hdocument

/-- An imported file that is one in both runs, if its directory counts once. -/
theorem CountsOnce.sameFile (h : Denotes s directory directory') (hs : s.WellPlaced)
    (hu : (pathOf s.here).toText.isUnicode = true) {target : Text}
    (hcounts : CountsOnce s directory target) {document document' : Path}
    (hd : importedFile s directory target = .ok document)
    (hdocument : Denotes s document document') :
    SameFile s document directory document' directory' := by
  have hlong : 3 < document.name.length :=
    Path.length_name_of_withSuffix? (importedFile_eq_ok_iff.1 hd).2.2
  have hname : document.name ≠ [] := by
    intro he
    simp [he] at hlong
  have hdots : document.name ≠ Path.dotDot := by
    intro he
    rw [he] at hlong
    exact absurd hlong (by decide)
  have hparent : document'.parent = Path.absolute (pathOf s.here) document.parent := by
    rw [hdocument.eq_absolute, Path.parent_absolute hname hdots]
  have hdirectory : directory'.absolute document'.parent = document'.parent := by
    have habsolute : document'.parent.isAbsolute = true := by
      rw [hparent]
      exact Path.isAbsolute_absolute (Site.isAbsolute_pathOf _) _
    rw [Path.absolute_of_isAbsolute _ habsolute, hparent, Path.normalize_absolute]
  obtain ⟨-, hfits, hfitsDirectory⟩ := hcounts.fits document hd
  refine ⟨hdocument.wellFormed, h.wellFormed, hdocument.isUnicode_iff hs hu, ?_, ?_,
    hfitsDirectory, ?_⟩
  · rw [hdocument.eq_absolute, Path.name_absolute hname hdots]
  · rw [hdirectory, hparent, hcounts.directory_eq document hd]
  · rw [hdirectory, hdocument.eq_absolute]
    refine Path.Fits.parent ?_ hfits
    rw [Path.name_absolute hname hdots]
    exact hname

theorem treeFrom_of_isAbsolute (ha : file.isAbsolute = true) (maximum : Int) (levels : Nat)
    (depth : Int) (code : Text) (base base' : Option Path) :
    treeFrom s maximum levels depth file code base =
      treeFrom s maximum levels depth file code base' := by
  have hp : file.parent.isAbsolute = true := ha
  cases levels with
  | zero => rfl
  | succ levels =>
    rw [treeFrom_succ, treeFrom_succ]
    simp only [container, siteAbsolute_congr hp s s base base']

theorem importedTree_alike_of_isAbsolute (h : Denotes s directory directory') {target : Text}
    (hne : target ≠ []) (ha : (directory.absolute (.ofText target)).isAbsolute = true)
    (maximum : Int) (levels : Nat) (depth : Int) :
    Alike Eq (importedTree s maximum levels depth directory target)
      (importedTree s maximum levels depth directory' target) := by
  have hsame : directory'.absolute (.ofText target) = directory.absolute (.ofText target) := by
    rw [h.absolute_eq, Path.absolute_of_isAbsolute _ ha, Path.normalize_absolute]
  have himported : importedFile s directory' target = importedFile s directory target := by
    unfold importedFile
    simp only [if_neg hne, Site.absolute_some, hsame]
  unfold importedTree
  rw [himported]
  refine Alike.bind (alike_refl _) fun document _ hd _ hdoc => ?_
  subst hdoc
  refine Alike.bind (alike_refl _) fun code _ _ _ hcode => ?_
  subst hcode
  have hdocument : document.isAbsolute = true := by
    rw [(Path.withSuffix?_eq_some.1 (importedFile_eq_ok_iff.1 hd).2.2).2]
    exact ha
  rw [treeFrom_of_isAbsolute hdocument maximum levels _ code (some directory) (some directory')]
  exact alike_refl _

theorem treeFrom_relativeBase (hs : s.WellPlaced) (hu : (pathOf s.here).toText.isUnicode = true)
    (maximum : Int) {levels : Nat} {depth : Int} {code : Text}
    (h : SameFile s file base file' base')
    (hall : EachImport s (MeansTheSame s) levels file code (some base)) :
    Alike Eq (treeFrom s maximum levels depth file code (some base))
      (treeFrom s maximum levels depth file' code (some base')) := by
  by_cases hunicode : file.toText.isUnicode = true
  case neg =>
    rw [treeFrom_of_not_isUnicode hunicode, treeFrom_of_not_isUnicode (mt h.isUnicode_iff.1 hunicode)]
    exact rfl
  induction levels generalizing depth file base file' base' code with
  | zero =>
    obtain ⟨_, _, _, he⟩ := treeFrom_zero_of_isUnicode hunicode s maximum depth code (some base)
    obtain ⟨_, _, _, he'⟩ := treeFrom_zero_of_isUnicode (h.isUnicode_iff.2 hunicode) s maximum depth
      code (some base')
    rw [he, he']
    exact rfl
  | succ levels ih =>
    rw [treeFrom_succ, treeFrom_succ, pathText_of_isUnicode hunicode,
      pathText_of_isUnicode (h.isUnicode_iff.2 hunicode)]
    change Alike Eq (displayName file >>= _) (displayName file' >>= _)
    refine Alike.bind (displayName_alike h.name_eq) fun name _ hname _ hsame => ?_
    subst hsame
    refine Alike.bind (h.container_alike hs hu) fun directory directory' hd _ hdenotes => ?_
    refine Alike.bind (Alike.mapM fun before line after parts hlines hparts => ?_)
      fun parts parts' _ _ hp => hp ▸ alike_refl _
    have hb : Begins s file (some base) directory := by
      obtain rfl := (displayName_eq_ok_iff.1 hname).2.2.2
      exact ⟨hunicode, hname, hd⟩
    have hcome : ComesTo s levels directory (sourceLines code) line :=
      ⟨before, after, parts, hlines, (mapM_partOf_eq_ok_iff treeFrom_eq_ok_iff).1 hparts⟩
    unfold partOf
    cases ht : Text.after? importMarker line with
    | none => exact alike_refl _
    | some target =>
      by_cases hne : target.trim = []
      · simp only [hne]
        exact rfl
      -- A relative import means the same in both runs only where its directory counts once.
      rcases hall _ line target (.self hb) hcome ht hne with ha | hcounts
      · exact importedTree_alike_of_isAbsolute hdenotes hne ha maximum levels depth
      · refine Alike.bind (importedFile_alike_of_countsOnce hdenotes hs hu hne hcounts)
          fun document document' hdoc _ hdocument => ?_
        obtain ⟨hfits, hfits', -⟩ := hcounts.fits document hdoc
        rw [← hdocument.eq_absolute] at hfits'
        refine Alike.bind (hdocument.readText_alike hs hu hfits hfits') fun code' _ hc _ hcode => ?_
        subst hcode
        refine ih (hcounts.sameFile hdenotes hs hu hdoc hdocument) (fun v line' target' hv => ?_)
          (isUnicode_of_importedFile hdoc)
        exact hall v line' target' (.imported hb hcome ht hdoc hc hv)

/-- Composing from a relative base gives the same document as from its absolute form, or a fault of
the same kind, where each import that is relative all the way counts its directory once: said from
the importing file's directory and from the working directory, it is the same. -/
theorem composeAt_relativeBase (hs : s.WellPlaced)
    (hu : (pathOf s.here).toText.isUnicode = true) (hfile : file.WellFormed)
    (hbase : base.WellFormed) (hfits : (base.absolute file.parent).Fits)
    (hfits' : (((pathOf s.here).join base).absolute file.parent).Fits) (maximum depth : Int)
    {code : Text}
    (hall : EachImport s (MeansTheSame s) (maximum - depth).toNat file code (some base)) :
    (∃ document, composeAt s maximum depth file code (some base) = .ok document ∧
      composeAt s maximum depth file code (some ((pathOf s.here).join base)) = .ok document) ∨
    ∃ f g, composeAt s maximum depth file code (some base) = .error f ∧
      composeAt s maximum depth file code (some ((pathOf s.here).join base)) = .error g ∧
      f.SameKind g := by
  have hsame : SameFile s file base file ((pathOf s.here).join base) :=
    ⟨hfile, hbase, Iff.rfl, rfl,
      (Path.absolute_absolute (Site.isAbsolute_pathOf s.here) base file.parent).symm, hfits, hfits'⟩
  exact ((treeFrom_relativeBase hs hu maximum hsame hall).map Part.written).same_or_error

end Runs

/-- A document in the working directory that imports one from elsewhere, by its absolute path. -/
def handbook : Site where
  files := ⟨[([text "w"], .directory), ([text "w", text "docs"], .directory),
    ([text "w", text "a.md"], .file (Text.Utf8.encodeLenient (text "@import /w/docs/part")) false),
    ([text "w", text "docs", text "part.md"], .file (Text.Utf8.encodeLenient (text "x")) false)]⟩
  here := [text "w"]

def handbookEntry : Path := .ofText (text "start.md")

def handbookBase : Path := .ofText (text "docs/..")

theorem wellPlaced_handbook : handbook.WellPlaced := by
  constructor
  · exact FileSystem.open_of_inits (by decide +kernel)
  · intro name hn
    obtain rfl := List.mem_singleton.1 hn
    exact ⟨⟨by decide, by decide, by decide⟩, by decide, by decide, by decide⟩

/-- The import of `a` counts the working directory once, and the next one is absolute. -/
theorem meansTheSame_handbook :
    EachImport handbook (MeansTheSame handbook) 3 handbookEntry (text "@import a")
      (some handbookBase) := by
  have hb : Begins handbook handbookEntry (some handbookBase) ⟨.relative, []⟩ :=
    ⟨by decide, eq_ok_of_toOption (by decide +kernel), eq_ok_of_toOption (by decide +kernel)⟩
  have hb' : Begins handbook (.ofText (text "a.md")) (some ⟨.relative, []⟩) ⟨.relative, []⟩ :=
    ⟨by decide, eq_ok_of_toOption (by decide +kernel), eq_ok_of_toOption (by decide +kernel)⟩
  have hdoc : importedFile handbook ⟨.relative, []⟩ (text "a").trim = .ok (.ofText (text "a.md")) :=
    eq_ok_of_toOption (by decide +kernel)
  have hread : handbook.readText (.ofText (text "a.md")) = .ok (text "@import /w/docs/part") :=
    eq_ok_of_toOption (by decide +kernel)
  refine eachImport_of_lines hb fun line hline target ht => ?_
  obtain rfl : line = text "@import a" := by
    have hlines : sourceLines (text "@import a") = [text "@import a"] := by decide +kernel
    rwa [hlines, List.mem_singleton] at hline
  obtain rfl : text "a" = target := by
    have htarget : Text.after? importMarker (text "@import a") = some (text "a") := by decide
    exact Option.some.inj (htarget.symm.trans ht)
  refine ⟨.inr ⟨by decide +kernel, by decide +kernel, ?_, ?_⟩, ?_⟩
  · intro document hd
    cases hdoc.symm.trans hd
    decide +kernel
  · intro document hd
    cases hdoc.symm.trans hd
    decide +kernel
  · intro document code hd hc
    cases hdoc.symm.trans hd
    cases hread.symm.trans hc
    refine eachImport_of_lines hb' fun line hline target ht => ?_
    obtain rfl : line = text "@import /w/docs/part" := by
      have hlines : sourceLines (text "@import /w/docs/part") = [text "@import /w/docs/part"] := by
        decide +kernel
      rwa [hlines, List.mem_singleton] at hline
    obtain rfl : text "/w/docs/part" = target := by
      have htarget : Text.after? importMarker (text "@import /w/docs/part") =
          some (text "/w/docs/part") := by decide
      exact Option.some.inj (htarget.symm.trans ht)
    have hpart : handbook.readText (.ofText (text "/w/docs/part.md")) = .ok (text "x") :=
      eq_ok_of_toOption (by decide +kernel)
    refine ⟨.inl (by decide +kernel), fun document code hd hc => ?_⟩
    have hdoc' : importedFile handbook ⟨.relative, []⟩ (text "/w/docs/part").trim =
        .ok (.ofText (text "/w/docs/part.md")) := eq_ok_of_toOption (by decide +kernel)
    cases hdoc'.symm.trans hd
    cases hpart.symm.trans hc
    exact eachImport_of_noImports (by decide +kernel)

theorem composeAt_relativeBase_handbook :
    handbook.WellPlaced ∧ (pathOf handbook.here).toText.isUnicode = true ∧
      handbookEntry.WellFormed ∧ handbookBase.WellFormed ∧
      (handbookBase.absolute handbookEntry.parent).Fits ∧
      (((pathOf handbook.here).join handbookBase).absolute handbookEntry.parent).Fits ∧
      EachImport handbook (MeansTheSame handbook) 3 handbookEntry (text "@import a")
        (some handbookBase) ∧
      composeAt handbook 3 0 handbookEntry (text "@import a")
          (some (.ofText (text "/w/docs/.."))) =
        .ok (block (text "start.md") [block (text "a.md") [block (text "part.md") [text "x"]]]) := by
  have hu : (pathOf handbook.here).toText.isUnicode = true := by decide
  have hfile : handbookEntry.WellFormed := Path.wellFormed_ofText _
  have hbase : handbookBase.WellFormed := Path.wellFormed_ofText _
  have hfits : (handbookBase.absolute handbookEntry.parent).Fits := by decide +kernel
  have hfits' : (((pathOf handbook.here).join handbookBase).absolute handbookEntry.parent).Fits := by
    decide +kernel
  have hrun : composeAt handbook 3 0 handbookEntry (text "@import a") (some handbookBase) =
      .ok (block (text "start.md") [block (text "a.md") [block (text "part.md") [text "x"]]]) :=
    eq_ok_of_toOption (by decide +kernel)
  refine ⟨wellPlaced_handbook, hu, hfile, hbase, hfits, hfits', meansTheSame_handbook, ?_⟩
  rcases composeAt_relativeBase wellPlaced_handbook hu hfile hbase hfits hfits' 3 0
    meansTheSame_handbook with ⟨document, hrelative, habsolute⟩ | ⟨f, g, hrelative, -⟩
  · rw [Except.ok.inj (hrun.symm.trans hrelative)]
    exact habsolute
  · cases hrun.symm.trans hrelative

/-- From the base `docs` the import of a document in it looks for a directory `docs/docs`. -/
theorem composeAt_countsTwice :
    handbook.isDirectory (.ofText (text "docs")) = .ok true ∧
      composeAt handbook 3 0 handbookEntry (text "@import part") (some (.ofText (text "docs"))) =
        .error (.noDirectory (.ofText (text "docs/docs"))) ∧
      composeAt handbook 3 0 handbookEntry (text "@import part")
          (some ((pathOf handbook.here).join (.ofText (text "docs")))) =
        .ok (block (text "start.md") [block (text "part.md") [text "x"]]) :=
  ⟨eq_ok_of_toOption (by decide +kernel), by decide +kernel,
    eq_ok_of_toOption (by decide +kernel)⟩

end DocPress.Composition
