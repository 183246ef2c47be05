import DocPress.Proofs.Composition.Visits
import DocPress.Proofs.FileSystem.Overwriting
import DocPress.Proofs.Text.Search

namespace DocPress.Composition

section Import

theorem exists_toText_eq_append_name {p : Path} (ha : p.isAbsolute = true) (hn : p.name ≠ []) :
    ∃ before, p.toText = before ++ p.name := by
  by_cases hi : p.parent.parts = []
  · rw [Path.toText_of_isAbsolute ha, Path.parts_eq_of_name_ne_nil hn, hi, List.nil_append,
      Text.join_singleton]
    exact ⟨_, rfl⟩
  · exact ⟨p.parent.toText ++ [Path.slash], by
      rw [Path.toText_eq_append_name hn hi, List.append_assoc, List.singleton_append]⟩

/-- The path of a document as the target of an import, which no blank begins or ends. -/
theorem trim_toText {p : Path} {stem : Text} (ha : p.isAbsolute = true)
    (hname : p.name = stem ++ documentSuffix) : p.toText.trim = p.toText := by
  have hn : p.name ≠ [] := by
    rw [hname]
    exact List.append_ne_nil_of_right_ne_nil _ (by decide)
  obtain ⟨before, htext⟩ := exists_toText_eq_append_name ha hn
  have hslash : Path.slash.isBlank = false := by decide
  have hend : documentSuffix.getLast? = some (CodePoint.ofChar 'd') := by decide
  have hletter : (CodePoint.ofChar 'd').isBlank = false := by decide
  apply Text.trim_eq_self
  · rw [Path.head?_toText ha]
    rintro c ⟨⟩
    exact hslash
  · rw [htext, hname, List.getLast?_append, List.getLast?_append, hend]
    rintro c ⟨⟩
    exact hletter

theorem importedFile_toText {s : Site} {directory document : Path} {target : Text}
    (hp : directory.IsPlain) (h : importedFile s directory target = .ok document) (s' : Site)
    (directory' : Path) : importedFile s' directory' document.toText.trim = .ok document := by
  have hplain : document.IsPlain := isPlain_of_importedFile hp h
  obtain ⟨-, hu, hd⟩ := importedFile_eq_ok_iff.1 h
  have hname := Path.name_of_withSuffix? hd
  have hstem := Path.splitSuffix_fst_ne_nil (Path.withSuffix?_eq_some.1 hd).1
  have habsolute : directory'.absolute (.ofText document.toText) = document := by
    rw [Path.ofText_toText hplain.wellFormed hplain.isAbsolute,
      Path.absolute_of_isAbsolute _ hplain.isAbsolute, hplain.normalize_eq]
  rw [trim_toText hplain.isAbsolute hname, importedFile_eq_ok_iff, habsolute]
  refine ⟨Path.toText_ne_nil hplain.wellFormed, ?_, ?_⟩
  · exact Path.isUnicode_of_withSuffix? hd (by decide) hu
  · exact Path.withSuffix?_of_suffix hname hstem (by decide) (by decide)

theorem parts_importedFile {s s' : Site} {directory directory' document document' : Path}
    {target : Text} (ha : directory.isAbsolute = true) (ha' : directory'.isAbsolute = true)
    (hparts : directory.parts = directory'.parts)
    (h : importedFile s directory target = .ok document)
    (h' : importedFile s' directory' target = .ok document') : document.parts = document'.parts := by
  have habsolute : (directory.absolute (.ofText target)).parts =
      (directory'.absolute (.ofText target)).parts := by
    by_cases ht : (Path.ofText target).isAbsolute = true
    · rw [Path.absolute_of_isAbsolute _ ht, Path.absolute_of_isAbsolute _ ht]
    · have hroot : ∀ d : Path, d.isAbsolute = true → (d.absolute (.ofText target)).parts =
          ((d.parts ++ (Path.ofText target).parts).foldl (Path.push true) []).reverse := by
        intro d hd
        rw [Path.absolute, Path.join, if_neg ht, Path.normalize]
        exact congrArg (fun b => (List.foldl (Path.push b) [] _).reverse) hd
      rw [hroot _ ha, hroot _ ha', hparts]
  obtain ⟨-, rfl⟩ := Path.withSuffix?_eq_some.1 (importedFile_eq_ok_iff.1 h).2.2
  obtain ⟨-, rfl⟩ := Path.withSuffix?_eq_some.1 (importedFile_eq_ok_iff.1 h').2.2
  simp only [Path.name, habsolute]

theorem Resolves.isPlain {s : Site} {directory document : Path} {target code : Text}
    (h : Resolves s directory target document code) (hp : directory.IsPlain) : document.IsPlain :=
  isPlain_of_importedFile hp (resolves_iff.1 h).1

theorem Resolves.textAt_eq {s : Site} (hfree : s.files.LinkFree) {directory document : Path}
    {target code : Text} (h : Resolves s directory target document code) (hp : directory.IsPlain) :
    s.files.textAt document.parts = some code :=
  textAt_of_readText hfree (h.isPlain hp) h.isRead

theorem Resolves.same {s : Site} (hfree : s.files.LinkFree)
    {directory directory' document document' : Path} {target code code' : Text}
    (h : Resolves s directory target document code)
    (h' : Resolves s directory' target document' code') (hp : directory.IsPlain)
    (hp' : directory'.IsPlain) (hparts : directory.parts = directory'.parts) :
    document.parts = document'.parts ∧ code = code' := by
  have hsame : document.parts = document'.parts :=
    parts_importedFile hp.isAbsolute hp'.isAbsolute hparts (resolves_iff.1 h).1 (resolves_iff.1 h').1
  have htext := h.textAt_eq hfree hp
  rw [hsame] at htext
  exact ⟨hsame, Option.some.inj (htext.symm.trans (h'.textAt_eq hfree hp'))⟩

end Import

theorem importItems_append {s : Site} {directory : Path} {a b : List Text} {items : List Part} :
    ImportItems s directory (a ++ b) items ↔
      ∃ ia ib, items = ia ++ ib ∧ ImportItems s directory a ia ∧ ImportItems s directory b ib := by
  constructor
  · intro h
    induction a generalizing items with
    | nil => exact ⟨[], items, rfl, .nil, h⟩
    | cons line rest ih =>
      cases h with
      | line hl hrest =>
        obtain ⟨ia, ib, rfl, ha, hb⟩ := ih hrest
        exact ⟨_ :: ia, ib, rfl, .line hl ha, hb⟩
      | imported hl hr ht hrest =>
        obtain ⟨ia, ib, rfl, ha, hb⟩ := ih hrest
        exact ⟨_ :: ia, ib, rfl, .imported hl hr ht ha, hb⟩
  · rintro ⟨ia, ib, rfl, ha, hb⟩
    induction a generalizing ia with
    | nil =>
      cases ha
      exact hb
    | cons line rest ih =>
      cases ha with
      | line hl hrest => exact .line hl (ih _ hrest)
      | imported hl hr ht hrest => exact .imported hl hr ht (ih _ hrest)

theorem importTree_of_importItems {s : Site} {directory : Path} {line target : Text}
    {rest : List Text} {items : List Part}
    (h : ImportItems s directory (line :: rest) items)
    (hl : Text.after? importMarker line = some target) :
    ∃ document code tree items', items = tree :: items' ∧
      Resolves s directory target.trim document code ∧ ImportTree s document code tree ∧
      ImportItems s directory rest items' := by
  cases h with
  | line hl' =>
    rw [hl] at hl'
    cases hl'
  | imported hl' hr ht hrest =>
    cases hl.symm.trans hl'
    exact ⟨_, _, _, _, rfl, hr, ht, hrest⟩

/-- Two ways to write the root of a path make no two trees. -/
theorem ImportTree.eq_of_parts {s : Site} (hfree : s.files.LinkFree) {file file' : Path}
    {code : Text} {tree tree' : Part} (ht : ImportTree s file code tree)
    (hf : file.IsPlain) (hf' : file'.IsPlain) (hparts : file.parts = file'.parts)
    (ht' : ImportTree s file' code tree') : tree = tree' := by
  -- The induction is on the first tree, and the second path is any with the same parts.
  refine @ImportTree.rec s
    (fun file code tree _ => file.IsPlain → ∀ (file' : Path) (tree' : Part), file'.IsPlain →
      file.parts = file'.parts → ImportTree s file' code tree' → tree = tree')
    (fun directory lines items _ => directory.IsPlain → ∀ (directory' : Path) (items' : List Part),
      directory'.IsPlain → directory.parts = directory'.parts →
      ImportItems s directory' lines items' → items = items')
    ?file ?nil ?line ?imported _ _ _ ht hf _ _ hf' hparts ht'
  case file =>
    intro file code items _ ih hf file' tree' hf' hparts ht'
    cases ht' with
    | file hitems =>
      have hparent : file.parent.parts = file'.parent.parts := congrArg List.dropLast hparts
      have hname : file.name = file'.name := congrArg (List.getLastD · []) hparts
      rw [ih hf.parent _ _ hf'.parent hparent hitems, hname]
  case nil =>
    intro _ _ _ _ _ _ h
    cases h
    rfl
  case line =>
    intro _ line _ _ hl _ ih hd directory' items' hd' hparts h
    cases h with
    | line _ hrest => rw [ih hd _ _ hd' hparts hrest]
    | imported hl' =>
      rw [hl] at hl'
      cases hl'
  case imported =>
    intro directory document line target code tree rest items hl hr _ _ iht ihs hd directory' items'
      hd' hparts h
    obtain ⟨document', code', tree', items', rfl, hr', ht', hrest⟩ := importTree_of_importItems h hl
    obtain ⟨hsame, rfl⟩ := hr.same hfree hr' hd hd' hparts
    rw [iht (hr.isPlain hd) _ _ (hr'.isPlain hd') hsame ht', ihs hd _ _ hd' hparts hrest]

theorem ImportItems.transport {s s' : Site} {directory : Path} {lines : List Text}
    {items : List Part} (h : ImportItems s directory lines items)
    (ht : ∀ {target : Text} {document : Path} {code : Text} {tree : Part}, tree ∈ items →
      Resolves s directory target document code → ImportTree s document code tree →
      ∃ code', Resolves s' directory target document code' ∧ ImportTree s' document code' tree) :
    ImportItems s' directory lines items := by
  induction lines generalizing items with
  | nil =>
    cases h
    exact .nil
  | cons line rest ih =>
    cases h with
    | line hl hrest =>
      exact .line hl (ih hrest fun hm => ht (List.mem_cons_of_mem _ hm))
    | imported hl hr htree hrest =>
      obtain ⟨code', hr', htree'⟩ := ht List.mem_cons_self hr htree
      exact .imported hl hr' htree' (ih hrest fun hm => ht (List.mem_cons_of_mem _ hm))

/-- A text that has the path of the imported file in an import line of a visited file, and is
otherwise as the text of that file. -/
def IsRetargeted (s : Site) (v : Visit) (code' : Text) : Prop :=
  ∃ before line after target document, sourceLines v.code = before ++ line :: after ∧
    Text.after? importMarker line = some target ∧
    importedFile s v.directory target.trim = .ok document ∧
    sourceLines code' = before ++ (importMarker ++ document.toText) :: after

section Rewriting

variable {s : Site} {v : Visit} {old new : Bytes} {x y : Bool} {code' : Text}

theorem resolves_rewrite (hfree : s.files.LinkFree)
    (hold : s.files.entryAt v.location = some (.file old x))
    (hnew : (Entry.file new y).text? = some code') {directory document : Path} {target code : Text}
    (hp : directory.IsPlain) (h : Resolves s directory target document code) :
    Resolves (s.rewrite v.location new y) directory target document
      (if document.parts = v.location then code' else code) := by
  obtain ⟨hd, hc⟩ := resolves_iff.1 h
  obtain ⟨-, l, e, hf, -⟩ := Site.readText_eq_ok_iff.1 hc
  obtain ⟨rfl, -⟩ := (FileSystem.find_eq_ok_iff hfree (h.isPlain hp) _ _ _).1 hf
  exact resolves_iff.2 ⟨hd, Site.readText_rewrite hold hf hc hnew⟩

/-- Files with this tree keep it when the file at the place of the visit is written anew. -/
def KeepsTree (s : Site) (v : Visit) (new : Bytes) (y : Bool) (code' : Text) (tree : Part) : Prop :=
  ∀ {file : Path} {code : Text}, file.IsPlain → s.files.textAt file.parts = some code →
    ImportTree s file code tree →
    ImportTree (s.rewrite v.location new y) file (if file.parts = v.location then code' else code)
      tree

theorem ImportItems.rewrite (hfree : s.files.LinkFree)
    (hold : s.files.entryAt v.location = some (.file old x))
    (hnew : (Entry.file new y).text? = some code') {directory : Path} {lines : List Text}
    {items : List Part} (hd : directory.IsPlain) (h : ImportItems s directory lines items)
    (hkeep : ∀ tree ∈ items, KeepsTree s v new y code' tree) :
    ImportItems (s.rewrite v.location new y) directory lines items := by
  apply h.transport
  intro target document code tree hm hr ht
  exact ⟨_, resolves_rewrite hfree hold hnew hd hr,
    hkeep tree hm (hr.isPlain hd) (hr.textAt_eq hfree hd) ht⟩

/-- The lines of the file that is written anew stand for what its lines stood for: the new target
leads, from the visit as from any visit of the file, to one place and so to one tree. -/
theorem ImportItems.retarget (hfree : s.files.LinkFree) (hv : v.IsPlaced s.files)
    {parts : List Part} (hparts : HasParts s v.directory (sourceLines v.code) parts)
    (hre : IsRetargeted s v code') (hold : s.files.entryAt v.location = some (.file old x))
    (hnew : (Entry.file new y).text? = some code') {directory : Path} {items : List Part}
    (hd : directory.IsPlain) (hsame : v.directory.parts = directory.parts)
    (h : ImportItems s directory (sourceLines v.code) items)
    (hkeep : ∀ tree ∈ items, KeepsTree s v new y code' tree) :
    ImportItems (s.rewrite v.location new y) directory (sourceLines code') items := by
  obtain ⟨before, line, after, target, imported, hlines, hline, himported, hlines'⟩ := hre
  rw [hlines] at h hparts
  rw [hlines']
  obtain ⟨ib, irest, rfl, hbefore, hrest⟩ := importItems_append.1 h
  obtain ⟨document, c, tree, ia, rfl, hr, htree, hafter⟩ := importTree_of_importItems hrest hline
  obtain ⟨hkb, hkt, hka⟩ : (∀ p ∈ ib, KeepsTree s v new y code' p) ∧
      KeepsTree s v new y code' tree ∧ ∀ p ∈ ia, KeepsTree s v new y code' p := by
    simpa [or_imp, forall_and] using hkeep
  obtain ⟨ci, ti, hci, hti⟩ := hasTree_of_hasParts hparts hline himported
  have hri : Resolves s v.directory target.trim imported ci := resolves_iff.2 ⟨himported, hci⟩
  have htreei : ImportTree s imported ci ti := hti.importTree (hri.isEntry hv.isPlain.isAbsolute)
  obtain ⟨hplace, rfl⟩ := hri.same hfree hr hv.isPlain hd hsame
  obtain rfl : ti = tree :=
    htreei.eq_of_parts hfree (hri.isPlain hv.isPlain) (hr.isPlain hd) hplace htree
  have hmoved := resolves_rewrite hfree hold hnew hv.isPlain hri
  have hresolves : Resolves (s.rewrite v.location new y) directory imported.toText.trim imported
      (if imported.parts = v.location then code' else ci) :=
    resolves_iff.2 ⟨importedFile_toText hv.isPlain himported _ _, (resolves_iff.1 hmoved).2⟩
  apply importItems_append.2
  refine ⟨ib, _, rfl, hbefore.rewrite hfree hold hnew hd hkb, ?_⟩
  apply ImportItems.imported (Text.after?_append importMarker imported.toText) hresolves
  · exact hkt (hri.isPlain hv.isPlain) (hri.textAt_eq hfree hv.isPlain) htreei
  · exact hafter.rewrite hfree hold hnew hd hka

/-- The trees of all files stay as they are: by induction on their height, since the rewritten import
leads, from another visit of its file, to the same tree under another root. -/
theorem importTree_rewrite (hfree : s.files.LinkFree) (hv : v.IsPlaced s.files)
    {parts : List Part} (hparts : HasParts s v.directory (sourceLines v.code) parts)
    (hre : IsRetargeted s v code') (hold : s.files.entryAt v.location = some (.file old x))
    (hnew : (Entry.file new y).text? = some code') (tree : Part) :
    KeepsTree s v new y code' tree := by
  induction hheight : tree.height using Nat.strongRecOn generalizing tree with
  | ind height ih =>
    subst hheight
    intro file code hf hcode ht
    obtain ⟨hitems⟩ := ht
    have hkeep : ∀ p ∈ _, KeepsTree s v new y code' p := fun p hm =>
      ih p.height (Nat.lt_succ_of_le (Part.height_le_greatestHeight hm)) p rfl
    apply ImportTree.file
    by_cases hl : file.parts = v.location
    · rw [if_pos hl]
      obtain rfl : code = v.code := by
        rw [hl] at hcode
        exact Option.some.inj (hcode.symm.trans hv.textAt_eq)
      have hdirectory : v.directory.parts = file.parent.parts := by
        have hdrop := congrArg List.dropLast hl
        rw [Visit.location, List.dropLast_concat] at hdrop
        exact hdrop.symm
      exact hitems.retarget hfree hv hparts hre hold hnew hf.parent hdirectory hkeep
    · rw [if_neg hl]
      exact hitems.rewrite hfree hold hnew hf.parent hkeep

end Rewriting

end DocPress.Composition
