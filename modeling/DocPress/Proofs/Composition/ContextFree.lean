import DocPress.Proofs.Composition.ImportTree
import Mathlib.Data.List.Forall2

namespace DocPress.Composition

/-- A run was cut off because its imports are too deep. -/
def IsTooDeep {α : Type} (outcome : Except Fault α) : Prop :=
  ∃ file depth maximum, outcome = .error (.importTooDeep file depth maximum)

/-- Two runs end alike, unless the first is cut off, or the second, where it `mayBe`. -/
def Agree {α : Type} (mayBe : Prop) (x y : Except Fault α) : Prop :=
  ¬IsTooDeep x → (mayBe → ¬IsTooDeep y) → x = y

section Agree

variable {α β : Type} {mayBe : Prop}

theorem not_isTooDeep_ok (a : α) : ¬IsTooDeep (.ok a : Except Fault α) := by
  rintro ⟨_, _, _, h⟩
  cases h

theorem IsTooDeep.bind {x : Except Fault α} (h : IsTooDeep x) (f : α → Except Fault β) :
    IsTooDeep (x >>= f) := by
  obtain ⟨file, depth, maximum, rfl⟩ := h
  exact ⟨file, depth, maximum, rfl⟩

theorem IsTooDeep.map {x : Except Fault α} (h : IsTooDeep x) (f : α → β) : IsTooDeep (x.map f) := by
  obtain ⟨file, depth, maximum, rfl⟩ := h
  exact ⟨file, depth, maximum, rfl⟩

theorem agree_refl (x : Except Fault α) : Agree mayBe x x := fun _ _ => rfl

theorem agree_of_isTooDeep {x : Except Fault α} (h : IsTooDeep x) (y : Except Fault α) :
    Agree mayBe x y := fun hx _ => absurd h hx

theorem Agree.bind {x y : Except Fault α} {f g : α → Except Fault β} (h : Agree mayBe x y)
    (hf : ∀ a, x = .ok a → Agree mayBe (f a) (g a)) : Agree mayBe (x >>= f) (y >>= g) := by
  intro hx hy
  have he : x = y := h (fun h => hx (h.bind f)) fun hm h => hy hm (h.bind g)
  subst he
  cases x with
  | error e => rfl
  | ok a => exact hf a rfl hx hy

theorem Agree.map {x y : Except Fault α} (h : Agree mayBe x y) (f : α → β) :
    Agree mayBe (x.map f) (y.map f) := by
  intro hx hy
  rw [h (fun h => hx (h.map f)) fun hm h => hy hm (h.map f)]

theorem Agree.mapM {f g : α → Except Fault β} {l : List α}
    (h : ∀ before a after bs, l = before ++ a :: after → before.mapM f = .ok bs →
      Agree mayBe (f a) (g a)) :
    Agree mayBe (l.mapM f) (l.mapM g) := by
  induction l with
  | nil => exact agree_refl _
  | cons a l ih =>
    rw [List.mapM_cons, List.mapM_cons]
    refine Agree.bind (h [] a l [] rfl rfl) fun b hb =>
      Agree.bind (ih fun before a' after bs hl hbs => ?_) fun _ _ => agree_refl _
    refine h (a :: before) a' after (b :: bs) (by rw [hl, List.cons_append]) ?_
    rw [List.mapM_cons, hb, hbs]
    rfl

end Agree

/-- What composing asks of a file system. -/
inductive Question where
  /-- Whether the path is that of a directory. -/
  | directory (path : Path)
  /-- What the file at the path holds. -/
  | document (path : Path)

def Question.SameAnswer (s t : Site) : Question → Prop
  | directory path => s.isDirectory path = t.isDirectory path
  | document path => s.readText path = t.readText path

mutual

/-- Composing a file asks this: for the directory of the file, and then what its lines ask, one
after the other as long as none has failed. -/
inductive Asks (s : Site) : Path → Text → Option Path → Question → Prop
  | directory {file directory : Path} {code name : Text} {base : Option Path} :
      file.toText.isUnicode = true → displayName file = .ok name →
      s.absolute file.parent base = .ok directory →
      Asks s file code base (.directory directory)
  | line {file directory : Path} {code name line : Text} {base : Option Path}
      {before after : List Text} {parts : List Part} {q : Question} :
      file.toText.isUnicode = true → displayName file = .ok name →
      container s file base = .ok directory → sourceLines code = before ++ line :: after →
      HasParts s directory before parts → LineAsks s directory line q → Asks s file code base q

/-- A line of a file in `directory` asks this: an import line for the text of the file it leads to,
and then what composing that file asks. -/
inductive LineAsks (s : Site) : Path → Text → Question → Prop
  | document {directory document : Path} {line target : Text} :
      Text.after? importMarker line = some target →
      importedFile s directory target.trim = .ok document →
      LineAsks s directory line (.document document)
  | within {directory document : Path} {line target code : Text} {q : Question} :
      Text.after? importMarker line = some target →
      importedFile s directory target.trim = .ok document → s.readText document = .ok code →
      Asks s document code (some directory) q → LineAsks s directory line q

end

theorem siteAbsolute_congr {path : Path} (ha : path.isAbsolute = true) (s t : Site)
    (base base' : Option Path) : s.absolute path base = t.absolute path base' := by
  simp only [Site.absolute_of_not_isStranded (Site.isStranded_of_isAbsolute ha _ _),
    Path.absolute_of_isAbsolute _ ha]

theorem isAbsolute_of_siteAbsolute {s : Site} {path p : Path} {base : Option Path}
    (ha : path.isAbsolute = true) (h : s.absolute path base = .ok p) : p = path.normalize := by
  rw [Site.absolute_of_not_isStranded (Site.isStranded_of_isAbsolute ha s base)] at h
  obtain ⟨_, -, h⟩ := bind_eq_ok_iff.1 h
  rw [Path.absolute_of_isAbsolute _ ha] at h
  exact (Except.ok.inj h).symm

theorem container_eq_ok_iff {s : Site} {file directory : Path} {base : Option Path} :
    container s file base = .ok directory ↔
      s.absolute file.parent base = .ok directory ∧ s.isDirectory directory = .ok true := by
  rw [container, bind_eq_ok_iff]
  simp only [bind_eq_ok_iff]
  constructor
  · rintro ⟨d, hd, b, hb, h⟩
    cases b with
    | false => cases h
    | true =>
      cases h
      exact ⟨hd, hb⟩
  · rintro ⟨hd, hb⟩
    exact ⟨directory, hd, true, hb, rfl⟩

theorem treeFrom_zero_of_isUnicode {file : Path} (hu : file.toText.isUnicode = true) (s : Site)
    (maximum depth : Int) (code : Text) (base : Option Path) :
    IsTooDeep (treeFrom s maximum 0 depth file code base) := by
  unfold treeFrom
  rw [pathText_of_isUnicode hu]
  exact ⟨_, _, _, rfl⟩

theorem treeFrom_of_not_isUnicode {file : Path} (hu : ¬file.toText.isUnicode = true) (s : Site)
    (maximum depth : Int) (remaining : Nat) (code : Text) (base : Option Path) :
    treeFrom s maximum remaining depth file code base = .error (.pathNotUnicode file.toText) := by
  have hp : Site.pathText file.toText = .error (.pathNotUnicode file.toText) := if_neg hu
  cases remaining with
  | zero =>
    unfold treeFrom
    rw [hp]
    rfl
  | succ remaining =>
    rw [treeFrom_succ, hp]
    rfl

variable {files files' : FileSystem} {here here' : Location} {mayBe : Prop}

theorem container_agree {file : Path} {code name : Text} {base base' : Option Path}
    (ha : file.isAbsolute = true) (hu : file.toText.isUnicode = true)
    (hn : displayName file = .ok name)
    (hq : ∀ q, Asks ⟨files, here⟩ file code base q →
      q.SameAnswer ⟨files, here⟩ ⟨files', here⟩) :
    Agree mayBe (container ⟨files, here⟩ file base) (container ⟨files', here'⟩ file base') := by
  have hp : file.parent.isAbsolute = true := ha
  unfold container
  rw [siteAbsolute_congr hp ⟨files', here'⟩ ⟨files, here⟩ base' base]
  refine Agree.bind (agree_refl _) fun directory hd => ?_
  have hda : directory.isAbsolute = true := by
    rw [isAbsolute_of_siteAbsolute hp hd]
    exact hp
  have hsame : Site.isDirectory ⟨files, here⟩ directory = Site.isDirectory ⟨files', here'⟩ directory :=
    (hq _ (.directory hu hn hd)).trans (Site.isDirectory_of_isAbsolute hda files' here here')
  rw [hsame]
  exact agree_refl _

theorem partOf_agree {maximum maximum' depth depth' : Int} {remaining remaining' : Nat}
    (ih : ∀ {file : Path} {code : Text} {base base' : Option Path}, file.isAbsolute = true →
      (∀ q, Asks ⟨files, here⟩ file code base q →
        q.SameAnswer ⟨files, here⟩ ⟨files', here⟩) →
      Agree mayBe (treeFrom ⟨files, here⟩ maximum remaining (depth + 1) file code base)
        (treeFrom ⟨files', here'⟩ maximum' remaining' (depth' + 1) file code base'))
    {directory : Path} {line : Text} (ha : directory.isAbsolute = true)
    (hq : ∀ q, LineAsks ⟨files, here⟩ directory line q →
      q.SameAnswer ⟨files, here⟩ ⟨files', here⟩) :
    Agree mayBe (partOf (importedTree ⟨files, here⟩ maximum remaining depth directory) line)
      (partOf (importedTree ⟨files', here'⟩ maximum' remaining' depth' directory) line) := by
  unfold partOf
  cases ht : Text.after? importMarker line with
  | none => exact agree_refl _
  | some target =>
    have hfile : importedFile ⟨files, here⟩ directory target.trim =
        importedFile ⟨files', here'⟩ directory target.trim := rfl
    simp only [importedTree, ← hfile]
    refine Agree.bind (agree_refl _) fun document hd => ?_
    have hda : document.isAbsolute = true := isAbsolute_of_importedFile ha hd
    have hsame : Site.readText ⟨files, here⟩ document = Site.readText ⟨files', here'⟩ document :=
      (hq _ (.document ht hd)).trans (Site.readText_of_isAbsolute hda files' here here')
    rw [← hsame]
    exact Agree.bind (agree_refl _) fun code hc =>
      ih hda fun q h => hq q (.within ht hd hc h)

/-- Two runs over an absolute file end alike if the file systems answer what the first run asks in
the same way. Where either run looks at relative paths from, and how deep it begins, is all one. -/
theorem treeFrom_agree {remaining remaining' : Nat} (hm : remaining' < remaining → mayBe)
    {maximum maximum' depth depth' : Int} {file : Path} {code : Text} {base base' : Option Path}
    (ha : file.isAbsolute = true)
    (hq : ∀ q, Asks ⟨files, here⟩ file code base q →
      q.SameAnswer ⟨files, here⟩ ⟨files', here⟩) :
    Agree mayBe (treeFrom ⟨files, here⟩ maximum remaining depth file code base)
      (treeFrom ⟨files', here'⟩ maximum' remaining' depth' file code base') := by
  induction remaining generalizing remaining' depth depth' file code base base' with
  | zero =>
    by_cases hu : file.toText.isUnicode = true
    · exact agree_of_isTooDeep (treeFrom_zero_of_isUnicode hu ..) _
    · rw [treeFrom_of_not_isUnicode hu, treeFrom_of_not_isUnicode hu]
      exact agree_refl _
  | succ remaining ih =>
    by_cases hu : file.toText.isUnicode = true
    · cases remaining' with
      | zero =>
        exact fun _ hy => absurd (treeFrom_zero_of_isUnicode hu ..) (hy (hm (Nat.succ_pos _)))
      | succ remaining' =>
        rw [treeFrom_succ, treeFrom_succ]
        refine Agree.bind (agree_refl _) fun _ _ => Agree.bind (agree_refl _) fun name hn =>
          Agree.bind (container_agree ha hu hn hq) fun directory hd =>
            Agree.bind (Agree.mapM fun before line after parts hs hb => ?_) fun _ _ => agree_refl _
        have hda : directory.isAbsolute = true := by
          have hp : file.parent.isAbsolute = true := ha
          rw [isAbsolute_of_siteAbsolute hp (container_eq_ok_iff.1 hd).1]
          exact hp
        -- That the lines before have been composed is what lets this one ask.
        have hparts : HasParts ⟨files, here⟩ directory before parts :=
          ((mapM_partOf_eq_ok_iff treeFrom_eq_ok_iff).1 hb).1
        exact partOf_agree (ih fun hl => hm (Nat.succ_lt_succ hl)) hda
          fun q h => hq q (.line hu hn hd hs hparts h)
    · rw [treeFrom_of_not_isUnicode hu, treeFrom_of_not_isUnicode hu]
      exact agree_refl _

theorem composeAt_agree {maximum maximum' depth depth' : Int} {file : Path} {code : Text}
    {base base' : Option Path} (ha : file.isAbsolute = true)
    (hq : ∀ q, Asks ⟨files, here⟩ file code base q →
      q.SameAnswer ⟨files, here⟩ ⟨files', here⟩) :
    Agree (maximum' - depth' < maximum - depth)
      (composeAt ⟨files, here⟩ maximum depth file code base)
      (composeAt ⟨files', here'⟩ maximum' depth' file code base') := by
  have hm : (maximum' - depth').toNat < (maximum - depth).toNat →
      maximum' - depth' < maximum - depth := by omega
  exact (treeFrom_agree hm ha hq).map Part.written

/-- What a line of a file in `directory` contributes to a document: an import line the document of
the file it leads to, as it is composed on its own with no fewer than `levels` levels left. -/
inductive Contributes (files : FileSystem) (here : Location) (levels : Int) (directory : Path) :
    Text → Text → Prop
  | line {line : Text} :
      Text.after? importMarker line = none →
      Contributes files here levels directory line (Annotations.expand line)
  | imported {document : Path} {line target code piece : Text} :
      Text.after? importMarker line = some target →
      Resolves ⟨files, here⟩ directory target.trim document code →
      (∀ (here' : Location) (maximum depth : Int) (base : Option Path),
        levels ≤ maximum - depth →
          composeAt ⟨files, here'⟩ maximum depth document code base = .ok piece) →
      Contributes files here levels directory line piece

theorem composeAt_of_hasTree {levels maximum depth : Int} {document : Path} {code : Text}
    {base base' : Option Path} {tree : Part} (ha : document.isAbsolute = true)
    (ht : HasTree ⟨files, here⟩ document code base tree) (hh : (tree.height : Int) ≤ levels)
    (hl : levels ≤ maximum - depth) :
    composeAt ⟨files, here'⟩ maximum depth document code base' = .ok tree.written := by
  have hrun : composeAt ⟨files, here⟩ maximum depth document code base = .ok tree.written := by
    have hroom : tree.height ≤ (maximum - depth).toNat := by omega
    rw [composeAt, treeFrom_eq_ok_iff.2 ⟨ht, hroom⟩]
    rfl
  have hsame : ∀ q, Asks ⟨files, here⟩ document code base q →
      q.SameAnswer ⟨files, here⟩ ⟨files, here⟩ := by
    intro q _
    cases q <;> rfl
  have hagree : Agree (maximum - depth < maximum - depth)
      (composeAt ⟨files, here⟩ maximum depth document code base)
      (composeAt ⟨files, here'⟩ maximum depth document code base') := composeAt_agree ha hsame
  rw [hrun] at hagree
  exact (hagree (not_isTooDeep_ok _) fun h => absurd h (Int.lt_irrefl _)).symm

theorem HasParts.contributes {levels : Int} {directory : Path} (ha : directory.isAbsolute = true)
    {lines : List Text} {parts : List Part}
    (h : HasParts ⟨files, here⟩ directory.normalize lines parts)
    (hl : (Part.greatestHeight parts : Int) ≤ levels) :
    List.Forall₂ (Contributes files here levels directory) lines (Part.writtenEach parts) := by
  induction lines generalizing parts with
  | nil =>
    cases h
    exact .nil
  | cons line rest ih =>
    cases h with
    | line ht hrest => exact .cons (.line ht) (ih hrest hl)
    | @imported _ document _ target code tree _ parts ht hd hc htree hrest =>
      have hmax : max tree.height (Part.greatestHeight parts) ≤ levels.toNat := by
        have hdef : Part.greatestHeight (tree :: parts) =
          max tree.height (Part.greatestHeight parts) := rfl
        omega
      have hr : Resolves ⟨files, here⟩ directory target.trim document code :=
        resolves_iff.2 ⟨(importedFile_normalize _ directory document _).1 hd, hc⟩
      refine .cons (.imported ht hr fun here' maximum depth base hroom => ?_) (ih hrest (by omega))
      exact composeAt_of_hasTree (hr.isEntry ha).isAbsolute htree (by omega) hroom

/-- Composing an absolute file depends on nothing but the answers to what it asks: two runs that get
the same ones end in the same document or the same fault, unless the depth of imports cuts one off.
In particular the piece of a document for each import line is what the imported file gives alone. -/
theorem composeAt_contextFree {file : Path} (ha : file.isAbsolute = true) (files : FileSystem)
    (here : Location) (maximum depth : Int) (code : Text) (base : Option Path) :
    (∀ (files' : FileSystem) (here' : Location) (maximum' depth' : Int) (base' : Option Path),
      (∀ q, Asks ⟨files, here⟩ file code base q →
        q.SameAnswer ⟨files, here⟩ ⟨files', here⟩) →
      ¬IsTooDeep (composeAt ⟨files, here⟩ maximum depth file code base) →
      ¬IsTooDeep (composeAt ⟨files', here'⟩ maximum' depth' file code base') →
      composeAt ⟨files, here⟩ maximum depth file code base =
        composeAt ⟨files', here'⟩ maximum' depth' file code base') ∧
    ∀ document, composeAt ⟨files, here⟩ maximum depth file code base = .ok document →
      ∃ pieces, document = block file.name pieces ∧
        List.Forall₂ (Contributes files here (maximum - (depth + 1)) file.parent)
          (sourceLines code) pieces := by
  refine ⟨fun files' here' maximum' depth' base' hq hx hy =>
    composeAt_agree ha hq hx fun _ => hy, fun document hdoc => ?_⟩
  obtain ⟨tree, ht, hl, rfl⟩ := composeAt_eq_ok_iff.1 hdoc
  cases ht with
  | @file _ _ _ name directory parts hu hn hd hp =>
    have hparent : file.parent.isAbsolute = true := ha
    rw [isAbsolute_of_siteAbsolute hparent (container_eq_ok_iff.1 hd).1] at hp
    have hheight : (Part.greatestHeight parts : Int) ≤ maximum - (depth + 1) := by
      have hlinks : (Part.file name parts).links = Part.greatestHeight parts := rfl
      omega
    exact ⟨Part.writtenEach parts, by rw [(displayName_eq_ok_iff.1 hn).2.2.2]; rfl, hp.contributes hparent hheight⟩

theorem Asks.eq_directory {s : Site} {file directory : Path} {code : Text} {base : Option Path}
    {q : Question} (hd : s.absolute file.parent base = .ok directory)
    (hlines : ∀ line ∈ sourceLines code, Text.after? importMarker line = none)
    (h : Asks s file code base q) : q = .directory directory := by
  cases h with
  | directory _ _ hd' => rw [Except.ok.inj (hd'.symm.trans hd)]
  | @line _ _ _ _ line _ before after _ _ _ _ _ hs _ hl =>
    have hn : Text.after? importMarker line = none := hlines line (by rw [hs]; simp)
    cases hl with
    | document ht => rw [hn] at ht; cases ht
    | within ht => rw [hn] at ht; cases ht

def lone : FileSystem :=
  ⟨[([text "d"], .directory), ([text "d", text "b.md"], .file (Text.Utf8.encodeLenient (text "x")) false)]⟩

def loneEntry : Path := .ofText (text "/d/a.md")

def loneImport : Path := .ofText (text "/d/b.md")

theorem asks_lone {q : Question} (h : Asks ⟨lone, []⟩ loneEntry (text "@import b") none q) :
    q = .directory loneEntry.parent.normalize ∨ q = .document loneImport := by
  have hparent : loneEntry.parent.isAbsolute = true := by decide
  cases h with
  | directory _ _ hd => exact .inl (congrArg _ (isAbsolute_of_siteAbsolute hparent hd))
  | @line _ directory _ _ line _ before after _ _ _ _ hd hs _ hl =>
    obtain rfl := isAbsolute_of_siteAbsolute hparent (container_eq_ok_iff.1 hd).1
    obtain rfl : line = text "@import b" := by
      have hs' : [text "@import b"] = before ++ line :: after := hs
      cases before <;> simp_all
    have ht : Text.after? importMarker (text "@import b") = some (text "b") := by decide
    have hf : importedFile ⟨lone, []⟩ loneEntry.parent.normalize (text "b").trim = .ok loneImport :=
      eq_ok_of_toOption (by decide +kernel)
    cases hl with
    | document ht' hd' =>
      cases ht.symm.trans ht'
      exact .inr (congrArg _ (Except.ok.inj (hf.symm.trans hd')).symm)
    | @within _ document _ target code _ ht' hd' hc hq =>
      cases ht.symm.trans ht'
      obtain rfl : loneImport = document := Except.ok.inj (hf.symm.trans hd')
      have hr : Site.readText ⟨lone, []⟩ loneImport = .ok (text "x") :=
        eq_ok_of_toOption (by decide +kernel)
      obtain rfl : text "x" = code := Except.ok.inj (hr.symm.trans hc)
      have hd : Site.absolute ⟨lone, []⟩ loneImport.parent (some loneEntry.parent.normalize) =
          .ok loneEntry.parent.normalize := eq_ok_of_toOption (by decide +kernel)
      exact .inl (hq.eq_directory hd (by decide +kernel))

/-- A further file, another working directory, base and depth change nothing. -/
theorem composeAt_contextFree_lone :
    loneEntry.isAbsolute = true ∧
      composeAt ⟨lone, []⟩ 2 0 loneEntry (text "@import b") none =
        composeAt ⟨lone.put [text "d", text "c.md"] .sink, [text "d"]⟩ 9 (-3) loneEntry
          (text "@import b") (some (.ofText (text "e"))) := by
  have ha : loneEntry.isAbsolute = true := by decide
  have hq : ∀ q, Asks ⟨lone, []⟩ loneEntry (text "@import b") none q →
      q.SameAnswer ⟨lone, []⟩ ⟨lone.put [text "d", text "c.md"] .sink, []⟩ := by
    intro q h
    rcases asks_lone h with rfl | rfl
    · have hd : Site.isDirectory ⟨lone, []⟩ loneEntry.parent.normalize = .ok true :=
        eq_ok_of_toOption (by decide +kernel)
      exact hd.trans (eq_ok_of_toOption (by decide +kernel)).symm
    · have hd : Site.readText ⟨lone, []⟩ loneImport = .ok (text "x") :=
        eq_ok_of_toOption (by decide +kernel)
      exact hd.trans (eq_ok_of_toOption (by decide +kernel)).symm
  have hx : composeAt ⟨lone, []⟩ 2 0 loneEntry (text "@import b") none =
      .ok (block (text "a.md") [block (text "b.md") [text "x"]]) :=
    eq_ok_of_toOption (by decide +kernel)
  have hy : composeAt ⟨lone.put [text "d", text "c.md"] .sink, [text "d"]⟩ 9 (-3) loneEntry
      (text "@import b") (some (.ofText (text "e"))) =
      .ok (block (text "a.md") [block (text "b.md") [text "x"]]) :=
    eq_ok_of_toOption (by decide +kernel)
  exact ⟨ha, (composeAt_contextFree ha lone [] 2 0 (text "@import b") none).1 _ _ _ _ _ hq
    (hx ▸ not_isTooDeep_ok _) (hy ▸ not_isTooDeep_ok _)⟩

end DocPress.Composition
