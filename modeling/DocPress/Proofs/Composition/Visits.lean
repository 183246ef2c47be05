import DocPress.Proofs.Composition.ContextFree
import DocPress.Proofs.FileSystem.Reading

namespace DocPress.Composition

def composeFileAt (s : Site) (maximum depth : Int) (file : Path) (base : Option Path) :
    Except Fault Text := do
  composeAt s maximum depth file (← s.readText file) base

/-- A file that composing has come to: its text, the directory its imports are resolved from, and
how many levels are left for them. -/
structure Visit where
  file : Path
  code : Text
  directory : Path
  levels : Nat

def Visit.location (v : Visit) : Location := v.directory.parts ++ [v.file.name]

/-- Composing a file gets as far as its lines, which are those of a file in `directory`. -/
structure Begins (s : Site) (file : Path) (base : Option Path) (directory : Path) : Prop where
  isUnicode : file.toText.isUnicode = true
  isNamed : displayName file = .ok file.name
  container_eq : container s file base = .ok directory

/-- Composing some lines of a file in `directory` comes to this one: those before it have been
composed with the levels that are left. -/
def ComesTo (s : Site) (levels : Nat) (directory : Path) (lines : List Text) (line : Text) : Prop :=
  ∃ before after parts, lines = before ++ line :: after ∧ HasParts s directory before parts ∧
    Part.greatestHeight parts ≤ levels

/-- Composing a file with so many levels left makes this visit: to the file itself, or to one that
an import line leads to. -/
inductive Visits (s : Site) : Nat → Path → Text → Option Path → Visit → Prop
  | self {levels : Nat} {file directory : Path} {code : Text} {base : Option Path} :
      Begins s file base directory →
      Visits s (levels + 1) file code base ⟨file, code, directory, levels⟩
  | imported {levels : Nat} {file directory document : Path} {code line target code' : Text}
      {base : Option Path} {v : Visit} :
      Begins s file base directory → ComesTo s levels directory (sourceLines code) line →
      Text.after? importMarker line = some target →
      importedFile s directory target.trim = .ok document → s.readText document = .ok code' →
      Visits s levels document code' (some directory) v → Visits s (levels + 1) file code base v

theorem treeFrom_of_begins {s : Site} {file directory : Path} {base : Option Path}
    (h : Begins s file base directory) (maximum depth : Int) (levels : Nat) (code : Text) :
    treeFrom s maximum (levels + 1) depth file code base =
      ((sourceLines code).mapM (partOf (importedTree s maximum levels depth directory)) >>=
        fun parts => .ok (.file file.name parts)) := by
  rw [treeFrom_succ, pathText_of_isUnicode h.isUnicode, h.isNamed, h.container_eq]
  rfl

theorem hasTree_iff_of_begins {s : Site} {file directory : Path} {code : Text} {base : Option Path}
    (h : Begins s file base directory) {tree : Part} :
    HasTree s file code base tree ↔
      ∃ parts, HasParts s directory (sourceLines code) parts ∧ tree = .file file.name parts := by
  constructor
  · intro ht
    cases ht with
    | file hu hn hd hp =>
      cases hd.symm.trans h.container_eq
      cases hn.symm.trans h.isNamed
      exact ⟨_, hp, rfl⟩
  · rintro ⟨parts, hp, rfl⟩
    exact .file h.isUnicode h.isNamed h.container_eq hp

theorem hasParts_append {s : Site} {directory : Path} {a b : List Text} {parts : List Part}
    (h : HasParts s directory (a ++ b) parts) :
    ∃ pa pb, parts = pa ++ pb ∧ HasParts s directory a pa ∧ HasParts s directory b pb := by
  induction a generalizing parts with
  | nil => exact ⟨[], parts, rfl, .nil, h⟩
  | cons line rest ih =>
    cases h with
    | line hl hrest =>
      obtain ⟨pa, pb, rfl, ha, hb⟩ := ih hrest
      exact ⟨_ :: pa, pb, rfl, .line hl ha, hb⟩
    | imported hl hd hc ht hrest =>
      obtain ⟨pa, pb, rfl, ha, hb⟩ := ih hrest
      exact ⟨_ :: pa, pb, rfl, .imported hl hd hc ht ha, hb⟩

theorem hasTree_of_hasParts {s : Site} {directory document : Path} {before after : List Text}
    {line target : Text} {parts : List Part}
    (h : HasParts s directory (before ++ line :: after) parts)
    (hl : Text.after? importMarker line = some target)
    (hd : importedFile s directory target.trim = .ok document) :
    ∃ code tree, s.readText document = .ok code ∧ HasTree s document code (some directory) tree := by
  obtain ⟨_, _, -, -, hline⟩ := hasParts_append h
  cases hline with
  | line hl' =>
    rw [hl] at hl'
    cases hl'
  | imported hl' hd' hc ht =>
    cases hl.symm.trans hl'
    cases hd.symm.trans hd'
    exact ⟨_, _, hc, ht⟩

/-- A composition that succeeds has composed the lines of every file it came to. -/
theorem Visits.hasParts {s : Site} {levels : Nat} {file : Path} {code : Text} {base : Option Path}
    {v : Visit} (h : Visits s levels file code base v) {tree : Part}
    (ht : HasTree s file code base tree) :
    ∃ parts, HasParts s v.directory (sourceLines v.code) parts := by
  induction h generalizing tree with
  | self hb =>
    obtain ⟨parts, hp, -⟩ := (hasTree_iff_of_begins hb).1 ht
    exact ⟨parts, hp⟩
  | imported hb hcome hl hd hc _ ih =>
    obtain ⟨parts, hp, -⟩ := (hasTree_iff_of_begins hb).1 ht
    obtain ⟨before, after, _, hlines, -, -⟩ := hcome
    rw [hlines] at hp
    obtain ⟨code', tree', hc', htree'⟩ := hasTree_of_hasParts hp hl hd
    cases hc.symm.trans hc'
    exact ih htree'

/-- A file stands in its directory, and its text is what is read there. -/
structure Visit.IsPlaced (files : FileSystem) (v : Visit) : Prop where
  isPlain : v.directory.IsPlain
  textAt_eq : files.textAt v.location = some v.code

theorem isPlain_of_importedFile {s : Site} {directory document : Path} {target : Text}
    (hp : directory.IsPlain) (h : importedFile s directory target = .ok document) :
    document.IsPlain := by
  have hfile : (directory.absolute (.ofText target)).IsPlain :=
    Path.isPlain_absolute hp.isAbsolute hp.wellFormed (Path.wellFormed_ofText target)
  exact hfile.withSuffix? (importedFile_eq_ok_iff.1 h).2.2 (by decide) (by decide)

theorem container_of_isPlain {s : Site} {file directory : Path} {base : Option Path}
    (hp : file.IsPlain) (h : container s file base = .ok directory) : directory = file.parent := by
  have hd := (Site.absolute_eq_ok_iff.1 (container_eq_ok_iff.1 h).1).2.2
  rw [← hd, Path.absolute_of_isAbsolute _ hp.parent.isAbsolute, hp.parent.normalize_eq]

theorem parts_eq_of_isNamed {file : Path} (h : displayName file = .ok file.name) :
    file.parts = file.parent.parts ++ [file.name] :=
  Path.parts_eq_of_name_ne_nil (displayName_eq_ok_iff.1 h).1

theorem textAt_of_readText {s : Site} (hfree : s.files.LinkFree) {p : Path} (hp : p.IsPlain)
    {code : Text} (h : s.readText p = .ok code) : s.files.textAt p.parts = some code := by
  obtain ⟨-, l, e, hf, he⟩ := Site.readText_eq_ok_iff.1 h
  obtain ⟨-, hentry, -⟩ := (FileSystem.find_eq_ok_iff hfree hp _ _ _).1 hf
  rw [FileSystem.textAt, hentry]
  exact he

theorem Visits.isPlaced {s : Site} (hfree : s.files.LinkFree) {levels : Nat} {file : Path}
    {code : Text} {base : Option Path} {v : Visit} (h : Visits s levels file code base v)
    (hfile : ∀ directory, Begins s file base directory → directory.IsPlain ∧
      s.files.textAt (directory.parts ++ [file.name]) = some code) : v.IsPlaced s.files := by
  induction h with
  | self hb => exact ⟨(hfile _ hb).1, (hfile _ hb).2⟩
  | @imported levels file directory document code line target code' base v hb _ hl hd hc _ ih =>
    apply ih
    intro directory' hb'
    have hplain : document.IsPlain := isPlain_of_importedFile (hfile _ hb).1 hd
    have hdirectory := container_of_isPlain hplain hb'.container_eq
    rw [hdirectory, ← parts_eq_of_isNamed hb'.isNamed]
    exact ⟨hplain.parent, textAt_of_readText hfree hplain hc⟩

/-- Every import with a target that composing a file meets is such, in the directory it is resolved
from. -/
def EachImport (s : Site) (IsSuch : Path → Text → Prop) (levels : Nat) (file : Path) (code : Text)
    (base : Option Path) : Prop :=
  ∀ (v : Visit) (line target : Text), Visits s levels file code base v →
    ComesTo s v.levels v.directory (sourceLines v.code) line →
    Text.after? importMarker line = some target → target.trim ≠ [] → IsSuch v.directory target.trim

section EachImport

variable {s : Site} {IsSuch : Path → Text → Prop} {levels : Nat} {file directory : Path}
  {code : Text} {base : Option Path}

theorem ComesTo.mem {lines : List Text} {line : Text} (h : ComesTo s levels directory lines line) :
    line ∈ lines := by
  obtain ⟨before, after, _, hlines, -, -⟩ := h
  rw [hlines]
  exact List.mem_append_right _ List.mem_cons_self

theorem eachImport_of_noImports
    (h : ∀ line ∈ sourceLines code, Text.after? importMarker line = none) :
    EachImport s IsSuch levels file code base := by
  have hline : ∀ {levels : Nat} {directory : Path} {line target : Text},
      ComesTo s levels directory (sourceLines code) line →
      Text.after? importMarker line ≠ some target := by
    intro levels directory line target hcome ht
    rw [h line hcome.mem] at ht
    cases ht
  intro v line target hv hcome ht
  cases hv with
  | self => exact absurd ht (hline hcome)
  | imported _ hcome' ht' => exact absurd ht' (hline hcome')

/-- It is enough to look at the imports of a file and then at what they lead to. -/
theorem eachImport_of_lines (hb : Begins s file base directory)
    (h : ∀ line ∈ sourceLines code, ∀ target, Text.after? importMarker line = some target →
      IsSuch directory target.trim ∧
      ∀ document code', importedFile s directory target.trim = .ok document →
        s.readText document = .ok code' →
          EachImport s IsSuch levels document code' (some directory)) :
    EachImport s IsSuch (levels + 1) file code base := by
  intro v line target hv hcome ht hne
  cases hv with
  | self hb' =>
    cases hb.container_eq.symm.trans hb'.container_eq
    exact (h line hcome.mem target ht).1
  | imported hb' hcome' ht' hd hc hv' =>
    cases hb.container_eq.symm.trans hb'.container_eq
    exact (h _ hcome'.mem _ ht').2 _ _ hd hc v line target hv' hcome ht hne

end EachImport

end DocPress.Composition
