import DocPress.Proofs.Settings.Sections
import DocPress.Proofs.Toml.Surroundings
import Mathlib.Data.List.Infix

namespace DocPress.Settings

open World
open Toml (Table Value IsKept IsKeptSection HasLegibleRest stored)

variable {file : Path} {w w' : World} {t others : Table} {key : Text} {strings : List (Text × Text)}

section Reading

theorem yields_throw {α : Type} (P : α → Prop) (fault : Fault) : Yields P (throw fault : Run α) :=
  ⟨throw fault, rfl⟩

theorem of_run_eq_ok {α : Type} {P : α → Prop} {x : Run α} (hx : Yields P x) {a : α}
    (h : x.run.run w = (.ok a, w')) : P a := by
  obtain ⟨y, rfl⟩ := hx
  rw [map_eq_pure_bind] at h
  obtain ⟨b, w₁, -, hb⟩ := run_bind_eq_ok_iff.1 h
  obtain ⟨rfl, -⟩ := run_pure_eq_ok_iff.1 hb
  exact b.2

theorem yields_readAll (file : Path) : Yields (fun t => (Table.names t).Nodup) (readAll file) := by
  unfold readAll
  refine (yields_true _).bind fun b _ => ?_
  split
  · exact yields_pure List.nodup_nil
  · refine (yields_true _).bind fun bytes _ => ?_
    split
    · exact yields_pure List.nodup_nil
    · exact yields_throw _ _
    · split
      · rename_i hread
        exact yields_pure (Toml.nodup_names_of_read hread)
      · exact yields_pure List.nodup_nil
      · rename_i fault _ _
        cases fault <;> exact yields_throw _ _

end Reading

theorem without_append (h : key ∉ Table.names (t ++ others)) (v : Value) :
    Table.without (t ++ (key, v) :: others) key = t ++ others := by
  have hall : Table.without (t ++ others) key = t ++ others := by
    refine List.filter_eq_self.2 fun member hmember => decide_eq_true fun hk => h ?_
    exact hk ▸ List.mem_map_of_mem hmember
  unfold Table.without at hall ⊢
  rw [List.filter_append] at hall ⊢
  rw [List.filter_cons_of_neg (by simp), hall]

/-- A section of strings that are kept is read again after it was written, and so are the others. -/
theorem run_readAll_of_store (hkey : Toml.IsBare key) (h : IsKeptSection strings)
    (ht : (Table.names t).Nodup) (hrest : HasLegibleRest t key others)
    (hstore : (store file (t.put key (.table (stored strings)))).run.run w = (.ok (), w'))
    (hkeeps : ¬w'.toSite.IsSink file) :
    ∃ t', (readAll file).run.run w' = (.ok t', w') ∧
      Table.get? t' key = some (.table (stored strings)) ∧ t'.without key = others := by
  obtain ⟨content, u, v, hwrite, rfl, hread⟩ := Toml.read_of_surrounds hkey h ht hrest
  obtain ⟨before, after, hsurrounds⟩ := hrest
  have habsent := hsurrounds.absent
  rcases (run_store_eq_ok hstore).2 with hsink | ⟨written, hwritten, hagain⟩
  · exact absurd hsink hkeeps
  · obtain rfl : content = written := Except.ok.inj (hwrite.symm.trans hwritten)
    refine ⟨_, hagain _ hread, ?_, without_append habsent _⟩
    rw [Table.names_append, List.mem_append, not_or] at habsent
    exact Table.get?_append_of_notMem habsent.1 _ _

/-- A call that succeeds where the sections are read writes what it makes of them. -/
theorem Call.run_store_eq_ok (call : Call) (hread : (readAll file).run.run w = (.ok t, w))
    (h : (call.run file).run.run w = (.ok true, w')) :
    (store file (call.apply t)).run.run w = (.ok (), w') := by
  obtain ⟨t₁, hread₁, hstore⟩ := Call.exists_of_run_eq_true h
  obtain rfl : t = t₁ := Except.ok.inj (congrArg Prod.fst (hread.symm.trans hread₁))
  exact hstore

theorem isKeptSection_pdf {p : Text} (h : IsKept p) : IsKeptSection [(browserKey, p)] := by
  have hname : Toml.IsBare browserKey := by decide
  exact ⟨List.forall_mem_singleton.2 hname, List.forall_mem_singleton.2 h, by simp⟩

theorem isKeptSection_renderer {m b : Text} (hm : IsKept m) (hb : IsKept b) :
    IsKeptSection [(drawerKey, m), (backgroundKey, b)] := by
  have hnames : Toml.IsBare drawerKey ∧ Toml.IsBare backgroundKey := by decide
  have hdistinct : drawerKey ≠ backgroundKey := by decide
  exact ⟨by simpa using hnames, by simpa using ⟨hm, hb⟩, by simpa using hdistinct⟩

/-- What a save that succeeds has been given is loaded after it, and the other sections are as they
were. This is so for strings that are kept, where the rest of the file can be read and the file is no
sink. -/
theorem loaded_of_saved (hread : (readAll file).run.run w = (.ok t, w))
    (hkeeps : ¬w'.toSite.IsSink file) :
    (∀ p others, IsKept p → HasLegibleRest t pdfKey others →
      (savePdf file (.string p)).run.run w = (.ok true, w') →
      (readPdf file).run.run w' = (.ok [(browserKey, .string p)], w') ∧
        ∃ t', (readAll file).run.run w' = (.ok t', w') ∧ t'.without pdfKey = others) ∧
    ∀ m b others, IsKept m → IsKept b → HasLegibleRest t rendererKey others →
      (saveRenderer file (.string m) (.string b) none).run.run w = (.ok true, w') →
      (readRenderer file).run.run w' =
          (.ok [(drawerKey, .string m), (backgroundKey, .string b)], w') ∧
        ∃ t', (readAll file).run.run w' = (.ok t', w') ∧ t'.without rendererKey = others := by
  have hnames : (Table.names t).Nodup := of_run_eq_ok (yields_readAll file) hread
  constructor
  · intro p others hp hrest h
    obtain ⟨t', hread', hget, hothers⟩ := run_readAll_of_store (by decide) (isKeptSection_pdf hp)
      hnames hrest (Call.run_store_eq_ok (.pdf p) hread h) hkeeps
    refine ⟨?_, t', hread', hothers⟩
    unfold readPdf
    rw [run_readSection hread', hget]
    rfl
  · intro m b others hm hb hrest h
    obtain ⟨t', hread', hget, hothers⟩ := run_readAll_of_store (by decide)
      (isKeptSection_renderer hm hb) hnames hrest
      (Call.run_store_eq_ok (.renderer m b none) hread h) hkeeps
    refine ⟨?_, t', hread', hothers⟩
    unfold readRenderer
    rw [run_readSection hread', hget]
    rfl

section Desk

def checksLines (lines : List Text) (t : Table) : Bool :=
  match lines.foldlM Toml.Reading.lineAlone .start with
  | .ok r =>
    match r.root with
    | .table members => Toml.haveSame members t
    | _ => false
  | .error _ => false

theorem exists_last_of_checksLines {lines : List Text} (h : checksLines lines t = true) :
    ∃ last, lines.foldlM Toml.Reading.lineAlone .start = .ok last ∧ last.root = .table t := by
  unfold checksLines at h
  split at h
  · rename_i r hlast
    split at h
    · rename_i members hroot
      exact ⟨r, hlast, by rw [hroot, Toml.eq_of_haveSame h]⟩
    · cases h
  · cases h

/-- The desk with a settings file that has another section and a number. -/
def crowdedDesk : World :=
  desk (.file (Text.Utf8.encodeLenient
    (text "x = 1\n[pdf]\nbrowser_path = \x22/b\x22\n[other]\nname = \x22#\x22\n")) false)

def crowdedSections : Table :=
  [(text "x", .int 1), (pdfKey, .table [(browserKey, .string (text "/b"))]),
    (text "other", .table [(text "name", .string (text "#"))])]

def crowdedRest : Table :=
  [(text "x", .int 1), (text "other", .table [(text "name", .string (text "#"))])]

/-- Whether a string is kept. -/
instance (t : Text) : Decidable (IsKept t) :=
  have (isSuch : CodePoint → Bool) (marker : Text) :
      Decidable (Toml.IsQuietBehind isSuch marker t) :=
    inferInstanceAs (Decidable ¬_ <:+: _)
  decidable_of_iff _ ⟨fun ⟨a, b, c, d, e⟩ => ⟨a, b, c, d, e⟩, fun ⟨a, b, c, d, e⟩ =>
    (⟨a, b, c, d, e⟩ : _ ∧ _ ∧ _ ∧ _ ∧ _)⟩

theorem hasLegibleRest_crowded_pdf : HasLegibleRest crowdedSections pdfKey crowdedRest :=
  ⟨[text "x = 1", []], [[], text "[other]", text "name = \x22#\x22"],
    { written := by decide +kernel
      complete := by decide +kernel
      read := exists_last_of_checksLines (by decide +kernel)
      absent := by decide }⟩

theorem hasLegibleRest_crowded_renderer :
    HasLegibleRest crowdedSections rendererKey crowdedSections :=
  ⟨[text "x = 1", [], text "[pdf]", text "browser_path = \x22/b\x22", [], text "[other]",
      text "name = \x22#\x22", []], [],
    { written := by decide +kernel
      complete := by decide +kernel
      read := exists_last_of_checksLines (by decide +kernel)
      absent := by decide }⟩

/-- A path with quotes, backslashes and a line end, and texts of other kinds. -/
def crowdedPath : Text := text "C:\\a \x22b\x22\n\\u0041"

theorem loaded_of_saved_crowded :
    (∃ w', (savePdf deskFile (.string crowdedPath)).run.run crowdedDesk = (.ok true, w') ∧
      (readPdf deskFile).run.run w' = (.ok [(browserKey, .string crowdedPath)], w')) ∧
    ∃ w', (saveRenderer deskFile (.string crowdedPath) (.string []) none).run.run crowdedDesk =
        (.ok true, w') ∧
      (readRenderer deskFile).run.run w' =
        (.ok [(drawerKey, .string crowdedPath), (backgroundKey, .string [])], w') := by
  have hread : (readAll deskFile).run.run crowdedDesk = (.ok crowdedSections, crowdedDesk) :=
    run_readAll_of_haveSame (by decide +kernel)
  have hpath : IsKept crowdedPath := by decide +kernel
  have hempty : IsKept [] := by decide +kernel
  obtain ⟨w₁, hpdf⟩ : ∃ w', (savePdf deskFile (.string crowdedPath)).run.run crowdedDesk =
      (.ok true, w') := exists_run_eq (by decide +kernel)
  obtain ⟨w₂, hrenderer⟩ : ∃ w',
      (saveRenderer deskFile (.string crowdedPath) (.string []) none).run.run crowdedDesk =
        (.ok true, w') := exists_run_eq (by decide +kernel)
  have hkeeps₁ : ¬((savePdf deskFile (.string crowdedPath)).run.run crowdedDesk).2.toSite.IsSink
      deskFile := by decide +kernel
  have hkeeps₂ : ¬((saveRenderer deskFile (.string crowdedPath) (.string []) none).run.run
      crowdedDesk).2.toSite.IsSink deskFile := by decide +kernel
  rw [hpdf] at hkeeps₁
  rw [hrenderer] at hkeeps₂
  exact ⟨⟨w₁, hpdf,
      ((loaded_of_saved hread hkeeps₁).1 _ _ hpath hasLegibleRest_crowded_pdf hpdf).1⟩,
    w₂, hrenderer, ((loaded_of_saved hread hkeeps₂).2 _ _ _ hpath hempty
      hasLegibleRest_crowded_renderer hrenderer).1⟩

def clearDesk : World := desk (.file [] false)

def loads (x : Run Table) (w : World) (t : Table) : Bool :=
  (x.run.run w).1.toOption.any (Toml.haveSame · t)

theorem run_eq_of_loads {x : Run Table} (h : loads x w t = true) : (x.run.run w).1 = .ok t := by
  unfold loads at h
  cases hrun : (x.run.run w).1 with
  | ok t' =>
    rw [hrun] at h
    exact congrArg Except.ok (Toml.eq_of_haveSame h)
  | error fault =>
    rw [hrun] at h
    cases h

def isMalformed : Except Toml.Fault Table → Bool
  | .error .malformed => true
  | _ => false

theorem eq_malformed_of_isMalformed {r : Except Toml.Fault Table} (h : isMalformed r = true) :
    r = .error .malformed := by
  unfold isMalformed at h
  split at h
  · rfl
  · cases h

/-- What is written of a path with `\x`, which cannot be read. -/
def brokenText : Text := text "[pdf]\nbrowser_path = \x22C:\\xampp\x22\n"

/-- A string with a control character is loaded as another one; after a path with `\x` is saved, the
file cannot be read. Both are saved with success. -/
theorem not_loaded_of_saved :
    (∃ w', (savePdf deskFile (.string (text "a\x7fb"))).run.run clearDesk = (.ok true, w') ∧
      ((readPdf deskFile).run.run w').1 = .ok [(browserKey, .string (text "ax7fb"))]) ∧
    ∃ w', (savePdf deskFile (.string (text "C:\\xampp"))).run.run clearDesk = (.ok true, w') ∧
      w'.toSite.readBytes deskFile.toText = .ok (Text.Utf8.encodeLenient brokenText) ∧
      Toml.read brokenText = .error .malformed ∧
      ((readPdf deskFile).run.run w').1 = .ok pdfDefaults := by
  obtain ⟨w₁, hcontrol⟩ : ∃ w', (savePdf deskFile (.string (text "a\x7fb"))).run.run clearDesk =
      (.ok true, w') := exists_run_eq (by decide +kernel)
  obtain ⟨w₂, hslash⟩ : ∃ w', (savePdf deskFile (.string (text "C:\\xampp"))).run.run clearDesk =
      (.ok true, w') := exists_run_eq (by decide +kernel)
  have hother : loads (readPdf deskFile)
      ((savePdf deskFile (.string (text "a\x7fb"))).run.run clearDesk).2
      [(browserKey, .string (text "ax7fb"))] = true := by decide +kernel
  have hbytes : ((savePdf deskFile (.string (text "C:\\xampp"))).run.run
      clearDesk).2.toSite.readBytes deskFile.toText = .ok (Text.Utf8.encodeLenient brokenText) := by
    decide +kernel
  have hdefaults : loads (readPdf deskFile)
      ((savePdf deskFile (.string (text "C:\\xampp"))).run.run clearDesk).2 pdfDefaults = true := by
    decide +kernel
  have hbroken : Toml.read brokenText = .error .malformed :=
    eq_malformed_of_isMalformed (by decide +kernel)
  rw [hcontrol] at hother
  rw [hslash] at hbytes hdefaults
  exact ⟨⟨w₁, hcontrol, run_eq_of_loads hother⟩, w₂, hslash, hbytes, hbroken,
    run_eq_of_loads hdefaults⟩

end Desk

end DocPress.Settings
