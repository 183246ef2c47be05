import DocPress.Proofs.Build.Loading
import DocPress.Proofs.FileSystem.Ancestors
import DocPress.Proofs.FileSystem.Keeping
import DocPress.Proofs.FileSystem.Planting

namespace DocPress.Project

open FileSystem (planted deepDirectory deepName)

deriving instance DecidableEq for Project

/-- What comes of reading a project from the absolute path `file`. -/
structure Acceptance (s : Site) (file : Path) (result : Except Fault Project) : Prop where
  isOk_iff : (∃ p, result = .ok p) ↔
    ∃ content d, s.readBytes file.toText = .ok content ∧ Describes content d
  isFault : ∀ fault, result = .error fault → (∃ cause, fault = .project cause) ∨
    fault = .badValue ∧ ∃ content, s.readBytes file.toText = .ok content ∧ IsHuge content
  leads : ∀ p, result = .ok p →
    ∃ content d, s.readBytes file.toText = .ok content ∧ Describes content d ∧
      d.Leads file.parent p
  isPlain : ∀ p, result = .ok p → p.entryPath.IsPlain ∧ p.templatePath.IsPlain ∧
    p.assetsPath.IsPlain ∧ p.htmlDirectory.IsPlain ∧ p.pdfDirectory.IsPlain

variable {s : Site} {t : Text} {file : Path}

theorem isUnicode_absolute_ofText (hu : t.isUnicode = true)
    (h : ∀ name ∈ s.here, name.isUnicode = true) :
    (Path.absolute (Site.pathOf s.here) (.ofText t)).toText.isUnicode = true := by
  apply Path.isUnicode_toText_normalize
  rw [Path.isUnicode_toText_iff]
  have ht := Path.isUnicode_toText_iff.1 (Path.isUnicode_toText_ofText hu)
  intro part hpart
  unfold Path.join at hpart
  split at hpart
  · exact ht part hpart
  · exact (List.mem_append.1 hpart).elim (h part) (ht part)

theorem isUnicode_of_isAbsolute (hu : t.isUnicode = true) (ha : (Path.ofText t).isAbsolute = true) :
    (Path.absolute (Site.pathOf s.here) (.ofText t)).toText.isUnicode = true := by
  rw [Path.absolute_of_isAbsolute _ ha]
  exact Path.isUnicode_toText_normalize (Path.isUnicode_toText_ofText hu)

theorem read_of_isAbsolute {path : Path} (ha : path.isAbsolute = true) (files : FileSystem)
    (here here' : Location) : read ⟨files, here⟩ path = read ⟨files, here'⟩ path := by
  have habsolute : ∀ l, Site.absolute ⟨files, l⟩ path none = Site.absolute ⟨files, []⟩ path none := by
    intro l
    simp only [Site.absolute_of_not_isStranded (Site.isStranded_of_isAbsolute ha _ _),
      Path.absolute_of_isAbsolute _ ha]
  unfold read
  rw [habsolute here, habsolute here']
  cases hfile : Site.absolute ⟨files, []⟩ path none with
  | error fault => rfl
  | ok file =>
    obtain ⟨-, -, rfl⟩ := Site.absolute_eq_ok_iff.1 hfile
    have hread := Site.readText_of_isAbsolute
      (Path.isAbsolute_absolute (Site.isAbsolute_pathOf []) path) files here here'
    simp only [bind, Except.bind, Option.getD_none] at hread ⊢
    rw [hread]

theorem outcome_read (hs : s.WellPlaced) (hn : CodePoint.ofChar '\x00' ∉ t)
    (hu : (Path.absolute (Site.pathOf s.here) (.ofText t)).toText.isUnicode = true) :
    Acceptance s (Path.absolute (Site.pathOf s.here) (.ofText t)) (read s (.ofText t)) := by
  have hfile : s.absolute (.ofText t) none =
      .ok (Path.absolute (Site.pathOf s.here) (.ofText t)) :=
    Site.absolute_eq_ok_iff.2 ⟨hs.isStranded _ _, hu, rfl⟩
  have hnul : CodePoint.ofChar '\x00' ∉ (Path.ofText t).toText := by
    intro hm
    rcases Path.mem_of_mem_toText_ofText hm with hm | hm | hm
    · exact absurd hm (by decide)
    · exact absurd hm (by decide)
    · exact hn hm
  have hcheck := Site.check_of_isUnicode hu (Site.noNul_absolute hs hnul)
  refine ⟨?_, fun fault h => read_eq_error hfile hcheck h, fun p h => ?_, fun p h => ?_⟩
  · constructor
    · rintro ⟨p, hp⟩
      obtain ⟨content, d, hbytes, hd, -⟩ := (read_eq_ok_iff hfile).1 hp
      exact ⟨content, d, hbytes, hd⟩
    · rintro ⟨content, d, hbytes, hd⟩
      exact ⟨_, (read_eq_ok_iff hfile).2 ⟨content, d, hbytes, hd, rfl⟩⟩
  · obtain ⟨content, d, hbytes, hd, rfl⟩ := (read_eq_ok_iff hfile).1 h
    exact ⟨content, d, hbytes, hd, d.leads_project _⟩
  · have hloaded := isLoaded_of_read hs (Path.wellFormed_ofText t) h
    exact ⟨hloaded.isPlain_entryPath, hloaded.isPlain_templatePath, hloaded.isPlain_assetsPath,
      hloaded.isPlain_htmlDirectory, hloaded.isPlain_pdfDirectory⟩

/-- A project file is accepted if and only if a description is read at its absolute path, and then
the project leads where the description says. -/
theorem read_outcome (hs : s.WellPlaced) (hu : t.isUnicode = true)
    (hn : CodePoint.ofChar '\x00' ∉ t)
    (hfile : Path.absolute (Site.pathOf s.here) (.ofText t) = file) :
    (file.toText.isUnicode = true → Acceptance s file (read s (.ofText t)) ∧
      (s.files.LinkFree → file.Fits → ∀ written,
        s.readText (.ofText t) = .ok written → s.readText file = .ok written)) ∧
    (file.toText.isUnicode = false →
      read s (.ofText t) = .error (.pathNotUnicode file.toText) ∧
        (Path.ofText t).isAbsolute = false ∧ ∃ name ∈ s.here, name.isUnicode = false) ∧
    ((Path.ofText t).isAbsolute = true → ∀ here,
      read ⟨s.files, here⟩ (.ofText t) = read s (.ofText t)) := by
  subst hfile
  refine ⟨fun hunicode => ⟨outcome_read hs hn hunicode, fun hfree hfits written h => ?_⟩,
    fun hunicode => ⟨?_, ?_, ?_⟩, fun ha here => read_of_isAbsolute ha s.files here s.here⟩
  · exact Site.readText_absolute hfree hs (Path.wellFormed_ofText t)
      (Site.absolute_eq_ok_iff.2 ⟨hs.isStranded _ _, hunicode, rfl⟩) hfits h
  · have hnot : ¬(Path.absolute (Site.pathOf s.here) (.ofText t)).toText.isUnicode = true := by
      rw [hunicode]
      exact Bool.false_ne_true
    simp only [read, Site.absolute_of_not_isStranded (hs.isStranded _ _), Option.getD_none,
      Site.pathText, if_neg hnot]
    rfl
  · refine Bool.eq_false_iff.2 fun ha => ?_
    rw [isUnicode_of_isAbsolute hu ha] at hunicode
    cases hunicode
  · by_contra! hall
    rw [isUnicode_absolute_ofText hu (by simpa using hall)] at hunicode
    cases hunicode

/-- A project file with a root of its own, an absolute template and no output. -/
def manualFile : Bytes :=
  Text.Utf8.encodeLenient <| text "\x7b\"path\": \"./text/..\", \"assets\": \"assets/\", " ++
    text "\"entry\": \"../d/start.md\", \"template\": \"/t/./main.html\", \"output\": null\x7d"

def manualIn (top : Location) (name : Text) : Site :=
  ⟨planted top [([name], .file manualFile false)], top⟩

/-- A name that is the byte 0xFF, and so no text. -/
def strayName : Text := [⟨0xDCFF, by decide⟩]

theorem wellPlaced_manualIn {top : Location} (h : ∀ name ∈ top, FileSystem.IsName name)
    (name : Text) : (manualIn top name).WellPlaced := ⟨FileSystem.open_planted rfl, h⟩

theorem read_outcome_manual :
    (manualIn [text "d"] (text "p.thn")).WellPlaced ∧ (text "p.thn").isUnicode = true ∧
      CodePoint.ofChar '\x00' ∉ text "p.thn" ∧
      Path.absolute (Site.pathOf [text "d"]) (.ofText (text "p.thn")) = .ofText (text "/d/p.thn") ∧
      Acceptance (manualIn [text "d"] (text "p.thn")) (.ofText (text "/d/p.thn"))
        (read (manualIn [text "d"] (text "p.thn")) (.ofText (text "p.thn"))) ∧
      ∃ p, read (manualIn [text "d"] (text "p.thn")) (.ofText (text "p.thn")) = .ok p ∧
        p.entryPath = .ofText (text "/d/start.md") ∧
        p.templatePath = .ofText (text "/t/main.html") ∧
        p.htmlDirectory = .ofText (text "/d/build/html") := by
  have hplaced : (manualIn [text "d"] (text "p.thn")).WellPlaced :=
    wellPlaced_manualIn (by decide +kernel) _
  have hfile : Path.absolute (Site.pathOf [text "d"]) (.ofText (text "p.thn")) =
      .ofText (text "/d/p.thn") := by decide +kernel
  have hp : read (manualIn [text "d"] (text "p.thn")) (.ofText (text "p.thn")) =
      .ok ⟨.ofText (text "/d"), .ofText (text "/d"), .ofText (text "assets"),
        .ofText (text "../d/start.md"), .ofText (text "/t/main.html"),
        .ofText (text "build")⟩ := by decide +kernel
  obtain ⟨houtcome, -, -⟩ :=
    read_outcome hplaced (by decide : (text "p.thn").isUnicode = true) (by decide) hfile
  exact ⟨hplaced, by decide, by decide, hfile, (houtcome (by decide +kernel)).1, _, hp,
    by decide +kernel, by decide +kernel, by decide +kernel⟩

/-- Of a file that is far down there is no absolute path to read it by, and of one in a directory
with a name that is no text there is none to show. -/
theorem read_outcome_deep :
    (∃ d, Describes manualFile d) ∧
      (manualIn deepDirectory deepName).WellPlaced ∧ deepName.isUnicode = true ∧
      CodePoint.ofChar '\x00' ∉ deepName ∧
      (manualIn deepDirectory deepName).Keeps (.ofText deepName) manualFile ∧
      read (manualIn deepDirectory deepName) (.ofText deepName) =
        .error (.project (.unread (Site.pathOf (deepDirectory ++ [deepName])))) ∧
      (manualIn [strayName] (text "p.thn")).WellPlaced ∧
      (manualIn [strayName] (text "p.thn")).Keeps (.ofText (text "p.thn")) manualFile ∧
      read (manualIn [strayName] (text "p.thn")) (.ofText (text "p.thn")) =
        .error (.pathNotUnicode (Site.pathOf [strayName, text "p.thn"]).toText) := by
  have hfile : Site.absolute (manualIn [] deepName) (.ofText deepName) none =
      .ok (Site.pathOf [deepName]) := by decide +kernel
  have hread : read (manualIn [] deepName) (.ofText deepName) =
      .ok ⟨Site.pathOf [], Site.pathOf [], .ofText (text "assets"),
        .ofText (text "../d/start.md"), .ofText (text "/t/main.html"), .ofText (text "build")⟩ := by
    decide +kernel
  obtain ⟨content, d, hcontent, hd, -⟩ := (read_eq_ok_iff hfile).1 hread
  have hkept : (manualIn [] deepName).Keeps (Site.pathOf [deepName]) manualFile := by decide +kernel
  obtain rfl : content = manualFile := Except.ok.inj (hcontent.symm.trans hkept.readBytes_eq)
  exact ⟨⟨d, hd⟩, wellPlaced_manualIn FileSystem.isName_deepDirectory _, by decide +kernel,
    by decide +kernel, by decide +kernel, by decide +kernel,
    wellPlaced_manualIn (by decide +kernel) _, by decide +kernel, by decide +kernel⟩

end DocPress.Project
