import DocPress.Build
import DocPress.Proofs.Build.Description
import DocPress.Proofs.FileSystem.Reading
import DocPress.Proofs.Path.Relative

namespace DocPress.Project

/-- The paths of a project as they are read: its root is absolute, and all have components only. -/
structure IsLoaded (p : Project) : Prop where
  isAbsolute : p.root.isAbsolute = true
  root : p.root.WellFormed
  assets : p.assets.WellFormed
  entry : p.entry.WellFormed
  template : p.template.WellFormed
  output : p.output.WellFormed

variable {p : Project}

theorem IsLoaded.isPlain_within (h : p.IsLoaded) {path : Path} (hp : path.WellFormed) :
    (p.within path).IsPlain :=
  Path.isPlain_absolute h.isAbsolute h.root hp

theorem IsLoaded.isPlain_entryPath (h : p.IsLoaded) : p.entryPath.IsPlain := h.isPlain_within h.entry

theorem IsLoaded.isPlain_templatePath (h : p.IsLoaded) : p.templatePath.IsPlain :=
  h.isPlain_within h.template

theorem IsLoaded.isPlain_assetsPath (h : p.IsLoaded) : p.assetsPath.IsPlain :=
  h.isPlain_within h.assets

theorem IsLoaded.isPlain_htmlDirectory (h : p.IsLoaded) : p.htmlDirectory.IsPlain :=
  h.isPlain_within (h.output.join (Path.wellFormed_ofText _))

theorem IsLoaded.isPlain_pdfDirectory (h : p.IsLoaded) : p.pdfDirectory.IsPlain :=
  h.isPlain_within (h.output.join (Path.wellFormed_ofText _))

theorem Description.isLoaded_project (d : Description) {location : Path}
    (ha : location.isAbsolute = true) (hw : location.WellFormed) : (d.project location).IsLoaded :=
  ⟨Path.isAbsolute_absolute ha _, hw.absolute (Path.wellFormed_ofText _), Path.wellFormed_ofText _,
    Path.wellFormed_ofText _, Path.wellFormed_ofText _, Path.wellFormed_ofText _⟩

/-- Where a project leads that is described in a file of the directory `location`: each path is
meant from the one before it, and an absolute one by itself. -/
structure Description.Leads (d : Description) (location : Path) (p : Project) : Prop where
  entryPath : p.entryPath =
    ((location.join (.ofText d.path)).join (.ofText d.entry)).normalize
  templatePath : p.templatePath =
    ((location.join (.ofText d.path)).join (.ofText d.template)).normalize
  assetsPath : p.assetsPath =
    ((location.join (.ofText d.path)).join (.ofText d.assets)).normalize
  htmlDirectory : p.htmlDirectory =
    (((location.join (.ofText d.path)).join (.ofText d.output)).child (text "html")).normalize
  pdfDirectory : p.pdfDirectory =
    (((location.join (.ofText d.path)).join (.ofText d.output)).child (text "pdf")).normalize

theorem Description.within_project (d : Description) (location path : Path) :
    (d.project location).within path = ((location.join (.ofText d.path)).join path).normalize :=
  Path.absolute_normalize _ _

theorem Description.leads_project (d : Description) (location : Path) :
    d.Leads location (d.project location) := by
  have houtput : ∀ name, (d.project location).within ((d.project location).output.child name) =
      (((location.join (.ofText d.path)).join (.ofText d.output)).child name).normalize := by
    intro name
    rw [d.within_project, Path.child, Path.child, Path.join_assoc _ (.ofText d.output)]
    rfl
  exact ⟨d.within_project _ _, d.within_project _ _, d.within_project _ _, houtput _, houtput _⟩

variable {s : Site} {path file : Path}

theorem read_eq_ok_iff (hfile : s.absolute path none = .ok file) :
    read s path = .ok p ↔ ∃ content d, s.readBytes file.toText = .ok content ∧
      Describes content d ∧ p = d.project file.parent := by
  have hread : read s path = .ok p ↔ ∃ written, s.readText file = .ok written ∧
      ofText file written = .ok p := by
    rw [read, hfile]
    simp only [bind, Except.bind]
    cases s.readText file with
    | ok written => simp
    | error fault => cases fault <;> simp
  rw [hread]
  constructor
  · rintro ⟨written, htext, hp⟩
    obtain ⟨content, decoded, hbytes, hdecode, rfl⟩ := Site.readText_eq_ok_iff_readBytes.1 htext
    obtain ⟨members, d, hmembers, hd, rfl⟩ := ofText_eq_ok_iff.1 hp
    exact ⟨content, d, hbytes, ⟨decoded, members, hdecode, hmembers, hd⟩, rfl⟩
  · rintro ⟨content, d, hbytes, ⟨decoded, members, hdecode, hmembers, hd⟩, rfl⟩
    exact ⟨_, Site.readText_eq_ok_iff_readBytes.2 ⟨content, decoded, hbytes, hdecode, rfl⟩,
      ofText_eq_ok_iff.2 ⟨members, d, hmembers, hd, rfl⟩⟩

theorem read_eq_error (hfile : s.absolute path none = .ok file)
    (hcheck : Site.check file.toText = .ok ()) {fault : Fault} (h : read s path = .error fault) :
    (∃ cause, fault = .project cause) ∨
      fault = .badValue ∧ ∃ content, s.readBytes file.toText = .ok content ∧ IsHuge content := by
  rw [read, hfile] at h
  cases htext : s.readText file with
  | error unread =>
    obtain ⟨reason, rfl⟩ := Site.exists_unread_of_readText hcheck htext
    simp only [bind, Except.bind, htext] at h
    exact .inl ⟨_, (Except.error.inj h).symm⟩
  | ok written =>
    simp only [bind, Except.bind, htext] at h
    obtain ⟨content, decoded, hbytes, hdecode, rfl⟩ := Site.readText_eq_ok_iff_readBytes.1 htext
    refine (ofText_eq_error h).imp_right fun ⟨hfault, found, hfound, hhuge⟩ => ?_
    exact ⟨hfault, content, hbytes, decoded, found, hdecode, hfound, hhuge⟩

/-- A project that was read from a file has such paths. -/
theorem isLoaded_of_read (hs : s.WellPlaced) (hf : path.WellFormed) (h : read s path = .ok p) :
    p.IsLoaded := by
  obtain ⟨file, hfile, -⟩ := bind_eq_ok_iff.1 h
  obtain ⟨content, d, -, -, rfl⟩ := (read_eq_ok_iff hfile).1 h
  obtain ⟨-, -, rfl⟩ := Site.absolute_eq_ok_iff.1 hfile
  have hplain := Path.isPlain_absolute (Site.isAbsolute_pathOf s.here) hs.wellFormed_pathOf hf
  exact d.isLoaded_project hplain.parent.isAbsolute hplain.parent.wellFormed

end DocPress.Project
