import DocPress.Proofs.FileSystem.Growth
import DocPress.Proofs.FileSystem.Overwriting
import DocPress.Proofs.World.OwnFaults

namespace DocPress

namespace FileSystem

variable {fs fs' : FileSystem} {here l : Location} {path : Text} {e : Entry} {follow : Bool}
  {content : Bytes}

theorem find_of_newDirectories (h : NewDirectories fs fs')
    (hf : fs.find here path follow = .ok (l, e)) : fs'.find here path follow = .ok (l, e) := by
  obtain ⟨hl, he⟩ := find_eq_ok_iff_locate.1 hf
  have hold : ∀ k e, fs.entryAt k = some e → fs'.entryAt k = some e := by
    intro k e hk
    rcases h k with hsame | ⟨hn, -⟩
    · rw [hsame, hk]
    · rw [hn] at hk
      cases hk
  refine find_eq_ok_iff_locate.2 ⟨locate_of_added hold (fun hn => ?_) hl, hold l e he⟩
  rw [hn] at he
  cases he

theorem find_put_of_none (hl : fs.locate here path follow = .ok l) (hn : fs.entryAt l = none)
    (executable : Bool) :
    (fs.put l (.file content executable)).find here path follow =
      .ok (l, .file content executable) := by
  have hput := entryAt_put fs (ne_nil_of_none hn) (.file content executable)
  have hnew : (fs.put l (.file content executable)).entryAt l = some (.file content executable) := by
    rw [hput, if_pos rfl]
  refine find_eq_ok_iff_locate.2 ⟨locate_of_added (fun k e hk => ?_) (fun _ target => ?_) hl, hnew⟩
  · have hkl : k ≠ l := by
      rintro rfl
      rw [hn] at hk
      cases hk
    rw [hput, if_neg hkl, hk]
  · rw [hnew]
    nofun

/-- What is written stands there, unless it is forgotten at once. -/
theorem find_of_write (h : fs.write here path content = .ok fs') :
    ((∃ l, fs.find here path true = .ok (l, .sink)) ∧ fs' = fs) ∨
      (¬∃ l, fs.find here path true = .ok (l, .sink)) ∧
        ∃ l executable, fs'.find here path true = .ok (l, .file content executable) := by
  obtain ⟨l, hl, h⟩ := bind_eq_ok_iff.1 h
  have hat : ∀ {k e}, fs.find here path true = .ok (k, e) → fs.entryAt l = some e := by
    intro k e hf
    obtain ⟨hk, he⟩ := find_eq_ok_iff_locate.1 hf
    rwa [Except.ok.inj (hl.symm.trans hk)]
  -- The path leads to the same place before and after, whether there was an entry or not.
  cases he : fs.entryAt l with
  | none =>
    rw [he] at h
    simp only at h
    split at h
    · cases h
    · cases h
      refine .inr ⟨fun ⟨k, hk⟩ => ?_, l, false, find_put_of_none hl he false⟩
      rw [hat hk] at he
      cases he
  | some e =>
    have hf := find_eq_ok_iff_locate.2 ⟨hl, he⟩
    rw [he] at h
    cases e with
    | file old executable =>
      cases h
      have hput : (fs.put l (.file content executable)).find here path true =
          .ok (l, if l = l then .file content executable else .file old executable) :=
        find_put he hf
      rw [if_pos rfl] at hput
      refine .inr ⟨fun ⟨k, hk⟩ => ?_, l, executable, hput⟩
      rw [hat hk] at he
      cases he
    | sink =>
      cases h
      exact .inl ⟨⟨l, hf⟩, rfl⟩
    | directory => cases h
    | link target => cases h

theorem exists_write_of_find (hf : fs.find here path true = .ok (l, e))
    (he : e = .sink ∨ ∃ old executable, e = .file old executable) (content : Bytes) :
    ∃ fs', fs.write here path content = .ok fs' := by
  obtain ⟨hl, hat⟩ := find_eq_ok_iff_locate.1 hf
  rcases he with rfl | ⟨old, executable, rfl⟩
  · exact ⟨fs, bind_eq_ok_iff.2 ⟨l, hl, by rw [hat]⟩⟩
  · exact ⟨fs.put l (.file content executable), bind_eq_ok_iff.2 ⟨l, hl, by rw [hat]⟩⟩

end FileSystem

/-- A path leads to what forgets all that is written. -/
def Site.IsSink (s : Site) (p : Path) : Prop :=
  ∃ l, s.files.find s.here p.toText true = .ok (l, .sink)

instance (s : Site) (p : Path) : Decidable (s.IsSink p) :=
  decidable_of_iff ((s.files.find s.here p.toText true).toOption.any (·.2 = .sink) = true) <| by
    unfold Site.IsSink
    cases s.files.find s.here p.toText true with
    | error e => simp [Except.toOption]
    | ok r =>
      obtain ⟨l, e⟩ := r
      simp [Except.toOption]

/-- A path leads to a file that holds these bytes. -/
structure Site.Keeps (s : Site) (p : Path) (content : Bytes) : Prop where
  check_eq : Site.check p.toText = .ok ()
  find_eq : ∃ l executable,
    s.files.find s.here p.toText true = .ok (l, .file content executable)

instance (s : Site) (p : Path) (content : Bytes) : Decidable (s.Keeps p content) :=
  decidable_of_iff (Site.check p.toText = .ok () ∧
      (s.files.find s.here p.toText true).toOption.any
        (fun r => r.2 = .file content true ∨ r.2 = .file content false) = true) <| by
    refine ⟨fun ⟨hc, hf⟩ => ⟨hc, ?_⟩, fun h => ⟨h.check_eq, ?_⟩⟩
    · cases hfind : s.files.find s.here p.toText true with
      | error e =>
        rw [hfind] at hf
        cases hf
      | ok r =>
        obtain ⟨l, e⟩ := r
        rw [hfind] at hf
        rcases of_decide_eq_true hf with rfl | rfl
        · exact ⟨l, true, rfl⟩
        · exact ⟨l, false, rfl⟩
    · obtain ⟨l, executable, hf⟩ := h.find_eq
      rw [hf]
      cases executable <;> simp [Except.toOption]

theorem Site.Keeps.not_isSink {s : Site} {p : Path} {content : Bytes} (h : s.Keeps p content) :
    ¬s.IsSink p := by
  rintro ⟨l, hl⟩
  obtain ⟨k, executable, hk⟩ := h.find_eq
  rw [hl] at hk
  cases hk

theorem Site.Keeps.exists_eq {s : Site} {p : Path} {content : Bytes} (h : s.Keeps p content) :
    s.exists_ p = .ok true := by
  obtain ⟨l, executable, hf⟩ := h.find_eq
  simp only [Site.exists_, Site.holds, Site.entry, h.check_eq, hf]
  rfl

theorem Site.Keeps.readBytes_eq {s : Site} {p : Path} {content : Bytes} (h : s.Keeps p content) :
    s.readBytes p.toText = .ok content := by
  obtain ⟨l, executable, hf⟩ := h.find_eq
  simp only [Site.readBytes, FileSystem.read, h.check_eq, hf]
  rfl

namespace World

variable {w w' : World} {p q : Path} {content : Bytes}

/-- The working directory is the same, and the files differ by new directories. -/
def Grows (w w' : World) : Prop := w'.here = w.here ∧ FileSystem.NewDirectories w.files w'.files

theorem grows_refl (w : World) : Grows w w := ⟨rfl, FileSystem.newDirectories_refl _⟩

theorem grows_makeDirectories {r : Except Fault Unit}
    (h : (makeDirectories p).run.run w = (r, w')) : Grows w w' := by
  have hwithin : Within Grows (fun _ => True) (makeDirectories p) :=
    within_makeDirectories_of grows_refl
      (fun _ _ _ h h' => ⟨h'.1.trans h.1, h.2.trans h'.2⟩)
      (fun _ _ _ h => ⟨rfl, FileSystem.newDirectories_of_makeDirectory h⟩)
  exact hwithin _ _ _ h fun _ _ => trivial

theorem Grows.isSink (h : Grows w w') (hw : w.toSite.IsSink p) : w'.toSite.IsSink p := by
  obtain ⟨l, hl⟩ := hw
  refine ⟨l, ?_⟩
  rw [h.1]
  exact FileSystem.find_of_newDirectories h.2 hl

theorem Grows.keeps (h : Grows w w') (hw : w.toSite.Keeps p content) : w'.toSite.Keeps p content := by
  obtain ⟨l, executable, hf⟩ := hw.find_eq
  refine ⟨hw.check_eq, l, executable, ?_⟩
  rw [h.1]
  exact FileSystem.find_of_newDirectories h.2 hf

theorem run_writeBytes_eq_ok (h : (writeBytes p content).run.run w = (.ok (), w')) :
    (w.toSite.IsSink p ∧ w' = w) ∨ (¬w.toSite.IsSink p ∧ w'.toSite.Keeps p content) := by
  obtain ⟨files, hc, hwritten, rfl⟩ := run_change_eq_ok_iff.1 h
  rcases FileSystem.find_of_write hwritten with ⟨hsink, rfl⟩ | ⟨hnot, hf⟩
  · exact .inl ⟨hsink, rfl⟩
  · exact .inr ⟨hnot, hc, hf⟩

theorem exists_run_writeBytes_again (h : (writeBytes p content).run.run w = (.ok (), w'))
    (more : Bytes) : ∃ w'', (writeBytes p more).run.run w' = (.ok (), w'') := by
  obtain ⟨files, hc, hwritten, rfl⟩ := run_change_eq_ok_iff.1 h
  obtain ⟨l, e, hf, he⟩ : ∃ l e, files.find w.here p.toText true = .ok (l, e) ∧
      (e = .sink ∨ ∃ old executable, e = .file old executable) := by
    rcases FileSystem.find_of_write hwritten with ⟨⟨l, hf⟩, rfl⟩ | ⟨-, l, executable, hf⟩
    · exact ⟨l, _, hf, .inl rfl⟩
    · exact ⟨l, _, hf, .inr ⟨_, _, rfl⟩⟩
  obtain ⟨after, hafter⟩ := FileSystem.exists_write_of_find hf he more
  exact ⟨_, run_change_eq_ok_iff.2 ⟨after, hc, hafter, rfl⟩⟩

end World

end DocPress
