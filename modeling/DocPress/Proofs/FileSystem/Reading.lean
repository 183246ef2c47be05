import DocPress.Proofs.FileSystem.LinkFree

namespace DocPress

def Entry.text? : Entry → Option Text
  | .file content _ => (Text.Utf8.decode content).toOption.map Text.unifyNewlines
  | .sink => some []
  | .directory | .link _ => none

def FileSystem.textAt (fs : FileSystem) (l : Location) : Option Text :=
  (fs.entryAt l).bind Entry.text?

namespace Site

theorem entry_eq_ok_iff {s : Site} {path : Text} {e : Entry} :
    s.entry path = .ok e ↔ check path = .ok () ∧ ∃ l, s.files.find s.here path true = .ok (l, e) := by
  rw [entry, bind_eq_ok_iff]
  cases hfind : s.files.find s.here path true with
  | error errno =>
    constructor
    · rintro ⟨_, _, h⟩
      cases h
    · rintro ⟨_, _, h⟩
      cases h
  | ok found =>
    obtain ⟨l, e'⟩ := found
    constructor
    · rintro ⟨⟨⟩, hcheck, h⟩
      cases h
      exact ⟨hcheck, l, rfl⟩
    · rintro ⟨hcheck, _, h⟩
      cases h
      exact ⟨(), hcheck, rfl⟩

theorem holds_eq_true_iff {s : Site} {accepts : Entry → Bool} {path : Text} :
    s.holds accepts path = .ok true ↔ ∃ e, s.entry path = .ok e ∧ accepts e = true := by
  unfold holds
  cases s.entry path with
  | ok e => simp
  | error fault =>
    refine iff_of_false (fun h => ?_) (fun ⟨_, h, _⟩ => by cases h)
    cases fault with
    | system e =>
      simp only at h
      split at h <;> cases h
    | _ => cases h

theorem isFile_eq_true_iff {s : Site} {p : Path} : s.isFile p = .ok true ↔
    check p.toText = .ok () ∧
      ∃ l e, s.files.find s.here p.toText true = .ok (l, e) ∧ isRegular e = true := by
  rw [isFile, holds_eq_true_iff]
  simp only [entry_eq_ok_iff]
  constructor
  · rintro ⟨e, ⟨hcheck, l, hfind⟩, he⟩
    exact ⟨hcheck, l, e, hfind, he⟩
  · rintro ⟨hcheck, l, e, hfind, he⟩
    exact ⟨e, ⟨hcheck, l, hfind⟩, he⟩

theorem readText_of_find {s : Site} {p : Path} {l : Location} {e : Entry} {code : Text}
    (hc : check p.toText = .ok ()) (hf : s.files.find s.here p.toText true = .ok (l, e)) :
    s.readText p = .ok code ↔ e.text? = some code := by
  unfold readText readBytes FileSystem.read
  rw [hc, hf]
  cases e with
  | file content executable =>
    cases hd : Text.Utf8.decode content <;>
      simp [bind, Except.bind, refuse, Entry.text?, hd, Except.toOption]
  | directory => simp [bind, Except.bind, refuse, Entry.text?]
  | link target => simp [bind, Except.bind, refuse, Entry.text?]
  | sink =>
    have hd : Text.Utf8.decode [] = .ok [] := rfl
    simp [bind, Except.bind, refuse, Entry.text?, hd, Text.unifyNewlines]

theorem readText_eq_ok_iff {s : Site} {p : Path} {code : Text} :
    s.readText p = .ok code ↔ check p.toText = .ok () ∧
      ∃ l e, s.files.find s.here p.toText true = .ok (l, e) ∧ e.text? = some code := by
  constructor
  · intro h
    obtain ⟨⟨l, e⟩, hc, hf⟩ := readText_eq_ok h
    exact ⟨hc, l, e, hf, (readText_of_find hc hf).1 h⟩
  · rintro ⟨hc, l, e, hf, he⟩
    exact (readText_of_find hc hf).2 he

theorem readText_eq_ok_iff_readBytes {s : Site} {p : Path} {code : Text} :
    s.readText p = .ok code ↔ ∃ content decoded, s.readBytes p.toText = .ok content ∧
      Text.Utf8.decode content = .ok decoded ∧ code = Text.unifyNewlines decoded := by
  unfold readText
  cases s.readBytes p.toText with
  | error fault => cases fault <;> simp
  | ok content => cases hd : Text.Utf8.decode content <;> simp [hd, eq_comm]

theorem readText_of_check_eq_error {s : Site} {p : Path} {fault : Fault}
    (h : check p.toText = .error fault) : s.readText p = .error fault := by
  have hfault : fault = .badValue ∨ fault = .notEncodable := by
    unfold check at h
    split at h
    · exact .inl (Except.error.inj h).symm
    · split at h
      · cases h
      · exact .inr (Except.error.inj h).symm
  unfold readText readBytes
  rw [h]
  rcases hfault with rfl | rfl <;> rfl

theorem exists_unread_of_readText {s : Site} {p : Path} {fault : Fault}
    (hc : check p.toText = .ok ()) (h : s.readText p = .error fault) :
    ∃ reason, fault = .unread p reason := by
  unfold readText readBytes at h
  rw [hc] at h
  cases hread : s.files.read s.here p.toText with
  | error e =>
    rw [hread] at h
    exact ⟨_, (Except.error.inj h).symm⟩
  | ok bytes =>
    rw [hread] at h
    simp only [bind, Except.bind, refuse] at h
    split at h
    · cases h
    · exact ⟨_, (Except.error.inj h).symm⟩

/-- A place to work in: a directory, and one that a path can name. -/
structure WellPlaced (s : Site) : Prop where
  isOpen : s.files.Open s.here
  isName : ∀ name ∈ s.here, FileSystem.IsName name

theorem WellPlaced.wellFormed_pathOf {s : Site} (h : s.WellPlaced) : (pathOf s.here).WellFormed :=
  fun part hp => (h.isName part hp).isComponent

theorem check_of_isUnicode {t : Text} (hu : t.isUnicode = true) (hn : CodePoint.ofChar '\x00' ∉ t) :
    check t = .ok () := by
  refine check_eq_ok_iff.2 ⟨hn, fun c hc hs => ?_⟩
  rw [Text.isUnicode_iff.1 hu c hc] at hs
  cases hs

theorem WellPlaced.isStranded {s : Site} (h : s.WellPlaced) (p : Path) (base : Option Path) :
    s.isStranded p base = false := by
  have hhere : s.files.isDirectoryAt s.here = true := decide_eq_true (h.isOpen _ List.prefix_rfl)
  simp [Site.isStranded, hhere]

theorem absolute_eq_ok_iff {s : Site} {p q : Path} {base : Option Path} :
    s.absolute p base = .ok q ↔ s.isStranded p base = false ∧
      q.toText.isUnicode = true ∧ Path.absolute (base.getD (pathOf s.here)) p = q := by
  cases hs : s.isStranded p base with
  | true =>
    rw [absolute, hs]
    refine iff_of_false (fun h => ?_) fun h => ?_
    · cases h
    · cases h.1
  | false =>
    rw [absolute_of_not_isStranded hs, bind_eq_ok_iff]
    unfold pathText
    constructor
    · rintro ⟨_, hu, h⟩
      obtain rfl : Path.absolute (base.getD (pathOf s.here)) p = q := Except.ok.inj h
      split at hu
      · exact ⟨rfl, ‹_›, rfl⟩
      · cases hu
    · rintro ⟨-, hu, rfl⟩
      exact ⟨(), by rw [if_pos hu]; rfl, rfl⟩

theorem noNul_absolute {s : Site} (hs : s.WellPlaced) {p : Path}
    (hp : CodePoint.ofChar '\x00' ∉ p.toText) :
    CodePoint.ofChar '\x00' ∉ (Path.absolute (pathOf s.here) p).toText := by
  intro hm
  rcases Path.mem_toText hm with hm | hm | ⟨part, hpart, hm⟩
  · exact absurd hm (by decide)
  · exact absurd hm (by decide)
  · have hjoin : part ∈ s.here ∨ part ∈ p.parts := by
      have hmem : part ∈ ((pathOf s.here).join p).parts := Path.mem_of_mem_normalize hpart
      unfold Path.join at hmem
      split at hmem
      · exact .inr hmem
      · exact List.mem_append.1 hmem
    rcases hjoin with hh | hh
    · exact (hs.isName part hh).noNul hm
    · exact hp (Path.part_subset_toText hh hm)

theorem isAbsolute_pathOf (l : Location) : (pathOf l).isAbsolute = true := rfl

theorem finds_of_readText {s : Site} (hfree : s.files.LinkFree) (hs : s.WellPlaced) {p : Path}
    {code : Text} (hp : p.WellFormed) (h : s.readText p = .ok code) :
    ∃ l e, FileSystem.Finds s.files s.here p l e ∧ e.text? = some code := by
  obtain ⟨-, l, e, hf, he⟩ := readText_eq_ok_iff.1 h
  exact ⟨l, e, FileSystem.finds_of_find hfree hp hs.isOpen hs.isName hf, he⟩

theorem readText_absolute {s : Site} (hfree : s.files.LinkFree) (hs : s.WellPlaced) {p q : Path}
    {code : Text} (hp : p.WellFormed) (hq : s.absolute p none = .ok q) (hfits : q.Fits)
    (h : s.readText p = .ok code) : s.readText q = .ok code := by
  obtain ⟨-, hu, rfl⟩ := absolute_eq_ok_iff.1 hq
  obtain ⟨l, e, hf, he⟩ := finds_of_readText hfree hs hp h
  have hplain : (Path.absolute (pathOf s.here) p).IsPlain :=
    Path.isPlain_absolute (isAbsolute_pathOf s.here) hs.wellFormed_pathOf hp
  have hnul := noNul_absolute hs (check_eq_ok_iff.1 (readText_eq_ok_iff.1 h).1).1
  have hfind : s.files.find s.here (Path.absolute (pathOf s.here) p).toText true = .ok (l, e) := by
    obtain ⟨rfl, hentry, hopen, hshort, -⟩ := hf
    exact (FileSystem.find_eq_ok_iff hfree hplain _ _ _).2
      ⟨rfl, hentry, hfits, hopen, hshort⟩
  exact readText_eq_ok_iff.2 ⟨check_of_isUnicode hu hnul, l, e, hfind, he⟩

end Site

end DocPress
