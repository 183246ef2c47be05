import DocPress.Assets
import DocPress.Proofs.FileSystem.Mirroring
import DocPress.Proofs.World.OwnFaults

namespace DocPress

section FilterM

variable {ε α : Type} {f : α → Except ε Bool} {l kept bs : List α} {e : ε}

theorem filterAuxM_eq_ok (h : l.filterAuxM f kept = .ok bs) :
    (∀ a ∈ l, ∃ b, f a = .ok b) ∧
      bs = (l.filter fun a => (f a).toOption = some true).reverse ++ kept := by
  induction l generalizing kept with
  | nil =>
    cases h
    exact ⟨by simp, rfl⟩
  | cons a l ih =>
    obtain ⟨b, ha, h⟩ := bind_eq_ok_iff.1 h
    obtain ⟨hl, rfl⟩ := ih h
    refine ⟨List.forall_mem_cons.2 ⟨⟨b, ha⟩, hl⟩, ?_⟩
    cases b <;> simp [ha, Except.toOption]

/-- A filter that asks succeeds when each question does, and keeps what is answered with yes. -/
theorem filterM_eq_ok (h : l.filterM f = .ok bs) :
    (∀ a ∈ l, ∃ b, f a = .ok b) ∧ bs = l.filter fun a => (f a).toOption = some true := by
  obtain ⟨kept, hkept, h⟩ := bind_eq_ok_iff.1 h
  obtain ⟨hl, rfl⟩ := filterAuxM_eq_ok hkept
  obtain rfl := Except.ok.inj h
  exact ⟨hl, by simp⟩

theorem filterAuxM_eq_error (h : l.filterAuxM f kept = .error e) : ∃ a ∈ l, f a = .error e := by
  induction l generalizing kept with
  | nil => cases h
  | cons a l ih =>
    rcases bind_eq_error_iff.1 h with h | ⟨b, -, h⟩
    · exact ⟨a, List.mem_cons_self, h⟩
    · obtain ⟨a', ha', h⟩ := ih h
      exact ⟨a', List.mem_cons_of_mem a ha', h⟩

theorem filterM_eq_error (h : l.filterM f = .error e) : ∃ a ∈ l, f a = .error e := by
  rcases bind_eq_error_iff.1 h with h | ⟨_, -, h⟩
  · exact filterAuxM_eq_error h
  · cases h

end FilterM

namespace FileSystem

variable {fs : FileSystem} {l : Location}

theorem exists_entryAt_of_mem {e : Entry} (h : (l, e) ∈ fs.entries) : ∃ e', fs.entryAt l = some e' := by
  unfold entryAt
  split
  · exact ⟨_, rfl⟩
  · cases hl : fs.entries.lookup l with
    | some e' => exact ⟨e', rfl⟩
    | none =>
      have hne := List.lookup_eq_none_iff.1 hl (l, e) h
      simp at hne

theorem mem_of_entryAt {e : Entry} (hl : l ≠ []) (h : fs.entryAt l = some e) :
    (l, e) ∈ fs.entries := by
  rw [entryAt, if_neg hl] at h
  obtain ⟨_, _, hentries, -⟩ := List.lookup_eq_some_iff.1 h
  rw [hentries]
  simp

theorem IsTree.isInside (h : fs.IsTree) {r : Location} {e : Entry}
    (he : fs.entryAt (l ++ r) = some e) : Path.IsInside r := fun name hn =>
  have htakes := h.takes he name (List.mem_append_right _ hn)
  ⟨htakes.1.isComponent, htakes.1.ne_dotDot⟩

end FileSystem

theorem Site.check_of_takes {p : Path} (h : ∀ name ∈ p.parts, FileSystem.Takes name) :
    check p.toText = .ok () := by
  have hchar : ∀ c ∈ p.toText, (c = Path.slash ∨ c ∈ Path.dot) ∨ ∃ name ∈ p.parts, c ∈ name :=
    fun c hc => or_assoc.2 (Path.mem_toText hc)
  refine check_eq_ok_iff.2 ⟨fun hnul => ?_, fun c hc hs => ?_⟩
  · rcases hchar _ hnul with hsign | ⟨name, hn, hm⟩
    · exact absurd hsign (by decide)
    · exact (h name hn).1.noNul hm
  · rcases hchar c hc with hsign | ⟨name, hn, hm⟩
    · have hplain : c.isSurrogate = false := by
        rcases hsign with rfl | hd
        · decide
        · rw [List.mem_singleton.1 (show c ∈ [_] from hd)]
          decide
      rw [hplain] at hs
      cases hs
    · exact (check_eq_ok_iff.1 (h name hn).2).2 c hm hs

theorem Site.isRegular_eq_true_iff {e : Entry} :
    isRegular e = true ↔ ∃ content executable, e = .file content executable := by
  cases e <;> simp [isRegular]

theorem Site.isFile_eq_ok {s : Site} (hfree : s.files.LinkFree) (htree : s.files.IsTree) {p : Path}
    (hp : p.IsPlain) {e : Entry} (he : s.files.entryAt p.parts = some e) {b : Bool}
    (h : s.isFile p = .ok b) : b = isRegular e := by
  have hc : check p.toText = .ok () := check_of_takes (htree.takes he)
  have hshort : ∀ name ∈ p.parts, FileSystem.IsShort name := fun name hn => (htree.takes he name hn).1.isShort
  unfold isFile holds entry at h
  by_cases hf : p.Fits
  · have hfind : s.files.find s.here p.toText true = .ok (p.parts, e) :=
      (FileSystem.find_eq_ok_iff hfree hp _ _ _).2 ⟨rfl, he, hf, htree.isOpen he, hshort⟩
    rw [hc, hfind] at h
    exact (Except.ok.inj h).symm
  · have hfind : s.files.find s.here p.toText true = .error .nameTooLong := by
      rw [FileSystem.find, FileSystem.locate_toText hp.wellFormed, if_neg hf]
      rfl
    rw [hc, hfind] at h
    cases h

namespace Assets

open World

variable {s : Site} {source : Path} {fault : Fault}

/-- A file below the directory of the assets. -/
def IsAsset (files : FileSystem) (directory r : Location) : Prop :=
  r ≠ [] ∧ ∃ content executable, files.entryAt (directory ++ r) = some (.file content executable)

theorem mem_below {files : FileSystem} {directory r : Location} :
    r ∈ below files directory ↔ r ≠ [] ∧ ∃ e, (directory ++ r, e) ∈ files.entries := by
  simp only [below, List.mem_filterMap]
  constructor
  · rintro ⟨⟨l, e⟩, hm, h⟩
    dsimp only at h
    split at h
    · obtain ⟨hp, hne⟩ := ‹_ ∧ _›
      obtain ⟨rest, rfl⟩ := List.isPrefixOf_iff_prefix.1 hp
      rw [List.drop_left] at h
      obtain rfl := Option.some.inj h
      exact ⟨fun hr => hne (by simp [hr]), e, hm⟩
    · cases h
  · rintro ⟨hr, e, hm⟩
    refine ⟨_, hm, ?_⟩
    dsimp only
    rw [if_pos ⟨List.isPrefixOf_iff_prefix.2 (List.prefix_append _ _), fun h => hr (by simpa using h)⟩,
      List.drop_left]

/-- A path that is listed is asked whether it leads to a file, and does so if one is there. -/
theorem isFile_below_iff (hfree : s.files.LinkFree) (htree : s.files.IsTree) (hs : source.IsPlain)
    {r : Location} (hr : r ≠ []) {e : Entry} (he : s.files.entryAt (source.parts ++ r) = some e) {b : Bool}
    (hb : s.isFile (source.join ⟨.relative, r⟩) = .ok b) :
    b = true ↔ IsAsset s.files source.parts r := by
  rw [Site.isFile_eq_ok hfree htree (hs.below (htree.isInside he)) he hb, Site.isRegular_eq_true_iff]
  simp [IsAsset, hr, he]

/-- The files that are listed are those that stand below the directory in the tree. -/
theorem mem_filesIn (hfree : s.files.LinkFree) (htree : s.files.IsTree) (hs : source.IsPlain)
    {files : List (List Text)} (h : filesIn s source = .ok files) {r : Location} :
    r ∈ files ↔ IsAsset s.files source.parts r := by
  obtain ⟨⟨directory, e₀⟩, hfind, h⟩ := bind_eq_ok_iff.1 h
  obtain ⟨rfl, -⟩ :=
    (FileSystem.find_eq_ok_iff hfree hs _ _ _).1 (Site.refuse_eq_ok_iff.1 hfind)
  obtain ⟨listed, hlisted, h⟩ := bind_eq_ok_iff.1 h
  obtain rfl := Except.ok.inj h
  obtain ⟨hasked, rfl⟩ := filterM_eq_ok hlisted
  rw [List.mem_mergeSort, List.mem_filter, decide_eq_true_eq]
  constructor
  · rintro ⟨hm, hyes⟩
    obtain ⟨hr, _, hentry⟩ := mem_below.1 hm
    obtain ⟨e, he⟩ := FileSystem.exists_entryAt_of_mem hentry
    obtain ⟨b, hb⟩ := hasked r hm
    rw [hb] at hyes
    exact (isFile_below_iff hfree htree hs hr he hb).1 (Option.some.inj hyes)
  · intro hasset
    obtain ⟨hr, content, executable, he⟩ := id hasset
    have hm : r ∈ below s.files source.parts :=
      mem_below.2 ⟨hr, _, FileSystem.mem_of_entryAt (by simp [hr]) he⟩
    obtain ⟨b, hb⟩ := hasked r hm
    refine ⟨hm, ?_⟩
    rw [hb, (isFile_below_iff hfree htree hs hr he hb).2 hasset]
    rfl

theorem isForeign_of_filesIn (h : filesIn s source = .error fault) : fault.IsForeign := by
  rcases bind_eq_error_iff.1 h with h | ⟨found, -, h⟩
  · exact Site.isForeign_of_refuse h
  rcases bind_eq_error_iff.1 h with h | ⟨_, -, h⟩
  · obtain ⟨_, -, h⟩ := filterM_eq_error h
    exact Site.isForeign_of_holds h
  · cases h

end Assets

end DocPress
