import DocPress.Proofs.FileSystem.Overwriting

namespace DocPress

namespace Path

def below (top : Path) (k : Location) : Path := { top with parts := top.parts ++ k }

/-- The names of directories, and of what stands in the last of them. -/
def IsInside (k : Location) : Prop := ∀ name ∈ k, IsComponent name ∧ name ≠ dotDot

instance (k : Location) : Decidable (IsInside k) :=
  inferInstanceAs (Decidable (∀ name ∈ k, IsComponent name ∧ name ≠ dotDot))

theorem IsInside.dropLast {k : Location} (h : IsInside k) : IsInside k.dropLast :=
  fun name hn => h name (List.dropLast_subset _ hn)

variable {top : Path} {k : Location}

theorem IsPlain.below (h : top.IsPlain) (hk : IsInside k) : (top.below k).IsPlain := by
  refine ⟨h.isAbsolute, fun part hp => ?_, fun hm => ?_⟩
  · exact (List.mem_append.1 hp).elim (h.wellFormed part) fun hp => (hk part hp).1
  · exact (List.mem_append.1 hm).elim h.dotDot_notMem fun hm => (hk _ hm).2 rfl

theorem dropLast_parts_below (hk : k ≠ []) (top : Path) :
    (top.below k).parts.dropLast = top.parts ++ k.dropLast :=
  List.dropLast_append_of_ne_nil hk

theorem parent_below (hk : k ≠ []) : (top.below k).parent = top.below k.dropLast := by
  rw [parent, dropLast_parts_below hk]
  rfl

theorem name_below (hk : k ≠ []) : (top.below k).name = k.getLastD [] := by
  have hlast : (top.parts ++ k).getLast? = k.getLast? := by
    rw [List.getLast?_append, List.getLast?_eq_some_getLast hk]
    rfl
  simp only [Path.below, name, List.getLastD_eq_getLast?, hlast]

theorem withSuffix?_below {document : Path} {suffix : Text} (hk : k ≠ [])
    (h : (top.below k).withSuffix? suffix = some document) (top' : Path) :
    ∃ l, l ≠ [] ∧ document = top.below l ∧
      (top'.below k).withSuffix? suffix = some (top'.below l) := by
  obtain ⟨hn, hd⟩ := withSuffix?_eq_some.1 h
  rw [name_below hk] at hn
  rw [name_below hk, dropLast_parts_below hk, List.append_assoc] at hd
  refine ⟨k.dropLast ++ [(splitSuffix (k.getLastD [])).1 ++ suffix], by simp, hd, ?_⟩
  rw [withSuffix?_eq_some, name_below hk, dropLast_parts_below hk, List.append_assoc]
  exact ⟨hn, rfl⟩

theorem below_inj {k l : Location} : top.below k = top.below l ↔ k = l := by
  simp [Path.below]

theorem isUnicode_below (ht : top.toText.isUnicode = true) :
    (top.below k).toText.isUnicode = true ↔ ∀ part ∈ k, part.isUnicode = true := by
  rw [isUnicode_toText_iff] at ht ⊢
  constructor
  · exact fun h part hp => h part (List.mem_append_right _ hp)
  · intro h part hp
    exact (List.mem_append.1 hp).elim (ht part) (h part)

end Path

/-- An entry without what says whether it can be run. -/
def Entry.asData : Entry → Entry
  | .file content _ => .file content false
  | e => e

theorem Entry.text?_asData (e : Entry) : e.asData.text? = e.text? := by
  cases e <;> rfl

theorem Entry.asData_eq_directory {e : Entry} : e.asData = .directory ↔ e = .directory := by
  cases e <;> simp [Entry.asData]

namespace Site

/-- A directory whose path is plain and whose tree holds no links and no path that is too long. -/
structure IsTop (s : Site) (top : Path) : Prop where
  isPlain : top.IsPlain
  isUnicode : top.toText.isUnicode = true
  isDirectory : s.isDirectory top = .ok true
  linkFree : s.files.LinkFree
  fits : ∀ k, s.files.entryAt (top.parts ++ k) ≠ none → (top.below k).Fits

/-- The same tree of files and directories in `top` as in `top'`. -/
structure Mirrored (s t : Site) (top top' : Path) : Prop where
  left : s.IsTop top
  right : t.IsTop top'
  entry_eq : ∀ k, (s.files.entryAt (top.parts ++ k)).map Entry.asData =
    (t.files.entryAt (top'.parts ++ k)).map Entry.asData

variable {s t : Site} {top top' : Path}

theorem IsTop.noNul (h : s.IsTop top) : CodePoint.ofChar '\x00' ∉ top.toText :=
  (check_eq_ok_iff.1 (isDirectory_eq_ok_true_iff.1 h.isDirectory).1).1

theorem IsTop.isOpen (h : s.IsTop top) :
    s.files.Open top.parts ∧ ∀ name ∈ top.parts, FileSystem.IsShort name := by
  obtain ⟨-, l, hf⟩ := isDirectory_eq_ok_true_iff.1 h.isDirectory
  obtain ⟨rfl, he, -, hopen, hshort⟩ := (FileSystem.find_eq_ok_iff h.linkFree h.isPlain _ _ _).1 hf
  refine ⟨fun k hk => ?_, hshort⟩
  -- What is found at a path stands below directories, and the top is one itself.
  rcases List.eq_nil_or_concat top.parts with hnil | ⟨above, last, hparts⟩
  · rw [hnil] at hk he
    rw [List.prefix_nil.1 hk]
    exact he
  · rw [hparts, List.concat_eq_append] at hk he hopen
    rw [List.dropLast_concat] at hopen
    rcases List.prefix_concat_iff.1 hk with rfl | hk
    · exact he
    · exact hopen k hk

theorem Mirrored.symm (h : Mirrored s t top top') : Mirrored t s top' top :=
  ⟨h.right, h.left, fun k => (h.entry_eq k).symm⟩

theorem Mirrored.directory_iff (h : Mirrored s t top top') (k : Location) :
    s.files.entryAt (top.parts ++ k) = some .directory ↔
      t.files.entryAt (top'.parts ++ k) = some .directory := by
  have hdata : ∀ o : Option Entry, o.map Entry.asData = some .directory ↔ o = some .directory := by
    intro o
    cases o with
    | none => simp
    | some e => simpa using Entry.asData_eq_directory
  rw [← hdata, ← hdata (t.files.entryAt _), h.entry_eq]

theorem Mirrored.open_below (h : Mirrored s t top top') {k : Location}
    (ho : s.files.Open (top.parts ++ k)) : t.files.Open (top'.parts ++ k) := by
  intro j hj
  -- A directory on the way is the top or above it, or else in the tree.
  rcases List.prefix_or_prefix_of_prefix hj (List.prefix_append top'.parts k) with hj' | ⟨i, rfl⟩
  · exact h.right.isOpen.1 j hj'
  · apply (h.directory_iff i).1
    exact ho _ ((List.prefix_append_right_inj _).2 ((List.prefix_append_right_inj _).1 hj))

theorem check_congr {a b : Text}
    (h : ∀ c : CodePoint, c = CodePoint.ofChar '\x00' ∨ c.isSurrogate = true → (c ∈ a ↔ c ∈ b)) :
    check a = check b := by
  have hall : ∀ {a b : Text}, (∀ c : CodePoint, c = CodePoint.ofChar '\x00' ∨ c.isSurrogate = true →
      (c ∈ a ↔ c ∈ b)) →
      (a.all fun c => !c.isSurrogate || (Text.Utf8.encodePointLenient c).length = 1) = true →
      (b.all fun c => !c.isSurrogate || (Text.Utf8.encodePointLenient c).length = 1) = true := by
    intro a b h ha
    rw [List.all_eq_true] at ha ⊢
    intro c hc
    cases hs : c.isSurrogate with
    | false => rfl
    | true =>
      have hca := ha c ((h c (.inr hs)).2 hc)
      rwa [hs] at hca
  have hnul := h _ (.inl rfl)
  have hsame := Bool.eq_iff_iff.2 ⟨hall h, hall fun c hc => (h c hc).symm⟩
  unfold check
  rw [hsame]
  simp only [hnul]

theorem mem_toText_below (h : s.IsTop top) {k : Location} {c : CodePoint}
    (hc : c = CodePoint.ofChar '\x00' ∨ c.isSurrogate = true) :
    c ∈ (top.below k).toText ↔ ∃ part ∈ k, c ∈ part := by
  have hplain : ∀ d : CodePoint, d = Path.slash ∨ d ∈ Path.dot →
      ¬(d = CodePoint.ofChar '\x00' ∨ d.isSurrogate = true) := by
    have hdot : Path.dot = [CodePoint.ofChar '.'] := rfl
    rw [hdot]
    rintro d (rfl | hd)
    · decide
    · rw [List.mem_singleton.1 hd]
      decide
  constructor
  · intro hm
    rcases Path.mem_toText hm with hm | hm | ⟨part, hp, hm⟩
    · exact absurd hc (hplain c (.inl hm))
    · exact absurd hc (hplain c (.inr hm))
    · rcases List.mem_append.1 hp with hp | hp
      · have hsub := Path.part_subset_toText hp hm
        rcases hc with rfl | hc
        · exact absurd hsub h.noNul
        · rw [Text.isUnicode_iff.1 h.isUnicode c hsub] at hc
          cases hc
      · exact ⟨part, hp, hm⟩
  · rintro ⟨part, hp, hm⟩
    exact Path.part_subset_toText (p := top.below k) (List.mem_append_right _ hp) hm

/-- Whether the system takes a path in the tree depends on the names in the tree alone. -/
theorem Mirrored.check_below (h : Mirrored s t top top') (k : Location) :
    check (top.below k).toText = check (top'.below k).toText :=
  check_congr fun _ hc => (mem_toText_below h.left hc).trans (mem_toText_below h.right hc).symm

theorem Mirrored.readText_of_readText (h : Mirrored s t top top') {k : Location} (hk : k ≠ [])
    (hin : Path.IsInside k) {code : Text} (hr : s.readText (top.below k) = .ok code) :
    t.readText (top'.below k) = .ok code := by
  obtain ⟨hc, l, e, hf, he⟩ := readText_eq_ok_iff.1 hr
  obtain ⟨rfl, hentry, -, hopen, hshort⟩ :=
    (FileSystem.find_eq_ok_iff h.left.linkFree (h.left.isPlain.below hin) _ _ _).1 hf
  rw [h.check_below] at hc
  have hdata : (t.files.entryAt (top'.parts ++ k)).map Entry.asData = some e.asData :=
    (h.entry_eq k).symm.trans (congrArg (Option.map Entry.asData) hentry)
  obtain ⟨e', hentry', hsame⟩ := Option.map_eq_some_iff.1 hdata
  have he' : e'.text? = some code := by
    rw [← Entry.text?_asData, hsame, Entry.text?_asData, he]
  have hfits : (top'.below k).Fits := h.right.fits k (by rw [hentry']; exact Option.some_ne_none _)
  have hopen' : t.files.Open (top'.below k).parts.dropLast := by
    rw [Path.dropLast_parts_below hk] at hopen ⊢
    exact h.open_below hopen
  have hshort' : ∀ name ∈ (top'.below k).parts, FileSystem.IsShort name := by
    intro name hn
    rcases List.mem_append.1 hn with hn | hn
    · exact h.right.isOpen.2 name hn
    · exact hshort name (List.mem_append_right _ hn)
  apply readText_eq_ok_iff.2
  refine ⟨hc, (top'.below k).parts, e', ?_, he'⟩
  exact (FileSystem.find_eq_ok_iff h.right.linkFree (h.right.isPlain.below hin) _ _ _).2
    ⟨rfl, hentry', hfits, hopen', hshort'⟩

end Site

end DocPress
