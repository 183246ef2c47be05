import DocPress.Proofs.FileSystem.Mirroring
import DocPress.Proofs.Path.Relative

namespace DocPress

theorem Path.Fits.parent {p : Path} (hn : p.name ≠ []) (h : p.Fits) : p.parent.Fits := by
  by_cases hi : p.parent.parts = []
  · have hroots : ∀ r : Root, (⟨r, []⟩ : Path).Fits := by
      rintro (_ | _ | _) <;> decide
    have hparent : p.parent = ⟨p.root, []⟩ := congrArg (fun parts => (⟨p.root, parts⟩ : Path)) hi
    rw [hparent]
    exact hroots p.root
  · unfold Fits at h ⊢
    rw [Path.toText_eq_append_name hn hi, FileSystem.encodeLenient_append, List.length_append] at h
    exact Nat.le_of_add_right_le h

namespace FileSystem

variable {fs : FileSystem} {follow : Bool}
  {viaLink : Location → List Text → Except Errno Location}

theorem walkNames_down {here down : Location} (hopen : fs.Open (here ++ down))
    (hnames : ∀ name ∈ down, IsName name) (rest : List Text) :
    walkNames fs follow viaLink here (down ++ rest) =
      walkNames fs follow viaLink (here ++ down) rest := by
  induction down generalizing here with
  | nil => rw [List.append_nil, List.nil_append]
  | cons name down ih =>
    obtain ⟨hname, hnames⟩ := List.forall_mem_cons.1 hnames
    have happend : here ++ name :: down = here ++ [name] ++ down := by simp
    rw [happend] at hopen ⊢
    have hdirectory : fs.entryAt (here ++ [name]) = some .directory :=
      hopen _ (List.prefix_append _ _)
    rw [List.cons_append, walkNames,
      if_neg (not_or.2 ⟨hname.isComponent.ne_nil, hname.isComponent.ne_dot⟩),
      if_neg hname.ne_dotDot, if_neg (Nat.not_lt.2 hname.isShort)]
    simp only [hdirectory]
    exact ih hopen hnames

/-- Going up from a directory and then down is going down from one above it. -/
theorem exists_above {here : Location} (hdots : Path.dotDot ∉ here) (n : Nat) {down : List Text}
    (hdown : Path.dotDot ∉ down) :
    ∃ above, above <+: here ∧
      goTo here (List.replicate n Path.dotDot ++ down) = above ++ down ∧
      ∀ (fs : FileSystem) (follow : Bool) (links : Nat),
        walk fs follow links here (List.replicate n Path.dotDot ++ down) =
          walk fs follow links above down := by
  induction n generalizing here with
  | zero => exact ⟨here, List.prefix_rfl, goTo_of_dotDot_notMem hdown here, fun _ _ _ => rfl⟩
  | succ n ih =>
    obtain ⟨above, habove_here, hgo, hwalk⟩ := ih fun hm => hdots (List.dropLast_subset _ hm)
    refine ⟨above, habove_here.trans (List.dropLast_prefix here), ?_, fun fs follow links => ?_⟩
    · rw [List.replicate_succ, List.cons_append, goTo_cons_dotDot hdots, hgo]
    · rw [← hwalk, List.replicate_succ, List.cons_append]
      cases links <;> rfl

theorem walk_down {links : Nat} {above down : Location} (hopen : fs.Open above)
    (hnames : ∀ name ∈ above, IsName name) :
    walk fs follow links [] (above ++ down) = walk fs follow links above down := by
  have hopen' : fs.Open ([] ++ above) := hopen
  cases links <;> exact walkNames_down hopen' hnames down

end FileSystem

namespace Site

/-- A relative path goes up from the working directory to `above`, and from there down. -/
structure Turns (s : Site) (p : Path) (above down : Location) : Prop where
  above_here : above <+: s.here
  parts_eq : ∃ n, p.parts = List.replicate n Path.dotDot ++ down
  absolute_eq : Path.absolute (pathOf s.here) p = pathOf (above ++ down)
  walk_eq (follow : Bool) (links : Nat) :
    FileSystem.walk s.files follow links s.here p.parts =
      FileSystem.walk s.files follow links above down

variable {s : Site} {p : Path}

theorem WellPlaced.dotDot_notMem (hs : s.WellPlaced) : Path.dotDot ∉ s.here :=
  fun hm => (hs.isName _ hm).ne_dotDot rfl

theorem exists_turns (hs : s.WellPlaced) (ha : p.isAbsolute = false) (hn : p.normalize = p) :
    ∃ above down, Turns s p above down := by
  obtain ⟨n, down, hparts, hdown⟩ := Path.exists_parts_eq_replicate ha hn
  obtain ⟨above, habove_here, hgo, hwalk⟩ := FileSystem.exists_above hs.dotDot_notMem n hdown
  have habsolute : (Path.absolute (pathOf s.here) p).parts = above ++ down := by
    have hparts' := FileSystem.parts_absolute_pathOf hs.dotDot_notMem p
    rw [ha] at hparts'
    rw [hparts', ← hgo, ← hparts]
    rfl
  have hroot : (Path.absolute (pathOf s.here) p).root = .single := by
    rw [Path.absolute, Path.join_of_relative _ ha]
    rfl
  refine ⟨above, down, habove_here, ⟨n, hparts⟩, ?_, fun follow links => ?_⟩
  · calc Path.absolute (pathOf s.here) p
      _ = ⟨(Path.absolute (pathOf s.here) p).root, (Path.absolute (pathOf s.here) p).parts⟩ := rfl
      _ = pathOf (above ++ down) := by rw [hroot, habsolute]; rfl
  · rw [hparts]
    exact hwalk s.files follow links

/-- Both forms of a path find the same. -/
theorem find_absolute (hs : s.WellPlaced) (hp : p.WellFormed) (hn : p.normalize = p)
    (hfits : p.Fits) (hfits' : (Path.absolute (pathOf s.here) p).Fits) :
    s.files.find s.here p.toText true =
      s.files.find s.here (Path.absolute (pathOf s.here) p).toText true := by
  cases ha : p.isAbsolute with
  | true => rw [Path.absolute_of_isAbsolute _ ha, hn]
  | false =>
    obtain ⟨above, down, hturns⟩ := exists_turns hs ha hn
    have hplain : (Path.absolute (pathOf s.here) p).IsPlain :=
      Path.isPlain_absolute (isAbsolute_pathOf s.here) hs.wellFormed_pathOf hp
    have habove : s.files.Open above := fun k hk => hs.isOpen k (hk.trans hturns.above_here)
    have hnames : ∀ name ∈ above, FileSystem.IsName name :=
      fun name hname => hs.isName name (hturns.above_here.subset hname)
    have hlocate : s.files.locate s.here p.toText true =
        s.files.locate s.here (Path.absolute (pathOf s.here) p).toText true := by
      rw [FileSystem.locate_toText hp, FileSystem.locate_toText hplain.wellFormed, if_pos hfits,
        if_pos hfits', ha, hplain.isAbsolute, hturns.absolute_eq]
      exact (hturns.walk_eq true _).trans (FileSystem.walk_down habove hnames).symm
    rw [FileSystem.find, FileSystem.find, hlocate]

/-- The components of both forms are the same, but for the names of directories that are there. -/
theorem exists_mem_absolute_iff (hs : s.WellPlaced) (hn : p.normalize = p) (bad : Text → Prop)
    (hdots : ¬bad Path.dotDot) (hhere : ∀ name ∈ s.here, ¬bad name) :
    (∃ part ∈ (Path.absolute (pathOf s.here) p).parts, bad part) ↔ ∃ part ∈ p.parts, bad part := by
  cases ha : p.isAbsolute with
  | true => rw [Path.absolute_of_isAbsolute _ ha, hn]
  | false =>
    obtain ⟨above, down, habove_here, ⟨n, hparts⟩, habsolute, -⟩ := exists_turns hs ha hn
    rw [hparts, habsolute]
    constructor
    · rintro ⟨part, hpart, hbad⟩
      rcases List.mem_append.1 hpart with hpart | hpart
      · exact absurd hbad (hhere part (habove_here.subset hpart))
      · exact ⟨part, List.mem_append_right _ hpart, hbad⟩
    · rintro ⟨part, hpart, hbad⟩
      rcases List.mem_append.1 hpart with hpart | hpart
      · rw [List.eq_of_mem_replicate hpart] at hbad
        exact absurd hbad hdots
      · exact ⟨part, List.mem_append_right _ hpart, hbad⟩

theorem isUnicode_absolute_iff (hs : s.WellPlaced) (hu : (pathOf s.here).toText.isUnicode = true)
    (hn : p.normalize = p) :
    (Path.absolute (pathOf s.here) p).toText.isUnicode = true ↔ p.toText.isUnicode = true := by
  have hiff := exists_mem_absolute_iff hs hn (fun part => ¬part.isUnicode = true) (by decide)
    fun name hname hbad => hbad (Path.isUnicode_toText_iff.1 hu name hname)
  rw [Path.isUnicode_toText_iff, Path.isUnicode_toText_iff, ← not_iff_not]
  simpa using hiff

theorem mem_toText_iff {c : CodePoint} (hslash : c ≠ Path.slash) (hdot : c ∉ Path.dot) :
    c ∈ p.toText ↔ ∃ part ∈ p.parts, c ∈ part := by
  constructor
  · intro hc
    exact ((Path.mem_toText hc).resolve_left hslash).resolve_left hdot
  · rintro ⟨part, hpart, hc⟩
    exact Path.part_subset_toText hpart hc

/-- The system takes both forms of a path or neither. -/
theorem check_absolute (hs : s.WellPlaced) (hu : (pathOf s.here).toText.isUnicode = true)
    (hn : p.normalize = p) :
    check (Path.absolute (pathOf s.here) p).toText = check p.toText := by
  refine check_congr fun c hc => ?_
  have hordinary : ∀ d : CodePoint, d ≠ CodePoint.ofChar '\x00' → d.isSurrogate = false → c ≠ d := by
    rintro d hnul hsurrogate rfl
    rcases hc with rfl | hc
    · exact hnul rfl
    · rw [hc] at hsurrogate
      cases hsurrogate
  have hslash : c ≠ Path.slash := hordinary _ (by decide) (by decide)
  have hdot : c ≠ CodePoint.ofChar '.' := hordinary _ (by decide) (by decide)
  have hhere : ∀ name ∈ s.here, c ∉ name := by
    intro name hname hm
    rcases hc with rfl | hc
    · exact (hs.isName name hname).noNul hm
    · rw [Text.isUnicode_iff.1 (Path.isUnicode_toText_iff.1 hu name hname) c hm] at hc
      cases hc
  rw [mem_toText_iff hslash (by simpa [Path.dot, text] using hdot),
    mem_toText_iff hslash (by simpa [Path.dot, text] using hdot)]
  exact exists_mem_absolute_iff hs hn (fun part => c ∈ part)
    (by simpa [Path.dotDot, text] using hdot) hhere

end Site

end DocPress
