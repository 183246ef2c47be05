import DocPress.Proofs.Path.Absolute
import DocPress.Site

namespace DocPress

namespace FileSystem

/-- A location with directories all the way down to it. -/
def Open (fs : FileSystem) (l : Location) : Prop := ∀ k, k <+: l → fs.entryAt k = some .directory

variable {fs : FileSystem}

theorem open_nil : fs.Open [] := by
  intro k hk
  rw [List.prefix_nil.1 hk]
  rfl

theorem Open.entryAt_eq {l : Location} (h : fs.Open l) : fs.entryAt l = some .directory :=
  h l List.prefix_rfl

theorem Open.dropLast {l : Location} (h : fs.Open l) : fs.Open l.dropLast :=
  fun k hk => h k (hk.trans (List.dropLast_prefix l))

theorem Open.concat {l : Location} {name : Text} (h : fs.Open l)
    (hn : fs.entryAt (l ++ [name]) = some .directory) : fs.Open (l ++ [name]) := by
  intro k hk
  rcases List.prefix_concat_iff.1 hk with rfl | hk
  · exact hn
  · exact h k hk

theorem Open.startOf {l : Location} (h : fs.Open l) (target : Text) : fs.Open (startOf l target) := by
  unfold FileSystem.startOf
  split
  · exact open_nil
  · exact h

theorem walkNames_append
    {viaLink : Location → List Text → Except Errno Location}
    (hv : ∀ {here : Location} {names rest : List Text} {l : Location}, fs.Open here → rest ≠ [] →
      viaLink here (names ++ rest) = .ok l → ∃ d, viaLink here names = .ok d ∧ fs.Open d)
    {here : Location} {names rest : List Text} {l : Location} (hh : fs.Open here) (hr : rest ≠ [])
    (h : walkNames fs true viaLink here (names ++ rest) = .ok l) :
    ∃ d, walkNames fs true viaLink here names = .ok d ∧ fs.Open d := by
  induction names generalizing here with
  | nil => exact ⟨here, rfl, hh⟩
  | cons name names ih =>
    -- With names still to come, only a directory or a link lets the walk go on.
    have hne : names ++ rest ≠ [] := List.append_ne_nil_of_right_ne_nil _ hr
    rw [List.cons_append] at h
    unfold walkNames at h ⊢
    by_cases h1 : name = [] ∨ name = Path.dot
    · rw [if_pos h1] at h ⊢
      exact ih hh h
    rw [if_neg h1] at h ⊢
    by_cases h2 : name = Path.dotDot
    · rw [if_pos h2] at h ⊢
      exact ih hh.dropLast h
    rw [if_neg h2] at h ⊢
    by_cases h3 : maxNameBytes < (Text.Utf8.encodeLenient name).length
    · rw [if_pos h3] at h
      cases h
    rw [if_neg h3] at h ⊢
    dsimp only at h ⊢
    cases he : fs.entryAt (here ++ [name]) with
    | none => simp [he, hne] at h
    | some e =>
      cases e with
      | directory =>
        simp only [he] at h ⊢
        exact ih (hh.concat he) h
      | link target =>
        simp only [he, Bool.not_true, Bool.false_eq_true, and_false, if_false] at h ⊢
        rw [← List.append_assoc] at h
        exact hv (hh.startOf target) hr h
      | file => simp [he, hne] at h
      | sink => simp [he, hne] at h

theorem walk_append {n : Nat} {here : Location} {names rest : List Text} {l : Location}
    (hh : fs.Open here) (hr : rest ≠ []) (h : walk fs true n here (names ++ rest) = .ok l) :
    ∃ d, walk fs true n here names = .ok d ∧ fs.Open d := by
  induction n generalizing here names rest l with
  | zero => exact walkNames_append (fun _ _ h => by cases h) hh hr h
  | succ n ih => exact walkNames_append ih hh hr h

theorem startOf_of_slash {here : Location} {path : Text} (h : path.head? = some Path.slash) :
    startOf here path = [] := by
  simp [startOf, h]

theorem find_of_slash {path : Text} (h : path.head? = some Path.slash) (here here' : Location)
    (follow : Bool) : fs.find here path follow = fs.find here' path follow := by
  simp only [find, locate, startOf_of_slash h]

theorem encodeLenient_append (a b : Text) :
    Text.Utf8.encodeLenient (a ++ b) = Text.Utf8.encodeLenient a ++ Text.Utf8.encodeLenient b :=
  List.flatMap_append

theorem find_directory_of_find {here : Location} {path name : Text} {found : Location × Entry}
    (hp : path.head? = some Path.slash)
    (h : fs.find here (path ++ Path.slash :: name) true = .ok found) :
    ∃ l, fs.find here path true = .ok (l, .directory) := by
  have hp' : (path ++ Path.slash :: name).head? = some Path.slash := by
    simp [List.head?_append, hp]
  have hne : path ≠ [] := by rintro rfl; simp at hp
  -- The shorter path passes the test of its length as the longer one does.
  obtain ⟨l, hl, -⟩ := bind_eq_ok_iff.1 h
  unfold locate at hl
  rw [if_neg (List.append_ne_nil_of_left_ne_nil hne _)] at hl
  by_cases hlen : maxPathBytes <
      (Text.Utf8.encodeLenient (path ++ Path.slash :: name)).length
  · rw [if_pos hlen] at hl
    cases hl
  rw [if_neg hlen, startOf_of_slash hp', Text.splitAt_append] at hl
  rw [encodeLenient_append, List.length_append] at hlen
  obtain ⟨d, hd, ho⟩ := walk_append open_nil (Text.splitAt_ne_nil _ _) hl
  have hloc : fs.locate here path true = .ok d := by
    rw [locate, if_neg hne, if_neg (by omega), startOf_of_slash hp, hd]
  exact ⟨d, by rw [find, hloc]; simp [bind, Except.bind, ho.entryAt_eq]⟩

theorem find_root (here : Location) (r : Root) (h : r ≠ .relative) :
    fs.find here (Path.Root.toText r) true = .ok ([], .directory) := by
  cases r with
  | relative => exact absurd rfl h
  | single => rfl
  | double => rfl

end FileSystem

namespace Path

theorem toText_of_isAbsolute {p : Path} (h : p.isAbsolute = true) :
    p.toText = Root.toText p.root ++ Text.join [slash] p.parts := by
  have hr : p.root ≠ .relative := by simpa [isAbsolute] using h
  simp [toText, hr]

theorem head?_toText {p : Path} (h : p.isAbsolute = true) : p.toText.head? = some slash := by
  rw [toText_of_isAbsolute h]
  cases hr : p.root with
  | relative => simp [isAbsolute, hr] at h
  | single => rfl
  | double => rfl

theorem toText_eq_append_name {p : Path} (hn : p.name ≠ []) (hi : p.parent.parts ≠ []) :
    p.toText = p.parent.toText ++ slash :: p.name := by
  have hparts := parts_eq_of_name_ne_nil hn
  have hne : p.parts ≠ [] := by
    rw [hparts]
    exact List.append_ne_nil_of_left_ne_nil hi _
  rw [toText, if_neg fun h => hne h.2, toText, if_neg fun h => hi h.2, hparts,
    Text.join_append _ hi (List.cons_ne_nil _ _), Text.join_singleton]
  simp [parent, List.append_assoc]

theorem toText_parent {p : Path} (ha : p.isAbsolute = true) (hn : p.name ≠ []) :
    p.toText = p.parent.toText ++ slash :: p.name ∨
      p.parent.toText = Root.toText p.root ∧ p.parent.toText ⊆ p.toText := by
  have hp : p.parent.isAbsolute = true := ha
  by_cases hi : p.parent.parts = []
  · right
    have hroot : p.parent.toText = Root.toText p.root := by
      rw [toText_of_isAbsolute hp, hi]
      exact List.append_nil _
    exact ⟨hroot, by rw [hroot, toText_of_isAbsolute ha]; exact List.subset_append_left _ _⟩
  · exact .inl (toText_eq_append_name hn hi)

end Path

namespace Site

theorem check_eq_ok_iff {path : Text} :
    check path = .ok () ↔ CodePoint.ofChar '\x00' ∉ path ∧
      ∀ c ∈ path, c.isSurrogate = true → (Text.Utf8.encodePointLenient c).length = 1 := by
  have hall : path.all (fun c => !c.isSurrogate || (Text.Utf8.encodePointLenient c).length = 1) =
      true ↔ ∀ c ∈ path, c.isSurrogate = true → (Text.Utf8.encodePointLenient c).length = 1 := by
    simp only [List.all_eq_true]
    refine forall_congr' fun c => imp_congr_right fun _ => ?_
    cases c.isSurrogate <;> simp
  rw [← hall, check]
  by_cases hnul : CodePoint.ofChar '\x00' ∈ path
  · simp [hnul]
  · rw [if_neg hnul]
    split <;> simp_all

theorem check_of_subset {a b : Text} (h : a ⊆ b) (hb : check b = .ok ()) : check a = .ok () := by
  obtain ⟨hnul, hsurrogate⟩ := check_eq_ok_iff.1 hb
  exact check_eq_ok_iff.2 ⟨fun hc => hnul (h hc), fun c hc => hsurrogate c (h hc)⟩

theorem readText_eq_ok {s : Site} {p : Path} {code : Text} (h : s.readText p = .ok code) :
    ∃ found, check p.toText = .ok () ∧ s.files.find s.here p.toText true = .ok found := by
  have hb : ∃ bytes, s.readBytes p.toText = .ok bytes := by
    unfold readText at h
    split at h
    · cases h
    · cases h
    · exact ⟨_, ‹_›⟩
  obtain ⟨bytes, hb⟩ := hb
  obtain ⟨⟨⟩, hc, hr⟩ := bind_eq_ok_iff.1 hb
  cases hread : s.files.read s.here p.toText with
  | error e => simp [hread, refuse] at hr
  | ok bytes =>
    obtain ⟨found, hf, -⟩ := bind_eq_ok_iff.1 hread
    exact ⟨found, hc, hf⟩

theorem isDirectory_of_find {s : Site} {p : Path} {l : Location} (hc : check p.toText = .ok ())
    (hf : s.files.find s.here p.toText true = .ok (l, .directory)) :
    s.isDirectory p = .ok true := by
  simp [isDirectory, holds, entry, hc, hf, refuse, bind, Except.bind, pure, Except.pure]

/-- A file that can be read stands in a directory. -/
theorem isDirectory_parent_of_readText {s : Site} {p : Path} {code : Text}
    (ha : p.isAbsolute = true) (hn : p.name ≠ []) (h : s.readText p = .ok code) :
    s.isDirectory p.parent = .ok true := by
  obtain ⟨found, hc, hf⟩ := readText_eq_ok h
  rcases Path.toText_parent ha hn with htext | ⟨hroot, hsub⟩
  · rw [htext] at hc hf
    obtain ⟨l, hl⟩ := FileSystem.find_directory_of_find (Path.head?_toText (p := p.parent) ha) hf
    exact isDirectory_of_find (check_of_subset (List.subset_append_left _ _) hc) hl
  · have hr : p.root ≠ .relative := by simpa [Path.isAbsolute] using ha
    refine isDirectory_of_find (l := []) (check_of_subset hsub hc) ?_
    rw [hroot]
    exact FileSystem.find_root s.here p.root hr

theorem isDirectory_of_isAbsolute {p : Path} (ha : p.isAbsolute = true) (files : FileSystem)
    (here here' : Location) :
    isDirectory ⟨files, here⟩ p = isDirectory ⟨files, here'⟩ p := by
  simp only [isDirectory, holds, entry,
    FileSystem.find_of_slash (Path.head?_toText ha) here here']

theorem readText_of_isAbsolute {p : Path} (ha : p.isAbsolute = true) (files : FileSystem)
    (here here' : Location) : readText ⟨files, here⟩ p = readText ⟨files, here'⟩ p := by
  simp only [readText, readBytes, FileSystem.read,
    FileSystem.find_of_slash (Path.head?_toText ha) here here']

end Site

end DocPress
