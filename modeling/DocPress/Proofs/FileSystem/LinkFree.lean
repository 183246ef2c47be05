import DocPress.Proofs.FileSystem.Ancestors
import DocPress.Proofs.Path.Components
import Mathlib.Data.List.Infix

namespace DocPress

namespace FileSystem

def LinkFree (fs : FileSystem) : Prop := ∀ l target, fs.entryAt l ≠ some (.link target)

theorem linkFree_of_all {fs : FileSystem}
    (h : (fs.entries.all fun (_, e) => match e with | .link _ => false | _ => true) = true) :
    fs.LinkFree := by
  intro l target he
  unfold entryAt at he
  split at he
  · cases he
  · obtain ⟨_, _, hl, -⟩ := List.lookup_eq_some_iff.1 he
    have hm : (l, Entry.link target) ∈ fs.entries := by rw [hl]; simp
    exact absurd (List.all_eq_true.1 h _ hm) (by simp)

theorem open_of_inits {fs : FileSystem} {l : Location}
    (h : ∀ k ∈ l.inits, fs.entryAt k = some .directory) : fs.Open l :=
  fun k hk => h k ((List.mem_inits k l).2 hk)

def IsShort (name : Text) : Prop := (Text.Utf8.encodeLenient name).length ≤ maxNameBytes

instance (name : Text) : Decidable (IsShort name) :=
  inferInstanceAs (Decidable ((Text.Utf8.encodeLenient name).length ≤ maxNameBytes))

/-- Where components lead from a place: `..` goes up. -/
def goTo (here : Location) (parts : List Text) : Location :=
  (parts.foldl (Path.push true) here.reverse).reverse

theorem goTo_nil (here : Location) : goTo here [] = here := List.reverse_reverse here

theorem goTo_cons_dotDot {here : Location} (h : Path.dotDot ∉ here) (rest : List Text) :
    goTo here (Path.dotDot :: rest) = goTo here.dropLast rest := by
  have hpush : Path.push true here.reverse Path.dotDot = here.dropLast.reverse := by
    rcases List.eq_nil_or_concat here with rfl | ⟨above, top, rfl⟩
    · rfl
    · have htop : top ≠ Path.dotDot := fun he => h (by simp [he])
      simp [Path.push, htop]
  rw [goTo, List.foldl_cons, hpush]
  rfl

theorem goTo_cons {part : Text} (h : part ≠ Path.dotDot) (here : Location) (rest : List Text) :
    goTo here (part :: rest) = goTo (here ++ [part]) rest := by
  simp [goTo, Path.push, h]

variable {fs : FileSystem} {follow : Bool}
  {viaLink : Location → List Text → Except Errno Location}

theorem walkNames_silent (here : Location) {silent : List Text}
    (h : ∀ part ∈ silent, part = [] ∨ part = Path.dot) (names : List Text) :
    walkNames fs follow viaLink here (silent ++ names) = walkNames fs follow viaLink here names := by
  induction silent with
  | nil => rfl
  | cons part rest ih =>
    rw [List.cons_append, walkNames, if_pos (h part List.mem_cons_self),
      ih fun q hq => h q (List.mem_cons_of_mem part hq)]

/-- What is known when a walk from a directory gets to a location. -/
structure Arrives (fs : FileSystem) (here : Location) (parts : List Text) (l : Location) : Prop where
  eq_goTo : l = goTo here parts
  isOpen : fs.Open l.dropLast
  isShort : ∀ name ∈ l, name ∈ here ∨ IsShort name
  /-- Only a path that ends with a name leads to anything but a directory. -/
  isNamed : fs.Open l ∨ ∃ name, parts.getLast? = some name ∧ name ≠ Path.dotDot

theorem arrives_nil {here : Location} (h : fs.Open here) : Arrives fs here [] here :=
  ⟨(goTo_nil here).symm, h.dropLast, fun _ => .inl, .inl h⟩

theorem arrives_singleton {here : Location} (h : fs.Open here) {part : Text}
    (hd : part ≠ Path.dotDot) (hs : IsShort part) : Arrives fs here [part] (here ++ [part]) where
  eq_goTo := by rw [goTo_cons hd, goTo_nil]
  isOpen := by rwa [List.dropLast_concat]
  isShort name hn := by
    refine (List.mem_append.1 hn).imp_right fun hn => ?_
    rwa [List.mem_singleton.1 hn]
  isNamed := .inr ⟨part, rfl, hd⟩

theorem getLast?_cons_of_some {part name : Text} {rest : List Text}
    (h : rest.getLast? = some name) : (part :: rest).getLast? = some name := by
  rw [List.getLast?_cons, h]
  rfl

theorem Arrives.up {here l : Location} {rest : List Text} (hdots : Path.dotDot ∉ here)
    (h : Arrives fs here.dropLast rest l) : Arrives fs here (Path.dotDot :: rest) l where
  eq_goTo := by rw [goTo_cons_dotDot hdots, h.eq_goTo]
  isOpen := h.isOpen
  isShort name hn := (h.isShort name hn).imp_left fun hm => List.dropLast_subset _ hm
  isNamed := h.isNamed.imp_right fun ⟨name, hlast, hn⟩ => ⟨name, getLast?_cons_of_some hlast, hn⟩

theorem Arrives.down {here l : Location} {part : Text} {rest : List Text}
    (hd : part ≠ Path.dotDot) (hs : IsShort part) (h : Arrives fs (here ++ [part]) rest l) :
    Arrives fs here (part :: rest) l where
  eq_goTo := by rw [goTo_cons hd, h.eq_goTo]
  isOpen := h.isOpen
  isShort name hn := by
    rcases h.isShort name hn with hm | hm
    · refine (List.mem_append.1 hm).imp_right fun hm => ?_
      rwa [List.mem_singleton.1 hm]
    · exact .inr hm
  isNamed := h.isNamed.imp_right fun ⟨name, hlast, hn⟩ => ⟨name, getLast?_cons_of_some hlast, hn⟩

theorem walkNames_eq_ok (hfree : fs.LinkFree) {here l : Location} {parts : List Text}
    (hparts : ∀ part ∈ parts, Path.IsComponent part) (hhere : fs.Open here)
    (hdots : Path.dotDot ∉ here) (h : walkNames fs follow viaLink here parts = .ok l) :
    Arrives fs here parts l := by
  fun_induction walkNames fs follow viaLink here parts with
  | case1 here =>
    cases h
    exact arrives_nil hhere
  | case2 here part rest hskip ih =>
    have hpart := hparts part List.mem_cons_self
    exact absurd hskip (not_or.2 ⟨hpart.ne_nil, hpart.ne_dot⟩)
  | case3 here rest hskip ih =>
    have hrest := (List.forall_mem_cons.1 hparts).2
    have hup : Path.dotDot ∉ here.dropLast := fun hm => hdots (List.dropLast_subset _ hm)
    exact (ih hrest hhere.dropLast hup h).up hdots
  | case4 => cases h
  | case5 here part rest hskip hd hlong there hentry ih =>
    have hrest := (List.forall_mem_cons.1 hparts).2
    have hdots' : Path.dotDot ∉ here ++ [part] := by
      simpa [not_or] using ⟨hdots, Ne.symm hd⟩
    exact (ih hrest (hhere.concat hentry) hdots' h).down hd (Nat.le_of_not_lt hlong)
  | case6 here part rest hskip hd hlong there target hentry => exact absurd hentry (hfree _ target)
  | case7 here part rest hskip hd hlong there target hentry => exact absurd hentry (hfree _ target)
  | case8 here part hskip hd hlong =>
    -- What is no directory lets the walk end, but not go on.
    obtain rfl : here ++ [part] = l := Except.ok.inj h
    exact arrives_singleton hhere hd (Nat.le_of_not_lt hlong)
  | case9 => cases h
  | case10 here part hskip hd hlong =>
    obtain rfl : here ++ [part] = l := Except.ok.inj h
    exact arrives_singleton hhere hd (Nat.le_of_not_lt hlong)
  | case11 => cases h

theorem walkNames_of_open (hfree : fs.LinkFree) {here : Location} {parts : List Text}
    (hparts : ∀ part ∈ parts, Path.IsComponent part ∧ part ≠ Path.dotDot ∧ IsShort part)
    (h : fs.Open (here ++ parts).dropLast) :
    walkNames fs follow viaLink here parts = .ok (here ++ parts) := by
  induction parts generalizing here with
  | nil => rw [walkNames, List.append_nil]
  | cons part rest ih =>
    obtain ⟨⟨hpart, hd, hshort⟩, hrest⟩ := List.forall_mem_cons.1 hparts
    have happend : here ++ part :: rest = here ++ [part] ++ rest := by simp
    rw [walkNames, if_neg (not_or.2 ⟨hpart.ne_nil, hpart.ne_dot⟩), if_neg hd,
      if_neg (Nat.not_lt.2 hshort)]
    rw [happend] at h ⊢
    dsimp only
    by_cases hr : rest = []
    · subst hr
      -- At the end of the walk anything may stand, or nothing.
      cases hentry : fs.entryAt (here ++ [part]) with
      | none => simp
      | some entry =>
        cases entry with
        | directory => simp only [walkNames, List.append_nil]
        | link target => exact absurd hentry (hfree _ target)
        | file content executable => simp
        | sink => simp
    · have hdirectory : fs.entryAt (here ++ [part]) = some .directory := by
        refine h _ ?_
        rw [List.dropLast_append_of_ne_nil hr]
        exact List.prefix_append _ _
      simp only [hdirectory]
      exact ih hrest h

theorem walk_silent (n : Nat) (here : Location) {silent : List Text}
    (h : ∀ part ∈ silent, part = [] ∨ part = Path.dot) (names : List Text) :
    walk fs follow n here (silent ++ names) = walk fs follow n here names := by
  cases n <;> exact walkNames_silent here h names

theorem walk_eq_ok (hfree : fs.LinkFree) {n : Nat} {here l : Location} {parts : List Text}
    (hparts : ∀ part ∈ parts, Path.IsComponent part) (hhere : fs.Open here)
    (hdots : Path.dotDot ∉ here) (h : walk fs follow n here parts = .ok l) :
    Arrives fs here parts l := by
  cases n <;> exact walkNames_eq_ok hfree hparts hhere hdots h

theorem walk_of_open (hfree : fs.LinkFree) (n : Nat) {l : Location}
    (hparts : ∀ part ∈ l, Path.IsComponent part ∧ part ≠ Path.dotDot ∧ IsShort part)
    (h : fs.Open l.dropLast) : walk fs follow n [] l = .ok l := by
  have hopen : fs.Open ([] ++ l).dropLast := h
  cases n <;> exact walkNames_of_open hfree hparts hopen

theorem startOf_toText {p : Path} (h : p.WellFormed) (here : Location) :
    startOf here p.toText = if p.isAbsolute then [] else here := by
  simp only [startOf, Path.head?_toText_eq_slash_iff h]

end FileSystem

/-- The text of the path is no longer than the system takes. -/
def Path.Fits (p : Path) : Prop :=
  (Text.Utf8.encodeLenient p.toText).length ≤ FileSystem.maxPathBytes

instance (p : Path) : Decidable p.Fits :=
  inferInstanceAs (Decidable ((Text.Utf8.encodeLenient p.toText).length ≤ FileSystem.maxPathBytes))

namespace FileSystem

variable {fs : FileSystem} {follow : Bool}

theorem locate_toText {p : Path} (h : p.WellFormed) (here : Location) :
    fs.locate here p.toText follow =
      if p.Fits then walk fs follow maxLinks (if p.isAbsolute then [] else here) p.parts
      else .error .nameTooLong := by
  have hwalk : ∀ start : Location, walk fs follow maxLinks start (Text.splitAt Path.slash p.toText) =
      walk fs follow maxLinks start p.parts := by
    intro start
    obtain ⟨silent, hsilent, hsplit | ⟨hparts, hsplit⟩⟩ := Path.splitAt_toText h
    · rw [hsplit, walk_silent _ _ hsilent]
    · rw [hsplit, hparts, ← walk_silent maxLinks start hsilent [], List.append_nil]
  rw [locate, if_neg (Path.toText_ne_nil h), startOf_toText h, hwalk]
  by_cases hf : p.Fits
  · rw [if_pos hf, if_neg (Nat.not_lt.2 hf)]
  · rw [if_neg hf, if_pos (Nat.lt_of_not_le hf)]

theorem find_eq_ok_iff_locate {here : Location} {path : Text} {l : Location} {e : Entry} :
    fs.find here path follow = .ok (l, e) ↔
      fs.locate here path follow = .ok l ∧ fs.entryAt l = some e := by
  rw [find, bind_eq_ok_iff]
  constructor
  · rintro ⟨k, hk, h⟩
    cases he : fs.entryAt k with
    | none => simp [he] at h
    | some entry =>
      simp only [he] at h
      cases h
      exact ⟨hk, he⟩
  · rintro ⟨hl, he⟩
    exact ⟨l, hl, by simp [he]⟩

/-- The names that a location can be made of. -/
structure IsName (name : Text) : Prop where
  isComponent : Path.IsComponent name
  ne_dotDot : name ≠ Path.dotDot
  noNul : CodePoint.ofChar '\x00' ∉ name
  isShort : IsShort name

theorem parts_absolute_pathOf {here : Location} (hdots : Path.dotDot ∉ here) (p : Path) :
    (Path.absolute (Site.pathOf here) p).parts =
      goTo (if p.isAbsolute then [] else here) p.parts := by
  have hhere : here.foldl (Path.push true) [] = here.reverse := by
    rw [Path.foldl_push_of_dotDot_notMem true hdots, List.append_nil]
  by_cases ha : p.isAbsolute = true
  · rw [Path.absolute_of_isAbsolute _ ha, if_pos ha, goTo, Path.normalize, ha]
    rfl
  · rw [if_neg ha, goTo, ← hhere, ← List.foldl_append, Path.absolute, Path.join, if_neg ha]
    rfl

/-- What a path leads to from a directory stands where the path says, written absolutely. -/
structure Finds (fs : FileSystem) (here : Location) (p : Path) (l : Location) (e : Entry) : Prop where
  eq_parts : l = (Path.absolute (Site.pathOf here) p).parts
  entryAt_eq : fs.entryAt l = some e
  isOpen : fs.Open l.dropLast
  isShort : ∀ name ∈ l, IsShort name
  isNamed : e = .directory ∨ p.name ≠ [] ∧ p.name ≠ Path.dotDot

theorem finds_of_find (hfree : fs.LinkFree) {here l : Location} {p : Path} {e : Entry}
    (hp : p.WellFormed) (hopen : fs.Open here) (hnames : ∀ name ∈ here, IsName name)
    (h : fs.find here p.toText follow = .ok (l, e)) : Finds fs here p l e := by
  obtain ⟨hl, he⟩ := find_eq_ok_iff_locate.1 h
  have hdots : Path.dotDot ∉ here := fun hm => (hnames _ hm).ne_dotDot rfl
  rw [locate_toText hp] at hl
  by_cases hf : p.Fits
  · rw [if_pos hf] at hl
    have hstart : fs.Open (if p.isAbsolute then [] else here) ∧
        Path.dotDot ∉ (if p.isAbsolute then [] else here) := by
      split
      · exact ⟨open_nil, List.not_mem_nil⟩
      · exact ⟨hopen, hdots⟩
    have ha : Arrives fs (if p.isAbsolute then [] else here) p.parts l :=
      walk_eq_ok hfree hp hstart.1 hstart.2 hl
    refine ⟨by rw [parts_absolute_pathOf hdots, ha.eq_goTo], he, ha.isOpen, fun name hn => ?_, ?_⟩
    · rcases ha.isShort name hn with hm | hm
      · split at hm
        · cases hm
        · exact (hnames name hm).isShort
      · exact hm
    · rcases ha.isNamed with ho | ⟨name, hlast, hn⟩
      · exact .inl (Option.some.inj (he.symm.trans ho.entryAt_eq))
      · have hname : p.name = name := by rw [Path.name, List.getLastD_eq_getLast?, hlast]; rfl
        rw [hname]
        exact .inr ⟨(hp name (List.mem_of_getLast? hlast)).ne_nil, hn⟩
  · rw [if_neg hf] at hl
    cases hl

theorem goTo_of_dotDot_notMem {parts : List Text} (h : Path.dotDot ∉ parts) (here : Location) :
    goTo here parts = here ++ parts := by
  rw [goTo, Path.foldl_push_of_dotDot_notMem true h]
  simp

/-- An absolute path without `..` leads to where it says, through directories that are all there. -/
theorem locate_eq_ok_iff (hfree : fs.LinkFree) {p : Path} (hp : p.IsPlain) (here l : Location) :
    fs.locate here p.toText follow = .ok l ↔
      l = p.parts ∧ p.Fits ∧ fs.Open p.parts.dropLast ∧ ∀ name ∈ p.parts, IsShort name := by
  rw [locate_toText hp.wellFormed, if_pos hp.isAbsolute]
  by_cases hf : p.Fits
  · rw [if_pos hf]
    constructor
    · intro hl
      have hw : Arrives fs [] p.parts l := walk_eq_ok hfree hp.wellFormed open_nil List.not_mem_nil hl
      obtain rfl : l = p.parts := hw.eq_goTo.trans (goTo_of_dotDot_notMem hp.dotDot_notMem [])
      exact ⟨rfl, hf, hw.isOpen, fun name hn => (hw.isShort name hn).resolve_left List.not_mem_nil⟩
    · rintro ⟨rfl, -, hopen, hshort⟩
      refine walk_of_open hfree _ (fun name hn => ⟨hp.wellFormed name hn, ?_, hshort name hn⟩) hopen
      exact fun hd => hp.dotDot_notMem (hd ▸ hn)
  · rw [if_neg hf]
    simp [hf]

theorem find_eq_ok_iff (hfree : fs.LinkFree) {p : Path} (hp : p.IsPlain) (here l : Location)
    (e : Entry) :
    fs.find here p.toText follow = .ok (l, e) ↔
      l = p.parts ∧ fs.entryAt p.parts = some e ∧ p.Fits ∧ fs.Open p.parts.dropLast ∧
        ∀ name ∈ p.parts, IsShort name := by
  rw [find_eq_ok_iff_locate, locate_eq_ok_iff hfree hp]
  constructor
  · rintro ⟨⟨rfl, hrest⟩, he⟩
    exact ⟨rfl, he, hrest⟩
  · rintro ⟨rfl, he, hrest⟩
    exact ⟨⟨rfl, hrest⟩, he⟩

end FileSystem

end DocPress
