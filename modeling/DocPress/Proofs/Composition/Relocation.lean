import DocPress.Proofs.Composition.Visits
import DocPress.Proofs.FileSystem.Mirroring
import DocPress.Proofs.FileSystem.Planting

namespace DocPress

/-- Faults of one kind, whatever paths they name. -/
def Fault.SameKind : Fault → Fault → Prop
  | .system a, .system b => a.errno = b.errno
  | a, b => a.ctorIdx = b.ctorIdx

theorem Fault.SameKind.refl (fault : Fault) : fault.SameKind fault := by
  cases fault <;> rfl

namespace Composition

/-- Two runs give values that belong together, or both fail in the same way. -/
def Alike {α β : Type} (Matches : α → β → Prop) : Except Fault α → Except Fault β → Prop
  | .ok a, .ok b => Matches a b
  | .error f, .error g => f.SameKind g
  | _, _ => False

section Alike

variable {α β γ δ : Type} {Matches : α → β → Prop} {Matches' : γ → δ → Prop}

theorem alike_refl (x : Except Fault α) : Alike Eq x x := by
  cases x with
  | error f => exact .refl f
  | ok a => exact rfl

theorem Alike.bind {x : Except Fault α} {y : Except Fault β} {f : α → Except Fault γ}
    {g : β → Except Fault δ} (h : Alike Matches x y)
    (hf : ∀ a b, x = .ok a → y = .ok b → Matches a b → Alike Matches' (f a) (g b)) :
    Alike Matches' (x >>= f) (y >>= g) := by
  cases x with
  | error e =>
    cases y with
    | error e' => exact h
    | ok b => exact h.elim
  | ok a =>
    cases y with
    | error e' => exact h.elim
    | ok b => exact hf a b rfl rfl h

theorem Alike.mapM {f g : α → Except Fault γ} {l : List α}
    (h : ∀ before a after cs, l = before ++ a :: after → before.mapM f = .ok cs →
      Alike Eq (f a) (g a)) : Alike Eq (l.mapM f) (l.mapM g) := by
  induction l with
  | nil => exact alike_refl _
  | cons a l ih =>
    rw [List.mapM_cons, List.mapM_cons]
    refine Alike.bind (h [] a l [] rfl rfl) fun c c' hc _ hcc => ?_
    subst hcc
    refine Alike.bind (ih fun before b after cs hl hcs => ?_) fun cs cs' _ _ hcs => ?_
    · refine h (a :: before) b after (c :: cs) (by rw [hl, List.cons_append]) ?_
      rw [List.mapM_cons, hc, hcs]
      rfl
    · subst hcs
      exact alike_refl _

theorem Alike.same_or_error {x y : Except Fault α} (h : Alike Eq x y) :
    (∃ a, x = .ok a ∧ y = .ok a) ∨ ∃ f g, x = .error f ∧ y = .error g ∧ f.SameKind g := by
  cases x with
  | error f =>
    cases y with
    | error g => exact .inr ⟨f, g, rfl, rfl, h⟩
    | ok b => exact h.elim
  | ok a =>
    cases y with
    | error g => exact h.elim
    | ok b => exact .inl ⟨a, rfl, congrArg Except.ok (Eq.symm h)⟩

theorem Alike.map {x y : Except Fault α} (h : Alike Eq x y) (f : α → γ) :
    Alike Eq (x.map f) (y.map f) := by
  cases x with
  | error e =>
    cases y with
    | error e' => exact h
    | ok b => exact h.elim
  | ok a =>
    cases y with
    | error e' => exact h.elim
    | ok b => exact congrArg f h

end Alike

/-- Where a relative path leads from a place in a tree; nowhere if it climbs above the tree. -/
def descend? : Location → List Text → Option Location
  | here, [] => some here
  | here, part :: rest =>
    if part = Path.dotDot then
      if here = [] then none else descend? here.dropLast rest
    else descend? (here ++ [part]) rest

/-- An import in a file of `directory` stays inside of `top`: its target is relative, does not climb
above `top` on its way, and leads to a document strictly below `top`. -/
structure StaysInside (s : Site) (top directory : Path) (target : Text) : Prop where
  isRelative : (Path.ofText target).isAbsolute = false
  notAbove : ∃ k, directory = top.below k ∧ (descend? k (Path.ofText target).parts).isSome = true
  inside : ∃ l, l ≠ [] ∧ importedFile s directory target = .ok (top.below l)

section Descent

open FileSystem (goTo goTo_nil goTo_cons goTo_cons_dotDot goTo_of_dotDot_notMem)

theorem goTo_of_descend? {top k l : Location} {parts : List Text} (hdots : Path.dotDot ∉ top ++ k)
    (h : descend? k parts = some l) : goTo (top ++ k) parts = top ++ l := by
  induction parts generalizing k with
  | nil =>
    rw [goTo_nil, Option.some.inj h]
  | cons part rest ih =>
    unfold descend? at h
    by_cases hd : part = Path.dotDot
    · rw [if_pos hd] at h
      by_cases hk : k = []
      · rw [if_pos hk] at h
        cases h
      · rw [if_neg hk] at h
        have hdrop : (top ++ k).dropLast = top ++ k.dropLast := List.dropLast_append_of_ne_nil hk
        rw [hd, goTo_cons_dotDot hdots, hdrop]
        apply ih _ h
        rw [← hdrop]
        exact fun hm => hdots (List.dropLast_subset _ hm)
    · rw [if_neg hd] at h
      rw [goTo_cons hd, List.append_assoc]
      apply ih _ h
      rw [← List.append_assoc, List.mem_append, not_or]
      exact ⟨hdots, by simpa using Ne.symm hd⟩

theorem isInside_of_descend? {k l : Location} {parts : List Text} (hk : Path.IsInside k)
    (hparts : ∀ part ∈ parts, Path.IsComponent part) (h : descend? k parts = some l) :
    Path.IsInside l := by
  induction parts generalizing k with
  | nil => rwa [← Option.some.inj h]
  | cons part rest ih =>
    obtain ⟨hpart, hrest⟩ := List.forall_mem_cons.1 hparts
    unfold descend? at h
    by_cases hd : part = Path.dotDot
    · rw [if_pos hd] at h
      split at h
      · cases h
      · exact ih hk.dropLast hrest h
    · rw [if_neg hd] at h
      refine ih (fun name hn => ?_) hrest h
      rcases List.mem_append.1 hn with hn | hn
      · exact hk name hn
      · rw [List.mem_singleton.1 hn]
        exact ⟨hpart, hd⟩

theorem absolute_below {top : Path} {k l : Location} {p : Path} (ht : top.IsPlain)
    (hk : Path.IsInside k) (hp : p.isAbsolute = false) (h : descend? k p.parts = some l) :
    (top.below k).absolute p = top.below l := by
  have hdots : Path.dotDot ∉ top.parts ++ k := (ht.below hk).dotDot_notMem
  have hgo := goTo_of_descend? hdots h
  have hroot : (top.below k).absolute p =
      ⟨top.root, (((top.parts ++ k) ++ p.parts).foldl (Path.push true) []).reverse⟩ := by
    rw [Path.absolute, Path.join, hp, Path.normalize]
    exact congrArg (fun b => (⟨top.root, (List.foldl (Path.push b) [] _).reverse⟩ : Path))
      ht.isAbsolute
  have hstart : (top.parts ++ k).foldl (Path.push true) [] = (top.parts ++ k).reverse := by
    rw [Path.foldl_push_of_dotDot_notMem true hdots, List.append_nil]
  rw [hroot, List.foldl_append, hstart]
  exact congrArg (fun parts => (⟨top.root, parts⟩ : Path)) hgo

end Descent

section Relocation

variable {s t : Site} {top top' : Path}

/-- The same place in both trees. -/
def Facing (top top' a b : Path) : Prop :=
  ∃ l, l ≠ [] ∧ Path.IsInside l ∧ (∀ part ∈ l, part.isUnicode = true) ∧ a = top.below l ∧
    b = top'.below l

theorem StaysInside.facing (hm : Site.Mirrored s t top top') {k : Location}
    (hk : Path.IsInside k) {target : Text} (hne : target ≠ [])
    (h : StaysInside s top (top.below k) target) :
    Alike (Facing top top') (importedFile s (top.below k) target)
      (importedFile t (top'.below k) target) := by
  obtain ⟨hrel, ⟨k', hk', hsome⟩, l, hl, hdoc⟩ := h
  obtain rfl := Path.below_inj.1 hk'
  obtain ⟨m, hm'⟩ := Option.isSome_iff_exists.1 hsome
  obtain ⟨-, hu, hsuffix⟩ := importedFile_eq_ok_iff.1 hdoc
  have hcomponents : ∀ part ∈ (Path.ofText target).parts, Path.IsComponent part :=
    Path.wellFormed_ofText target
  have hinside : Path.IsInside m := isInside_of_descend? hk hcomponents hm'
  rw [absolute_below hm.left.isPlain hk hrel hm'] at hu hsuffix
  -- The document is strictly below the top, so the target is no way round to the top itself.
  have hmne : m ≠ [] := by
    rintro rfl
    have hlength := Path.length_parts_of_withSuffix? hsuffix
    have hpos := List.length_pos_iff.2 hl
    simp only [Path.below, List.length_append, List.length_nil] at hlength
    omega
  have hunicode : ∀ part ∈ m, part.isUnicode = true := (Path.isUnicode_below hm.left.isUnicode).1 hu
  obtain ⟨n, hn, hdocument, hother⟩ := Path.withSuffix?_below hmne hsuffix top'
  obtain rfl := Path.below_inj.1 hdocument
  have hdoc' : importedFile t (top'.below k) target = .ok (top'.below l) := by
    rw [importedFile_eq_ok_iff, absolute_below hm.right.isPlain hk hrel hm']
    exact ⟨hne, (Path.isUnicode_below hm.right.isUnicode).2 hunicode, hother⟩
  rw [hdoc, hdoc']
  have hplain : (top.below l).IsPlain :=
    (hm.left.isPlain.below hinside).withSuffix? hsuffix (by decide) (by decide)
  have hdocUnicode : (top.below l).toText.isUnicode = true :=
    Path.isUnicode_of_withSuffix? hsuffix (by decide) hu
  refine ⟨l, hl, fun name hname => ⟨?_, ?_⟩, (Path.isUnicode_below hm.left.isUnicode).1 hdocUnicode,
    rfl, rfl⟩
  · exact hplain.wellFormed name (List.mem_append_right _ hname)
  · rintro rfl
    exact hplain.dotDot_notMem (List.mem_append_right _ hname)

theorem readText_alike (hm : Site.Mirrored s t top top') {l : Location} (hl : l ≠ [])
    (hin : Path.IsInside l) : Alike Eq (s.readText (top.below l)) (t.readText (top'.below l)) := by
  cases hs : s.readText (top.below l) with
  | ok code =>
    rw [hm.readText_of_readText hl hin hs]
    exact rfl
  | error f =>
    cases ht : t.readText (top'.below l) with
    | ok code =>
      rw [hm.symm.readText_of_readText hl hin ht] at hs
      cases hs
    | error g =>
      -- Both paths are refused for the names in the tree, or both files cannot be read.
      have hsame := hm.check_below l
      cases hc : Site.check (top.below l).toText with
      | error e =>
        rw [hc] at hsame
        cases hs.symm.trans (Site.readText_of_check_eq_error hc)
        cases ht.symm.trans (Site.readText_of_check_eq_error hsame.symm)
        exact Fault.SameKind.refl _
      | ok =>
        rw [hc] at hsame
        obtain ⟨_, rfl⟩ := Site.exists_unread_of_readText hc hs
        obtain ⟨_, rfl⟩ := Site.exists_unread_of_readText hsame.symm ht
        exact rfl

/-- A document in the tree that can be read is where composing gets on. -/
theorem begins_below (hs : s.IsTop top) {l : Location} (hl : l ≠ []) (hin : Path.IsInside l)
    (hu : ∀ part ∈ l, part.isUnicode = true) {code : Text}
    (hr : s.readText (top.below l) = .ok code) (base : Option Path) :
    Begins s (top.below l) base (top.below l.dropLast) := by
  have hplain := hs.isPlain.below hin
  have hunicode := (Path.isUnicode_below hs.isUnicode).2 hu
  have hname : (top.below l).name ∈ l := by
    rw [Path.name_below hl, List.getLastD_eq_getLast?, List.getLast?_eq_some_getLast hl]
    exact List.getLast_mem hl
  have hne : (top.below l).name ≠ [] := (hin _ hname).1.ne_nil
  have hentry : IsEntry s (top.below l) := by
    refine ⟨hplain.isAbsolute, hunicode, hne, (hin _ hname).2, ?_⟩
    rw [hplain.parent.normalize_eq]
    exact Site.isDirectory_parent_of_readText hplain.isAbsolute hne hr
  refine ⟨hunicode, hentry.displayName_eq, ?_⟩
  rw [hentry.container_eq, hplain.parent.normalize_eq, Path.parent_below hl]

/-- All imports that composing a file meets stay inside of `top`, but for those without a target. -/
def AllInside (s : Site) (top : Path) (levels : Nat) (file : Path) (code : Text)
    (base : Option Path) : Prop :=
  ∀ (v : Visit) (line target : Text), Visits s levels file code base v →
    ComesTo s v.levels v.directory (sourceLines v.code) line →
    Text.after? importMarker line = some target → target.trim ≠ [] →
    StaysInside s top v.directory target.trim

theorem importedFile_alike (hm : Site.Mirrored s t top top') {k : Location} (hk : Path.IsInside k)
    {target : Text} (h : target ≠ [] → StaysInside s top (top.below k) target) :
    Alike (Facing top top') (importedFile s (top.below k) target)
      (importedFile t (top'.below k) target) := by
  by_cases hne : target = []
  · subst hne
    exact Fault.SameKind.refl (.unread (top.below k) .blankImport)
  · exact (h hne).facing hm hk hne

theorem treeFrom_alike (hm : Site.Mirrored s t top top') (maximum : Int) {levels : Nat} {depth : Int}
    {l : Location} {code : Text} {base base' : Option Path} (hl : l ≠ []) (hin : Path.IsInside l)
    (hr : s.readText (top.below l) = .ok code)
    (hall : AllInside s top levels (top.below l) code base) :
    Alike Eq (treeFrom s maximum levels depth (top.below l) code base)
      (treeFrom t maximum levels depth (top'.below l) code base') := by
  by_cases hu : ∀ part ∈ l, part.isUnicode = true
  case neg =>
    rw [treeFrom_of_not_isUnicode (mt (Path.isUnicode_below hm.left.isUnicode).1 hu),
      treeFrom_of_not_isUnicode (mt (Path.isUnicode_below hm.right.isUnicode).1 hu)]
    exact rfl
  induction levels generalizing depth l code base base' with
  | zero =>
    obtain ⟨_, _, _, h⟩ := treeFrom_zero_of_isUnicode ((Path.isUnicode_below hm.left.isUnicode).2 hu)
      s maximum depth code base
    obtain ⟨_, _, _, h'⟩ := treeFrom_zero_of_isUnicode
      ((Path.isUnicode_below hm.right.isUnicode).2 hu) t maximum depth code base'
    rw [h, h']
    exact rfl
  | succ levels ih =>
    have hr' := hm.readText_of_readText hl hin hr
    have hb := begins_below hm.left hl hin hu hr base
    have hb' := begins_below hm.right hl hin hu hr' base'
    rw [treeFrom_of_begins hb, treeFrom_of_begins hb', Path.name_below hl, Path.name_below hl]
    refine Alike.bind (Alike.mapM fun before line after parts hs hparts => ?_)
      fun parts parts' _ _ hp => hp ▸ alike_refl _
    have hcome : ComesTo s levels (top.below l.dropLast) (sourceLines code) line :=
      ⟨before, after, parts, hs, (mapM_partOf_eq_ok_iff treeFrom_eq_ok_iff).1 hparts⟩
    unfold partOf
    cases ht : Text.after? importMarker line with
    | none => exact alike_refl _
    | some target =>
      have hstay : target.trim ≠ [] → StaysInside s top (top.below l.dropLast) target.trim :=
        hall _ line target (.self hb) hcome ht
      refine Alike.bind (importedFile_alike hm hin.dropLast hstay) fun a b ha _ hfacing => ?_
      obtain ⟨m, hne, hinside, hunicode, rfl, rfl⟩ := hfacing
      refine Alike.bind (readText_alike hm hne hinside) fun code' _ hc _ hsame => ?_
      subst hsame
      -- What the imported file visits, the file that imports it visits too.
      refine ih hne hinside hc (fun v line' target' hv => ?_) hunicode
      exact hall v line' target' (.imported hb hcome ht ha hc hv)

/-- Where all imports of a document stay inside of a directory, it is composed alike wherever the
directory is: from the same tree of files, below another directory and in another file system, comes
the same document, or a fault of the same kind. -/
theorem composeAt_relocated (hm : Site.Mirrored s t top top') {r : Location} (hne : r ≠ [])
    (hin : Path.IsInside r) (maximum depth : Int) (base base' : Option Path)
    (hall : ∀ code, s.readText (top.below r) = .ok code →
      AllInside s top (maximum - depth).toNat (top.below r) code base) :
    (∃ document, composeFileAt s maximum depth (top.below r) base = .ok document ∧
      composeFileAt t maximum depth (top'.below r) base' = .ok document) ∨
    ∃ f g, composeFileAt s maximum depth (top.below r) base = .error f ∧
      composeFileAt t maximum depth (top'.below r) base' = .error g ∧ f.SameKind g := by
  have halike : Alike Eq (composeFileAt s maximum depth (top.below r) base)
      (composeFileAt t maximum depth (top'.below r) base') := by
    refine Alike.bind (readText_alike hm hne hin) fun code code' hc _ hsame => ?_
    subst hsame
    exact (treeFrom_alike hm maximum hne hin hc (hall code hc)).map Part.written
  exact halike.same_or_error

end Relocation

section Planted

open FileSystem (planted deepDirectory deepName deepTree)

theorem isTop_planted {l : Location} {tree : List (Location × Entry)} {here : Location}
    (hp : (Site.pathOf l).IsPlain) (hu : (Site.pathOf l).toText.isUnicode = true)
    (hd : Site.isDirectory ⟨planted l tree, here⟩ (Site.pathOf l) = .ok true)
    (hfree : (planted l tree).LinkFree)
    (hfits : ∀ k ∈ [] :: tree.map Prod.fst, ((Site.pathOf l).below k).Fits) :
    Site.IsTop ⟨planted l tree, here⟩ (Site.pathOf l) := by
  refine ⟨hp, hu, hd, hfree, fun k he => hfits k ?_⟩
  by_cases hk : k = []
  · rw [hk]
    exact List.mem_cons_self
  · have hentry : (planted l tree).entryAt (l ++ k) ≠ none := he
    rw [FileSystem.entryAt_planted hk] at hentry
    obtain ⟨e, he'⟩ := Option.ne_none_iff_exists'.1 hentry
    obtain ⟨_, _, htree, -⟩ := List.lookup_eq_some_iff.1 he'
    rw [htree]
    simp

theorem entry_eq_planted {l l' : Location} {tree : List (Location × Entry)}
    (hn : tree.lookup [] = none) (k : Location) :
    ((planted l tree).entryAt (l ++ k)).map Entry.asData =
      ((planted l' tree).entryAt (l' ++ k)).map Entry.asData := by
  by_cases hk : k = []
  · rw [hk, List.append_nil, List.append_nil,
      FileSystem.entryAt_planted_above hn List.prefix_rfl,
      FileSystem.entryAt_planted_above hn List.prefix_rfl]
  · rw [FileSystem.entryAt_planted hk, FileSystem.entryAt_planted hk]

/-- A document in a directory that imports one from the directory above. -/
def nestedTree : List (Location × Entry) :=
  [([text "d"], .directory),
    ([text "d", text "s.md"], .file (Text.Utf8.encodeLenient (text "@import ../d/.././e")) false),
    ([text "e.md"], .file (Text.Utf8.encodeLenient (text "x")) false)]

def nestedHere : Site := ⟨planted [text "p", text "q"] nestedTree, [text "p"]⟩

def nestedThere : Site := ⟨planted [text "z"] nestedTree, []⟩

def nestedTop : Path := Site.pathOf [text "p", text "q"]

theorem mirrored_nested : Site.Mirrored nestedHere nestedThere nestedTop (Site.pathOf [text "z"]) := by
  constructor
  · exact isTop_planted ⟨rfl, by decide, by decide⟩ (by decide)
      (eq_ok_of_toOption (by decide +kernel)) (FileSystem.linkFree_of_all (by decide +kernel))
      (by decide +kernel)
  · exact isTop_planted ⟨rfl, by decide, by decide⟩ (by decide)
      (eq_ok_of_toOption (by decide +kernel)) (FileSystem.linkFree_of_all (by decide +kernel))
      (by decide +kernel)
  · exact entry_eq_planted (by decide +kernel)

theorem allInside_nested :
    AllInside nestedHere nestedTop 2 (nestedTop.below [text "d", text "s.md"])
      (text "@import ../d/.././e") none := by
  have hb : Begins nestedHere (nestedTop.below [text "d", text "s.md"]) none
      (nestedTop.below [text "d"]) :=
    ⟨by decide +kernel, eq_ok_of_toOption (by decide +kernel), eq_ok_of_toOption (by decide +kernel)⟩
  have hdoc : importedFile nestedHere (nestedTop.below [text "d"]) (text "../d/.././e").trim =
      .ok (nestedTop.below [text "e.md"]) := eq_ok_of_toOption (by decide +kernel)
  have hread : nestedHere.readText (nestedTop.below [text "e.md"]) = .ok (text "x") :=
    eq_ok_of_toOption (by decide +kernel)
  have hlines : sourceLines (text "@import ../d/.././e") = [text "@import ../d/.././e"] := by
    decide +kernel
  refine eachImport_of_lines hb fun line hline target ht => ?_
  rw [hlines] at hline
  obtain rfl := List.mem_singleton.1 hline
  obtain rfl : text "../d/.././e" = target := by
    have htarget : Text.after? importMarker (text "@import ../d/.././e") =
        some (text "../d/.././e") := by decide +kernel
    exact Option.some.inj (htarget.symm.trans ht)
  constructor
  · exact ⟨by decide +kernel, ⟨[text "d"], rfl, by decide +kernel⟩, [text "e.md"],
      List.cons_ne_nil _ _, hdoc⟩
  · intro document code' hd hc
    obtain rfl := Except.ok.inj (hdoc.symm.trans hd)
    obtain rfl := Except.ok.inj (hread.symm.trans hc)
    exact eachImport_of_noImports (by decide +kernel)

theorem composeAt_relocated_nested :
    Site.Mirrored nestedHere nestedThere nestedTop (Site.pathOf [text "z"]) ∧
      (∀ code, nestedHere.readText (nestedTop.below [text "d", text "s.md"]) = .ok code →
        AllInside nestedHere nestedTop 2 (nestedTop.below [text "d", text "s.md"]) code none) ∧
      composeFileAt nestedHere 2 0 (nestedTop.below [text "d", text "s.md"]) none =
        .ok (block (text "s.md") [block (text "e.md") [text "x"]]) ∧
      composeFileAt nestedThere 2 0 ((Site.pathOf [text "z"]).below [text "d", text "s.md"]) none =
        .ok (block (text "s.md") [block (text "e.md") [text "x"]]) := by
  have hread : nestedHere.readText (nestedTop.below [text "d", text "s.md"]) =
      .ok (text "@import ../d/.././e") := eq_ok_of_toOption (by decide +kernel)
  have hall : ∀ code, nestedHere.readText (nestedTop.below [text "d", text "s.md"]) = .ok code →
      AllInside nestedHere nestedTop 2 (nestedTop.below [text "d", text "s.md"]) code none := by
    intro code hc
    rw [← Except.ok.inj (hread.symm.trans hc)]
    exact allInside_nested
  have hrun : composeFileAt nestedHere 2 0 (nestedTop.below [text "d", text "s.md"]) none =
      .ok (block (text "s.md") [block (text "e.md") [text "x"]]) :=
    eq_ok_of_toOption (by decide +kernel)
  refine ⟨mirrored_nested, hall, hrun, ?_⟩
  rcases composeAt_relocated mirrored_nested (List.cons_ne_nil (text "d") [text "s.md"])
    (by decide +kernel) 2 0 none none hall with ⟨document, hhere, hthere⟩ | ⟨f, g, hhere, -⟩
  · rwa [Except.ok.inj (hrun.symm.trans hhere)]
  · cases hrun.symm.trans hhere

/-- A document that is composed below one directory and too far down below the other. -/
theorem composeAt_relocated_deep :
    (planted [text "a"] deepTree).LinkFree ∧ (planted deepDirectory deepTree).LinkFree ∧
      Site.isDirectory ⟨planted [text "a"] deepTree, []⟩ (Site.pathOf [text "a"]) = .ok true ∧
      Site.isDirectory ⟨planted deepDirectory deepTree, []⟩ (Site.pathOf deepDirectory) = .ok true ∧
      (∀ k, ((planted [text "a"] deepTree).entryAt ([text "a"] ++ k)).map Entry.asData =
        ((planted deepDirectory deepTree).entryAt (deepDirectory ++ k)).map Entry.asData) ∧
      (∀ levels, AllInside ⟨planted [text "a"] deepTree, []⟩ (Site.pathOf [text "a"]) levels
        ((Site.pathOf [text "a"]).below [deepName]) (text "x") none) ∧
      composeFileAt ⟨planted [text "a"] deepTree, []⟩ 1 0 ((Site.pathOf [text "a"]).below [deepName])
        none = .ok (block deepName [text "x"]) ∧
      (composeFileAt ⟨planted deepDirectory deepTree, []⟩ 1 0
        ((Site.pathOf deepDirectory).below [deepName]) none).toOption = none :=
  ⟨FileSystem.linkFree_of_all (by decide +kernel),
    FileSystem.linkFree_of_all (by decide +kernel), eq_ok_of_toOption (by decide +kernel),
    eq_ok_of_toOption (by decide +kernel), entry_eq_planted (by decide +kernel),
    fun _ => eachImport_of_noImports (by decide +kernel), eq_ok_of_toOption (by decide +kernel),
    by decide +kernel⟩

end Planted

end Composition

end DocPress
