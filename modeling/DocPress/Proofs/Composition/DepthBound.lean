import DocPress.Proofs.Composition.Visits
import Mathlib.Data.List.Lex

namespace DocPress.Composition

/-- From a file a chain of imports leads to another one. Each link of the chain is the line that
imports the next file, by its number. -/
inductive Leads (s : Site) : Path → Text → List Nat → Path → Text → Prop
  | here {file : Path} {code : Text} : Leads s file code [] file code
  | through {file document last : Path} {code code' lastCode line target : Text} {i : Nat}
      {chain : List Nat} :
      (sourceLines code)[i]? = some line → Text.after? importMarker line = some target →
      Resolves s file.parent target.trim document code' →
      Leads s document code' chain last lastCode → Leads s file code (i :: chain) last lastCode

/-- Every import line of a file leads somewhere, and every one of a file fewer than `links` links
away from it. -/
def ResolvesWithin (s : Site) (links : Nat) (file : Path) (code : Text) : Prop :=
  ∀ (chain : List Nat) (last : Path) (lastCode line target : Text),
    Leads s file code chain last lastCode → chain.length < links →
    line ∈ sourceLines lastCode → Text.after? importMarker line = some target →
      ∃ document code', Resolves s last.parent target.trim document code'

/-- All chains of imports from a file are shorter than this. -/
def AllShorter (s : Site) (links : Nat) (file : Path) (code : Text) : Prop :=
  ∀ (chain : List Nat) (last : Path) (lastCode : Text),
    Leads s file code chain last lastCode → chain.length < links

/-- Among the chains with so many links, this one comes first when the imports are gone through
depth first, those of a file in the order of its lines. -/
structure IsFirst (s : Site) (links : Nat) (file : Path) (code : Text) (chain : List Nat)
    (last : Path) : Prop where
  leads : ∃ lastCode, Leads s file code chain last lastCode
  length_eq : chain.length = links
  before_others : ∀ (other : List Nat) (otherLast : Path) (otherCode : Text),
    Leads s file code other otherLast otherCode → other.length = links →
      other = chain ∨ List.Lex (· < ·) chain other

section Chains

variable {s : Site} {file document last : Path} {code code' lastCode : Text}

theorem Resolves.unique {directory document' : Path} {target code'' : Text}
    (h : Resolves s directory target document code')
    (h' : Resolves s directory target document' code'') : document' = document ∧ code'' = code' := by
  cases h.isDocument.symm.trans h'.isDocument
  cases h.isRead.symm.trans h'.isRead
  exact ⟨rfl, rfl⟩

theorem Leads.unique {chain : List Nat} {last' : Path} {lastCode' : Text}
    (h : Leads s file code chain last lastCode) (h' : Leads s file code chain last' lastCode') :
    last' = last ∧ lastCode' = lastCode := by
  induction h with
  | here =>
    cases h'
    exact ⟨rfl, rfl⟩
  | through hline ht hr _ ih =>
    cases h' with
    | through hline' ht' hr' h' =>
      cases hline.symm.trans hline'
      cases ht.symm.trans ht'
      obtain ⟨rfl, rfl⟩ := hr.unique hr'
      exact ih h'

theorem Leads.trans {chain chain' : List Nat} {middle : Path} {middleCode : Text}
    (h : Leads s file code chain middle middleCode)
    (h' : Leads s middle middleCode chain' last lastCode) :
    Leads s file code (chain ++ chain') last lastCode := by
  induction h with
  | here => exact h'
  | through hline ht hr _ ih => exact .through hline ht hr (ih h')

/-- Going round a cycle gives chains of any length. -/
theorem Leads.exists_longer {cycle : List Nat} (h : Leads s file code cycle file code)
    (hne : cycle ≠ []) (links : Nat) :
    ∃ chain, Leads s file code chain file code ∧ links ≤ chain.length := by
  induction links with
  | zero => exact ⟨[], .here, Nat.zero_le _⟩
  | succ links ih =>
    obtain ⟨chain, hchain, hlong⟩ := ih
    have hpos : 0 < cycle.length := List.length_pos_iff.2 hne
    refine ⟨cycle ++ chain, h.trans hchain, ?_⟩
    rw [List.length_append]
    omega

theorem isFirst_zero (s : Site) (file : Path) (code : Text) : IsFirst s 0 file code [] file :=
  ⟨⟨code, .here⟩, rfl, fun _ _ _ _ hlength => .inl (List.length_eq_zero_iff.1 hlength)⟩

theorem IsFirst.unique {links : Nat} {chain chain' : List Nat} {last' : Path}
    (h : IsFirst s links file code chain last) (h' : IsFirst s links file code chain' last') :
    last' = last := by
  obtain ⟨_, hl⟩ := h.leads
  obtain ⟨_, hl'⟩ := h'.leads
  have hchain : chain' = chain := by
    rcases h.before_others _ _ _ hl' h'.length_eq with he | hlt
    · exact he
    rcases h'.before_others _ _ _ hl h.length_eq with he | hlt'
    · exact he.symm
    · exact absurd hlt' (asymm hlt)
  subst hchain
  exact (hl.unique hl').1

theorem ResolvesWithin.resolves {links : Nat} (h : ResolvesWithin s (links + 1) file code)
    {line target : Text} (hline : line ∈ sourceLines code)
    (ht : Text.after? importMarker line = some target) :
    ∃ document code', Resolves s file.parent target.trim document code' :=
  h [] _ _ line target .here (Nat.succ_pos _) hline ht

theorem ResolvesWithin.through {links : Nat} (h : ResolvesWithin s (links + 1) file code)
    {line target : Text} (hline : line ∈ sourceLines code)
    (ht : Text.after? importMarker line = some target)
    (hr : Resolves s file.parent target.trim document code') :
    ResolvesWithin s links document code' := by
  intro chain last lastCode line' target' hl hlength
  obtain ⟨i, hi⟩ := List.getElem?_of_mem hline
  exact h (i :: chain) last lastCode line' target' (.through hi ht hr hl) (Nat.succ_lt_succ hlength)

theorem resolvesWithin_of_closed {files : List (Path × Text)}
    (hclosed : ∀ file code, (file, code) ∈ files → ∀ line ∈ sourceLines code, ∀ target,
      Text.after? importMarker line = some target → ∃ document code',
        (document, code') ∈ files ∧ Resolves s file.parent target.trim document code')
    (h : (file, code) ∈ files) (links : Nat) : ResolvesWithin s links file code := by
  intro chain last lastCode line target hl hlength hline ht
  induction hl with
  | here =>
    obtain ⟨document, code', -, hr⟩ := hclosed _ _ h line hline target ht
    exact ⟨document, code', hr⟩
  | through hline' ht' hr' _ ih =>
    obtain ⟨document, code', hmem, hr⟩ := hclosed _ _ h _ (List.mem_of_getElem? hline') _ ht'
    obtain ⟨rfl, rfl⟩ := hr'.unique hr
    exact ih hmem (Nat.lt_of_succ_lt hlength) hline

theorem allShorter_succ {links : Nat}
    (h : ∀ line ∈ sourceLines code, ∀ target document code',
      Text.after? importMarker line = some target →
      Resolves s file.parent target.trim document code' → AllShorter s links document code') :
    AllShorter s (links + 1) file code := by
  intro chain last lastCode hl
  cases hl with
  | here => exact Nat.succ_pos _
  | through hline ht hr hl =>
    exact Nat.succ_lt_succ (h _ (List.mem_of_getElem? hline) _ _ _ ht hr _ _ _ hl)

/-- The first of the chains through a line before which all chains are shorter is the first of
all. -/
theorem IsFirst.through {links : Nat} (before : List Text) {after : List Text}
    {line target : Text} {chain : List Nat} (hlines : sourceLines code = before ++ line :: after)
    (ht : Text.after? importMarker line = some target)
    (hr : Resolves s file.parent target.trim document code')
    (hbefore : ∀ line' ∈ before, ∀ target' document' code'',
      Text.after? importMarker line' = some target' →
      Resolves s file.parent target'.trim document' code'' → AllShorter s links document' code'')
    (h : IsFirst s links document code' chain last) :
    IsFirst s (links + 1) file code (before.length :: chain) last := by
  have hline : (sourceLines code)[before.length]? = some line := by
    rw [hlines, List.getElem?_append_right (Nat.le_refl _), Nat.sub_self]
    rfl
  refine ⟨h.leads.imp fun _ hl => .through hline ht hr hl, congrArg Nat.succ h.length_eq, ?_⟩
  intro other otherLast otherCode hother hlength
  cases hother with
  | here => cases hlength
  | @through _ document' _ _ _ _ line' target' i rest hline' ht' hr' hrest =>
    have hlength' : rest.length = links := Nat.succ.inj hlength
    rcases Nat.lt_trichotomy i before.length with hlt | rfl | hgt
    · -- A line before this one starts no chain with so many links.
      have hmem : line' ∈ before := by
        rw [hlines, List.getElem?_append_left hlt] at hline'
        exact List.mem_of_getElem? hline'
      have hshort := hbefore line' hmem _ _ _ ht' hr' _ _ _ hrest
      omega
    · cases hline.symm.trans hline'
      cases ht.symm.trans ht'
      obtain ⟨rfl, rfl⟩ := hr.unique hr'
      rcases h.before_others _ _ _ hrest hlength' with rfl | hlex
      · exact .inl rfl
      · exact .inr (.cons hlex)
    · exact .inr (.rel hgt)

end Chains

section Runs

variable {s : Site} {maximum : Int} {file : Path} {code : Text}

/-- How composing a file ends with so many levels left: in a tree if no chain is that long, and else
at the end of the first one. -/
def EndsByDepth (s : Site) (maximum : Int) (levels : Nat) (depth : Int) (file : Path) (code : Text)
    (outcome : Except Fault Part) : Prop :=
  (AllShorter s levels file code ∧ ∃ tree, outcome = .ok tree) ∨
  ∃ chain last, IsFirst s levels file code chain last ∧
    outcome = .error (.importTooDeep last.toText (depth + levels) maximum)

theorem IsEntry.begins (h : IsEntry s file) (base : Option Path) :
    Begins s file base file.parent.normalize :=
  ⟨h.isUnicode, h.displayName_eq, h.container_eq base⟩

theorem partOf_of_resolves {levels : Nat} {depth : Int} {directory document : Path}
    {line target code' : Text} (ht : Text.after? importMarker line = some target)
    (hr : Resolves s directory target.trim document code') :
    partOf (importedTree s maximum levels depth directory.normalize) line =
      treeFrom s maximum levels (depth + 1) document code' (some directory.normalize) := by
  obtain ⟨hd, hc⟩ := resolves_iff.1 hr
  unfold partOf
  simp only [ht, importedTree, (importedFile_normalize s directory document _).2 hd]
  change (s.readText document >>= _) = _
  rw [hc]
  rfl

theorem allShorter_of_partOf {levels : Nat} {depth : Int} {document : Path}
    {line target code' : Text} {part : Part} (ht : Text.after? importMarker line = some target)
    (hr : Resolves s file.parent target.trim document code')
    (hend : EndsByDepth s maximum levels (depth + 1) document code'
      (treeFrom s maximum levels (depth + 1) document code' (some file.parent.normalize)))
    (hpart : partOf (importedTree s maximum levels depth file.parent.normalize) line = .ok part) :
    AllShorter s levels document code' := by
  rw [partOf_of_resolves ht hr] at hpart
  rcases hend with ⟨hshort, -⟩ | ⟨_, _, -, he⟩
  · exact hshort
  · cases hpart.symm.trans he

/-- The line on which composing fails is an import, and the first chain goes through it. -/
theorem exists_isFirst_of_partOf {levels : Nat} {depth : Int} {before after : List Text}
    {line : Text} {parts : List Part} {fault : Fault}
    (hres : ResolvesWithin s (levels + 1) file code)
    (hend : ∀ line ∈ sourceLines code, ∀ target document code',
      Text.after? importMarker line = some target →
      Resolves s file.parent target.trim document code' →
      EndsByDepth s maximum levels (depth + 1) document code'
        (treeFrom s maximum levels (depth + 1) document code' (some file.parent.normalize)))
    (hlines : sourceLines code = before ++ line :: after)
    (hbefore : before.mapM (partOf (importedTree s maximum levels depth file.parent.normalize)) =
      .ok parts)
    (hfault : partOf (importedTree s maximum levels depth file.parent.normalize) line =
      .error fault) :
    ∃ chain last, IsFirst s (levels + 1) file code chain last ∧
      fault = .importTooDeep last.toText (depth + 1 + levels) maximum := by
  have hmem : ∀ line' ∈ before, line' ∈ sourceLines code := by
    intro line' hline'
    rw [hlines]
    exact List.mem_append_left _ hline'
  have hline : line ∈ sourceLines code := by
    rw [hlines]
    exact List.mem_append_right _ List.mem_cons_self
  cases ht : Text.after? importMarker line with
  | none =>
    unfold partOf at hfault
    rw [ht] at hfault
    cases hfault
  | some target =>
    obtain ⟨document, code', hr⟩ := hres.resolves hline ht
    -- The lines before were composed, so no chain through them is long enough to be the first.
    rw [partOf_of_resolves ht hr] at hfault
    rcases hend line hline _ _ _ ht hr with ⟨-, tree, hok⟩ | ⟨chain, last, hfirst, herror⟩
    · cases hfault.symm.trans hok
    · cases hfault.symm.trans herror
      refine ⟨before.length :: chain, last, hfirst.through before hlines ht hr ?_, rfl⟩
      intro line' hline' target' document' code'' ht' hr'
      obtain ⟨part, hpart⟩ := exists_of_mapM_eq_ok hbefore hline'
      exact allShorter_of_partOf ht' hr' (hend line' (hmem _ hline') _ _ _ ht' hr') hpart

theorem treeFrom_endsByDepth {levels : Nat} {depth : Int} (h : IsEntry s file)
    (hres : ResolvesWithin s levels file code) (base : Option Path) :
    EndsByDepth s maximum levels depth file code
      (treeFrom s maximum levels depth file code base) := by
  induction levels generalizing depth file code base with
  | zero =>
    refine .inr ⟨[], file, isFirst_zero s file code, ?_⟩
    unfold treeFrom
    rw [pathText_of_isUnicode h.isUnicode, Int.natCast_zero, Int.add_zero]
    rfl
  | succ levels ih =>
    have hend : ∀ line ∈ sourceLines code, ∀ target document code',
        Text.after? importMarker line = some target →
        Resolves s file.parent target.trim document code' →
        EndsByDepth s maximum levels (depth + 1) document code'
          (treeFrom s maximum levels (depth + 1) document code' (some file.parent.normalize)) := by
      intro line hline target document code' ht hr
      exact ih (hr.isEntry h.isAbsolute) (hres.through hline ht hr) _
    rw [treeFrom_of_begins (h.begins base)]
    cases hrun : (sourceLines code).mapM
        (partOf (importedTree s maximum levels depth file.parent.normalize)) with
    | ok parts =>
      refine .inl ⟨allShorter_succ fun line hline target document code' ht hr => ?_, _, rfl⟩
      obtain ⟨part, hpart⟩ := exists_of_mapM_eq_ok hrun hline
      exact allShorter_of_partOf ht hr (hend line hline _ _ _ ht hr) hpart
    | error fault =>
      obtain ⟨before, line, after, parts, hlines, hbefore, hfault⟩ := mapM_eq_error_iff.1 hrun
      obtain ⟨chain, last, hfirst, rfl⟩ :=
        exists_isFirst_of_partOf hres hend hlines hbefore hfault
      have hdepth : depth + 1 + (levels : Int) = depth + ((levels + 1 : Nat) : Int) := by omega
      refine .inr ⟨chain, last, hfirst, ?_⟩
      rw [hdepth]
      rfl

/-- Where every import fewer than `maximum` links away leads to a file, composing gives a document
if all chains of imports have fewer links. If one does not, as when the imports go round a cycle,
some chain of `maximum` links is the first, and composing fails with the name of the file that it
ends in. -/
theorem composeAt_depthBound {s : Site} {maximum : Nat} {file : Path} {code : Text}
    (h : IsEntry s file) (hres : ResolvesWithin s maximum file code) (base : Option Path) :
    (AllShorter s maximum file code →
      ∃ document, composeAt s maximum 0 file code base = .ok document) ∧
    (¬AllShorter s maximum file code →
      (∃ chain last, IsFirst s maximum file code chain last) ∧
        ∀ chain last, IsFirst s maximum file code chain last →
          composeAt s maximum 0 file code base =
            .error (.importTooDeep last.toText maximum maximum)) ∧
    ∀ (chain cycle : List Nat) (last : Path) (lastCode : Text),
      Leads s file code chain last lastCode → Leads s last lastCode cycle last lastCode →
      cycle ≠ [] → ¬AllShorter s maximum file code := by
  have hlevels : ((maximum : Int) - 0).toNat = maximum := by omega
  have hend : EndsByDepth s maximum maximum 0 file code
      (treeFrom s maximum maximum 0 file code base) := treeFrom_endsByDepth h hres base
  have hfirst_long : ∀ {chain last}, IsFirst s maximum file code chain last →
      ¬AllShorter s maximum file code := by
    intro chain last hfirst hshort
    obtain ⟨lastCode, hl⟩ := hfirst.leads
    exact absurd hfirst.length_eq (Nat.ne_of_lt (hshort _ _ _ hl))
  unfold composeAt
  rw [hlevels]
  refine ⟨fun hshort => ?_, fun hlong => ?_, fun chain cycle last lastCode hl hcycle hne hshort => ?_⟩
  · rcases hend with ⟨-, tree, htree⟩ | ⟨_, _, hfirst, -⟩
    · exact ⟨tree.written, by rw [htree]; rfl⟩
    · exact absurd hshort (hfirst_long hfirst)
  · rcases hend with ⟨hshort, -⟩ | ⟨chain, last, hfirst, herror⟩
    · exact absurd hshort hlong
    · refine ⟨⟨chain, last, hfirst⟩, fun chain' last' hfirst' => ?_⟩
      rw [herror, hfirst.unique hfirst', Int.zero_add]
      rfl
  · -- Going round often enough makes a chain that is too long.
    obtain ⟨round, hround, hlength⟩ := hcycle.exists_longer hne maximum
    have hshorter := hshort _ _ _ (hl.trans hround)
    rw [List.length_append] at hshorter
    omega

end Runs

def rounds : FileSystem :=
  ⟨[([text "a.md"], .file (Text.Utf8.encodeLenient (text "@import b\n@import a")) false),
    ([text "b.md"], .file (Text.Utf8.encodeLenient (text "x")) false)]⟩

def roundsEntry : Path := .ofText (text "/a.md")

def roundsOther : Path := .ofText (text "/b.md")

def roundsCode : Text := text "@import b\n@import a"

theorem sourceLines_rounds : sourceLines roundsCode = [text "@import b", text "@import a"] := by
  decide +kernel

theorem after?_rounds_other : Text.after? importMarker (text "@import b") = some (text "b") := by
  decide

theorem after?_rounds_self : Text.after? importMarker (text "@import a") = some (text "a") := by
  decide

theorem resolves_rounds_other :
    Resolves ⟨rounds, []⟩ roundsEntry.parent (text "b").trim roundsOther (text "x") :=
  ⟨by decide, by decide +kernel, by decide +kernel, eq_ok_of_toOption (by decide +kernel)⟩

theorem resolves_rounds_self :
    Resolves ⟨rounds, []⟩ roundsEntry.parent (text "a").trim roundsEntry roundsCode :=
  ⟨by decide, by decide +kernel, by decide +kernel, eq_ok_of_toOption (by decide +kernel)⟩

theorem after?_rounds_leaf :
    ∀ line ∈ sourceLines (text "x"), Text.after? importMarker line = none := by
  decide +kernel

theorem resolvesWithin_rounds (links : Nat) :
    ResolvesWithin ⟨rounds, []⟩ links roundsEntry roundsCode := by
  have hself : (roundsEntry, roundsCode) ∈ [(roundsEntry, roundsCode), (roundsOther, text "x")] :=
    List.mem_cons_self
  have hother : (roundsOther, text "x") ∈ [(roundsEntry, roundsCode), (roundsOther, text "x")] :=
    List.mem_cons_of_mem _ List.mem_cons_self
  refine resolvesWithin_of_closed (fun file code hf line hline target ht => ?_) hself links
  rcases List.mem_cons.1 hf with he | hf
  · cases he
    rw [sourceLines_rounds] at hline
    rcases List.mem_cons.1 hline with rfl | hline
    · cases after?_rounds_other.symm.trans ht
      exact ⟨_, _, hother, resolves_rounds_other⟩
    · cases List.mem_singleton.1 hline
      cases after?_rounds_self.symm.trans ht
      exact ⟨_, _, hself, resolves_rounds_self⟩
  · cases List.mem_singleton.1 hf
    rw [after?_rounds_leaf line hline] at ht
    cases ht

theorem allShorter_rounds_leaf (links : Nat) :
    AllShorter ⟨rounds, []⟩ (links + 1) roundsOther (text "x") := by
  refine allShorter_succ fun line hline target document code' ht _ => ?_
  rw [after?_rounds_leaf line hline] at ht
  cases ht

/-- Once round more: the file imports itself after a line that leads nowhere further. -/
theorem isFirst_rounds_succ {links : Nat} {chain : List Nat} {last : Path}
    (h : IsFirst ⟨rounds, []⟩ (links + 1) roundsEntry roundsCode chain last) :
    IsFirst ⟨rounds, []⟩ (links + 2) roundsEntry roundsCode (1 :: chain) last := by
  refine h.through [text "@import b"] sourceLines_rounds after?_rounds_self resolves_rounds_self
    fun line hline target document code' ht hr => ?_
  cases List.mem_singleton.1 hline
  cases after?_rounds_other.symm.trans ht
  obtain ⟨rfl, rfl⟩ := resolves_rounds_other.unique hr
  exact allShorter_rounds_leaf links

theorem isFirst_rounds :
    IsFirst ⟨rounds, []⟩ 3 roundsEntry roundsCode [1, 1, 0] roundsOther := by
  have hone : IsFirst ⟨rounds, []⟩ 1 roundsEntry roundsCode [0] roundsOther :=
    (isFirst_zero _ _ _).through [] sourceLines_rounds after?_rounds_other resolves_rounds_other
      fun _ hline => absurd hline List.not_mem_nil
  exact isFirst_rounds_succ (isFirst_rounds_succ hone)

/-- The document that is named is not the one on the cycle. -/
theorem composeAt_depthBound_rounds :
    IsEntry ⟨rounds, []⟩ roundsEntry ∧ ResolvesWithin ⟨rounds, []⟩ 3 roundsEntry roundsCode ∧
      ¬AllShorter ⟨rounds, []⟩ 3 roundsEntry roundsCode ∧
      composeAt ⟨rounds, []⟩ 3 0 roundsEntry roundsCode none =
        .error (.importTooDeep (text "/b.md") 3 3) := by
  have hentry : IsEntry ⟨rounds, []⟩ roundsEntry :=
    ⟨by decide, by decide, by decide, by decide, eq_ok_of_toOption (by decide +kernel)⟩
  have hres := resolvesWithin_rounds 3
  obtain ⟨-, hlong, hcycle⟩ := composeAt_depthBound hentry hres none
  have hround : Leads ⟨rounds, []⟩ roundsEntry roundsCode [1] roundsEntry roundsCode :=
    .through (by rw [sourceLines_rounds]; rfl) after?_rounds_self resolves_rounds_self .here
  have hexceeds := hcycle [] [1] roundsEntry roundsCode .here hround (List.cons_ne_nil _ _)
  exact ⟨hentry, hres, hexceeds, (hlong hexceeds).2 _ _ isFirst_rounds⟩

end DocPress.Composition
