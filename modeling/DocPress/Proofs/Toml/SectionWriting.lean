import DocPress.Fault
import DocPress.Proofs.Follows
import DocPress.Proofs.Toml.Levels
import DocPress.Proofs.Toml.Members
import DocPress.Proofs.Toml.SectionLines

namespace DocPress.Toml

open Text

variable {key name : Text} {strings : List (Text × Text)} {x y t : Table} {w w' : Written}

section Keys

theorem writeKey_of_isBare (h : IsBare key) : writeKey key = .ok key := by
  have hlast : key.getLast? ≠ some ('\n' : CodePoint) := fun hn =>
    h.notMem (by decide) (List.mem_of_getLast? hn)
  unfold writeKey
  simp only [if_neg hlast]
  exact if_pos ⟨h.ne_nil, List.all_eq_true.2 h.points⟩

theorem doubleQuote_mem_of_writeString {t written : Text} (h : writeString t = .ok written) :
    doubleQuote ∈ written := by
  obtain ⟨body, -, hwritten⟩ := bind_eq_ok_iff.1 h
  obtain rfl := Except.ok.inj hwritten
  exact List.mem_cons_self

theorem eq_of_writeKey (h : IsBare key) (hname : writeKey name = .ok key) : name = key := by
  unfold writeKey at hname
  generalize (if name.getLast? = some ('\n' : CodePoint) then name.dropLast else name) =
    body at hname
  simp only at hname
  split at hname
  · exact Except.ok.inj hname
  · exact absurd (doubleQuote_mem_of_writeString hname) (h.notMem (by decide))

end Keys

section Stored

def stored (strings : List (Text × Text)) : Table := strings.map fun s => (s.1, .string s.2)

def storedLines (strings : List (Text × Text)) : List Text :=
  strings.map fun s => memberLine s.1 s.2

def sectionLines (s : Text × List (Text × Text)) : List Text := headerLine s.1 :: storedLines s.2

/-- Strings that are kept, under names that need no quotes and stand only once. -/
structure IsKeptSection (strings : List (Text × Text)) : Prop where
  names : ∀ s ∈ strings, IsBare s.1
  texts : ∀ s ∈ strings, IsKept s.2
  distinct : (strings.map Prod.fst).Nodup

theorem isKeptSection_nil : IsKeptSection [] :=
  ⟨List.forall_mem_nil _, List.forall_mem_nil _, List.nodup_nil⟩

theorem writeMember_of_isKept {p : Text} (hname : IsBare name) (hp : IsKept p) (fuel : Nat)
    (within : Text) :
    writeMember fuel within name (.string p) = .ok ⟨memberLine name p ++ text "\n", [], []⟩ := by
  have hline : writeLine name (.string p) = .ok (memberLine name p ++ text "\n") := by
    rw [writeLine, writeKey_of_isBare hname]
    show (writeString p >>= _) = _
    rw [writeString_of_isKept hp]
    rfl
  show (writeLine name (.string p) >>= _) = _
  rw [hline]
  rfl

theorem writeTable_stored (h : IsKeptSection strings) (fuel : Nat) (above : Text) :
    writeTable (fuel + 1) above (stored strings) = .ok ⟨unlines (storedLines strings), [], []⟩ := by
  have hall : ∀ w : Written, (stored strings).foldlM
      (fun w member => w.add <$> writeMember fuel (withinOf above) member.1 member.2) w =
        .ok { w with plain := w.plain ++ unlines (storedLines strings) } := by
    obtain ⟨hnames, htexts, -⟩ := h
    induction strings with
    | nil => exact fun w => by simp [stored, storedLines]; rfl
    | cons s rest ih =>
      intro w
      obtain ⟨hname, hnames⟩ := List.forall_mem_cons.1 hnames
      obtain ⟨htext, htexts⟩ := List.forall_mem_cons.1 htexts
      rw [show stored (s :: rest) = (s.1, .string s.2) :: stored rest from rfl, List.foldlM_cons,
        writeMember_of_isKept hname htext]
      refine (ih hnames htexts _).trans ?_
      simp [Written.add, storedLines, putAll]
  rw [writeTable_succ, hall]
  rfl

theorem addSection_stored (h : IsKeptSection strings) (fuel : Nat) (r : Text × Sections)
    (name : Text) : addSection (fuel + 1) r (name, stored strings) =
      .ok (r.1 ++ gapAfter r.1 ++ header name ++ unlines (storedLines strings), r.2) := by
  rw [addSection, writeTable_stored h]
  show Except.ok _ = _
  simp [Written.body, Written.inner, putAll]

end Stored

section Root

theorem putSection_eq_putPair (name : Text) (t : Table) (sections : Sections) :
    putSection name t sections = putPair name t sections := by
  induction sections with
  | nil => rfl
  | cons s rest ih =>
    obtain ⟨k, old⟩ := s
    rw [putSection, putPair, ih]

/-- The same is written but for one section, which is empty at first. -/
def Written.Fills (key : Text) (m : Table) (w w' : Written) : Prop :=
  ∃ u v, w.sections = u ++ (key, []) :: v ∧ w' = { w with sections := u ++ (key, m) :: v }

theorem Written.Fills.add {m : Table} (h : w.Fills key m w') {share : Written}
    (hne : ∀ s ∈ share.sections, s.1 ≠ key) : (w.add share).Fills key m (w'.add share) := by
  have hall : ∀ added : Sections, (∀ s ∈ added, s.1 ≠ key) → ∀ u v,
      ∃ u' v', ∀ m, putAll added (u ++ (key, m) :: v) = u' ++ (key, m) :: v' := by
    intro added
    induction added with
    | nil => exact fun _ u v => ⟨u, v, fun m => rfl⟩
    | cons s rest ih =>
      intro hadded u v
      obtain ⟨hs, hrest⟩ := List.forall_mem_cons.1 hadded
      obtain ⟨u₁, v₁, -, hput⟩ := exists_putPair_of_ne hs s.2 u v
      obtain ⟨u₂, v₂, hall⟩ := ih hrest u₁ v₁
      exact ⟨u₂, v₂, fun m => by rw [← hall, ← hput, ← putSection_eq_putPair]; rfl⟩
  obtain ⟨u, v, hw, rfl⟩ := h
  obtain ⟨u', v', hput⟩ := hall share.sections hne u v
  refine ⟨u', v', ?_, ?_⟩
  · rw [← hput, ← hw]
    rfl
  · rw [← hput]
    rfl

theorem ne_of_writeMember (hkey : IsBare key) (hname : name ≠ key) {fuel : Nat} {within : Text}
    {v : Value} {share : Written} (h : writeMember fuel within name v = .ok share) :
    ∀ s ∈ share.sections, s.1 ≠ key := by
  have hline : ∀ v' : Value, (do return ⟨← writeLine name v', [], []⟩) = Except.ok share →
      share.sections = [] := by
    intro v' h
    obtain ⟨line, -, hshare⟩ := bind_eq_ok_iff.1 h
    rw [← Except.ok.inj hshare]
  have hnone : share.sections = [] → ∀ s ∈ share.sections, s.1 ≠ key := by
    intro h
    rw [h]
    exact List.forall_mem_nil _
  cases v with
  | table members =>
    rw [writeMember] at h
    obtain ⟨k, hwritten, hshare⟩ := bind_eq_ok_iff.1 h
    rw [← Except.ok.inj hshare]
    refine List.forall_mem_singleton.2 fun hk => hname (eq_of_writeKey hkey ?_)
    rw [hwritten, ← hk]
  | array items =>
    rw [writeMember] at h
    split at h
    · exact hnone (hline _ h)
    · obtain ⟨k, -, h⟩ := bind_eq_ok_iff.1 h
      obtain ⟨tables, -, hshare⟩ := bind_eq_ok_iff.1 h
      exact hnone (by rw [← Except.ok.inj hshare])
  | _ => exact hnone (hline _ h)

theorem follows_writeTable (hkey : IsBare key) (hy : key ∉ Table.names y) (m : Table) (fuel : Nat)
    (above : Text) :
    Follows (Written.Fills key m) (writeTable (fuel + 1) above (x ++ (key, .table []) :: y))
      (writeTable (fuel + 1) above (x ++ (key, .table m) :: y)) := by
  have hmember : ∀ m, writeMember fuel (withinOf above) key (.table m) =
      .ok ⟨[], [], [(key, m)]⟩ := by
    intro m
    rw [writeMember, writeKey_of_isBare hkey]
    rfl
  rw [writeTable_succ, writeTable_succ, List.foldlM_append, List.foldlM_append]
  refine (follows_self _).bind fun w w' hw => ?_
  obtain ⟨-, rfl⟩ := hw
  rw [List.foldlM_cons, List.foldlM_cons, hmember, hmember]
  -- Up to the section the same is written, and the members behind it have other names.
  refine Follows.foldlM (fun w w' member hm hfills => ?_) ?_
  · have hne : member.1 ≠ key := fun h => hy (h ▸ List.mem_map_of_mem hm)
    refine (follows_self _).map fun share share' hshare => ?_
    obtain ⟨hshare, rfl⟩ := hshare
    exact hfills.add (ne_of_writeMember hkey hne hshare)
  · obtain ⟨u, v, hput⟩ := exists_putPair key w'.sections
    refine ⟨u, v, (putSection_eq_putPair key [] _).trans (hput []), ?_⟩
    rw [← hput, ← putSection_eq_putPair]
    simp [Written.add, putAll]

end Root

section Around

/-- There is something under a header, which is empty at first; all around it is the same. -/
structure Around (key inside done done' : Text) (before after : Text) : Prop where
  first : done = before ++ header key ++ after
  second : done' = before ++ header key ++ inside ++ after
  ends : before = [] ∨ ∃ above, before = above ++ text "\n"
  starts : after = [] ∨ ∃ below, after = text "\n[" ++ below

theorem gapAfter_append {b : Text} (h : 2 ≤ b.length) (a : Text) :
    gapAfter (a ++ b) = gapAfter b := by
  have hb : b ≠ [] := by
    rintro rfl
    exact absurd h (by decide)
  have hdrop : (a ++ b).drop ((a ++ b).length - 2) = b.drop (b.length - 2) := by
    rw [List.length_append, show a.length + b.length - 2 = a.length + (b.length - 2) by omega,
      List.drop_append]
    simp
  rw [gapAfter, gapAfter, hdrop]
  simp [hb]

/-- After a line that ends in a bracket or a quote comes an empty one. -/
theorem gapAfter_header (key done : Text) : gapAfter (done ++ header key) = text "\n" := by
  have hheader : done ++ header key = done ++ text "[" ++ key ++ text "]\n" := by
    rw [header]
    simp
  rw [hheader, gapAfter_append (by decide)]
  decide

theorem gapAfter_stored (done : Text) (strings : List (Text × Text)) (key : Text) :
    gapAfter (done ++ header key ++ unlines (storedLines strings)) = text "\n" := by
  rcases List.eq_nil_or_concat strings with rfl | ⟨rest, s, rfl⟩
  · rw [storedLines, List.map_nil, unlines_nil, List.append_nil, gapAfter_header]
  · have hlast : unlines (storedLines (rest.concat s)) =
        unlines (storedLines rest) ++ (s.1 ++ text " = \x22" ++ s.2.flatMap spell) ++
          text "\x22\n" := by
      rw [List.concat_eq_append, storedLines, List.map_append, unlines_append]
      simp [memberLine, spelled, storedLines, text]
    rw [hlast, ← List.append_assoc, gapAfter_append (by decide)]
    decide

variable {done done' : Text} {deeper : Sections} {fuel : Nat}

theorem follows_addSection {inside : Text}
    (hgap : ∀ before, gapAfter (before ++ header key ++ inside) = text "\n")
    (h : ∃ before after, Around key inside done done' before after) (s : Text × Table) :
    Follows (fun r r' => (∃ before after, Around key inside r.1 r'.1 before after) ∧ r'.2 = r.2)
      (addSection fuel (done, deeper) s) (addSection fuel (done', deeper) s) := by
  obtain ⟨before, after, h⟩ := h
  -- The gap depends on how the text ends: after the section both end in one line end, and further
  -- down in the same.
  have hgaps : gapAfter done' = gapAfter done := by
    rcases h.starts with hnil | ⟨below, hbelow⟩
    · rw [h.first, h.second, hnil, List.append_nil, List.append_nil, hgap, gapAfter_header]
    · have hlength : 2 ≤ after.length := by simp [hbelow, text]
      rw [h.first, h.second, gapAfter_append hlength, gapAfter_append hlength]
  unfold addSection
  refine (follows_self _).bind fun w w' hw => ?_
  obtain ⟨-, rfl⟩ := hw
  refine follows_ok ⟨?_, rfl⟩
  simp only [hgaps]
  split
  · refine ⟨before, after ++ gapAfter done ++ header s.1 ++ w'.body, ?_, ?_, h.ends, .inr ?_⟩
    · simp [h.first]
    · simp [h.second]
    · rcases h.starts with hnil | ⟨below, hbelow⟩
      · have hgap : gapAfter done = text "\n" := by
          rw [h.first, hnil, List.append_nil, gapAfter_header]
        exact ⟨s.1 ++ text "]\n" ++ w'.body, by rw [hnil, hgap, header]; simp [text]⟩
      · exact ⟨below ++ gapAfter done ++ header s.1 ++ w'.body, by rw [hbelow]; simp⟩
  · exact ⟨before, after, h⟩

theorem follows_foldlM_addSection {inside : Text}
    (hgap : ∀ before, gapAfter (before ++ header key ++ inside) = text "\n")
    (h : ∃ before after, Around key inside done done' before after) (sections : Sections) :
    Follows (fun r r' => (∃ before after, Around key inside r.1 r'.1 before after) ∧ r'.2 = r.2)
      (sections.foldlM (addSection fuel) (done, deeper))
      (sections.foldlM (addSection fuel) (done', deeper)) := by
  refine Follows.foldlM (fun r r' s _ hr => ?_) ⟨h, rfl⟩
  obtain ⟨done, deeper⟩ := r
  obtain ⟨done', deeper'⟩ := r'
  obtain ⟨h, rfl⟩ := hr
  exact follows_addSection hgap h s

theorem follows_writeSections_of_around {inside : Text}
    (hgap : ∀ before, gapAfter (before ++ header key ++ inside) = text "\n")
    (h : ∃ before after, Around key inside done done' before after) (levels : Nat)
    (sections : Sections) :
    Follows (fun r r' => ∃ before after, Around key inside r r' before after)
      (writeSections fuel levels done sections) (writeSections fuel levels done' sections) := by
  induction levels generalizing done done' sections with
  | zero => exact follows_ok h
  | succ levels ih =>
    rw [writeSections_succ, writeSections_succ]
    refine (follows_foldlM_addSection hgap h sections).bind fun r r' hr => ?_
    rw [hr.2]
    exact ih hr.1 r.2

theorem end_of_gapAfter (done : Text) :
    done ++ gapAfter done = [] ∨ ∃ above, done ++ gapAfter done = above ++ text "\n" := by
  unfold gapAfter
  split
  · exact .inr ⟨done, rfl⟩
  · rename_i h
    by_cases hdone : done = []
    · exact .inl (by rw [hdone]; rfl)
    · refine .inr ⟨done.take (done.length - 2) ++ text "\n", ?_⟩
      have hdrop : done.drop (done.length - 2) = text "\n\n" :=
        Decidable.not_not.1 fun hne => h ⟨hdone, hne⟩
      have hwhole := List.take_append_drop (done.length - 2) done
      rw [hdrop] at hwhole
      rw [List.append_nil, List.append_assoc]
      exact hwhole.symm

theorem follows_writeSections (h : IsKeptSection strings) (levels : Nat) (done : Text)
    (u v : Sections) :
    Follows (fun r r' => ∃ before after,
        Around key (unlines (storedLines strings)) r r' before after)
      (writeSections (fuel + 1) (levels + 1) done (u ++ (key, []) :: v))
      (writeSections (fuel + 1) (levels + 1) done (u ++ (key, stored strings) :: v)) := by
  have hgap : ∀ before, gapAfter (before ++ header key ++ unlines (storedLines strings)) =
      text "\n" :=
    fun before => gapAfter_stored before strings key
  have hempty : ∀ r : Text × Sections, addSection (fuel + 1) r (key, []) =
      .ok (r.1 ++ gapAfter r.1 ++ header key, r.2) := by
    intro r
    have hnone := addSection_stored isKeptSection_nil fuel r key
    rwa [storedLines, List.map_nil, unlines_nil, List.append_nil] at hnone
  rw [writeSections_succ, writeSections_succ, List.foldlM_append, List.foldlM_append, bind_assoc,
    bind_assoc]
  refine (follows_self _).bind fun r r' hr => ?_
  obtain ⟨-, rfl⟩ := hr
  rw [List.foldlM_cons, List.foldlM_cons, hempty, addSection_stored h]
  refine Follows.bind (follows_foldlM_addSection hgap ⟨r'.1 ++ gapAfter r'.1, [], ?_⟩ v)
    fun r r' hr => ?_
  · exact ⟨(List.append_nil _).symm, (List.append_nil _).symm, end_of_gapAfter r'.1, .inl rfl⟩
  · rw [hr.2]
    exact follows_writeSections_of_around hgap hr.1 levels r.2

/-- Where a table with an empty section is written, so is one with strings in the section: under the
same header, with the same around it. -/
theorem follows_write (hkey : IsBare key) (h : IsKeptSection strings) (ht : t.names.Nodup) :
    Follows (fun r r' => ∃ before after,
        Around key (unlines (storedLines strings)) r r' before after)
      (write (t.put key (.table []))) (write (t.put key (.table (stored strings)))) := by
  obtain ⟨x, y, hplace⟩ := exists_putPair key t
  have hput : ∀ v, t.put key v = x ++ (key, v) :: y := fun v =>
    (Table.put_eq_putPair t key v).trans (hplace v)
  have hy : key ∉ Table.names y := by
    have hnodup := Table.nodup_put ht key (.table [])
    rw [hput, Table.names_append, Table.names_cons] at hnodup
    exact (List.nodup_cons.1 (List.nodup_append.1 hnodup).2.1).1
  -- Both have enough to go on with what is enough for both.
  rw [write_eq (Nat.lt_succ_of_le
      (Nat.le_add_right _ (sizeMembers (t.put key (.table (stored strings)))))),
    write_eq (Nat.lt_succ_of_le (Nat.le_add_left _ (sizeMembers (t.put key (.table []))))),
    hput, hput]
  refine (follows_writeTable hkey hy _ _ _).bind fun w w' hw => ?_
  obtain ⟨u, v, hw, rfl⟩ := hw
  rw [hw]
  exact follows_writeSections h _ _ u v

end Around

end DocPress.Toml
