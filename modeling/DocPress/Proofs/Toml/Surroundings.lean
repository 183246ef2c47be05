import DocPress.Proofs.Toml.Beside
import DocPress.Proofs.Toml.SectionWriting
import Mathlib.Data.List.Basic

namespace DocPress.Toml

open Text

variable {key name : Text} {sec : Value} {t others members : Table} {strings : List (Text × Text)}

namespace Reading

variable {r r' : Reading}

def filling (r : Reading) (key : Text) (others section' : Table) : Reading :=
  ⟨.table (others ++ [(key, .table section')]), [.key key], r.implied, none⟩

theorem current_filling (h : key ∉ others.names) :
    (r.filling key others members).current = .table members := by
  have hget : Table.get? (others ++ [(key, .table members)]) key = some (.table members) :=
    Table.get?_append_of_notMem h _ _
  rw [current, filling, Value.at?, hget]
  rfl

theorem put_filling (h : key ∉ others.names) (members' : Table) :
    (r.filling key others members).put (.table members') = r.filling key others members' := by
  rw [put, filling, Value.putAt, Table.put_append_of_notMem h]
  rfl

theorem line_headerLine_filling (hkey : IsBare key) (hopened : r.opened = none)
    (hroot : r.root = .table others) (h : key ∉ others.names) :
    r.line (headerLine key) = .ok (r.filling key others []) := by
  have hcurrent : r.leave.current = .table others := (current_of_place_eq_nil rfl).trans hroot
  have hput : r.leave.put (.table (Table.put others key (.table []))) =
      ⟨.table (others ++ [(key, .table [])]), [], r.implied, none⟩ := by
    rw [Table.put_eq_putPair, putPair_of_notMem h, ← hopened]
    rfl
  rw [line_headerLine hkey hopened]
  show enterGroups false [key] r.leave = _
  rw [enterGroups, enterGroup_eq _ hkey.ne_nil, enterCurrent, hcurrent]
  simp only
  rw [enterMember_eq, prepared, Table.get?_eq_none_iff.2 h]
  show Except.ok ((r.leave.put (.table (Table.put others key (.table [])))).enter (.key key)) = _
  rw [hput]
  rfl

theorem lineAlone_filling (hname : IsBare name) {p : Text} (hp : IsKept p)
    (hkey : key ∉ others.names) (hnew : name ∉ members.names) :
    (r.filling key others members).lineAlone (memberLine name p) =
      .ok (r.filling key others (members ++ [(name, .string p)])) := by
  have hline := line_memberLine hname hp (r := r.filling key others members) rfl
    (current_filling hkey) (Table.get?_eq_none_iff.2 hnew)
  rw [put_filling hkey, Table.put_eq_putPair, putPair_of_notMem hnew] at hline
  exact lineAlone_eq_ok_iff.2 ⟨hline, rfl⟩

theorem lines_stored (h : IsKeptSection strings) (hkey : key ∉ others.names)
    (hnew : (members.names ++ strings.map Prod.fst).Nodup) :
    (storedLines strings).foldlM lineAlone (r.filling key others members) =
      .ok (r.filling key others (members ++ stored strings)) := by
  obtain ⟨hnames, htexts, -⟩ := h
  induction strings generalizing members with
  | nil =>
    rw [stored, List.map_nil, List.append_nil]
    rfl
  | cons s rest ih =>
    obtain ⟨hname, hnames⟩ := List.forall_mem_cons.1 hnames
    obtain ⟨htext, htexts⟩ := List.forall_mem_cons.1 htexts
    have hnot : s.1 ∉ members.names := fun hmem =>
      (List.nodup_append.1 hnew).2.2 _ hmem _ List.mem_cons_self rfl
    have hrest : (Table.names (members ++ [(s.1, .string s.2)]) ++ rest.map Prod.fst).Nodup := by
      rw [Table.names_append, List.append_assoc]
      exact hnew
    rw [storedLines, List.map_cons, List.foldlM_cons, lineAlone_filling hname htext hkey hnot]
    refine (ih hrest hnames htexts).trans ?_
    rw [List.append_assoc]
    rfl

theorem lines_sectionLines (hkey : IsBare key) (h : IsKeptSection strings)
    (hopened : r.opened = none) (hroot : r.root = .table others) (hnot : key ∉ others.names) :
    (sectionLines (key, strings)).foldlM lineAlone r =
      .ok (r.filling key others (stored strings)) := by
  have hheader : r.lineAlone (headerLine key) = .ok (r.filling key others []) :=
    lineAlone_eq_ok_iff.2 ⟨line_headerLine_filling hkey hopened hroot hnot, rfl⟩
  rw [sectionLines, List.foldlM_cons, hheader]
  exact lines_stored h hnot h.distinct

theorem hasRead_filling (hopened : r.opened = none) (hroot : r.root = .table others) :
    HasRead key (.table members) r (r.filling key others members) :=
  ⟨rfl, hopened, rfl, others, [], by rw [hroot, List.append_nil], rfl⟩

theorem lineAlone_nil (h : r.opened = none) (lines : List Text) :
    ([] :: lines).foldlM lineAlone r = lines.foldlM lineAlone r := by
  rw [List.foldlM_cons, lineAlone_eq_ok_iff.2 ⟨line_of_opened_eq_none h [], h⟩]
  rfl

theorem HasRead.follows_after (h : HasRead key sec r r') (hr : r.Holds fun _ => True)
    {after : List Text}
    (hafter : after = [] ∨ ∃ t rest, after = [] :: (('[' : CodePoint) :: t) :: rest)
    {last : Reading} (hlines : after.foldlM lineAlone r = .ok last) (hlacks : ¬last.Names key) :
    ∃ last', after.foldlM lineAlone r' = .ok last' ∧ HasRead key sec last last' := by
  rcases hafter with rfl | ⟨t, rest, rfl⟩
  · cases hlines
    exact ⟨r', rfl, h⟩
  · obtain ⟨u, hu⟩ := exists_trim_cons (c := '[') (by decide) t
    rw [lineAlone_nil h.opened, List.foldlM_cons] at hlines
    rw [lineAlone_nil h.opened', List.foldlM_cons]
    obtain ⟨a, hline, hlines⟩ := bind_eq_ok_iff.1 hlines
    obtain ⟨hread, -⟩ := lineAlone_eq_ok_iff.1 hline
    have hholds := (yields_line keptByPut_true hr _).of_eq_ok hread
    -- The header leaves the section, and from there on the lines are read alike.
    rw [line_of_bracket h.opened hu] at hread
    obtain ⟨a', ha', hbeside⟩ := h.follows_header hr hread fun hn =>
      hlacks (names_of_lines hlines hn)
    rw [lineAlone_eq_ok_iff.2 ⟨(line_of_bracket h.opened' hu).trans ha', hbeside.opened'⟩]
    exact hbeside.follows_lines hholds hlines hlacks

/-- After lines that are read from the start no string is open, and there is an outermost table. -/
theorem of_lines {lines : List Text} (h : lines.foldlM lineAlone start = .ok r) :
    r.opened = none ∧ r.Holds fun _ => True := by
  obtain ⟨hread, hopened⟩ := line_of_lineAlone h
  exact ⟨hopened rfl, (yields_lines (r := start) keptByPut_true trivial lines).of_eq_ok hread⟩

theorem headerLine_notMem (hkey : IsBare key) {lines : List Text} {last : Reading}
    (h : lines.foldlM lineAlone start = .ok last) (hlacks : ¬last.Names key) :
    headerLine key ∉ lines := by
  intro hmem
  obtain ⟨first, rest, rfl⟩ := List.append_of_mem hmem
  rw [List.foldlM_append] at h
  obtain ⟨a, hfirst, h⟩ := bind_eq_ok_iff.1 h
  obtain ⟨hopened, hroot⟩ := of_lines hfirst
  rw [List.foldlM_cons] at h
  obtain ⟨b, hline, h⟩ := bind_eq_ok_iff.1 h
  have hheader := (lineAlone_eq_ok_iff.1 hline).1
  rw [line_headerLine hkey hopened] at hheader
  exact hlacks (names_of_lines h ((yields_named hroot false []).of_eq_ok hheader))

/-- A section is read among other lines as it is written, and they are as by themselves. -/
theorem lines_of_surroundings (hkey : IsBare key) (h : IsKeptSection strings)
    {before after : List Text}
    (hafter : after = [] ∨ ∃ t rest, after = [] :: (('[' : CodePoint) :: t) :: rest)
    {last : Reading} (hlines : (before ++ after).foldlM lineAlone start = .ok last)
    (hlacks : ¬last.Names key) :
    ∃ last', (before ++ sectionLines (key, strings) ++ after).foldlM lineAlone start = .ok last' ∧
      HasRead key (.table (stored strings)) last last' := by
  rw [List.foldlM_append] at hlines
  obtain ⟨r, hbefore, hlines⟩ := bind_eq_ok_iff.1 hlines
  obtain ⟨hopened, hholds⟩ := of_lines hbefore
  obtain ⟨others, hroot⟩ := hholds.exists_root
  have hnot : key ∉ others.names := fun hmem => hlacks (names_of_lines hlines (by
    rw [Names, Holds, hroot]
    exact hmem))
  have hsection := lines_sectionLines hkey h hopened hroot hnot
  have hfilled : HasRead key (.table (stored strings)) r (r.filling key others (stored strings)) :=
    hasRead_filling hopened hroot
  obtain ⟨last', hlast', hmore⟩ := hfilled.follows_after hholds hafter hlines hlacks
  refine ⟨last', ?_, hmore⟩
  rw [List.foldlM_append, List.foldlM_append]
  exact bind_eq_ok_iff.2 ⟨_, bind_eq_ok_iff.2 ⟨r, hbefore, hsection⟩, hlast'⟩

end Reading

/-- A text is read line by line where its lines are complete and leave no string open. -/
theorem read_unlines {lines : List Text}
    (hcomplete : ∀ line ∈ lines, ('\n' : CodePoint) ∉ line ∧ IsComplete line) {last : Reading}
    (h : lines.foldlM Reading.lineAlone .start = .ok last) (hroot : last.root = .table t) :
    read (unlines lines) = .ok t := by
  obtain ⟨hread, hopened⟩ := Reading.line_of_lineAlone h
  -- The last logical line is empty.
  have hempty : [[]].foldlM Reading.line last = .ok last :=
    congrArg (· >>= pure) (Reading.line_of_opened_eq_none (hopened rfl) [])
  have hlines : (lines ++ [[]]).foldlM Reading.line .start = .ok last := by
    rw [List.foldlM_append, hread]
    exact hempty
  unfold read
  rw [logicalLines_unlines hcomplete]
  simp only [bind, Except.bind, hlines, hroot]
  rfl

section Surroundings

theorem isComplete_of_mem_section (hkey : IsBare key) (h : IsKeptSection strings) :
    ∀ line ∈ sectionLines (key, strings), ('\n' : CodePoint) ∉ line ∧ IsComplete line := by
  refine List.forall_mem_cons.2 ⟨⟨?_, isComplete_headerLine hkey⟩, fun line hline => ?_⟩
  · simp only [headerLine, List.mem_append, not_or]
    exact ⟨⟨by decide, hkey.notMem (by decide)⟩, by decide⟩
  · obtain ⟨s, hs, rfl⟩ := List.mem_map.1 hline
    refine ⟨?_, isComplete_memberLine (h.names s hs) s.2⟩
    simp only [memberLine, spelled, List.mem_append, List.mem_flatMap, not_or, not_exists, not_and]
    exact ⟨⟨(h.names s hs).notMem (by decide), by decide⟩,
      ⟨by decide, fun c _ => newline_notMem_spell c⟩, by decide⟩

instance (line : Text) : Decidable (IsComplete line) :=
  inferInstanceAs (Decidable (_ = Except.ok _))

/-- The lines that are written around an empty section. Each of them ends where it seems to; read one
by one, without the header of the section, they say what `others` says, and nothing under its key. -/
structure Surrounds (before after : List Text) (t : Table) (key : Text) (others : Table) : Prop where
  written : write (t.put key (.table [])) = .ok (unlines (before ++ headerLine key :: after))
  complete : ∀ line ∈ before ++ after, ('\n' : CodePoint) ∉ line ∧ IsComplete line
  read : ∃ last, (before ++ after).foldlM Reading.lineAlone .start = .ok last ∧
    last.root = .table others
  absent : key ∉ Table.names others

/-- What is written beside a section can be read, and says what `others` says. -/
def HasLegibleRest (t : Table) (key : Text) (others : Table) : Prop :=
  ∃ before after, Surrounds before after t key others

theorem exists_of_unlines_eq_bracket {lines : List Text}
    (hlines : ∀ line ∈ lines, ('\n' : CodePoint) ∉ line) {below : Text}
    (h : unlines lines = text "\n[" ++ below) :
    ∃ t rest, lines = [] :: (('[' : CodePoint) :: t) :: rest := by
  cases lines with
  | nil => cases h
  | cons first rest =>
    obtain ⟨hfirst, -⟩ := List.forall_mem_cons.1 hlines
    cases first with
    | cons c t =>
      obtain rfl : c = '\n' := (List.cons.inj h).1
      exact absurd List.mem_cons_self hfirst
    | nil =>
      have hrest : unlines rest = ('[' : CodePoint) :: below := (List.cons.inj h).2
      cases rest with
      | nil => cases hrest
      | cons second rest =>
        cases second with
        | nil => exact absurd (List.cons.inj hrest).1 (by decide)
        | cons c t =>
          obtain rfl : c = '[' := (List.cons.inj hrest).1
          exact ⟨t, rest, rfl⟩

theorem Around.exists_lines {inside done done' above below : Text} (hkey : IsBare key)
    (h : Around key inside done done' above below) {lines : List Text}
    (hlines : ∀ line ∈ lines, ('\n' : CodePoint) ∉ line) (hdone : done = unlines lines) :
    ∃ before after, lines = before ++ headerLine key :: after ∧
      done' = unlines (before ++ [headerLine key]) ++ inside ++ unlines after ∧
      (after = [] ∨ ∃ t rest, after = [] :: (('[' : CodePoint) :: t) :: rest) := by
  -- What is above the header is empty or ends a line, so it is made of lines.
  obtain ⟨before, hbefore, habove⟩ : ∃ before : List Text,
      (∀ line ∈ before, ('\n' : CodePoint) ∉ line) ∧ above = unlines before := by
    rcases h.ends with hnil | ⟨t, ht⟩
    · exact ⟨[], List.forall_mem_nil _, hnil⟩
    · exact ⟨splitAt '\n' t, fun line hline => sep_notMem_of_mem_splitAt hline,
        ht.trans (unlines_splitAt t).symm⟩
  have hheader : above ++ header key = unlines (before ++ [headerLine key]) := by
    rw [unlines_append, ← habove]
    simp [header, headerLine, text]
  have hfirst : ∀ line ∈ before ++ [headerLine key], ('\n' : CodePoint) ∉ line := by
    refine List.forall_mem_append.2 ⟨hbefore, List.forall_mem_singleton.2 ?_⟩
    simp only [headerLine, List.mem_append, not_or]
    exact ⟨⟨by decide, hkey.notMem (by decide)⟩, by decide⟩
  obtain ⟨after, hafter, hbelow⟩ := exists_of_unlines_eq hlines hfirst
    (by rw [← hdone, h.first, hheader])
  refine ⟨before, after, ?_, ?_, ?_⟩
  · rw [hafter, List.append_assoc]
    rfl
  · rw [h.second, hheader, hbelow]
  · rcases h.starts with hnil | ⟨t, ht⟩
    · cases after with
      | nil => exact .inl rfl
      | cons line rest =>
        rw [hnil, unlines_cons] at hbelow
        simp [text] at hbelow
    · refine .inr (exists_of_unlines_eq_bracket (fun line hline => hlines line ?_)
        (hbelow.symm.trans ht))
      rw [hafter]
      exact List.mem_append_right _ hline

/-- Where the other lines of a file can be read, a section that is written among them is read as it
was, and so are they. -/
theorem read_of_surrounds (hkey : IsBare key) (h : IsKeptSection strings)
    (ht : (Table.names t).Nodup) (hrest : HasLegibleRest t key others) :
    ∃ content u v, write (t.put key (.table (stored strings))) = .ok content ∧ others = u ++ v ∧
      read content = .ok (u ++ (key, .table (stored strings)) :: v) := by
  obtain ⟨before, after, hwritten, hcomplete, ⟨last, hlast, hroot⟩, habsent⟩ := hrest
  obtain ⟨content, hcontent, above, below, haround⟩ := follows_write hkey h ht _ hwritten
  have hlacks : ¬last.Names key := by
    rw [Reading.Names, Reading.Holds, hroot]
    exact habsent
  have hnot := Reading.headerLine_notMem hkey hlast hlacks
  have hsection := isComplete_of_mem_section hkey h
  have hnewline : ∀ line ∈ before ++ headerLine key :: after, ('\n' : CodePoint) ∉ line := by
    intro line hline
    rcases List.mem_append.1 hline with hline | hline
    · exact (hcomplete line (List.mem_append_left _ hline)).1
    · rcases List.mem_cons.1 hline with rfl | hline
      · exact (hsection _ List.mem_cons_self).1
      · exact (hcomplete line (List.mem_append_right _ hline)).1
  obtain ⟨before', after', hsame, hdone, hafter⟩ := haround.exists_lines hkey hnewline rfl
  -- The header stands only once, so that the lines around it are the same.
  obtain ⟨rfl, -, rfl⟩ := (List.append_cons_inj_of_notMem
    (fun hm => hnot (List.mem_append_left _ hm))
    fun hm => hnot (List.mem_append_right _ hm)).1 hsame
  have hwhole : content = unlines (before ++ sectionLines (key, strings) ++ after) := by
    rw [hdone]
    simp [unlines_append, sectionLines]
  have hall : ∀ line ∈ before ++ sectionLines (key, strings) ++ after,
      ('\n' : CodePoint) ∉ line ∧ IsComplete line := by
    intro line hline
    rcases List.mem_append.1 hline with hline | hline
    · rcases List.mem_append.1 hline with hline | hline
      · exact hcomplete line (List.mem_append_left _ hline)
      · exact hsection line hline
    · exact hcomplete line (List.mem_append_right _ hline)
  obtain ⟨last', hread, hmore⟩ := Reading.lines_of_surroundings hkey h hafter hlast hlacks
  obtain ⟨u, v, hu, hu'⟩ := hmore.root
  refine ⟨content, u, v, hcontent, ?_, ?_⟩
  · rw [hroot] at hu
    exact Value.table.inj hu
  · rw [hwhole]
    exact read_unlines hall hread hu'

end Surroundings

end DocPress.Toml
