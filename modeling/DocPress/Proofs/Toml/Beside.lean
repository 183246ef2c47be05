import DocPress.Fault
import DocPress.Proofs.Follows
import DocPress.Proofs.Toml.SectionReading

namespace DocPress.Toml

open Text

variable {key name : Text} {sec : Value}

section Beside

/-- There is one more member in the second table. -/
def HasMore (key : Text) (sec root root' : Value) : Prop :=
  ∃ u v, root = .table (u ++ v) ∧ root' = .table (u ++ (key, sec) :: v)

theorem hasMore_put (h : name ≠ key) (new : Value) (u v : Table) :
    HasMore key sec (.table (Table.put (u ++ v) name new))
      (.table (Table.put (u ++ (key, sec) :: v) name new)) := by
  obtain ⟨u', v', hput, hmore⟩ := exists_putPair_of_ne h new u v
  exact ⟨u', v', by rw [Table.put_eq_putPair, hput], by rw [Table.put_eq_putPair, hmore]⟩

theorem HasMore.putAt {root root' : Value} (h : HasMore key sec root root') (hname : name ≠ key)
    (new : Value) (rest : Place) : HasMore key sec (Value.putAt new (.key name :: rest) root)
      (Value.putAt new (.key name :: rest) root') := by
  obtain ⟨u, v, rfl, rfl⟩ := h
  rw [Value.putAt, Value.putAt, Table.get?_of_ne hname]
  exact hasMore_put hname _ u v

end Beside

namespace Reading

variable {r r' : Reading}

/-- A line that leaves no string open. -/
def lineAlone (r : Reading) (t : Text) : Except Fault Reading := do
  let r ← r.line t
  if r.opened.isSome then .error .malformed else .ok r

theorem lineAlone_eq_ok_iff {t : Text} :
    r.lineAlone t = .ok r' ↔ r.line t = .ok r' ∧ r'.opened = none := by
  unfold lineAlone
  cases r.line t with
  | error fault => exact ⟨fun h => (by cases h), fun h => (by cases h.1)⟩
  | ok r₁ =>
    cases hopened : r₁.opened with
    | none =>
      simp only [bind, Except.bind, hopened, Option.isSome_none, Bool.false_eq_true, if_false]
      exact ⟨fun h => ⟨h, by cases h; exact hopened⟩, fun h => h.1⟩
    | some o =>
      simp only [bind, Except.bind, hopened, Option.isSome_some, if_true]
      refine ⟨fun h => (by cases h), fun h => ?_⟩
      obtain ⟨h, hnone⟩ := h
      cases h
      rw [hopened] at hnone
      cases hnone

/-- The second reading has read one more section, whatever it is in. -/
structure HasRead (key : Text) (sec : Value) (r r' : Reading) : Prop where
  implied : r'.implied = r.implied
  opened : r.opened = none
  opened' : r'.opened = none
  root : HasMore key sec r.root r'.root

/-- The current table is in another section. -/
def IsAway (key : Text) (r : Reading) : Prop :=
  ∃ name rest, r.place = .key name :: rest ∧ name ≠ key

/-- The second reading has read one more section, and is in the same other one. -/
structure Beside (key : Text) (sec : Value) (r r' : Reading) :
    Prop extends HasRead key sec r r' where
  place : r'.place = r.place
  away : r.IsAway key

theorem Beside.current_eq (h : Beside key sec r r') : r'.current = r.current := by
  obtain ⟨name, rest, hplace, hname⟩ := h.away
  obtain ⟨u, v, hroot, hroot'⟩ := h.root
  rw [current, current, h.place, hplace, hroot, hroot', Value.at?, Value.at?,
    Table.get?_of_ne hname]

theorem Beside.put (h : Beside key sec r r') (new : Value) :
    Beside key sec (r.put new) (r'.put new) := by
  have haway := h.away
  obtain ⟨name, rest, hplace, hname⟩ := haway
  refine ⟨⟨h.implied, h.opened, h.opened', ?_⟩, h.place, h.away⟩
  rw [Reading.put, Reading.put, h.place, hplace]
  exact h.root.putAt hname new rest

theorem Beside.enter (h : Beside key sec r r') (step : Step) :
    Beside key sec (r.enter step) (r'.enter step) := by
  obtain ⟨name, rest, hplace, hname⟩ := h.away
  refine ⟨⟨h.implied, h.opened, h.opened', h.root⟩, ?_, name, rest ++ [step], ?_, hname⟩
  · exact congrArg (· ++ [step]) h.place
  · show r.place ++ [step] = _
    rw [hplace]
    rfl

theorem Beside.withImplied (h : Beside key sec r r') (implied : List Text) :
    Beside key sec { r with implied := implied } { r' with implied := implied } :=
  ⟨⟨rfl, h.opened, h.opened', h.root⟩, h.place, h.away⟩

/-- What is done before a member is entered is the same where the tables have the same there. -/
theorem follows_prepared {R : Reading → Reading → Prop} {members members' : Table}
    (hget : Table.get? members' name = Table.get? members name)
    (himplied : ∀ a a', R a a' → a'.implied = a.implied)
    (hwith : ∀ a a', R a a' → ∀ i, R { a with implied := i } { a' with implied := i })
    (h : R r r') (hput : ∀ new, R (r.put (.table (Table.put members name new)))
      (r'.put (.table (Table.put members' name new)))) (isLast isArray : Bool) :
    Follows R (r.prepared members name isLast isArray)
      (r'.prepared members' name isLast isArray) := by
  unfold prepared
  rw [hget, himplied r r' h]
  cases Table.get? members name with
  | none =>
    refine follows_ok ?_
    split
    · exact hput _
    · rw [himplied _ _ (hput _)]
      exact hwith _ _ (hput _) _
  | some v =>
    simp only
    split
    · exact follows_ok h
    · split
      · split
        · exact follows_error _
        · exact follows_ok (hwith _ _ h _)
      · split
        · split
          · exact follows_ok (hput _)
          · exact follows_error _
        · exact follows_error _

theorem Beside.follows_enterLast (h : Beside key sec r r') (items : List Value) (name : Text)
    (isLast isArray : Bool) : Follows (Beside key sec) (r.enterLast items name isLast isArray)
      (r'.enterLast items name isLast isArray) := by
  have henter := h.enter (.item (items.length - 1))
  unfold enterLast
  split
  · exact follows_error _
  · refine follows_ok (Beside.enter ?_ _)
    split
    · exact henter
    · exact henter.put _
  · exact follows_error _

theorem Beside.follows_enterNewest (h : Beside key sec r r') :
    Follows (Beside key sec) r.enterNewest r'.enterNewest := by
  unfold enterNewest
  rw [h.current_eq]
  split
  · exact follows_error _
  · exact follows_ok (h.enter _)
  · exact follows_ok h
  · exact follows_error _
  · exact follows_error _

theorem Beside.follows_enterCurrent (h : Beside key sec r r') (name : Text)
    (isLast isArray : Bool) :
    Follows (Beside key sec) (r.enterCurrent name isLast isArray)
      (r'.enterCurrent name isLast isArray) := by
  unfold enterCurrent
  rw [h.current_eq]
  split
  · rw [enterMember_eq, enterMember_eq]
    exact (follows_prepared rfl (fun _ _ ha => ha.implied) (fun _ _ ha => ha.withImplied) h
      (fun _ => h.put _) isLast isArray).map fun a a' ha => ha.enter _
  · exact h.follows_enterLast _ name isLast isArray
  · exact follows_error _
  · exact follows_error _

theorem follows_enterGroup {isLast isArray : Bool} (h : Follows (Beside key sec)
      (r.enterCurrent name isLast isArray) (r'.enterCurrent name isLast isArray)) :
    Follows (Beside key sec) (r.enterGroup name isLast isArray)
      (r'.enterGroup name isLast isArray) := by
  by_cases hname : name = []
  · rw [hname]
    exact follows_error _
  · rw [enterGroup_eq r hname, enterGroup_eq r' hname]
    refine h.bind fun a a' ha => ?_
    split
    · exact ha.follows_enterNewest
    · exact follows_ok ha

theorem Beside.follows_enterGroups (h : Beside key sec r r') (isArray : Bool) (names : List Text) :
    Follows (Beside key sec) (enterGroups isArray names r) (enterGroups isArray names r') := by
  induction names generalizing r r' with
  | nil => exact follows_ok h
  | cons name rest ih =>
    rw [enterGroups, enterGroups]
    exact (follows_enterGroup (h.follows_enterCurrent name _ isArray)).bind fun a a' ha => ih ha

theorem HasRead.follows_enterCurrent (h : HasRead key sec r r') (hplace : r.place = [])
    (hplace' : r'.place = []) (hname : name ≠ key) (isLast isArray : Bool) :
    Follows (Beside key sec) (r.enterCurrent name isLast isArray)
      (r'.enterCurrent name isLast isArray) := by
  obtain ⟨u, v, hroot, hroot'⟩ := h.root
  have hcurrent : r.current = .table (u ++ v) := (current_of_place_eq_nil hplace).trans hroot
  have hcurrent' : r'.current = .table (u ++ (key, sec) :: v) :=
    (current_of_place_eq_nil hplace').trans hroot'
  have hput : ∀ new, HasRead key sec (r.put (.table (Table.put (u ++ v) name new)))
      (r'.put (.table (Table.put (u ++ (key, sec) :: v) name new))) := by
    intro new
    refine ⟨h.implied, h.opened, h.opened', ?_⟩
    show HasMore key sec (Value.putAt _ r.place r.root) (Value.putAt _ r'.place r'.root)
    rw [hplace, hplace']
    exact hasMore_put hname new u v
  unfold enterCurrent
  rw [hcurrent, hcurrent']
  simp only
  rw [enterMember_eq, enterMember_eq]
  -- Up to here both are in the outermost table, and going to the member leaves it.
  refine (follows_prepared (R := fun a a' => HasRead key sec a a' ∧ a.place = [] ∧ a'.place = [])
    (Table.get?_of_ne hname u v sec) (fun _ _ ha => ha.1.implied)
    (fun _ _ ha i => ⟨⟨rfl, ha.1.opened, ha.1.opened', ha.1.root⟩, ha.2⟩) ⟨h, hplace, hplace'⟩
    (fun new => ⟨hput new, hplace, hplace'⟩) isLast isArray).map fun a a' ha => ?_
  obtain ⟨ha, hnil, hnil'⟩ := ha
  refine ⟨⟨ha.implied, ha.opened, ha.opened', ha.root⟩, ?_, name, [], ?_, hname⟩
  · show a'.place ++ _ = a.place ++ _
    rw [hnil, hnil']
  · show a.place ++ _ = _
    rw [hnil]
    rfl

/-- What has been read, at the outermost table. -/
def leave (r : Reading) : Reading := { r with place := [] }

theorem ne_nil_of_groupNames {opened : Option Text} {pieces names : List Text}
    (h : groupNames opened pieces = .ok names) (hne : opened.isSome ∨ pieces ≠ []) :
    names ≠ [] := by
  have hmap : ∀ (name : Text) (x : Except Fault (List Text)), x.map (name :: ·) = .ok names →
      names ≠ [] := by
    intro name x hx
    cases x with
    | error fault => cases hx
    | ok rest =>
      cases hx
      exact List.cons_ne_nil _ _
  fun_induction groupNames opened pieces with
  | case1 => simp at hne
  | case2 => cases h
  | case3 => exact hmap _ _ h
  | case4 opened piece rest name hquoted ih => exact ih h (.inl rfl)
  | case5 => exact hmap _ _ h
  | case6 piece rest name hquote hquoted ih => exact ih h (.inl rfl)
  | case7 => exact hmap _ _ h
  | case8 => cases h

theorem ne_nil_of_headerNames {line closing : Text} {names : List Text}
    (h : headerNames line closing = .ok names) : names ≠ [] := by
  unfold headerNames at h
  simp only at h
  split at h
  · cases h
  · exact ne_nil_of_groupNames h (.inr (splitAt_ne_nil _ _))

/-- A header goes to another section, if there is none under the key after it. -/
theorem HasRead.follows_enterGroups (h : HasRead key sec r.leave r'.leave) {first : Text}
    (hfirst : first ≠ key) (isArray : Bool) (rest : List Text) :
    Follows (Beside key sec) (enterGroups isArray (first :: rest) r.leave)
      (enterGroups isArray (first :: rest) r'.leave) := by
  rw [enterGroups, enterGroups]
  exact (follows_enterGroup (h.follows_enterCurrent rfl rfl hfirst _ isArray)).bind
    fun a a' ha => ha.follows_enterGroups isArray rest

/-- There is a member under the key. -/
def Names (key : Text) (r : Reading) : Prop := r.Holds fun t => key ∈ t.names

theorem keptByPut_mem (key : Text) : KeptByPut fun t => key ∈ t.names := fun _ name v ht =>
  Table.mem_names_put ht name v

theorem HasRead.leave (h : HasRead key sec r r') : HasRead key sec r.leave r'.leave :=
  ⟨h.implied, h.opened, h.opened', h.root⟩

theorem yields_named (hr : r.Holds fun _ => True) (isArray : Bool) (rest : List Text) :
    Yields (Names key) (enterGroups isArray (key :: rest) r.leave) := by
  obtain ⟨members, hroot⟩ := hr.exists_root
  have hcurrent : r.leave.current = .table members := (current_of_place_eq_nil rfl).trans hroot
  have hprepared : ∀ isLast, Yields (Names key)
      (r.leave.prepared members key isLast isArray) := by
    intro isLast
    -- The member is there already, or it is made on the way.
    by_cases hmem : key ∈ Table.names members
    · have hnamed : r.leave.Names key := by
        unfold Names Holds leave
        rw [hroot]
        exact hmem
      exact yields_prepared (keptByPut_mem key) hnamed hcurrent key isLast isArray
    · unfold prepared
      rw [Table.get?_eq_none_iff.2 hmem]
      have hput : (r.leave.put (.table (Table.put members key (fresh isLast isArray)))).Names
          key := by
        show key ∈ Table.names _
        rw [Table.names_put, if_neg hmem]
        exact List.mem_append_right _ List.mem_cons_self
      refine yields_pure ?_
      split <;> exact hput
  rw [enterGroups]
  refine Yields.bind (p := Names key) ?_ fun a ha =>
    yields_enterGroups (keptByPut_mem key) isArray rest ha
  by_cases hname : key = []
  · rw [hname]
    exact yields_error _
  · rw [enterGroup_eq _ hname, enterCurrent, hcurrent]
    simp only
    rw [enterMember_eq]
    refine Yields.bind (p := Names key) ((hprepared rest.isEmpty).map fun a ha => ha) fun a ha => ?_
    split
    · exact yields_enterNewest ha
    · exact yields_pure ha

theorem HasRead.follows_header (h : HasRead key sec r r') (hr : r.Holds fun _ => True)
    {line : Text} {a : Reading} (ha : r.header line = .ok a) (hlacks : ¬a.Names key) :
    ∃ a', r'.header line = .ok a' ∧ Beside key sec a a' := by
  have hgroups : ∀ (isArray : Bool) (x : Except Fault (List Text)),
      (∀ names, x = .ok names → names ≠ []) →
      (do enterGroups isArray (← x) r.leave) = .ok a →
      ∃ a', (do enterGroups isArray (← x) r'.leave) = .ok a' ∧ Beside key sec a a' := by
    intro isArray x hx ha
    obtain ⟨names, rfl, ha⟩ := bind_eq_ok_iff.1 ha
    obtain ⟨first, rest, rfl⟩ := List.exists_cons_of_ne_nil (hx names rfl)
    have hfirst : first ≠ key := by
      rintro rfl
      exact hlacks ((yields_named hr isArray rest).of_eq_ok ha)
    exact h.leave.follows_enterGroups hfirst isArray rest a ha
  unfold header at ha ⊢
  split at ha
  · cases ha
  · rename_i c rest hrest
    split at ha
    · rename_i hc
      rw [if_pos hc]
      exact hgroups true _ (fun names => ne_nil_of_headerNames) ha
    · rename_i hc
      rw [if_neg hc]
      exact hgroups false _ (fun names => ne_nil_of_headerNames) ha

theorem Beside.follows_readWhole (h : Beside key sec r r') (hr : r.Holds fun _ => True) {t : Text}
    {a : Reading} (ha : r.readWhole t = .ok a) (halone : a.opened = none) (hlacks : ¬a.Names key) :
    ∃ a', r'.readWhole t = .ok a' ∧ Beside key sec a a' := by
  cases t with
  | nil =>
    cases ha
    exact ⟨r', rfl, h⟩
  | cons c t =>
    rw [readWhole] at ha ⊢
    split at ha
    · rename_i hc
      rw [if_pos hc]
      exact h.toHasRead.follows_header hr ha hlacks
    · rename_i hc
      rw [if_neg hc]
      split at ha
      · rename_i hbrace
        rw [if_pos hbrace]
        unfold readInline at ha ⊢
        split at ha
        · cases ha
        · rename_i hend
          rw [if_neg hend, h.current_eq]
          refine Follows.bind (follows_self _) (fun texts texts' ht => ?_) a ha
          rw [ht.2]
          refine (follows_self _).bind fun v v' hv => ?_
          rw [hv.2]
          exact follows_ok (h.put v)
      · rename_i hbrace
        rw [if_neg hbrace]
        split at ha
        · rename_i hequals
          rw [if_pos hequals]
          unfold readMember at ha ⊢
          rw [h.current_eq]
          obtain ⟨v, hline, hv⟩ := bind_eq_ok_iff.1 ha
          obtain rfl := Except.ok.inj hv
          have hput := h.put v.1
          refine ⟨_, bind_eq_ok_iff.2 ⟨v, hline, rfl⟩, ?_⟩
          exact ⟨⟨hput.implied, halone, halone, hput.root⟩, hput.place, hput.away⟩
        · rename_i hequals
          rw [if_neg hequals]
          cases ha
          exact ⟨r', rfl, h⟩

theorem Beside.follows_lineAlone (h : Beside key sec r r') (hr : r.Holds fun _ => True) {t : Text}
    {a : Reading} (ha : r.lineAlone t = .ok a) (hlacks : ¬a.Names key) :
    ∃ a', r'.lineAlone t = .ok a' ∧ Beside key sec a a' := by
  obtain ⟨hline, halone⟩ := lineAlone_eq_ok_iff.1 ha
  rw [line_of_opened_eq_none h.opened] at hline
  obtain ⟨a', ha', hbeside⟩ := h.follows_readWhole hr hline halone hlacks
  refine ⟨a', lineAlone_eq_ok_iff.2 ⟨?_, hbeside.opened'⟩, hbeside⟩
  rw [line_of_opened_eq_none h.opened', ha']

theorem keptByPut_true : KeptByPut fun _ => True := fun _ _ _ _ => trivial

theorem line_of_lineAlone {lines : List Text} (h : lines.foldlM lineAlone r = .ok r') :
    lines.foldlM line r = .ok r' ∧ (r.opened = none → r'.opened = none) := by
  induction lines generalizing r with
  | nil =>
    cases h
    exact ⟨rfl, id⟩
  | cons t rest ih =>
    rw [List.foldlM_cons] at h ⊢
    obtain ⟨a, hline, h⟩ := bind_eq_ok_iff.1 h
    obtain ⟨hline, halone⟩ := lineAlone_eq_ok_iff.1 hline
    obtain ⟨hrest, hopened⟩ := ih h
    exact ⟨bind_eq_ok_iff.2 ⟨a, hline, hrest⟩, fun _ => hopened halone⟩

theorem names_of_lines {lines : List Text} (h : lines.foldlM lineAlone r = .ok r')
    (hr : r.Names key) : r'.Names key :=
  (yields_lines (keptByPut_mem key) hr lines).of_eq_ok (line_of_lineAlone h).1

/-- The lines of other sections in both readings. -/
theorem Beside.follows_lines (h : Beside key sec r r') (hr : r.Holds fun _ => True)
    {lines : List Text} {last : Reading} (hlines : lines.foldlM lineAlone r = .ok last)
    (hlacks : ¬last.Names key) :
    ∃ last', lines.foldlM lineAlone r' = .ok last' ∧ HasRead key sec last last' := by
  induction lines generalizing r r' with
  | nil =>
    cases hlines
    exact ⟨r', rfl, h.toHasRead⟩
  | cons t rest ih =>
    rw [List.foldlM_cons] at hlines ⊢
    obtain ⟨a, hline, hlines⟩ := bind_eq_ok_iff.1 hlines
    have hholds := (yields_line keptByPut_true hr t).of_eq_ok (lineAlone_eq_ok_iff.1 hline).1
    -- The section is not made on the way either: a member that is made stays to the end.
    obtain ⟨a', ha', hbeside⟩ := h.follows_lineAlone hr hline fun hn =>
      hlacks (names_of_lines hlines hn)
    obtain ⟨last', hlast', hmore⟩ := ih hbeside hholds hlines
    exact ⟨last', bind_eq_ok_iff.2 ⟨a', ha', hlast'⟩, hmore⟩

end Reading

end DocPress.Toml
