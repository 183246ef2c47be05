import DocPress.Proofs.Yields
import DocPress.Toml.Writer

namespace DocPress.Toml

variable {fuel : Nat} {above within name : Text} {t : Table} {w : Written}

/-- Where the members of the table `above` stand. -/
def withinOf (above : Text) : Text :=
  if above = [] ∨ above.getLast? = some ('.' : CodePoint) then above else above ++ text "."

def writeElement (fuel : Nat) (within key : Text) (item : Value) : Except Fault Text := do
  let inner ← writeTable fuel (within ++ key) (← itemTable item)
  let deeper ← writeInner (writeTable fuel) (within ++ key) fuel inner.sections
  let opening := text "[[" ++ within ++ key ++ text "]]\n"
  let body := inner.body
  if body.head? = some ('[' : CodePoint) then return opening ++ text "\n" ++ body ++ deeper
  else return opening ++ body ++ text "\n" ++ deeper

def writeLine (name : Text) (v : Value) : Except Fault Text := do
  return (← writeKey name) ++ text " = " ++ (← writeValue v) ++ text "\n"

/-- What a member adds to what is written of a table. -/
def writeMember (fuel : Nat) (within name : Text) : Value → Except Fault Written
  | .table members => do return ⟨[], [], [(← writeKey name, members)]⟩
  | .array items =>
    if tablesOf items = [] then do return ⟨← writeLine name (.array items), [], []⟩
    else do
      let key ← writeKey name
      return ⟨[], (← items.mapM (writeElement fuel within key)).flatten, []⟩
  | v => do return ⟨← writeLine name v, [], []⟩

def putAll (added sections : Sections) : Sections :=
  added.foldl (fun acc s => putSection s.1 s.2 acc) sections

def Written.add (w share : Written) : Written :=
  ⟨w.plain ++ share.plain, w.arrays ++ share.arrays, putAll share.sections w.sections⟩

theorem writeTable_succ (fuel : Nat) (above : Text) (t : Table) :
    writeTable (fuel + 1) above t =
      t.foldlM (fun w member => w.add <$> writeMember fuel (withinOf above) member.1 member.2)
        ⟨[], [], []⟩ := by
  rw [writeTable]
  refine congrArg (fun f => List.foldlM f _ t) (funext fun w => funext fun member => ?_)
  obtain ⟨name, v⟩ := member
  cases v with
  | array items =>
    by_cases h : tablesOf items = []
    · simp [writeMember, writeLine, Written.add, putAll, h]
    · simp only [writeMember, if_neg h]
      cases writeKey name with
      | error fault => rfl
      | ok key =>
        have hmap : ∀ tables : Except Fault (List Text),
            (do let tables ← tables; return { w with arrays := w.arrays ++ tables.flatten }) =
              w.add <$> (do let tables ← tables; return (⟨[], tables.flatten, []⟩ : Written)) := by
          intro tables
          cases tables <;> simp [Written.add, putAll]
        exact hmap (items.mapM (writeElement fuel (withinOf above) key))
  | table members => simp [writeMember, Written.add, putAll]
  | _ => simp [writeMember, writeLine, Written.add, putAll]

section Levels

/-- What stands between what is written already and the next section. -/
def gapAfter (done : Text) : Text :=
  if done ≠ [] ∧ done.drop (done.length - 2) ≠ text "\n\n" then text "\n" else []

def Written.inner (w : Written) (name : Text) : Sections :=
  w.sections.map fun s => (name ++ text "." ++ s.1, s.2)

/-- Puts a section behind what is written already; the sections in it wait for the next level. -/
def addSection (fuel : Nat) (r : Text × Sections) (s : Text × Table) :
    Except Fault (Text × Sections) := do
  let w ← writeTable fuel s.1 s.2
  let shown := w.body ≠ [] || w.sections = []
  return (if shown then r.1 ++ gapAfter r.1 ++ header s.1 ++ w.body else r.1,
    putAll (w.inner s.1) r.2)

theorem putAll_inner (w : Written) (name : Text) (sections : Sections) :
    w.sections.foldl (fun acc s => putSection (name ++ text "." ++ s.1) s.2 acc) sections =
      putAll (w.inner name) sections := by
  rw [putAll, Written.inner, List.foldl_map]

theorem writeSections_nil (fuel levels : Nat) (done : Text) :
    writeSections fuel levels done [] = .ok done := by
  cases levels <;> rfl

theorem writeSections_succ (fuel levels : Nat) (done : Text) (sections : Sections) :
    writeSections fuel (levels + 1) done sections =
      sections.foldlM (addSection fuel) (done, []) >>= fun r =>
        writeSections fuel levels r.1 r.2 := by
  have hstep : addSection fuel = fun r s => do
      let w ← writeTable fuel s.1 s.2
      let shown := w.body ≠ [] || w.sections = []
      return (if shown then r.1 ++ gapAfter r.1 ++ header s.1 ++ w.body else r.1,
        w.sections.foldl (fun acc i => putSection (s.1 ++ text "." ++ i.1) i.2 acc) r.2) := by
    funext r s
    simp only [putAll_inner]
    rfl
  cases sections with
  | nil => exact (writeSections_nil fuel levels done).symm
  | cons s rest =>
    rw [hstep]
    rfl

/-- The sections that wait for the next level after some are written. -/
def deeperOf (written : List (Text × Written)) : Sections :=
  written.foldl (fun acc w => putAll (w.2.inner w.1) acc) []

theorem writeInner_succ (write : Text → Table → Except Fault Written) (above : Text) (fuel : Nat)
    (sections : Sections) :
    writeInner write above (fuel + 1) sections =
      (sections.mapM fun s => do return (s.1, ← write (above ++ text "." ++ s.1) s.2)) >>=
        fun written => do
          let here := written.flatMap fun w =>
            if w.2.body = [] then [] else header (above ++ text "." ++ w.1) ++ w.2.body
          if deeperOf written = [] then return here
          else return here ++ (← writeInner write above fuel (deeperOf written)) := by
  have hdeeper : deeperOf = fun written => written.foldl (fun acc w =>
      w.2.sections.foldl (fun acc i => putSection (w.1 ++ text "." ++ i.1) i.2 acc) acc) [] := by
    funext written
    simp only [putAll_inner]
    rfl
  rw [hdeeper]
  rfl

end Levels

section Size

/-- More than the number of levels that sections have. -/
def Sections.size : Sections → Nat
  | [] => 0
  | s :: rest => sizeMembers s.2 + 1 + size rest

theorem size_putSection (name : Text) (t : Table) (sections : Sections) :
    Sections.size (putSection name t sections) ≤ sizeMembers t + 1 + Sections.size sections := by
  induction sections with
  | nil => exact Nat.le_refl _
  | cons s rest ih =>
    obtain ⟨k, old⟩ := s
    rw [putSection]
    split
    · simp only [Sections.size]
      omega
    · simp only [Sections.size] at ih ⊢
      omega

theorem size_putAll (added sections : Sections) :
    Sections.size (putAll added sections) ≤ Sections.size added + Sections.size sections := by
  induction added generalizing sections with
  | nil => exact Nat.le_add_left _ _
  | cons s rest ih =>
    have hput := size_putSection s.1 s.2 sections
    have hrest := ih (putSection s.1 s.2 sections)
    simp only [putAll, List.foldl_cons, Sections.size] at hrest ⊢
    omega

theorem size_inner (w : Written) (name : Text) :
    Sections.size (w.inner name) = Sections.size w.sections := by
  rw [Written.inner]
  induction w.sections with
  | nil => rfl
  | cons s rest ih => rw [List.map_cons, Sections.size, Sections.size, ih]

theorem yields_size_writeMember (fuel : Nat) (within name : Text) (v : Value) :
    Yields (fun share : Written => Sections.size share.sections ≤ v.size)
      (writeMember fuel within name v) := by
  have hline : ∀ v' : Value, Yields (fun share : Written => Sections.size share.sections ≤ v.size)
      (do return ⟨← writeLine name v', [], []⟩ : Except Fault Written) := fun v' =>
    (yields_true _).bind fun _ _ => yields_pure (Nat.zero_le _)
  cases v with
  | table members =>
    refine (yields_true (writeKey name)).bind fun key _ => yields_pure ?_
    simp [Sections.size, Value.size]
  | array items =>
    rw [writeMember]
    split
    · exact hline _
    · exact (yields_true (writeKey name)).bind fun key _ =>
        (yields_true _).bind fun _ _ => yields_pure (Nat.zero_le _)
  | _ => exact hline _

theorem yields_size_foldlM (fuel : Nat) (within : Text) (t : Table) (w : Written) :
    Yields (fun w' : Written =>
        Sections.size w'.sections ≤ Sections.size w.sections + sizeMembers t)
      (t.foldlM (fun w member => w.add <$> writeMember fuel within member.1 member.2) w) := by
  induction t generalizing w with
  | nil => exact yields_pure (Nat.le_refl _)
  | cons member rest ih =>
    rw [List.foldlM_cons]
    refine Yields.bind (p := fun w' : Written =>
      Sections.size w'.sections ≤ member.2.size + Sections.size w.sections) ?_ fun w' hw' => ?_
    · refine (yields_size_writeMember fuel within member.1 member.2).map fun share hshare => ?_
      exact Nat.le_trans (size_putAll _ _) (Nat.add_le_add_right hshare _)
    · refine (ih w').imp fun w'' hw'' => ?_
      rw [sizeMembers]
      omega

theorem yields_size_writeTable (fuel : Nat) (above : Text) (t : Table) :
    Yields (fun w : Written => Sections.size w.sections ≤ sizeMembers t)
      (writeTable fuel above t) := by
  cases fuel with
  | zero => exact yields_pure (Nat.zero_le _)
  | succ fuel =>
    rw [writeTable_succ]
    refine (yields_size_foldlM fuel _ t _).imp fun w hw => ?_
    simpa [Sections.size] using hw

end Size

section Fuel

theorem mapM_congr {α β : Type} {f g : α → Except Fault β} {l : List α} (h : ∀ a ∈ l, f a = g a) :
    l.mapM f = l.mapM g := by
  induction l with
  | nil => rfl
  | cons a rest ih =>
    obtain ⟨ha, hrest⟩ := List.forall_mem_cons.1 h
    rw [List.mapM_cons, List.mapM_cons, ha, ih hrest]

theorem foldlM_congr {α β : Type} {f g : β → α → Except Fault β} {l : List α}
    (h : ∀ a ∈ l, ∀ b, f b a = g b a) (b : β) : l.foldlM f b = l.foldlM g b := by
  induction l generalizing b with
  | nil => rfl
  | cons a rest ih =>
    obtain ⟨ha, hrest⟩ := List.forall_mem_cons.1 h
    rw [List.foldlM_cons, List.foldlM_cons, ha]
    exact congrArg _ (funext (ih hrest))

theorem size_lt_of_mem {sections : Sections} {s : Text × Table} (h : s ∈ sections) :
    sizeMembers s.2 < Sections.size sections := by
  induction sections with
  | nil => cases h
  | cons s' rest ih =>
    rw [Sections.size]
    rcases List.mem_cons.1 h with rfl | h
    · omega
    · have := ih h
      omega

variable {one other : Text → Table → Except Fault Written}

def innerSize : List (Text × Written) → Nat
  | [] => 0
  | w :: rest => Sections.size w.2.sections + innerSize rest

theorem size_deeperOf (written : List (Text × Written)) :
    Sections.size (deeperOf written) ≤ innerSize written := by
  have hall : ∀ sections : Sections,
      Sections.size (written.foldl (fun acc w => putAll (w.2.inner w.1) acc) sections) ≤
        Sections.size sections + innerSize written := by
    induction written with
    | nil => exact fun sections => Nat.le_refl _
    | cons w rest ih =>
      intro sections
      have hput := size_putAll (w.2.inner w.1) sections
      have hrest := ih (putAll (w.2.inner w.1) sections)
      rw [size_inner] at hput
      simp only [List.foldl_cons, innerSize] at hrest ⊢
      omega
  have hnil := hall []
  rwa [Sections.size, Nat.zero_add] at hnil

theorem yields_size_deeperOf (hsize : ∀ above t, Yields (fun w : Written =>
      Sections.size w.sections ≤ sizeMembers t) (one above t)) (above : Text)
    (sections : Sections) :
    Yields (fun written =>
        Sections.size (deeperOf written) + sections.length ≤ Sections.size sections)
      (sections.mapM fun s => do return (s.1, ← one (above ++ text "." ++ s.1) s.2)) := by
  have hsum : Yields (fun written : List (Text × Written) =>
      innerSize written + sections.length ≤ Sections.size sections)
      (sections.mapM fun s => do return (s.1, ← one (above ++ text "." ++ s.1) s.2)) := by
    induction sections with
    | nil => exact yields_pure (Nat.le_refl _)
    | cons s rest ih =>
      rw [List.mapM_cons]
      refine ((hsize _ s.2).bind (q := fun w : Text × Written => Sections.size w.2.sections ≤
        sizeMembers s.2) fun w hw => yields_pure hw).bind fun w hw => ih.bind fun ws hws => ?_
      refine yields_pure ?_
      simp only [innerSize, List.length_cons, Sections.size]
      omega
  exact hsum.imp fun written h => by
    have := size_deeperOf written
    omega

theorem writeInner_congr {bound : Nat}
    (hsame : ∀ above t, sizeMembers t < bound → one above t = other above t)
    (hsize : ∀ above t, Yields (fun w : Written => Sections.size w.sections ≤ sizeMembers t)
      (one above t)) (above : Text) {levels levels' : Nat} {sections : Sections}
    (hbound : Sections.size sections ≤ bound) (hlevels : Sections.size sections < levels)
    (hlevels' : Sections.size sections < levels') :
    writeInner one above levels sections = writeInner other above levels' sections := by
  induction levels generalizing levels' sections with
  | zero => omega
  | succ levels ih =>
    obtain ⟨levels', rfl⟩ : ∃ n, levels' = n + 1 := ⟨levels' - 1, by omega⟩
    have hhere : (sections.mapM fun s => do return (s.1, ← one (above ++ text "." ++ s.1) s.2)) =
        sections.mapM fun s => do return (s.1, ← other (above ++ text "." ++ s.1) s.2) := by
      refine mapM_congr fun s hs => ?_
      rw [hsame _ _ (Nat.lt_of_lt_of_le (size_lt_of_mem hs) hbound)]
    -- Each section that is written counts, so that what waits for the next level is smaller.
    rw [writeInner_succ, writeInner_succ, ← hhere]
    cases sections with
    | nil => rfl
    | cons s rest =>
      refine Yields.congr_bind (yields_size_deeperOf hsize above (s :: rest)) fun written hlt => ?_
      rw [List.length_cons] at hlt
      rw [ih (by omega) (by omega) (show _ < levels' by omega)]

theorem size_le_sizeItems_of_mem {items : List Value} {v : Value} (h : v ∈ items) :
    v.size ≤ sizeItems items := by
  induction items with
  | nil => cases h
  | cons first rest ih =>
    rw [sizeItems]
    rcases List.mem_cons.1 h with rfl | h
    · omega
    · have := ih h
      omega

theorem yields_size_itemTable (v : Value) : Yields (fun t => sizeMembers t < v.size) (itemTable v) := by
  fun_cases itemTable v with
  | case1 members =>
    refine yields_pure ?_
    rw [Value.size]
    exact Nat.lt_succ_self _
  | case2 => exact yields_pure (Nat.lt_succ_self _)
  | case3 => exact yields_pure (Nat.lt_succ_self _)
  | case4 => exact (yields_true _).bind fun _ _ => yields_error _
  | case5 => exact (yields_true _).bind fun _ _ => (yields_true _).bind fun _ _ => yields_error _
  | case6 => exact yields_error _

theorem size_le_sizeMembers_of_mem {t : Table} {member : Text × Value} (h : member ∈ t) :
    member.2.size ≤ sizeMembers t := by
  induction t with
  | nil => cases h
  | cons first rest ih =>
    rw [sizeMembers]
    rcases List.mem_cons.1 h with rfl | h
    · omega
    · have := ih h
      omega

/-- What is written of a table does not depend on how much there is to go on, where it is enough. -/
theorem writeTable_congr {fuel fuel' : Nat} (above : Text) {t : Table} (h : sizeMembers t < fuel)
    (h' : sizeMembers t < fuel') : writeTable fuel above t = writeTable fuel' above t := by
  induction fuel generalizing fuel' above t with
  | zero => omega
  | succ fuel ih =>
    obtain ⟨fuel', rfl⟩ : ∃ n, fuel' = n + 1 := ⟨fuel' - 1, by omega⟩
    rw [writeTable_succ, writeTable_succ]
    refine foldlM_congr (fun member hmember w => congrArg _ ?_) _
    have hmem := size_le_sizeMembers_of_mem hmember
    obtain ⟨name, v⟩ := member
    cases v with
    | array items =>
      -- Of the members only the items of an array are gone into, and these are smaller than `t`.
      rw [Value.size] at hmem
      rw [writeMember, writeMember]
      refine ite_congr rfl (fun _ => rfl) fun _ => congrArg _ (funext fun key => ?_)
      refine congrArg (· >>= _) (mapM_congr fun item hitem => ?_)
      have hle := size_le_sizeItems_of_mem hitem
      rw [writeElement, writeElement]
      refine Yields.congr_bind (yields_size_itemTable item) fun table hlt => ?_
      rw [← ih (withinOf above ++ key) (t := table) (by omega) (show _ < fuel' by omega)]
      refine Yields.congr_bind (yields_size_writeTable fuel _ table) fun inner hinner => ?_
      have hinside : writeInner (writeTable fuel) (withinOf above ++ key) fuel inner.sections =
          writeInner (writeTable fuel') (withinOf above ++ key) fuel' inner.sections :=
        writeInner_congr (fun above u hu => ih above (by omega) (by omega))
          (yields_size_writeTable fuel) _ hinner (by omega) (by omega)
      rw [hinside]
    | _ => rfl

theorem yields_size_foldlM_addSection (fuel : Nat) (sections : Sections) (r : Text × Sections) :
    Yields (fun r' : Text × Sections =>
        Sections.size r'.2 + sections.length ≤ Sections.size r.2 + Sections.size sections)
      (sections.foldlM (addSection fuel) r) := by
  induction sections generalizing r with
  | nil => exact yields_pure (Nat.le_refl _)
  | cons s rest ih =>
    rw [List.foldlM_cons]
    refine Yields.bind (p := fun r' : Text × Sections =>
      Sections.size r'.2 ≤ sizeMembers s.2 + Sections.size r.2) ?_ fun r' hr' => ?_
    · refine (yields_size_writeTable fuel s.1 s.2).bind fun w hw => yields_pure ?_
      have hput := size_putAll (w.inner s.1) r.2
      rw [size_inner] at hput
      exact Nat.le_trans hput (Nat.add_le_add_right hw _)
    · refine (ih r').imp fun r'' hr'' => ?_
      simp only [List.length_cons, Sections.size]
      omega

theorem writeSections_congr {fuel fuel' levels levels' : Nat} (done : Text) {sections : Sections}
    (h : Sections.size sections < fuel) (h' : Sections.size sections < fuel')
    (hlevels : Sections.size sections < levels) (hlevels' : Sections.size sections < levels') :
    writeSections fuel levels done sections = writeSections fuel' levels' done sections := by
  induction levels generalizing levels' done sections with
  | zero => omega
  | succ levels ih =>
    obtain ⟨levels', rfl⟩ : ∃ n, levels' = n + 1 := ⟨levels' - 1, by omega⟩
    have hsame : sections.foldlM (addSection fuel) (done, []) =
        sections.foldlM (addSection fuel') (done, []) := by
      refine foldlM_congr (fun s hs r => ?_) _
      have hlt := size_lt_of_mem hs
      rw [addSection, addSection, writeTable_congr s.1 (by omega) (show _ < fuel' by omega)]
    rw [writeSections_succ, writeSections_succ, ← hsame]
    cases sections with
    | nil => exact (writeSections_nil _ _ _).trans (writeSections_nil _ _ _).symm
    | cons s rest =>
      refine Yields.congr_bind (yields_size_foldlM_addSection fuel (s :: rest) (done, []))
        fun r hr => ?_
      simp only [List.length_cons, Sections.size, Nat.zero_add] at hr h h' hlevels hlevels'
      exact ih _ (by omega) (by omega) (by omega) (by omega)

/-- The text of a settings file, with more to go on than is needed. -/
theorem write_eq {t : Table} {fuel : Nat} (h : sizeMembers t < fuel) :
    write t = writeTable fuel [] t >>= fun w => writeSections fuel fuel w.body w.sections := by
  simp only [write]
  rw [writeTable_congr [] (Nat.lt_add_one _) h]
  refine Yields.congr_bind (yields_size_writeTable fuel [] t) fun w hw => ?_
  exact writeSections_congr _ (by omega) (by omega) (by omega) (by omega)

end Fuel

end DocPress.Toml
