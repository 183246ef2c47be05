import DocPress.Fault
import DocPress.Proofs.Toml.Levels
import DocPress.Proofs.Toml.Unwritable

namespace DocPress.Toml

section Gives

variable {α β : Type} {p : α → Prop} {q : β → Prop}

/-- A value comes of it, and the value satisfies `p`. -/
def Gives (p : α → Prop) (x : Except Fault α) : Prop := ∃ a, x = .ok a ∧ p a

theorem gives_ok {a : α} (h : p a) : Gives p (.ok a) := ⟨a, rfl, h⟩

theorem Gives.bind {x : Except Fault α} {f : α → Except Fault β} (hx : Gives p x)
    (hf : ∀ a, p a → Gives q (f a)) : Gives q (x >>= f) := by
  obtain ⟨a, rfl, ha⟩ := hx
  exact hf a ha

theorem Gives.mapM {f : α → Except Fault β} {l : List α} (h : ∀ a ∈ l, Gives q (f a)) :
    Gives (fun bs => ∀ b ∈ bs, q b) (l.mapM f) := by
  induction l with
  | nil => exact gives_ok (List.forall_mem_nil q)
  | cons a rest ih =>
    rw [List.mapM_cons]
    refine (h a List.mem_cons_self).bind fun b hb => ?_
    refine (ih fun c hc => h c (List.mem_cons_of_mem a hc)).bind fun bs hbs => ?_
    exact gives_ok (List.forall_mem_cons.2 ⟨hb, hbs⟩)

theorem Gives.foldlM {f : β → α → Except Fault β} {l : List α} {b : β}
    (h : ∀ b, ∀ a ∈ l, q b → Gives q (f b a)) (hb : q b) : Gives q (l.foldlM f b) := by
  induction l generalizing b with
  | nil => exact gives_ok hb
  | cons a rest ih =>
    rw [List.foldlM_cons]
    refine (h b a List.mem_cons_self hb).bind fun b hb => ?_
    exact ih (fun b c hc => h b c (List.mem_cons_of_mem a hc)) hb

end Gives

/-- A table, or what has nothing in it. -/
def Value.IsTabular (v : Value) : Prop := ∃ t, itemTable v = .ok t

mutual

/-- Strings, numbers and moments that have a form in the file; a table is in an array only with
others. -/
def Value.IsWritable : Value → Prop
  | .int i => isShortInt i = true
  | .string t => ¬IsUnwritable t
  | .moment m => m.isNear = true
  | .array items => AreWritableItems items ∧ (tablesOf items = [] ∨ ∀ v ∈ items, v.IsTabular)
  | .table members => AreWritable members
  | .bool _ | .real _ => True

def AreWritableItems : List Value → Prop
  | [] => True
  | v :: rest => v.IsWritable ∧ AreWritableItems rest

def AreWritable : Table → Prop
  | [] => True
  | (key, v) :: rest => ¬IsUnwritable key ∧ v.IsWritable ∧ AreWritable rest

end

variable {t : Table} {key : Text} {v : Value}

theorem areWritable_iff : AreWritable t ↔ ∀ m ∈ t, ¬IsUnwritable m.1 ∧ m.2.IsWritable := by
  induction t with
  | nil => simp [AreWritable]
  | cons m rest ih =>
    obtain ⟨key, v⟩ := m
    rw [AreWritable, ih, List.forall_mem_cons, and_assoc]

theorem areWritableItems_iff {items : List Value} :
    AreWritableItems items ↔ ∀ v ∈ items, v.IsWritable := by
  induction items with
  | nil => simp [AreWritableItems]
  | cons v rest ih => rw [AreWritableItems, ih, List.forall_mem_cons]

theorem areWritable_put (ht : AreWritable t) (hkey : ¬IsUnwritable key) (hv : v.IsWritable) :
    AreWritable (Table.put t key v) := by
  induction t with
  | nil => exact ⟨hkey, hv, trivial⟩
  | cons m rest ih =>
    obtain ⟨k, old⟩ := m
    obtain ⟨hk, hold, hrest⟩ := ht
    rw [Table.put]
    split
    · exact ⟨hk, hv, hrest⟩
    · exact ⟨hk, hold, ih hrest⟩

theorem areWritable_without (ht : AreWritable t) (key : Text) : AreWritable (Table.without t key) :=
  areWritable_iff.2 fun m hm => areWritable_iff.1 ht m (List.mem_of_mem_filter hm)

theorem itemTable_eq_ok_iff :
    itemTable v = .ok t ↔ v = .table t ∨ (v = .string [] ∨ v = .array []) ∧ t = [] := by
  fun_cases itemTable v with
  | case1 members => simp
  | case2 => simp [eq_comm]
  | case3 => simp [eq_comm]
  | case4 c rest =>
    refine iff_of_false (fun h => ?_) (by simp)
    obtain ⟨_, -, h⟩ := bind_eq_ok_iff.1 h
    cases h
  | case5 first rest =>
    refine iff_of_false (fun h => ?_) (by simp)
    obtain ⟨_, -, h⟩ := bind_eq_ok_iff.1 h
    obtain ⟨_, -, h⟩ := bind_eq_ok_iff.1 h
    cases h
  | case6 v htable hstring harray =>
    refine iff_of_false (fun h => by cases h) ?_
    rintro (rfl | ⟨rfl | rfl, -⟩)
    · exact htable _ rfl
    · exact hstring rfl
    · exact harray rfl

theorem areWritable_of_itemTable (hv : v.IsWritable) (h : itemTable v = .ok t) : AreWritable t := by
  rcases itemTable_eq_ok_iff.1 h with rfl | ⟨-, rfl⟩
  · exact hv
  · trivial

theorem gives_writeString {u : Text} (h : ¬IsUnwritable u) :
    Gives (fun _ => True) (writeString u) := by
  rcases writeString_cases u with ⟨hbad, -⟩ | ⟨-, written, hwritten⟩
  · exact absurd hbad h
  · exact ⟨written, hwritten, trivial⟩

theorem gives_writeKey (h : ¬IsUnwritable key) : Gives (fun _ => True) (writeKey key) := by
  unfold writeKey
  dsimp only
  generalize (if key.getLast? = some ('\n' : CodePoint) then key.dropLast else key) = body
  split
  · exact gives_ok trivial
  · exact gives_writeString h

theorem gives_writeInt {i : Int} (h : isShortInt i = true) : Gives (fun _ => True) (writeInt i) := by
  rw [writeInt, if_pos h]
  exact gives_ok trivial

theorem gives_writeMoment {m : Moment} (h : m.isNear = true) :
    Gives (fun _ => True) (writeMoment m) := by
  rw [writeMoment, if_pos h]
  exact gives_ok trivial

mutual

theorem gives_writeValue : ∀ v : Value, v.IsWritable → Gives (fun _ => True) (writeValue v)
  | .bool _, _ => gives_ok trivial
  | .int _, h => gives_writeInt h
  | .real _, _ => gives_ok trivial
  | .string _, h => gives_writeString h
  | .moment _, h => gives_writeMoment h
  | .array items, h => (gives_writeItems items h.1).bind fun _ _ => gives_ok trivial
  | .table members, h => (gives_writeKeys members h).bind fun _ _ => gives_ok trivial

theorem gives_writeItems : ∀ items : List Value, AreWritableItems items →
    Gives (fun _ => True) (writeItems items)
  | [], _ => gives_ok trivial
  | v :: rest, h => (gives_writeValue v h.1).bind fun _ _ =>
    (gives_writeItems rest h.2).bind fun _ _ => gives_ok trivial

theorem gives_writeKeys : ∀ members : Table, AreWritable members →
    Gives (fun _ => True) (writeKeys members)
  | [], _ => gives_ok trivial
  | (_, _) :: rest, h => (gives_writeString h.1).bind fun _ _ =>
    (gives_writeKeys rest h.2.2).bind fun _ _ => gives_ok trivial

end

def Sections.AreWritable (sections : Sections) : Prop := ∀ s ∈ sections, Toml.AreWritable s.2

variable {sections : Sections} {name above : Text} {members : Table}

theorem areWritable_putSection (ht : AreWritable members) (h : sections.AreWritable) :
    (putSection name members sections).AreWritable := by
  induction sections with
  | nil => exact List.forall_mem_singleton.2 ht
  | cons s rest ih =>
    obtain ⟨hs, hrest⟩ := List.forall_mem_cons.1 h
    unfold putSection
    split
    · exact List.forall_mem_cons.2 ⟨ht, hrest⟩
    · exact List.forall_mem_cons.2 ⟨hs, ih hrest⟩

theorem areWritable_putAll {added : Sections} (hadded : added.AreWritable)
    (h : sections.AreWritable) : (putAll added sections).AreWritable :=
  List.foldlRecOn added _ h fun _ hacc s hs => areWritable_putSection (hadded s hs) hacc

theorem areWritable_inner {w : Written} (h : w.sections.AreWritable) (name : Text) :
    (w.inner name).AreWritable := by
  intro s hs
  obtain ⟨inner, hinner, rfl⟩ := List.mem_map.1 hs
  exact h inner hinner

theorem gives_writeInner {write : Text → Table → Except Fault Written}
    (hwrite : ∀ above t, AreWritable t → Gives (fun w => w.sections.AreWritable) (write above t))
    (above : Text) (fuel : Nat) (h : sections.AreWritable) :
    Gives (fun _ => True) (writeInner write above fuel sections) := by
  induction fuel generalizing sections with
  | zero => exact gives_ok trivial
  | succ fuel ih =>
    have hmap : Gives (fun ws => ∀ w ∈ ws, Sections.AreWritable w.2.sections)
        (sections.mapM fun (s : Text × Table) => do
          return (s.1, ← write (above ++ text "." ++ s.1) s.2)) :=
      Gives.mapM fun s hs => (hwrite _ s.2 (h s hs)).bind fun _ hw => gives_ok hw
    rw [writeInner_succ]
    refine hmap.bind fun ws hws => ?_
    have hdeeper : (deeperOf ws).AreWritable :=
      List.foldlRecOn ws _ (List.forall_mem_nil _) fun _ hacc w hw =>
        areWritable_putAll (areWritable_inner (hws w hw) _) hacc
    dsimp only
    split
    · exact gives_ok trivial
    · exact (ih hdeeper).bind fun _ _ => gives_ok trivial

theorem gives_writeLine (hname : ¬IsUnwritable name) (hv : v.IsWritable) :
    Gives (fun _ => True) (writeLine name v) :=
  (gives_writeKey hname).bind fun _ _ => (gives_writeValue v hv).bind fun _ _ => gives_ok trivial

/-- Of the members only the items of an array are gone into at once; inner tables wait as sections. -/
theorem gives_writeMember {fuel : Nat}
    (htable : ∀ above t, AreWritable t →
      Gives (fun w => w.sections.AreWritable) (writeTable fuel above t))
    (within : Text) (hname : ¬IsUnwritable name) (hv : v.IsWritable) :
    Gives (fun w => w.sections.AreWritable) (writeMember fuel within name v) := by
  have hline : Gives (fun w => w.sections.AreWritable) (do
      return (⟨← writeLine name v, [], []⟩ : Written)) :=
    (gives_writeLine hname hv).bind fun _ _ => gives_ok (List.forall_mem_nil _)
  cases v with
  | table members =>
    exact (gives_writeKey hname).bind fun _ _ => gives_ok (List.forall_mem_singleton.2 hv)
  | array items =>
    rw [writeMember]
    split
    · exact hline
    · rename_i hsome
      have htabular : ∀ v ∈ items, v.IsTabular := hv.2.resolve_left hsome
      refine (gives_writeKey hname).bind fun key _ => ?_
      refine (Gives.mapM (q := fun _ => True) fun item hitem => ?_).bind fun _ _ =>
        gives_ok (List.forall_mem_nil _)
      obtain ⟨t, ht⟩ := htabular item hitem
      have hmembers := areWritable_of_itemTable (areWritableItems_iff.1 hv.1 item hitem) ht
      refine Gives.bind ⟨t, ht, hmembers⟩ fun t ht => ?_
      refine (htable _ t ht).bind fun inner hinner => ?_
      refine (gives_writeInner htable _ fuel hinner).bind fun _ _ => ?_
      dsimp only
      split <;> exact gives_ok trivial
  | _ => exact hline

theorem gives_writeTable (fuel : Nat) (above : Text) (h : AreWritable t) :
    Gives (fun w => w.sections.AreWritable) (writeTable fuel above t) := by
  induction fuel generalizing above t with
  | zero => exact gives_ok (List.forall_mem_nil _)
  | succ fuel ih =>
    rw [writeTable_succ]
    refine Gives.foldlM (fun w m hm hw => ?_) (List.forall_mem_nil _)
    obtain ⟨hname, hv⟩ := areWritable_iff.1 h m hm
    rw [map_eq_pure_bind]
    exact (gives_writeMember (fun above _ ht => ih above ht) _ hname hv).bind fun share hshare =>
      gives_ok (areWritable_putAll hshare hw)

theorem gives_writeSections (fuel levels : Nat) (done : Text) (h : sections.AreWritable) :
    Gives (fun _ => True) (writeSections fuel levels done sections) := by
  induction levels generalizing done sections with
  | zero => exact gives_ok trivial
  | succ levels ih =>
    rw [writeSections_succ]
    have hnil : Sections.AreWritable [] := List.forall_mem_nil _
    refine Gives.bind (p := fun r => Sections.AreWritable r.2)
      (Gives.foldlM (fun r s hs hr => ?_) hnil) fun r hr => ih _ hr
    exact (gives_writeTable fuel s.1 (h s hs)).bind fun w hw =>
      gives_ok (areWritable_putAll (areWritable_inner hw _) hr)

/-- Sections whose keys and values can all be written can be written. -/
theorem exists_write (h : AreWritable t) : ∃ written, write t = .ok written := by
  obtain ⟨written, hwritten, -⟩ : Gives (fun _ => True) (write t) :=
    (gives_writeTable _ _ h).bind fun _ hw => gives_writeSections _ _ _ hw
  exact ⟨written, hwritten⟩

end DocPress.Toml
