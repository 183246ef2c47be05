import DocPress.Proofs.Yields
import DocPress.Toml.Reader

namespace DocPress.Toml

open Text

variable {t : Table} {key name : Text} {v : Value}

section Pairs

variable {α : Type} {pairs : List (Text × α)}

/-- Puts a value under a name, in the place of the first one there or at the end. -/
def putPair (name : Text) (a : α) : List (Text × α) → List (Text × α)
  | [] => [(name, a)]
  | (k, old) :: rest => if k = name then (k, a) :: rest else (k, old) :: putPair name a rest

theorem Table.put_eq_putPair (t : Table) (key : Text) (v : Value) :
    t.put key v = putPair key v t := by
  induction t with
  | nil => rfl
  | cons member rest ih =>
    obtain ⟨k, old⟩ := member
    rw [Table.put, putPair, ih]

theorem exists_putPair (name : Text) (pairs : List (Text × α)) :
    ∃ u v, ∀ a, putPair name a pairs = u ++ (name, a) :: v := by
  induction pairs with
  | nil => exact ⟨[], [], fun a => rfl⟩
  | cons pair rest ih =>
    obtain ⟨k, old⟩ := pair
    by_cases hk : k = name
    · exact ⟨[], rest, fun a => by rw [putPair, if_pos hk, hk]; rfl⟩
    · obtain ⟨u, v, hput⟩ := ih
      exact ⟨(k, old) :: u, v, fun a => by rw [putPair, if_neg hk, hput]; rfl⟩

theorem putPair_of_notMem (h : name ∉ pairs.map Prod.fst) (a : α) :
    putPair name a pairs = pairs ++ [(name, a)] := by
  induction pairs with
  | nil => rfl
  | cons pair rest ih =>
    rw [List.map_cons, List.mem_cons, not_or] at h
    rw [putPair, if_neg (Ne.symm h.1), ih h.2]
    rfl

theorem exists_putPair_of_ne (h : name ≠ key) (new : α) (u v : List (Text × α)) :
    ∃ u' v', putPair name new (u ++ v) = u' ++ v' ∧
      ∀ a, putPair name new (u ++ (key, a) :: v) = u' ++ (key, a) :: v' := by
  induction u with
  | nil => exact ⟨[], putPair name new v, rfl, fun a => by
      rw [List.nil_append, putPair, if_neg (Ne.symm h)]; rfl⟩
  | cons pair rest ih =>
    obtain ⟨k, old⟩ := pair
    by_cases hk : k = name
    · refine ⟨(k, new) :: rest, v, ?_, fun a => ?_⟩
      · rw [List.cons_append, putPair, if_pos hk]
        rfl
      · rw [List.cons_append, putPair, if_pos hk]
        rfl
    · obtain ⟨u', v', hput, hmore⟩ := ih
      refine ⟨(k, old) :: u', v', ?_, fun a => ?_⟩
      · rw [List.cons_append, putPair, if_neg hk, hput]
        rfl
      · rw [List.cons_append, putPair, if_neg hk, hmore]
        rfl

end Pairs

section Names

def Table.names (t : Table) : List Text := t.map Prod.fst

theorem Table.names_append (t u : Table) : Table.names (t ++ u) = t.names ++ u.names :=
  List.map_append

theorem Table.names_cons (name : Text) (v : Value) (t : Table) :
    Table.names ((name, v) :: t) = name :: t.names := rfl

theorem Table.get?_eq_none_iff : Table.get? t key = none ↔ key ∉ t.names := by
  rw [Table.get?, List.lookup_eq_none_iff, Table.names, List.mem_map, not_exists]
  refine forall_congr' fun member => ?_
  rw [bne_iff_ne, not_and, ne_comm]

theorem Table.names_put (t : Table) (key : Text) (v : Value) :
    (t.put key v).names = if key ∈ t.names then t.names else t.names ++ [key] := by
  induction t with
  | nil => rfl
  | cons member rest ih =>
    obtain ⟨k, old⟩ := member
    by_cases hk : k = key
    · simp [Table.put, hk, Table.names_cons]
    · rw [Table.put, if_neg hk, Table.names_cons, ih, Table.names_cons]
      simp only [List.mem_cons, Ne.symm hk, false_or]
      split <;> rfl

theorem Table.nodup_put (h : t.names.Nodup) (key : Text) (v : Value) :
    (t.put key v).names.Nodup := by
  rw [Table.names_put]
  split
  · exact h
  · rename_i hkey
    refine List.nodup_append.2 ⟨h, by simp, fun a ha b hb hab => hkey ?_⟩
    rw [← List.mem_singleton.1 hb, ← hab]
    exact ha

theorem Table.mem_names_put (h : name ∈ t.names) (key : Text) (v : Value) :
    name ∈ (t.put key v).names := by
  rw [Table.names_put]
  split
  · exact h
  · exact List.mem_append_left _ h

theorem Table.get?_cons (t : Table) (key name : Text) (v : Value) :
    Table.get? ((key, v) :: t) name = if name = key then some v else Table.get? t name := by
  rw [Table.get?, List.lookup_cons]
  by_cases h : name = key
  · rw [if_pos h, beq_iff_eq.2 h]
  · rw [if_neg h, beq_eq_false_iff_ne.2 h]
    rfl

theorem Table.get?_append (t u : Table) (name : Text) :
    Table.get? (t ++ u) name = (Table.get? t name).or (Table.get? u name) := List.lookup_append

theorem Table.put_append_of_notMem (h : key ∉ t.names) (old new : Value) (rest : Table) :
    Table.put (t ++ (key, old) :: rest) key new = t ++ (key, new) :: rest := by
  induction t with
  | nil => rw [List.nil_append, Table.put, if_pos rfl, List.nil_append]
  | cons member t ih =>
    rw [Table.names_cons, List.mem_cons, not_or] at h
    rw [List.cons_append, Table.put, if_neg (Ne.symm h.1), ih h.2]
    rfl

theorem Table.get?_append_of_notMem (h : key ∉ t.names) (v : Value) (rest : Table) :
    Table.get? (t ++ (key, v) :: rest) key = some v := by
  rw [Table.get?_append, Table.get?_eq_none_iff.2 h, Option.none_or, Table.get?_cons, if_pos rfl]

theorem Table.get?_of_ne (h : name ≠ key) (u v : Table) (m : Value) :
    Table.get? (u ++ (key, m) :: v) name = Table.get? (u ++ v) name := by
  rw [Table.get?_append, Table.get?_append, Table.get?_cons, if_neg h]

end Names

section Growth

variable {P : Table → Prop}

/-- A table of which `P` is true. -/
def Value.IsTable (P : Table → Prop) : Value → Prop
  | .table t => P t
  | _ => False

/-- Putting a member keeps `P` true. -/
def KeptByPut (P : Table → Prop) : Prop := ∀ t name v, P t → P (Table.put t name v)

theorem yields_modifyAt (hP : KeptByPut P) {change : Value → Except Fault Value}
    (hchange : ∀ v, Value.IsTable P v → Yields (Value.IsTable P) (change v)) (levels : List Text)
    (hv : v.IsTable P) : Yields (Value.IsTable P) (Table.modifyAt change levels v) := by
  cases levels with
  | nil => exact hchange v hv
  | cons level rest =>
    cases v with
    | table members => exact (yields_true _).bind fun inner _ => yields_pure (hP _ _ _ hv)
    | _ => cases hv

theorem yields_addMember (hP : KeptByPut P) (key : Text) (value : Value) (hv : v.IsTable P) :
    Yields (Value.IsTable P) (addMember key value v) := by
  cases v with
  | table members =>
    rw [addMember]
    split
    · exact yields_error _
    · exact yields_pure (hP _ _ _ hv)
  | _ => cases hv

theorem yields_readLine (hP : KeptByPut P) (fuel : Nat) (line : Text) (hv : v.IsTable P) :
    Yields (fun r => Value.IsTable P r.1) (readLine fuel line v) := by
  cases fuel with
  | zero => exact yields_error _
  | succ fuel =>
    rw [readLine.eq_def]
    refine (yields_true (keyAndValue line)).bind fun k _ => ?_
    refine (yields_true (keyPath k.1)).bind fun path _ => ?_
    refine (yields_modifyAt hP (fun v hv => yields_pure hv) path.1 hv).bind fun table htable => ?_
    refine (yields_true (opensString k.2.1)).bind fun opens _ => ?_
    split
    · exact (yields_true _).bind fun _ _ => yields_pure htable
    · refine (yields_true _).bind fun item _ => ?_
      refine (yields_modifyAt hP (fun v hv => yields_addMember hP _ _ hv) path.1 htable).bind
        fun table' htable' => yields_pure htable'

theorem yields_readMembers (hP : KeptByPut P) (fuel : Nat) (members : List Text)
    (hv : v.IsTable P) :
    Yields (Value.IsTable P) (readMembers fuel members v) := by
  induction fuel generalizing members v with
  | zero => exact yields_error _
  | succ fuel ih =>
    cases members with
    | nil =>
      rw [readMembers.eq_def]
      exact yields_pure hv
    | cons member rest =>
      rw [readMembers.eq_def]
      refine (yields_readLine hP fuel member hv).bind fun r hr => ?_
      obtain ⟨table, opened⟩ := r
      cases opened with
      | none => exact ih rest hr
      | some o => exact yields_pure hr

namespace Reading

variable {r : Reading}

/-- The outermost table, of which `P` is true. -/
def Holds (P : Table → Prop) (r : Reading) : Prop := r.root.IsTable P

theorem Holds.exists_root (h : r.Holds P) : ∃ t : Table, r.root = .table t := by
  unfold Holds at h
  cases hroot : r.root with
  | table t => exact ⟨t, rfl⟩
  | _ =>
    rw [hroot] at h
    cases h

theorem current_of_place_eq_nil (h : r.place = []) : r.current = r.root := by
  rw [current, h]
  rfl

theorem holds_put (hP : KeptByPut P) (hr : r.Holds P) (hv : r.place = [] → v.IsTable P) :
    (r.put v).Holds P := by
  unfold Holds put
  obtain ⟨root, place, implied, opened⟩ := r
  cases root with
  | table t =>
    match place with
    | [] => exact hv rfl
    | .key name :: rest => exact hP _ _ _ hr
    | .item n :: rest => exact hr
  | _ => cases hr

theorem holds_put_member (hP : KeptByPut P) (hr : r.Holds P) {members : Table}
    (hcurrent : r.current = .table members) (name : Text) (v : Value) :
    (r.put (.table (Table.put members name v))).Holds P := by
  refine holds_put hP hr fun hplace => hP _ _ _ ?_
  rw [current_of_place_eq_nil hplace] at hcurrent
  rw [Holds, hcurrent] at hr
  exact hr

/-- What is done to the current table before one of its members is entered. -/
def prepared (r : Reading) (members : Table) (name : Text) (isLast isArray : Bool) :
    Except Fault Reading :=
  match Table.get? members name with
  | none =>
    let r := r.put (.table (Table.put members name (fresh isLast isArray)))
    .ok (if isLast then r else { r with implied := r.implied ++ [name] })
  | some v =>
    if !isLast then .ok r
    else if r.implied.contains name then
      if isArray then .error .malformed else .ok { r with implied := r.implied.erase name }
    else if isArray then
      match v with
      | .array items =>
        .ok (r.put (.table (Table.put members name (.array (items ++ [.table []])))))
      | _ => .error .wrongType
    else .error .malformed

theorem enterMember_eq (r : Reading) (members : Table) (name : Text) (isLast isArray : Bool) :
    r.enterMember members name isLast isArray =
      (·.enter (.key name)) <$> r.prepared members name isLast isArray := by
  unfold enterMember prepared
  cases Table.get? members name with
  | none => rfl
  | some v =>
    cases isLast <;> cases r.implied.contains name <;> cases isArray <;> cases v <;> rfl

theorem yields_prepared (hP : KeptByPut P) (hr : r.Holds P) {members : Table}
    (hcurrent : r.current = .table members) (name : Text) (isLast isArray : Bool) :
    Yields (Holds P) (r.prepared members name isLast isArray) := by
  have hput : ∀ v, (r.put (.table (Table.put members name v))).Holds P :=
    holds_put_member hP hr hcurrent name
  unfold prepared
  split
  · refine yields_pure ?_
    split <;> exact hput _
  · split
    · exact yields_pure hr
    · split
      · split
        · exact yields_error _
        · exact yields_pure hr
      · split
        · split
          · exact yields_pure (hput _)
          · exact yields_error _
        · exact yields_error _

theorem yields_enterLast (hP : KeptByPut P) (hr : r.Holds P) (items : List Value) (name : Text)
    (isLast isArray : Bool) : Yields (Holds P) (r.enterLast items name isLast isArray) := by
  unfold enterLast
  split
  · exact yields_error _
  · have henter : (r.enter (.item (items.length - 1))).Holds P := hr
    have hplace : (r.enter (.item (items.length - 1))).place ≠ [] :=
      List.append_ne_nil_of_right_ne_nil _ (List.cons_ne_nil _ _)
    refine yields_pure (show Holds P (enter (ite _ _ _) _) from ?_)
    -- At an item what is put stands inside a member of the outermost table.
    split
    · exact henter
    · exact holds_put hP henter fun h => absurd h hplace
  · exact yields_error _

theorem yields_enterNewest (hr : r.Holds P) : Yields (Holds P) r.enterNewest := by
  unfold enterNewest
  split
  · exact yields_error _
  · exact yields_pure hr
  · exact yields_pure hr
  · exact yields_error _
  · exact yields_error _

def enterCurrent (r : Reading) (name : Text) (isLast isArray : Bool) : Except Fault Reading :=
  match r.current with
  | .table members => r.enterMember members name isLast isArray
  | .array items => r.enterLast items name isLast isArray
  | .string [] => .error .noMember
  | _ => .error .wrongType

theorem enterGroup_eq (r : Reading) {name : Text} (h : name ≠ []) (isLast isArray : Bool) :
    r.enterGroup name isLast isArray = r.enterCurrent name isLast isArray >>= fun r =>
      if isArray then r.enterNewest else pure r := by
  unfold enterGroup enterCurrent
  rw [if_neg h]
  cases isArray <;> cases r.current with
  | string t => cases t <;> rfl
  | _ => rfl

theorem yields_enterGroup (hP : KeptByPut P) (hr : r.Holds P) (name : Text)
    (isLast isArray : Bool) :
    Yields (Holds P) (r.enterGroup name isLast isArray) := by
  by_cases hname : name = []
  · rw [hname]
    exact yields_error _
  · rw [enterGroup_eq r hname]
    refine Yields.bind (p := Holds P) ?_ fun r' hr' => ?_
    · unfold enterCurrent
      split
      · rename_i hcurrent
        rw [enterMember_eq]
        exact (yields_prepared hP hr hcurrent name isLast isArray).map fun r' hr' => hr'
      · exact yields_enterLast hP hr _ name isLast isArray
      · exact yields_error _
      · exact yields_error _
    · split
      · exact yields_enterNewest hr'
      · exact yields_pure hr'

theorem yields_enterGroups (hP : KeptByPut P) (isArray : Bool) (names : List Text)
    (hr : r.Holds P) :
    Yields (Holds P) (enterGroups isArray names r) := by
  induction names generalizing r with
  | nil => exact yields_pure hr
  | cons name rest ih => exact (yields_enterGroup hP hr name _ _).bind fun r' hr' => ih hr'

theorem yields_header (hP : KeptByPut P) (hr : r.Holds P) (line : Text) :
    Yields (Holds P) (r.header line) := by
  unfold header
  split
  · exact yields_error _
  · split
    · exact (yields_true _).bind fun names _ => yields_enterGroups hP true names hr
    · exact (yields_true _).bind fun names _ => yields_enterGroups hP false names hr

theorem yields_moreOfString (hP : KeptByPut P) (hr : r.Holds P) (o : OpenString) (line : Text) :
    Yields (Holds P) (r.moreOfString o line) := by
  unfold moreOfString
  refine (yields_true _).bind fun closed _ => ?_
  split
  · refine (yields_true (readItem _ _ true)).bind fun item _ => ?_
    cases hcurrent : r.current with
    | table members => exact yields_pure (holds_put_member hP hr hcurrent o.key item.1)
    | _ => exact yields_error _
  · exact yields_pure hr

/-- A line with an inline table, which is put over the current one. -/
def readInline (r : Reading) (t : Text) : Except Fault Reading :=
  if t.getLast? ≠ some ('\x7d' : CodePoint) then .error .malformed
  else do return r.put (← readMembers (fuelFor t) (← inlineMembers t) r.current)

def readMember (r : Reading) (t : Text) : Except Fault Reading := do
  let v ← readLine (fuelFor t) t r.current
  return { r.put v.1 with opened := v.2 }

def readWhole (r : Reading) : Text → Except Fault Reading
  | [] => .ok r
  | c :: t =>
    if c = '[' then r.header (c :: t)
    else if c = '\x7b' then r.readInline (c :: t)
    else if ('=' : CodePoint) ∈ c :: t then r.readMember (c :: t)
    else .ok r

theorem line_of_opened_eq_none (h : r.opened = none) (t : Text) :
    r.line t = r.readWhole t.trim := by
  unfold line
  rw [h]
  simp only
  cases t.trim with
  | nil => rfl
  | cons c t =>
    by_cases hlast : (c :: t).getLast? = some ('\x7d' : CodePoint)
    · simp only [readWhole, readInline, hlast, ne_eq, not_true_eq_false, if_false]
      rfl
    · simp only [readWhole, readInline, hlast, ne_eq, not_false_eq_true, if_true]
      rfl

theorem line_of_opened_eq_some {o : OpenString} (h : r.opened = some o) (t : Text) :
    r.line t =
      if (if keepsBlanks o then t else t.trim) = [] ∧ o.joined then .ok r
      else r.moreOfString o (if keepsBlanks o then t else t.trim) := by
  unfold line
  rw [h]
  rfl

/-- What is put at the place of the current table is a table of which `P` is true, if the current one
is. -/
theorem yields_current {α : Type} {q : α → Value} {x : Except Fault α} (hr : r.Holds P)
    (h : r.current.IsTable P → Yields (fun a => (q a).IsTable P) x) :
    Yields (fun a => r.place = [] → (q a).IsTable P) x := by
  by_cases hplace : r.place = []
  · refine (h ?_).imp fun a ha _ => ha
    rw [current_of_place_eq_nil hplace]
    exact hr
  · exact (yields_true x).imp fun a _ hnil => absurd hnil hplace

theorem yields_line (hP : KeptByPut P) (hr : r.Holds P) (t : Text) :
    Yields (Holds P) (r.line t) := by
  cases hopened : r.opened with
  | some o =>
    rw [line_of_opened_eq_some hopened]
    generalize (if keepsBlanks o then t else t.trim) = u
    split
    · exact yields_pure (m := Except Fault) hr
    · exact yields_moreOfString hP hr _ _
  | none =>
    rw [line_of_opened_eq_none hopened]
    cases t.trim with
    | nil => exact yields_pure hr
    | cons c t =>
      rw [readWhole]
      split
      · exact yields_header hP hr _
      · split
        · unfold readInline
          split
          · exact yields_error _
          · refine (yields_true _).bind fun members _ => ?_
            exact (yields_current (q := id) hr (yields_readMembers hP _ members)).bind fun v hv =>
              yields_pure (holds_put hP hr hv)
        · split
          · exact (yields_current (q := Prod.fst) hr (yields_readLine hP _ _)).bind fun v hv =>
              yields_pure (holds_put hP hr hv)
          · exact yields_pure hr

theorem yields_lines (hP : KeptByPut P) (hr : r.Holds P) (lines : List Text) :
    Yields (Holds P) (lines.foldlM line r) :=
  Yields.foldlM (fun _ t _ hr => yields_line hP hr t) hr

end Reading

/-- What putting a member keeps true is true of the table that is read. -/
theorem of_read (hP : KeptByPut P) (hnil : P []) {content : Text} (h : read content = .ok t) :
    P t := by
  have hall : Yields P (read content) := by
    unfold read
    refine (yields_true _).bind fun lines _ => ?_
    refine (Reading.yields_lines hP (r := .start) hnil lines).bind fun r hr => ?_
    split
    · rename_i members hroot
      rw [Reading.Holds, hroot] at hr
      exact yields_pure hr
    · exact yields_pure hnil
  exact hall.of_eq_ok h

/-- No name stands twice in the table that is read. -/
theorem nodup_names_of_read {content : Text} (h : read content = .ok t) : t.names.Nodup :=
  of_read (P := fun t => t.names.Nodup) (fun _ name v ht => Table.nodup_put ht name v)
    List.nodup_nil h

end Growth

end DocPress.Toml
