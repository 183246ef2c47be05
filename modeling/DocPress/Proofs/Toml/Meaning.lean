import DocPress.Toml.Basic

namespace DocPress.Toml

/-- A value without the order of its keys: a table says what stands under each. -/
inductive Meaning where
  | bool (b : Bool)
  | int (i : Int)
  | real (x : Float)
  | string (t : Text)
  | moment (m : Moment)
  | array (items : List Meaning)
  | table (members : Text → List Meaning)

mutual

def Value.meaning : Value → Meaning
  | .bool b => .bool b
  | .int i => .int i
  | .real x => .real x
  | .string t => .string t
  | .moment m => .moment m
  | .array items => .array (meanings items)
  | .table members => .table fun key => under key members

def meanings : List Value → List Meaning
  | [] => []
  | v :: rest => v.meaning :: meanings rest

def under (key : Text) : List (Text × Value) → List Meaning
  | [] => []
  | (k, v) :: rest => if k = key then v.meaning :: under key rest else under key rest

end

mutual

/-- Whether two values are the same, part by part. A real number is taken for another one. -/
def Value.isSame : Value → Value → Bool
  | .bool a, .bool b => a == b
  | .int a, .int b => a == b
  | .string a, .string b => a == b
  | .moment a, .moment b => a == b
  | .array items, .array items' => areSame items items'
  | .table members, .table members' => haveSame members members'
  | _, _ => false

def areSame : List Value → List Value → Bool
  | [], [] => true
  | v :: rest, v' :: rest' => v.isSame v' && areSame rest rest'
  | _, _ => false

def haveSame : List (Text × Value) → List (Text × Value) → Bool
  | [], [] => true
  | (k, v) :: rest, (k', v') :: rest' => k == k' && (v.isSame v' && haveSame rest rest')
  | _, _ => false

end

mutual

theorem Value.eq_of_isSame : ∀ {v v' : Value}, v.isSame v' = true → v = v'
  | .bool _, .bool _, h => congrArg _ (eq_of_beq h)
  | .int _, .int _, h => congrArg _ (eq_of_beq h)
  | .string _, .string _, h => congrArg _ (eq_of_beq h)
  | .moment _, .moment _, h => congrArg _ (eq_of_beq h)
  | .array _, .array _, h => congrArg _ (eq_of_areSame h)
  | .table _, .table _, h => congrArg _ (eq_of_haveSame h)

theorem eq_of_areSame : ∀ {vs vs' : List Value}, areSame vs vs' = true → vs = vs'
  | [], [], _ => rfl
  | v :: rest, v' :: rest', h => by
    obtain ⟨hv, hrest⟩ := Bool.and_eq_true_iff.1 h
    rw [Value.eq_of_isSame hv, eq_of_areSame hrest]

theorem eq_of_haveSame : ∀ {t t' : List (Text × Value)}, haveSame t t' = true → t = t'
  | [], [], _ => rfl
  | (k, v) :: rest, (k', v') :: rest', h => by
    obtain ⟨hk, h⟩ := Bool.and_eq_true_iff.1 h
    obtain ⟨hv, hrest⟩ := Bool.and_eq_true_iff.1 h
    rw [eq_of_beq hk, Value.eq_of_isSame hv, eq_of_haveSame hrest]

end

variable {t t' other : Table} {k key : Text} {v : Value}

theorem meaning_get? (t : Table) (key : Text) :
    (Table.get? t key).map Value.meaning = (under key t).head? := by
  induction t with
  | nil => rfl
  | cons member rest ih =>
    obtain ⟨k, v⟩ := member
    by_cases hk : k = key
    · subst hk
      simp [Table.get?, under]
    · have hb : (key == k) = false := beq_eq_false_iff_ne.2 (Ne.symm hk)
      rw [under, if_neg hk, ← ih, Table.get?, Table.get?, List.lookup_cons, hb]

theorem under_put (t : Table) (k key : Text) (v : Value) :
    under key (Table.put t k v) = if key = k then v.meaning :: (under key t).tail else under key t := by
  induction t with
  | nil =>
    by_cases hk : key = k
    · simp [Table.put, under, hk]
    · simp [Table.put, under, hk, Ne.symm hk]
  | cons member rest ih =>
    obtain ⟨a, old⟩ := member
    by_cases ha : a = k
    · subst ha
      by_cases hk : key = a
      · simp [Table.put, under, hk]
      · simp [Table.put, under, hk, Ne.symm hk]
    · rw [Table.put, if_neg ha, under, under, ih]
      by_cases hk : key = k
      · simp [hk, ha]
      · simp [hk]

theorem under_without (t : Table) (k key : Text) :
    under key (Table.without t k) = if key = k then [] else under key t := by
  induction t with
  | nil => simp [Table.without, under]
  | cons member rest ih =>
    obtain ⟨a, old⟩ := member
    have hrest : Table.without ((a, old) :: rest) k =
        if a = k then Table.without rest k else (a, old) :: Table.without rest k := by
      by_cases ha : a = k <;> simp [Table.without, ha]
    rw [hrest]
    by_cases ha : a = k
    · rw [if_pos ha, ih]
      by_cases hk : key = k
      · simp [hk]
      · have hak : ¬a = key := fun h => hk (h.symm.trans ha)
        simp [hk, under, hak]
    · rw [if_neg ha, under, ih]
      by_cases hk : key = k
      · simp [hk, ha]
      · simp [hk, under]

/-- Each member takes the place of the one before it. -/
theorem under_merge (t other : Table) (key : Text) :
    under key (Table.merge t other) =
      (under key other).foldl (fun said m => m :: said.tail) (under key t) := by
  -- The rest is merged into a table that has this member already.
  induction other generalizing t with
  | nil => rfl
  | cons member rest ih =>
    obtain ⟨k, v⟩ := member
    have hmerge : Table.merge t ((k, v) :: rest) = Table.merge (Table.put t k v) rest := rfl
    rw [hmerge, ih, under_put, under]
    by_cases hk : k = key
    · simp [hk]
    · simp [hk, Ne.symm hk]

theorem meaning_table_eq_iff :
    Value.meaning (.table t) = Value.meaning (.table t') ↔ ∀ key, under key t = under key t' := by
  simp only [Value.meaning, Meaning.table.injEq, funext_iff]

theorem exists_table_of_meaning (h : v.meaning = Value.meaning (.table t)) :
    ∃ members, v = .table members := by
  cases v with
  | table members => exact ⟨members, rfl⟩
  | _ => simp [Value.meaning] at h

end DocPress.Toml
