import DocPress.Project

namespace DocPress.Project

variable {members : List (Text × Json)} {key t : Text}

/-- A text stands under the key, and not an empty one. -/
def Says (members : List (Text × Json)) (key t : Text) : Prop :=
  t ≠ [] ∧ Json.get? members key = some (.string t)

/-- Nothing stands under the key, or null, or an empty text. -/
def IsSilent (members : List (Text × Json)) (key : Text) : Prop :=
  Json.get? members key = none ∨ Json.get? members key = some .null ∨
    Json.get? members key = some (.string [])

def SaysOr (default : Text) (members : List (Text × Json)) (key t : Text) : Prop :=
  Says members key t ∨ IsSilent members key ∧ t = default

/-- The texts that a project file has under its keys. -/
structure Description where
  path : Text
  assets : Text
  entry : Text
  template : Text
  output : Text

/-- What the members of an object describe. -/
structure Description.Of (d : Description) (members : List (Text × Json)) : Prop where
  path : SaysOr (text ".") members (text "path") d.path
  assets : Says members (text "assets") d.assets
  entry : Says members (text "entry") d.entry
  template : Says members (text "template") d.template
  output : SaysOr (text "./build") members (text "output") d.output

def Description.project (d : Description) (location : Path) : Project where
  location := location
  root := location.absolute (.ofText d.path)
  assets := .ofText d.assets
  entry := .ofText d.entry
  template := .ofText d.template
  output := .ofText d.output

theorem exists_says_iff :
    (∃ t, Says members key t) ↔ isMissing members key = false ∧ isNotText members key = false := by
  unfold Says isMissing isNotText
  cases Json.get? members key with
  | none => simp
  | some value => cases value <;> simp [Json.isEmpty]

theorem exists_saysOr_iff (default : Text) :
    (∃ t, SaysOr default members key t) ↔ isNotText members key = false := by
  unfold SaysOr Says IsSilent isNotText
  cases Json.get? members key with
  | none => simp
  | some value =>
    cases value with
    | string written => by_cases hw : written = [] <;> simp [hw]
    | _ => simp

theorem pathAt_of_says (h : Says members key t) (default : Text) :
    pathAt members key default = .ofText t := by
  rw [pathAt, h.2]
  exact congrArg Path.ofText (if_neg h.1)

theorem pathAt_of_saysOr {default : Text} (h : SaysOr default members key t) :
    pathAt members key default = .ofText t := by
  rcases h with h | ⟨h | h | h, rfl⟩
  · exact pathAt_of_says h default
  all_goals rw [pathAt, h]
  exact congrArg Path.ofText (if_pos rfl)

theorem Description.Of.ofMembers_eq {d : Description} (h : d.Of members) (location : Path) :
    ofMembers location members = d.project location := by
  rw [ofMembers, pathAt_of_saysOr h.path, pathAt_of_says h.assets, pathAt_of_says h.entry,
    pathAt_of_says h.template, pathAt_of_saysOr h.output]
  rfl

theorem exists_of_iff :
    (∃ d : Description, d.Of members) ↔
      requiredKeys.filter (isMissing members) = [] ∧ pathKeys.filter (isNotText members) = [] := by
  simp only [List.filter_eq_nil_iff, pathKeys, requiredKeys, List.forall_mem_cons,
    List.forall_mem_append, List.not_mem_nil, false_imp_iff, implies_true, Bool.not_eq_true, and_true]
  constructor
  · rintro ⟨d, hd⟩
    have hassets := exists_says_iff.1 ⟨_, hd.assets⟩
    have hentry := exists_says_iff.1 ⟨_, hd.entry⟩
    have htemplate := exists_says_iff.1 ⟨_, hd.template⟩
    exact ⟨⟨hassets.1, hentry.1, htemplate.1⟩, (exists_saysOr_iff _).1 ⟨_, hd.path⟩,
      ⟨hassets.2, hentry.2, htemplate.2⟩, (exists_saysOr_iff _).1 ⟨_, hd.output⟩⟩
  · rintro ⟨⟨hassets, hentry, htemplate⟩, hpath, ⟨hassets', hentry', htemplate'⟩, houtput⟩
    obtain ⟨path, hpath⟩ := (exists_saysOr_iff (text ".")).2 hpath
    obtain ⟨assets, hassets⟩ := exists_says_iff.2 ⟨hassets, hassets'⟩
    obtain ⟨entry, hentry⟩ := exists_says_iff.2 ⟨hentry, hentry'⟩
    obtain ⟨template, htemplate⟩ := exists_says_iff.2 ⟨htemplate, htemplate'⟩
    obtain ⟨output, houtput⟩ := (exists_saysOr_iff (text "./build")).2 houtput
    exact ⟨⟨path, assets, entry, template, output⟩, hpath, hassets, hentry, htemplate, houtput⟩

variable {file : Path} {content : Text} {p : Project}

theorem ofText_eq_ok_iff :
    ofText file content = .ok p ↔ ∃ members, ∃ d : Description,
      Json.read content = .ok (.object members) ∧ d.Of members ∧ p = d.project file.parent := by
  constructor
  · intro h
    unfold ofText at h
    split at h
    · split at h <;> cases h
    · rename_i members hread
      dsimp only at h
      split at h
      · cases h
      · rename_i hmissing
        split at h
        · cases h
        · rename_i hnotText
          obtain ⟨d, hd⟩ := exists_of_iff.2 ⟨Decidable.not_not.1 hmissing, Decidable.not_not.1 hnotText⟩
          exact ⟨members, d, hread, hd, (Except.ok.inj h).symm.trans (hd.ofMembers_eq _)⟩
    · cases h
  · rintro ⟨members, d, hread, hd, rfl⟩
    obtain ⟨hmissing, hnotText⟩ := exists_of_iff.1 ⟨d, hd⟩
    simp only [ofText, hread, hmissing, hnotText, hd.ofMembers_eq, ne_eq, not_true, if_false]

/-- All complaints about a text are about a project, but for one about a number in it. -/
theorem ofText_eq_error {fault : Fault} (h : ofText file content = .error fault) :
    (∃ cause, fault = .project cause) ∨
      fault = .badValue ∧ ∃ found, Json.read content = .error found ∧
        found.complaint = .hugeInteger := by
  unfold ofText at h
  split at h
  · rename_i found hread
    split at h
    · rename_i hhuge
      exact .inr ⟨(Except.error.inj h).symm, found, hread, hhuge⟩
    · exact .inl ⟨_, (Except.error.inj h).symm⟩
  · dsimp only at h
    split at h
    · exact .inl ⟨_, (Except.error.inj h).symm⟩
    · split at h
      · exact .inl ⟨_, (Except.error.inj h).symm⟩
      · cases h
  · exact .inl ⟨_, (Except.error.inj h).symm⟩

/-- What a file holds is the text of a described project. -/
def Describes (content : Bytes) (d : Description) : Prop :=
  ∃ written members, Text.Utf8.decode content = .ok written ∧
    Json.read (Text.unifyNewlines written) = .ok (.object members) ∧ d.Of members

/-- What a file holds is a text with a number of more digits than are read. -/
def IsHuge (content : Bytes) : Prop :=
  ∃ written found, Text.Utf8.decode content = .ok written ∧
    Json.read (Text.unifyNewlines written) = .error found ∧ found.complaint = .hugeInteger

end DocPress.Project
