import DocPress.Path
import DocPress.Text.Utf8

namespace DocPress

abbrev Bytes := Text.Utf8.Bytes

inductive Entry where
  | file (content : Bytes) (executable : Bool)
  | directory
  | link (target : Text)
  /-- Reads as empty and forgets what is written. -/
  | sink
deriving DecidableEq

/-- The names of the directories above an entry and its own, from the root down. -/
abbrev Location := List Text

/-- A finite map from locations to entries. There are no access rights: every directory can be listed
and searched, and every file can be read and written. A file has one name only. -/
structure FileSystem where
  entries : List (Location × Entry)

namespace FileSystem

def empty : FileSystem := ⟨[]⟩

/-- The root is always a directory. -/
def entryAt (fs : FileSystem) (l : Location) : Option Entry :=
  if l = [] then some .directory else fs.entries.lookup l

/-- Puts an entry at a place of the list that holds the location, or at its end. -/
def putIn (l : Location) (e : Entry) : List (Location × Entry) → List (Location × Entry)
  | [] => [(l, e)]
  | (k, old) :: rest => if k = l then (k, e) :: rest else (k, old) :: putIn l e rest

def put (fs : FileSystem) (l : Location) (e : Entry) : FileSystem := ⟨putIn l e fs.entries⟩

/-- Takes away a location and all below it. -/
def erase (fs : FileSystem) (l : Location) : FileSystem :=
  ⟨fs.entries.filter fun (k, _) => !l.isPrefixOf k⟩

def isDirectoryAt (fs : FileSystem) (l : Location) : Bool := fs.entryAt l = some .directory

theorem lookup_cons_of_ne {k l : Location} (h : k ≠ l) (e : Entry) (rest : List (Location × Entry)) :
    ((l, e) :: rest).lookup k = rest.lookup k := by
  have hb : (k == l) = false := beq_eq_false_iff_ne.2 h
  change (match k == l with | true => some e | false => rest.lookup k) = rest.lookup k
  rw [hb]

theorem lookup_putIn (l k : Location) (e : Entry) (entries : List (Location × Entry)) :
    (putIn l e entries).lookup k = if k = l then some e else entries.lookup k := by
  induction entries with
  | nil =>
    by_cases hk : k = l
    · simp [putIn, hk]
    · simp [putIn, lookup_cons_of_ne hk, hk]
  | cons entry rest ih =>
    obtain ⟨a, old⟩ := entry
    by_cases ha : a = l
    · subst ha
      by_cases hk : k = a
      · subst hk; simp [putIn]
      · simp [putIn, lookup_cons_of_ne hk, hk]
    · by_cases hk : k = a
      · subst hk; simp [putIn, ha]
      · simp [putIn, ha, lookup_cons_of_ne hk, ih]

theorem entryAt_put (fs : FileSystem) {l : Location} (hl : l ≠ []) (e : Entry) (k : Location) :
    (fs.put l e).entryAt k = if k = l then some e else fs.entryAt k := by
  by_cases hk : k = []
  · subst hk; simp [entryAt, Ne.symm hl]
  · simp [entryAt, put, hk, lookup_putIn]

theorem lookup_filter_key (keep : Location → Bool) (k : Location) (entries : List (Location × Entry)) :
    (entries.filter fun (l, _) => keep l).lookup k = if keep k then entries.lookup k else none := by
  induction entries with
  | nil => simp
  | cons entry rest ih =>
    obtain ⟨l, e⟩ := entry
    by_cases hl : k = l
    · subst hl
      cases hk : keep k
      · rw [List.filter_cons_of_neg (by simp [hk]), ih, hk]; rfl
      · rw [List.filter_cons_of_pos (by simp [hk])]; simp
    · rw [lookup_cons_of_ne hl]
      cases hk : keep l
      · rw [List.filter_cons_of_neg (by simp [hk]), ih]
      · rw [List.filter_cons_of_pos (by simp [hk]), lookup_cons_of_ne hl, ih]

theorem entryAt_erase (fs : FileSystem) (l : Location) {k : Location} (hk : k ≠ []) :
    (fs.erase l).entryAt k = if l <+: k then none else fs.entryAt k := by
  have h := lookup_filter_key (fun k => !l.isPrefixOf k) k fs.entries
  have hp : l.isPrefixOf k = true ↔ l <+: k := List.isPrefixOf_iff_prefix
  simp only [entryAt, hk, if_false, erase, h]
  by_cases hl : l <+: k
  · simp [hl, hp.2 hl]
  · simp [hl, Bool.eq_false_iff.2 (mt hp.1 hl)]

end FileSystem

end DocPress
