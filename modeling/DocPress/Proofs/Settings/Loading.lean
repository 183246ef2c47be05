import DocPress.Proofs.Settings.Sections
import DocPress.Proofs.Toml.Members

namespace DocPress.Settings

open World
open Toml

variable {file : Path} {w w' : World} {t m defaults : Table} {content : Bytes} {v : Value}

section Merging

/-- A value that can be a key of a table. -/
def IsKey : Value → Prop
  | .array _ | .table _ => False
  | _ => True

/-- A value that can be taken as a key and a value. -/
def IsPair : Value → Prop
  | .string [_, _] | .table [_, _] => True
  | .array [key, _] => IsKey key
  | _ => False

/-- What may stand for a section: a table, something empty, or an array of pairs. -/
def IsMergeable : Option Value → Prop
  | none | some (.table _) | some (.string []) => True
  | some (.array items) => ∀ item ∈ items, IsPair item
  | _ => False

/-- What is said of a value that cannot be merged. -/
def Unmerged (fault : Fault) : Prop := fault = .badValue ∨ fault = .wrongType

end Merging

section Contents

/-- The bytes are a text that has these sections, or one that is malformed and has none. -/
def HasSections (content : Bytes) (t : Table) : Prop :=
  ∃ written, Text.Utf8.decode content = .ok written ∧
    (Toml.read (Text.unifyNewlines written) = .ok t ∨
      Toml.read (Text.unifyNewlines written) = .error .malformed ∧ t = [])

theorem HasSections.unique (h : HasSections content t) (h' : HasSections content m) : t = m := by
  obtain ⟨written, hdecode, hread⟩ := h
  obtain ⟨written', hdecode', hread'⟩ := h'
  cases hdecode.symm.trans hdecode'
  rcases hread with hread | ⟨hread, rfl⟩ <;> rcases hread' with hread' | ⟨hread', rfl⟩
  · exact Except.ok.inj (hread.symm.trans hread')
  · cases hread.symm.trans hread'
  · cases hread.symm.trans hread'
  · rfl

/-- What is loaded of a section where the file has the sections `t`: something if it can be put over
the defaults, and then all of their names; the defaults alone if there is nothing under the key; the
members of a table before the defaults, of two members of one name the later one. -/
structure IsLoaded (file : Path) (w : World) (t defaults : Table) (key : Text) : Prop where
  of_isMergeable : IsMergeable (t.get? key) →
    ∃ m, (readSection file defaults key).run.run w = (.ok m, w) ∧ defaults.names ⊆ m.names
  of_not_isMergeable : ¬IsMergeable (t.get? key) →
    ∃ fault, Unmerged fault ∧ (readSection file defaults key).run.run w = (.error fault, w)
  of_none : t.get? key = none → (readSection file defaults key).run.run w = (.ok defaults, w)
  of_table : ∀ members, t.get? key = some (.table members) →
    ∃ m, (readSection file defaults key).run.run w = (.ok m, w) ∧
      ∀ name, m.get? name = (Table.get? members.reverse name).or (defaults.get? name)

end Contents

section Home

end Home

end DocPress.Settings
