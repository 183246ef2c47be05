import DocPress.Proofs.World.OwnFaults
import DocPress.Tool

namespace DocPress.Tool

variable {w : World} {value : Toml.Value}

/-- The number of a file that is open, or what is true and stands for the number one. -/
def IsOpenNumber (w : World) (value : Toml.Value) : Prop :=
  ∃ n ∈ w.openFiles, value = .int n ∨ value = .bool true ∧ n = 1

/-- What can come of the configured path of a program. -/
inductive Configured (w : World) : Toml.Value → Except Fault (Option Found) → Prop where
  | nothing (value : Toml.Value) : Configured w value (.ok none)
  | program (path : Text) : Configured w (.string path) (.ok (some (.program path)))
  | number {value : Toml.Value} (hopen : IsOpenNumber w value) :
      Configured w value (.ok (some (.number value)))
  | refused {value : Toml.Value} {fault : Fault} (hvalue : ∀ path, value ≠ .string path)
      (hfault : fault.IsForeign) : Configured w value (.error fault)

theorem configured_openNumber {i : Int}
    (h : ∀ n ∈ w.openFiles, (n : Int) = i → IsOpenNumber w value) :
    Configured w value (.ok (openNumber w value i)) := by
  unfold openNumber
  split
  · obtain ⟨n, hn, hni⟩ := List.any_eq_true.1 ‹w.openFiles.any _ = true›
    exact .number (h n hn (of_decide_eq_true hni))
  · exact .nothing value

theorem configured_cases (w : World) (value : Toml.Value) :
    Configured w value (configured w value) := by
  unfold configured
  split
  · exact .nothing value
  rename_i hfull
  split
  · split
    · exact .program _
    · exact .nothing _
  · rename_i b
    refine configured_openNumber fun n hn hone => ⟨n, hn, .inr ⟨?_, by omega⟩⟩
    cases b with
    | true => rfl
    | false => exact absurd rfl hfull
  · split
    · exact configured_openNumber fun n hn hi => ⟨n, hn, .inl (congrArg _ hi.symm)⟩
    · exact .refused (fun _ h => by cases h) id
  · rename_i hstring _ _
    exact .refused hstring id

/-- A program is found elsewhere, or none is, unless the configured path decides it. -/
theorem find_cases (w : World) (value : Toml.Value) (variableName : Text) (names : List Text) :
    (∃ path : Option Text, find w value variableName names = .ok (path.map .program)) ∨
      Configured w value (find w value variableName names) := by
  have hconfigured := configured_cases w value
  unfold find
  cases hfound : configured w value with
  | error fault =>
    rw [hfound] at hconfigured
    exact .inr hconfigured
  | ok found =>
    rw [hfound] at hconfigured
    cases found with
    | some found => exact .inr hconfigured
    | none =>
      left
      dsimp only [bind, Except.bind]
      split
      · split
        · exact ⟨some _, rfl⟩
        · exact ⟨search w names, rfl⟩
      · exact ⟨search w names, rfl⟩

theorem isOpenNumber_of_find {variableName : Text} {names : List Text} {number : Toml.Value}
    (h : find w value variableName names = .ok (some (.number number))) : IsOpenNumber w value := by
  rcases find_cases w value variableName names with ⟨path, hpath⟩ | hconfigured
  · rw [h] at hpath
    cases path <;> cases hpath
  · rw [h] at hconfigured
    cases hconfigured with
    | number hopen => exact hopen

theorem of_find_eq_error {variableName : Text} {names : List Text} {fault : Fault}
    (h : find w value variableName names = .error fault) :
    (∀ path, value ≠ .string path) ∧ fault.IsForeign := by
  rcases find_cases w value variableName names with ⟨path, hpath⟩ | hconfigured
  · rw [h] at hpath
    cases hpath
  · rw [h] at hconfigured
    cases hconfigured with
    | refused hvalue hfault => exact ⟨hvalue, hfault⟩

theorem Found.word_eq_ok_iff {found : Found} {program : Text} :
    found.word = .ok program ↔ found = .program program := by
  cases found <;> simp [Found.word]

theorem isForeign_of_word {found : Found} {fault : Fault} (h : found.word = .error fault) :
    fault.IsForeign := by
  cases found with
  | program path => cases h
  | number value =>
    cases h
    exact id

end DocPress.Tool
