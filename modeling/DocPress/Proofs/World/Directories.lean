import DocPress.Proofs.FileSystem.Overwriting
import DocPress.Proofs.FileSystem.Placing
import DocPress.Proofs.World.Running

namespace DocPress

open FileSystem

theorem FileSystem.Open.of_dropLast {fs : FileSystem} {l : Location} (h : fs.Open l.dropLast)
    (hl : fs.entryAt l = some .directory) : fs.Open l := by
  intro k hk
  by_cases hkl : k = l
  · rw [hkl, hl]
  · exact h k (prefix_dropLast hk hkl)

theorem Site.isDirectory_iff_open {s : Site} (hfree : s.files.LinkFree) {p : Path} (hp : p.IsPlain)
    (h : s.isDirectory p = .ok true) : s.files.Open p.parts ∧ ∀ name ∈ p.parts, Takes name := by
  obtain ⟨hc, l, hf⟩ := Site.isDirectory_eq_ok_true_iff.1 h
  obtain ⟨-, he, -, hopen, hshort⟩ := (find_eq_ok_iff hfree hp _ _ _).1 hf
  exact ⟨hopen.of_dropLast he, takes_of_check hp hc hshort⟩

namespace World

variable {w w' : World} {p : Path}

/-- An action has opened a directory and done nothing else. -/
def HasOpened (l : Location) (w w' : World) : Prop :=
  ∃ files, w' = { w with files := files } ∧ Opened w.files l files

theorem hasOpened_of_makeDirectory (hfree : w.files.LinkFree) (hp : p.IsPlain)
    (h : (makeDirectory p).run.run w = (.ok (), w')) : HasOpened p.parts w w' := by
  obtain ⟨files, hc, hmade, rfl⟩ := run_change_eq_ok_iff.1 h
  obtain ⟨hplaced, hn⟩ := placed_of_makeDirectory hfree hp hc hmade
  exact ⟨files, rfl, hplaced.opened hn⟩

theorem hasOpened_of_unlessDirectory (hfree : w.files.LinkFree) (hp : p.IsPlain) {fault : Fault}
    (h : (unlessDirectory p fault).run.run w = (.ok (), w')) : HasOpened p.parts w w' := by
  obtain ⟨b, w₁, hask, h⟩ := run_bind_eq_ok_iff.1 h
  rw [run_ask] at hask
  obtain rfl : w = w₁ := congrArg Prod.snd hask
  by_cases hb : b = true
  · rw [if_pos hb] at h
    obtain ⟨-, rfl⟩ := run_pure_eq_ok_iff.1 h
    have hdir : w.toSite.isDirectory p = .ok true := hb ▸ congrArg Prod.fst hask
    obtain ⟨hopen, htakes⟩ := Site.isDirectory_iff_open hfree hp hdir
    exact ⟨w.files, rfl, opened_of_open hopen htakes⟩
  · rw [if_neg hb] at h
    cases h

theorem HasOpened.trans {w₁ : World} {k l : Location} (h : HasOpened k w w₁) (hkl : k <+: l)
    (h' : HasOpened l w₁ w') : HasOpened l w w' := by
  obtain ⟨files, rfl, hopened⟩ := h
  obtain ⟨files', rfl, hopened'⟩ := h'
  exact ⟨files', rfl, hopened.trans hkl hopened'⟩

theorem HasOpened.linkFree {l : Location} (h : HasOpened l w w') (hfree : w.files.LinkFree) :
    w'.files.LinkFree := by
  obtain ⟨files, rfl, hopened⟩ := h
  exact hopened.linkFree hfree

theorem hasOpened_of_makeFirstDirectories (hfree : w.files.LinkFree) (hp : p.IsPlain) {count : Nat}
    (h : (makeFirstDirectories p count).run.run w = (.ok (), w')) :
    HasOpened (p.parts.take count) w w' := by
  have hplain : ∀ n, ({ p with parts := p.parts.take n } : Path).IsPlain := fun n =>
    ⟨hp.isAbsolute, fun part hm => hp.wellFormed part (List.mem_of_mem_take hm),
      fun hm => hp.dotDot_notMem (List.mem_of_mem_take hm)⟩
  induction count generalizing w' with
  | zero =>
    unfold makeFirstDirectories at h
    rcases run_tryCatch_eq_iff.1 h with ⟨_, -, h⟩ | ⟨fault, w₁, hmade, h⟩
    · exact hasOpened_of_makeDirectory hfree (hplain 0) h
    · obtain rfl := run_change_eq_error hmade
      exact hasOpened_of_unlessDirectory hfree (hplain 0) h
  | succ count ih =>
    unfold makeFirstDirectories at h
    rcases run_tryCatch_eq_iff.1 h with ⟨_, -, h⟩ | ⟨fault, w₁, hmade, h⟩
    · exact hasOpened_of_makeDirectory hfree (hplain (count + 1)) h
    · obtain rfl := run_change_eq_error hmade
      -- Those above are made only where the system says that one of them is missing.
      split at h
      · obtain ⟨_, w₁, habove, h⟩ := run_bind_eq_ok_iff.1 h
        have hopened := ih habove
        have hfree₁ := hopened.linkFree hfree
        refine hopened.trans (List.take_prefix_take_left (Nat.le_succ count)) ?_
        rcases run_tryCatch_eq_iff.1 h with ⟨_, -, h⟩ | ⟨fault, w₂, hmade, h⟩
        · exact hasOpened_of_makeDirectory hfree₁ (hplain (count + 1)) h
        · obtain rfl := run_change_eq_error hmade
          split at h
          · cases h
          · exact hasOpened_of_unlessDirectory hfree₁ (hplain (count + 1)) h
      · exact hasOpened_of_unlessDirectory hfree (hplain (count + 1)) h
      · cases h

/-- The directories down to the path are there, and those that were missing are all that is new. -/
theorem run_makeDirectories_eq_ok (hfree : w.files.LinkFree) (hp : p.IsPlain)
    (h : (makeDirectories p).run.run w = (.ok (), w')) : HasOpened p.parts w w' := by
  have hopened := hasOpened_of_makeFirstDirectories hfree hp h
  rwa [List.take_length] at hopened

end World

end DocPress
