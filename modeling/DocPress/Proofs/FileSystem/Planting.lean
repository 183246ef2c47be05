import DocPress.Proofs.FileSystem.LinkFree

namespace DocPress.FileSystem

def planted (top : Location) (tree : List (Location × Entry)) : FileSystem :=
  ⟨(tree.map fun (k, e) => (top ++ k, e)) ++ top.inits.map fun l => (l, .directory)⟩

theorem lookup_map_append (top k : Location) (tree : List (Location × Entry)) :
    (tree.map fun (k, e) => (top ++ k, e)).lookup (top ++ k) = tree.lookup k := by
  induction tree with
  | nil => rfl
  | cons entry rest ih =>
    obtain ⟨l, e⟩ := entry
    rw [List.map_cons]
    by_cases hk : k = l
    · subst hk
      simp
    · have happend : top ++ k ≠ top ++ l := fun h => hk (List.append_cancel_left h)
      rw [lookup_cons_of_ne happend, lookup_cons_of_ne hk, ih]

theorem lookup_map_directory (k : Location) (ls : List Location) :
    (ls.map fun l => (l, Entry.directory)).lookup k = if k ∈ ls then some .directory else none := by
  induction ls with
  | nil => rfl
  | cons l rest ih =>
    rw [List.map_cons]
    by_cases hk : k = l
    · subst hk
      simp
    · rw [lookup_cons_of_ne hk, ih]
      simp [hk]

theorem entryAt_planted {top k : Location} (hk : k ≠ []) (tree : List (Location × Entry)) :
    (planted top tree).entryAt (top ++ k) = tree.lookup k := by
  have hne : top ++ k ≠ [] := List.append_ne_nil_of_right_ne_nil _ hk
  have hprefix : top ++ k ∉ top.inits := by
    intro hm
    have hlength := ((List.mem_inits _ _).1 hm).length_le
    have hpos := List.length_pos_iff.2 hk
    rw [List.length_append] at hlength
    omega
  rw [entryAt, if_neg hne, planted, List.lookup_append, lookup_map_append, lookup_map_directory,
    if_neg hprefix, Option.or_none]

theorem entryAt_planted_above {top l : Location} {tree : List (Location × Entry)}
    (hn : tree.lookup [] = none) (h : l <+: top) :
    (planted top tree).entryAt l = some .directory := by
  by_cases hl : l = []
  · rw [entryAt, if_pos hl]
  · have hnone : (tree.map fun (k, e) => (top ++ k, e)).lookup l = none := by
      by_cases heq : l = top
      · rw [heq, ← List.append_nil top]
        simpa using (lookup_map_append top [] tree).trans hn
      · rw [List.lookup_eq_none_iff]
        rintro ⟨k, e⟩ hm
        obtain ⟨⟨k', e'⟩, -, hp⟩ := List.mem_map.1 hm
        obtain rfl : top ++ k' = k := congrArg Prod.fst hp
        have hne : l ≠ top ++ k' := by
          rintro rfl
          exact heq (h.eq_of_length_le (by simp))
        simpa using hne
    rw [entryAt, if_neg hl, planted, List.lookup_append, hnone, lookup_map_directory,
      if_pos ((List.mem_inits _ _).2 h)]
    rfl

theorem open_planted {top : Location} {tree : List (Location × Entry)} (hn : tree.lookup [] = none) :
    (planted top tree).Open top := fun _ hk => entryAt_planted_above hn hk

/-- A directory with a path of 4048 bytes: with a name of some length in it, a path is longer than
the system takes. -/
def deepDirectory : Location := List.replicate 16 (List.replicate 63 (CodePoint.ofChar '😀'))

def deepName : Text := List.replicate 12 (CodePoint.ofChar '😀') ++ text ".md"

/-- A document that has a path in a shallow directory and none in the deep one. -/
def deepTree : List (Location × Entry) :=
  [([deepName], .file (Text.Utf8.encodeLenient (text "x")) false)]

theorem isName_deepDirectory : ∀ name ∈ deepDirectory, IsName name := by
  intro name hn
  obtain rfl := List.eq_of_mem_replicate hn
  exact ⟨⟨by decide, by decide, by decide⟩, by decide, by decide, by decide +kernel⟩

end DocPress.FileSystem
