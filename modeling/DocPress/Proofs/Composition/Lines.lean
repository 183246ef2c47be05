import DocPress.Composition.Part
import DocPress.Proofs.Text.Pieces

namespace DocPress.Composition.Part

mutual

/-- The lines of a part, depth first: a file has its markers around those of its parts. -/
def lines : Part → List Text
  | line expanded => [expanded]
  | file name parts => startMarker name :: (linesOfEach parts ++ [endMarker name])

def linesOfEach : List Part → List Text
  | [] => []
  | p :: rest => p.lines ++ linesOfEach rest

end

theorem lines_ne_nil (p : Part) : p.lines ≠ [] := by
  cases p <;> simp [lines]

mutual

theorem written_eq_join_lines : ∀ p : Part, p.written = Text.join (text "\n") p.lines
  | line expanded => by rw [written, lines, Text.join_singleton]
  | file name parts => by
    have hend : [endMarker name] ≠ [] := List.cons_ne_nil _ _
    rw [written, lines, block, Text.join_cons _ _ (List.append_ne_nil_of_right_ne_nil _ hend),
      Text.join_cons _ _ (List.append_ne_nil_of_right_ne_nil _ hend), join_writtenEach parts hend]

theorem join_writtenEach : ∀ (parts : List Part) {rest : List Text}, rest ≠ [] →
    Text.join (text "\n") (writtenEach parts ++ rest) =
      Text.join (text "\n") (linesOfEach parts ++ rest)
  | [], _, _ => rfl
  | p :: parts, rest, hr => by
    have h := join_writtenEach parts hr
    have hw : writtenEach parts ++ rest ≠ [] := List.append_ne_nil_of_right_ne_nil _ hr
    have hl : linesOfEach parts ++ rest ≠ [] := List.append_ne_nil_of_right_ne_nil _ hr
    rw [writtenEach, linesOfEach, List.append_assoc, Text.join_append _ (lines_ne_nil p) hl, ← h,
      ← written_eq_join_lines p, List.cons_append, Text.join_cons _ _ hw]

end

/-- The links on the longest chain of imports from a file on: as many as files are within it. -/
def links : Part → Nat
  | line _ => 0
  | file _ parts => greatestHeight parts

mutual

/-- The names of the files of a part, depth first. -/
def names : Part → List Text
  | line _ => []
  | file name parts => name :: namesOfEach parts

def namesOfEach : List Part → List Text
  | [] => []
  | p :: rest => p.names ++ namesOfEach rest

end

mutual

/-- The lines of a part that are no markers, depth first. -/
def texts : Part → List Text
  | line expanded => [expanded]
  | file _ parts => textsOfEach parts

def textsOfEach : List Part → List Text
  | [] => []
  | p :: rest => p.texts ++ textsOfEach rest

end

mutual

theorem mem_lines : ∀ {p : Part} {l : Text}, l ∈ p.lines →
    l ∈ p.texts ∨ ∃ name ∈ p.names, l = startMarker name ∨ l = endMarker name
  | line _, _, h => .inl h
  | file name parts, l, h => by
    rw [lines, List.mem_cons, List.mem_append, List.mem_singleton] at h
    rcases h with h | h | h
    · exact .inr ⟨name, List.mem_cons_self, .inl h⟩
    · exact (mem_linesOfEach h).imp_right fun ⟨n, hn, hl⟩ => ⟨n, List.mem_cons_of_mem _ hn, hl⟩
    · exact .inr ⟨name, List.mem_cons_self, .inr h⟩

theorem mem_linesOfEach : ∀ {parts : List Part} {l : Text}, l ∈ linesOfEach parts →
    l ∈ textsOfEach parts ∨ ∃ name ∈ namesOfEach parts, l = startMarker name ∨ l = endMarker name
  | p :: rest, l, h => by
    rw [textsOfEach, namesOfEach, List.mem_append]
    rcases List.mem_append.1 h with h | h
    · exact (mem_lines h).imp .inl fun ⟨n, hn, hl⟩ => ⟨n, List.mem_append_left _ hn, hl⟩
    · exact (mem_linesOfEach h).imp .inr fun ⟨n, hn, hl⟩ => ⟨n, List.mem_append_right _ hn, hl⟩

end

/-- A marker holds a newline only if the name in it does. -/
theorem newline_notMem_lines {p : Part} (hn : ∀ name ∈ p.names, ('\n' : CodePoint) ∉ name)
    (ht : ∀ t ∈ p.texts, ('\n' : CodePoint) ∉ t) : ∀ l ∈ p.lines, ('\n' : CodePoint) ∉ l := by
  intro l hl
  rcases mem_lines hl with h | ⟨name, h, rfl | rfl⟩
  · exact ht l h
  all_goals
    simp only [startMarker, endMarker, List.mem_append, not_or]
    exact ⟨⟨by decide, hn name h⟩, by decide⟩

end DocPress.Composition.Part
