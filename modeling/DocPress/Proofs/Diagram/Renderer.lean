import DocPress.Proofs.Diagram.Substitution

namespace DocPress

open Markdown Token Node

namespace Diagram

variable {ε α β : Type} (answer : List Text → Except ε Text)

/-- A renderer that keeps the sources it is given. Its answer may be another one each time: it is
that to all sources so far, the last one included. -/
def recorded (source : Text) : ExceptT ε (StateM (List Text)) Text :=
  ExceptT.mk fun given => (answer (given ++ [source]), given ++ [source])

theorem run_bind_of_ok {x : ExceptT ε (StateM (List Text)) α} {a : α} {given given' : List Text}
    (h : x.run given = (.ok a, given')) (f : α → ExceptT ε (StateM (List Text)) β) :
    (x >>= f).run given = (f a).run given' := by
  change ExceptT.bindCont f (x.run given).1 (x.run given).2 = _
  rw [h]
  rfl

theorem run_bind_of_error {x : ExceptT ε (StateM (List Text)) α} {e : ε}
    {given given' : List Text} (h : x.run given = (.error e, given'))
    (f : α → ExceptT ε (StateM (List Text)) β) : (x >>= f).run given = (.error e, given') := by
  change ExceptT.bindCont f (x.run given).1 (x.run given).2 = _
  rw [h]
  rfl

theorem run_map_of_ok {x : ExceptT ε (StateM (List Text)) α} {a : α} {given given' : List Text}
    (h : x.run given = (.ok a, given')) (f : α → β) : (f <$> x).run given = (.ok (f a), given') := by
  rw [map_eq_pure_bind, run_bind_of_ok h]
  rfl

theorem run_map_of_error {x : ExceptT ε (StateM (List Text)) α} {e : ε} {given given' : List Text}
    (h : x.run given = (.error e, given')) (f : α → β) :
    (f <$> x).run given = (.error e, given') := by
  rw [map_eq_pure_bind, run_bind_of_error h]

variable {answer}

theorem run_drawn_of_ok {t : Token} (ht : t.isDiagram = true) {given : List Text} {picture : Text}
    (h : answer (given ++ [t.content]) = .ok picture) :
    (drawn (recorded answer) t).run given = (.ok (replaced t picture), given ++ [t.content]) := by
  rw [drawn, if_pos ht]
  exact run_map_of_ok (congrArg (·, given ++ [t.content]) h) _

theorem run_drawn_of_error {t : Token} (ht : t.isDiagram = true) {given : List Text} {e : ε}
    (h : answer (given ++ [t.content]) = .error e) :
    (drawn (recorded answer) t).run given = (.error e, given ++ [t.content]) := by
  rw [drawn, if_pos ht]
  exact run_map_of_error (congrArg (·, given ++ [t.content]) h) _

theorem run_drawn_of_not {t : Token} (ht : t.isDiagram = false) (given : List Text) :
    (drawn (recorded answer) t).run given = (.ok t, given) := by
  rw [drawn, ht]
  rfl

theorem sources_cons_of_isDiagram {t : Token} (ht : t.isDiagram = true) (rest : List Token) :
    sources (t :: rest) = t.content :: sources rest := by
  simp [sources, ht]

theorem sources_cons_of_not {t : Token} (ht : t.isDiagram = false) (rest : List Token) :
    sources (t :: rest) = sources rest := by
  simp [sources, ht]

/-- The tokens `ts'` are `ts` with the answer to each diagram in its place, where `given` has been
drawn before. -/
structure Drawn (answer : List Text → Except ε Text) (given : List Text) (ts ts' : List Token) :
    Prop where
  length_eq : ts'.length = ts.length
  kept : ∀ {i : Nat} {t : Token}, ts[i]? = some t → t.isDiagram = false → ts'[i]? = some t
  replaced : ∀ {i : Nat} {t : Token}, ts[i]? = some t → t.isDiagram = true →
    ∃ picture, answer (given ++ sources (ts.take (i + 1))) = .ok picture ∧
      ts'[i]? = some (replaced t picture)

theorem drawn_nil (given : List Text) : Drawn answer given [] [] :=
  ⟨rfl, fun h => by simp at h, fun h => by simp at h⟩

theorem Drawn.cons_of_not {given : List Text} {t : Token} {ts ts' : List Token}
    (ht : t.isDiagram = false) (h : Drawn answer given ts ts') :
    Drawn answer given (t :: ts) (t :: ts') := by
  refine ⟨congrArg (· + 1) h.length_eq, ?_, ?_⟩
  · intro i u hu hd
    cases i with
    | zero => exact hu
    | succ i => exact h.kept hu hd
  · intro i u hu hd
    cases i with
    | zero =>
      obtain rfl : t = u := by simpa using hu
      rw [ht] at hd
      cases hd
    | succ i =>
      rw [List.take_succ_cons, sources_cons_of_not ht]
      exact h.replaced hu hd

theorem Drawn.cons_of_isDiagram {given : List Text} {t : Token} {picture : Text}
    {ts ts' : List Token} (ht : t.isDiagram = true)
    (hp : answer (given ++ [t.content]) = .ok picture)
    (h : Drawn answer (given ++ [t.content]) ts ts') :
    Drawn answer given (t :: ts) (Diagram.replaced t picture :: ts') := by
  refine ⟨congrArg (· + 1) h.length_eq, ?_, ?_⟩
  · intro i u hu hd
    cases i with
    | zero =>
      obtain rfl : t = u := by simpa using hu
      rw [ht] at hd
      cases hd
    | succ i => exact h.kept hu hd
  · intro i u hu hd
    rw [List.take_succ_cons, sources_cons_of_isDiagram ht]
    cases i with
    | zero =>
      obtain rfl : t = u := by simpa using hu
      exact ⟨picture, hp, rfl⟩
    | succ i =>
      obtain ⟨picture, hp, hr⟩ := h.replaced hu hd
      exact ⟨picture, by rw [← hp, List.append_assoc]; rfl, hr⟩

theorem run_mapM_drawn_of_ok {ts : List Token} (given : List Text)
    (h : ∀ k < (sources ts).length,
      ∃ picture, answer (given ++ (sources ts).take (k + 1)) = .ok picture) :
    ∃ ts', (ts.mapM (drawn (recorded answer))).run given = (.ok ts', given ++ sources ts) ∧
      Drawn answer given ts ts' := by
  -- Each diagram passes from the sources to `given`; what an answer depends on is the two together.
  induction ts generalizing given with
  | nil =>
    refine ⟨[], ?_, drawn_nil given⟩
    rw [show given ++ sources [] = given from List.append_nil given]
    rfl
  | cons t ts ih =>
    rw [List.mapM_cons]
    cases ht : t.isDiagram with
    | false =>
      rw [sources_cons_of_not ht] at h ⊢
      obtain ⟨ts', hrun, hd⟩ := ih given h
      refine ⟨t :: ts', ?_, hd.cons_of_not ht⟩
      rw [run_bind_of_ok (run_drawn_of_not ht given), run_bind_of_ok hrun]
      rfl
    | true =>
      rw [sources_cons_of_isDiagram ht] at h ⊢
      obtain ⟨picture, hp⟩ := h 0 (Nat.succ_pos _)
      have hrest : ∀ k < (sources ts).length,
          ∃ picture, answer (given ++ [t.content] ++ (sources ts).take (k + 1)) = .ok picture := by
        intro k hk
        obtain ⟨picture, hp⟩ := h (k + 1) (Nat.succ_lt_succ hk)
        exact ⟨picture, by rw [← hp, List.append_assoc]; rfl⟩
      obtain ⟨ts', hrun, hd⟩ := ih _ hrest
      refine ⟨replaced t picture :: ts', ?_, hd.cons_of_isDiagram ht hp⟩
      rw [run_bind_of_ok (run_drawn_of_ok ht hp), run_bind_of_ok hrun, List.append_assoc]
      rfl

theorem run_mapM_drawn_of_error {ts : List Token} (given : List Text) {k : Nat} {e : ε}
    (hk : k < (sources ts).length)
    (hbefore : ∀ j < k, ∃ picture, answer (given ++ (sources ts).take (j + 1)) = .ok picture)
    (he : answer (given ++ (sources ts).take (k + 1)) = .error e) :
    (ts.mapM (drawn (recorded answer))).run given =
      (.error e, given ++ (sources ts).take (k + 1)) := by
  induction ts generalizing given k with
  | nil => exact absurd hk (Nat.not_lt_zero k)
  | cons t ts ih =>
    rw [List.mapM_cons]
    cases ht : t.isDiagram with
    | false =>
      rw [sources_cons_of_not ht] at hk hbefore he ⊢
      rw [run_bind_of_ok (run_drawn_of_not ht given), run_bind_of_error (ih given hk hbefore he)]
    | true =>
      rw [sources_cons_of_isDiagram ht] at hk hbefore he ⊢
      cases k with
      | zero => exact run_bind_of_error (run_drawn_of_error ht he) _
      | succ k =>
        obtain ⟨picture, hp⟩ := hbefore 0 (Nat.succ_pos k)
        have hshift : ∀ j, given ++ [t.content] ++ (sources ts).take (j + 1) =
            given ++ (t.content :: sources ts).take (j + 1 + 1) := by
          intro j
          rw [List.append_assoc]
          rfl
        have hrest : ∀ j < k, ∃ picture,
            answer (given ++ [t.content] ++ (sources ts).take (j + 1)) = .ok picture := by
          intro j hj
          rw [hshift]
          exact hbefore (j + 1) (Nat.succ_lt_succ hj)
        have hrun := ih (given ++ [t.content]) (Nat.lt_of_succ_lt_succ hk) hrest
          (by rw [hshift, he])
        rw [run_bind_of_ok (run_drawn_of_ok ht hp), run_bind_of_error hrun, hshift]

/-- The diagrams of a stream are given to the renderer one by one, in order. If it answers them all,
each has the figure of its answer in its place, and the tokens are the same otherwise. The first
call that fails is the last one. -/
theorem run_substitute_recorded {ts : List Token} (h : IsStream ts) {ε : Type}
    (answer : List Text → Except ε Text) :
    flatten (group ts) = ts ∧
    ((∀ k < (sources ts).length, ∃ picture, answer ((sources ts).take (k + 1)) = .ok picture) →
      ∃ nodes, (substitute (recorded answer) (group ts)).run [] = (.ok nodes, sources ts) ∧
        nodes = group (flatten nodes) ∧ (flatten nodes).length = ts.length ∧
        ∀ (i : Nat) (t : Token), ts[i]? = some t →
          (t.isDiagram = false → (flatten nodes)[i]? = some t) ∧
          (t.isDiagram = true →
            ∃ picture, answer (sources (ts.take (i + 1))) = .ok picture ∧
              (flatten nodes)[i]? = some
                { element := .htmlBlock, lines := t.lines, level := t.level
                  content := figure picture })) ∧
    (∀ (k : Nat) (e : ε), k < (sources ts).length →
      (∀ j < k, ∃ picture, answer ((sources ts).take (j + 1)) = .ok picture) →
      answer ((sources ts).take (k + 1)) = .error e →
      (substitute (recorded answer) (group ts)).run [] =
        (.error e, (sources ts).take (k + 1))) := by
  -- Of a stream the walk over the tree is one over the tokens.
  have hwalk := substitute_group (recorded answer) h.nested (plain_of_isStream h)
  refine ⟨flatten_group ts, ?_, ?_⟩
  · intro hok
    obtain ⟨ts', hrun, hd⟩ := run_mapM_drawn_of_ok [] hok
    refine ⟨group ts', ?_, ?_⟩
    · rw [hwalk]
      exact run_map_of_ok hrun group
    · rw [flatten_group]
      exact ⟨rfl, hd.length_eq, fun i t ht => ⟨hd.kept ht, hd.replaced ht⟩⟩
  · intro k e hk hbefore he
    have hrun := run_mapM_drawn_of_error [] hk hbefore he
    rw [hwalk]
    exact run_map_of_error hrun group

/-- A diagram in a quote and one in a list: the first answer is the figure in the quote, and a
renderer that fails at the second call has been given both. -/
theorem run_substitute_recorded_quoted :
    let ts := tokens (text "> ```mermaid\n> graph TD\n> ```\n\n* ```mermaid\n  pie\n  ```\n")
    let numbered : List Text → Except Unit Text := fun given => .ok (Text.ofNat given.length)
    let failing : List Text → Except Unit Text := fun given =>
      if given.length = 2 then .error () else .ok []
    (∃ nodes, (substitute (recorded numbered) (group ts)).run [] =
        (.ok nodes, [text "graph TD\n", text "pie\n"]) ∧
      (flatten nodes)[1]?.map (·.content) =
        some (text "<figure class='mermaid-graph'>1</figure>")) ∧
    (substitute (recorded failing) (group ts)).run [] =
      (.error (), [text "graph TD\n", text "pie\n"]) := by
  intro ts numbered failing
  have hts : IsStream ts := isStream_tokens _
  have hs : sources ts = [text "graph TD\n", text "pie\n"] := by decide +kernel
  refine ⟨?_, ?_⟩
  · obtain ⟨nodes, hrun, _, _, hnodes⟩ :=
      (run_substitute_recorded hts numbered).2.1 fun _ _ => ⟨_, rfl⟩
    have hany : (ts[1]?.any isDiagram) = true := by decide +kernel
    obtain ⟨t, ht, hd⟩ := (Option.any_eq_true _ _).1 hany
    obtain ⟨picture, hp, hn⟩ := (hnodes 1 t ht).2 hd
    have hone : sources (ts.take 2) = [text "graph TD\n"] := by decide +kernel
    rw [hone] at hp
    obtain rfl : Text.ofNat 1 = picture := Except.ok.inj hp
    have hf : figure (Text.ofNat 1) = text "<figure class='mermaid-graph'>1</figure>" := by
      decide +kernel
    exact ⟨nodes, hs ▸ hrun, by rw [hn, ← hf]; rfl⟩
  · have hfail := (run_substitute_recorded hts failing).2.2 1 ()
    rw [hs] at hfail
    apply hfail
    · decide
    · intro j hj
      obtain rfl : j = 0 := by omega
      exact ⟨[], rfl⟩
    · rfl

end Diagram

end DocPress
