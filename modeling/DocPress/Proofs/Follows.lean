namespace DocPress

variable {ε α α' β β' : Type}

/-- Where `x` gives a value, `x'` gives one that is related to it. -/
def Follows (R : α → α' → Prop) (x : Except ε α) (x' : Except ε α') : Prop :=
  ∀ a, x = .ok a → ∃ a', x' = .ok a' ∧ R a a'

variable {R : α → α' → Prop} {S : β → β' → Prop} {x : Except ε α} {x' : Except ε α'}

theorem follows_ok {a : α} {a' : α'} (h : R a a') :
    Follows R (.ok a : Except ε α) (.ok a' : Except ε α') := by
  rintro b ⟨⟩
  exact ⟨a', rfl, h⟩

theorem follows_error (e : ε) : Follows R (.error e) x' := by
  rintro a ⟨⟩

theorem follows_self (x : Except ε α) : Follows (fun a a' => x = .ok a ∧ a' = a) x x :=
  fun a h => ⟨a, h, h, rfl⟩

theorem Follows.bind {f : α → Except ε β} {f' : α' → Except ε β'} (h : Follows R x x')
    (hf : ∀ a a', R a a' → Follows S (f a) (f' a')) : Follows S (x >>= f) (x' >>= f') := by
  intro b hb
  cases x with
  | error e => cases hb
  | ok a =>
    obtain ⟨a', rfl, ha⟩ := h a rfl
    exact hf a a' ha b hb

theorem Follows.map {f : α → β} {f' : α' → β'} (h : Follows R x x')
    (hf : ∀ a a', R a a' → S (f a) (f' a')) : Follows S (f <$> x) (f' <$> x') := by
  intro b hb
  cases x with
  | error e => cases hb
  | ok a =>
    cases hb
    obtain ⟨a', rfl, ha⟩ := h a rfl
    exact ⟨f' a', rfl, hf a a' ha⟩

theorem Follows.foldlM {f : β → α → Except ε β} {f' : β' → α → Except ε β'} {l : List α}
    (hf : ∀ b b', ∀ a ∈ l, S b b' → Follows S (f b a) (f' b' a)) {b : β} {b' : β'} (h : S b b') :
    Follows S (l.foldlM f b) (l.foldlM f' b') := by
  induction l generalizing b b' with
  | nil => exact follows_ok h
  | cons a rest ih =>
    rw [List.foldlM_cons, List.foldlM_cons]
    refine (hf b b' a List.mem_cons_self h).bind fun c c' hc => ?_
    exact ih (fun d d' e he => hf d d' e (List.mem_cons_of_mem a he)) hc

end DocPress
