namespace DocPress

variable {m : Type → Type} [Monad m] {α β : Type}

/-- Every value that the action gives satisfies `p`. -/
def Yields (p : α → Prop) (x : m α) : Prop := ∃ y : m { a // p a }, Subtype.val <$> y = x

variable [LawfulMonad m]

theorem yields_pure {p : α → Prop} {a : α} (h : p a) : Yields p (pure a : m α) :=
  ⟨pure ⟨a, h⟩, map_pure ..⟩

theorem yields_true (x : m α) : Yields (fun _ => True) x := by
  refine ⟨(fun a => ⟨a, trivial⟩) <$> x, ?_⟩
  rw [Functor.map_map]
  exact id_map x

theorem Yields.bind {p : α → Prop} {q : β → Prop} {x : m α} {f : α → m β} (h : Yields p x)
    (hf : ∀ a, p a → Yields q (f a)) : Yields q (x >>= f) := by
  obtain ⟨y, rfl⟩ := h
  refine ⟨y >>= fun a => (hf a.1 a.2).choose, ?_⟩
  rw [map_bind, bind_map_left]
  exact bind_congr fun a => (hf a.1 a.2).choose_spec

theorem Yields.map {p : α → Prop} {q : β → Prop} {x : m α} {f : α → β} (h : Yields p x)
    (hf : ∀ a, p a → q (f a)) : Yields q (f <$> x) := by
  rw [map_eq_pure_bind]
  exact h.bind fun a ha => yields_pure (hf a ha)

theorem Yields.imp {p q : α → Prop} {x : m α} (h : Yields p x) (hpq : ∀ a, p a → q a) :
    Yields q x := by
  have hmap : Yields q (id <$> x) := h.map hpq
  rwa [id_map] at hmap

theorem Yields.mapM {p : β → Prop} {f : α → m β} {l : List α} (h : ∀ a ∈ l, Yields p (f a)) :
    Yields (fun bs => ∀ b ∈ bs, p b) (l.mapM f) := by
  induction l with
  | nil => exact yields_pure (List.forall_mem_nil p)
  | cons a rest ih =>
    rw [List.mapM_cons]
    refine (h a List.mem_cons_self).bind fun b hb => ?_
    refine (ih fun c hc => h c (List.mem_cons_of_mem a hc)).bind fun bs hbs => ?_
    exact yields_pure (List.forall_mem_cons.2 ⟨hb, hbs⟩)

theorem Yields.foldlM {p : β → Prop} {f : β → α → m β} {l : List α} {b : β}
    (h : ∀ b, ∀ a ∈ l, p b → Yields p (f b a)) (hb : p b) : Yields p (l.foldlM f b) := by
  induction l generalizing b with
  | nil => exact yields_pure hb
  | cons a rest ih =>
    rw [List.foldlM_cons]
    refine (h b a List.mem_cons_self hb).bind fun b hb => ?_
    exact ih (fun b c hc => h b c (List.mem_cons_of_mem a hc)) hb

theorem Yields.congr_bind {p : α → Prop} {x : m α} {f g : α → m β} (h : Yields p x)
    (hfg : ∀ a, p a → f a = g a) : x >>= f = x >>= g := by
  obtain ⟨y, rfl⟩ := h
  rw [bind_map_left, bind_map_left]
  exact bind_congr fun a => hfg a.1 a.2

theorem Yields.run_fst {σ : Type} {p : α → Prop} {x : StateM σ α} (h : Yields p x) (s : σ) :
    p (x s).1 := by
  obtain ⟨y, rfl⟩ := h
  exact (y s).1.2

theorem yields_error {ε : Type} {p : α → Prop} (e : ε) : Yields p (.error e : Except ε α) :=
  ⟨.error e, rfl⟩

theorem Yields.of_eq_ok {ε : Type} {p : α → Prop} {x : Except ε α} {a : α} (h : Yields p x)
    (hx : x = .ok a) : p a := by
  obtain ⟨y, rfl⟩ := h
  cases y with
  | ok b =>
    cases hx
    exact b.2
  | error e => cases hx

end DocPress
