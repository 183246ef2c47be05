import DocPress.World

namespace DocPress

theorem Site.refuse_eq_ok_iff {α : Type} {path : Text} {r : Except Errno α} {a : α} :
    refuse path r = .ok a ↔ r = .ok a := by
  cases r <;> simp [refuse]

namespace World

def still (s : Site) : World where
  toSite := s
  environment := []
  temporary := .ofText (text "/")
  printed := []
  run _ files := (.notStarted .noEntry, files)

variable {α β σ : Type} {w w' : World} {fault : Fault}

theorem run_pure_eq_ok_iff {a b : α} :
    (pure a : Run α).run.run w = (.ok b, w') ↔ a = b ∧ w = w' :=
  ⟨fun h => ⟨Except.ok.inj (congrArg Prod.fst h), congrArg Prod.snd h⟩, by rintro ⟨rfl, rfl⟩; rfl⟩

theorem discard_eq_bind {m : Type → Type} [Monad m] [LawfulMonad m] (x : m α) :
    (discard x : m PUnit) = x >>= fun _ => pure ⟨⟩ := by
  rw [discard, LawfulFunctor.map_const, Function.comp_apply, map_eq_pure_bind]

theorem run_throw (fault : Fault) (w : World) : (throw fault : Run α).run.run w = (.error fault, w) :=
  rfl

theorem run_ask (question : Site → Except Fault α) (w : World) :
    (ask question).run.run w = (question w.toSite, w) := by
  change (ask.liftExcept (question w.toSite)).run.run w = _
  cases question w.toSite <;> rfl

theorem run_get_bind (f : World → Run α) (w : World) :
    (get >>= f).run.run w = (f w).run.run w := rfl

theorem run_bind_of_ok {x : Run α} {a : α} (h : x.run.run w = (.ok a, w')) (f : α → Run β) :
    (x >>= f).run.run w = (f a).run.run w' := by
  simp only [ExceptT.run_bind, StateT.run_bind, h]
  rfl

theorem run_bind_of_error {x : Run α} (h : x.run.run w = (.error fault, w')) (f : α → Run β) :
    (x >>= f).run.run w = (.error fault, w') := by
  simp only [ExceptT.run_bind, StateT.run_bind, h]
  rfl

/-- Two steps succeed when the first does and the second does where the first has led. -/
theorem run_bind_eq_ok_iff {x : Run α} {f : α → Run β} {b : β} :
    (x >>= f).run.run w = (.ok b, w') ↔
      ∃ a w₁, x.run.run w = (.ok a, w₁) ∧ (f a).run.run w₁ = (.ok b, w') := by
  obtain ⟨r, w₁, hx⟩ : ∃ r w₁, x.run.run w = (r, w₁) := ⟨_, _, rfl⟩
  cases r with
  | ok a =>
    rw [run_bind_of_ok hx, hx]
    constructor
    · exact fun h => ⟨a, w₁, rfl, h⟩
    · rintro ⟨a', w₂, h, hf⟩
      cases h
      exact hf
  | error fault =>
    rw [run_bind_of_error hx, hx]
    constructor
    · intro h
      cases h
    · rintro ⟨a', w₂, h, -⟩
      cases h

theorem run_ite_throw_cases {c : Prop} [Decidable c] {f : α → Run β} {x : Run β}
    {r : Except Fault β} (h : (if c then throw fault >>= f else x).run.run w = (r, w')) :
    (r = .error fault ∧ w' = w) ∨ x.run.run w = (r, w') := by
  by_cases hc : c
  · rw [if_pos hc, run_bind_of_error (run_throw fault w)] at h
    cases h
    exact .inl ⟨rfl, rfl⟩
  · rw [if_neg hc] at h
    exact .inr h

/-- Two steps fail when the first does, or the second where the first has led. -/
theorem run_bind_eq_error_iff {x : Run α} {f : α → Run β} :
    (x >>= f).run.run w = (.error fault, w') ↔
      x.run.run w = (.error fault, w') ∨
        ∃ a w₁, x.run.run w = (.ok a, w₁) ∧ (f a).run.run w₁ = (.error fault, w') := by
  obtain ⟨r, w₁, hx⟩ : ∃ r w₁, x.run.run w = (r, w₁) := ⟨_, _, rfl⟩
  cases r with
  | ok a =>
    rw [run_bind_of_ok hx, hx]
    constructor
    · exact fun h => .inr ⟨a, w₁, rfl, h⟩
    · rintro (h | ⟨a', w₂, h, hf⟩)
      · cases h
      · cases h
        exact hf
  | error e =>
    rw [run_bind_of_error hx, hx]
    constructor
    · intro h
      cases h
      exact .inl rfl
    · rintro (h | ⟨a', w₂, h, -⟩)
      · cases h
        rfl
      · cases h

/-- Two steps end with the first where it fails, and else with the second. -/
theorem run_bind_cases {x : Run α} {f : α → Run β} {r : Except Fault β}
    (h : (x >>= f).run.run w = (r, w')) :
    (∃ fault, r = .error fault ∧ x.run.run w = (.error fault, w')) ∨
      ∃ a w₁, x.run.run w = (.ok a, w₁) ∧ (f a).run.run w₁ = (r, w') := by
  obtain ⟨r₁, w₁, hx⟩ : ∃ r₁ w₁, x.run.run w = (r₁, w₁) := ⟨_, _, rfl⟩
  cases r₁ with
  | ok a =>
    rw [run_bind_of_ok hx] at h
    exact .inr ⟨a, w₁, hx, h⟩
  | error fault =>
    rw [run_bind_of_error hx] at h
    cases h
    exact .inl ⟨fault, rfl, hx⟩

/-- After a question the world is as it was: its fault ends the action, or its answer is used. -/
theorem run_ask_bind_cases {question : Site → Except Fault α} {f : α → Run β} {r : Except Fault β}
    (h : (ask question >>= f).run.run w = (r, w')) :
    (∃ fault, question w.toSite = .error fault ∧ r = .error fault ∧ w' = w) ∨
      ∃ a, question w.toSite = .ok a ∧ (f a).run.run w = (r, w') := by
  have hask := run_ask question w
  cases ha : question w.toSite with
  | error fault =>
    rw [ha] at hask
    rw [run_bind_of_error hask] at h
    cases h
    exact .inl ⟨fault, rfl, rfl, rfl⟩
  | ok a =>
    rw [ha] at hask
    rw [run_bind_of_ok hask] at h
    exact .inr ⟨a, rfl, h⟩

theorem run_discard_ask_bind_cases {question : Site → Except Fault α} {f : PUnit → Run β}
    {r : Except Fault β} (h : (discard (ask question) >>= f).run.run w = (r, w')) :
    (∃ fault, question w.toSite = .error fault ∧ r = .error fault ∧ w' = w) ∨
      ∃ a, question w.toSite = .ok a ∧ (f ⟨⟩).run.run w = (r, w') := by
  rw [discard_eq_bind, bind_assoc] at h
  exact run_ask_bind_cases h

/-- A program is refused for what the system does not take, or runs and changes the files. -/
theorem run_launch_cases {program : Text} {arguments : List Text} {input : Bytes}
    {seconds : Option Float} {r : Except Fault Outcome}
    (h : (launch program arguments input seconds).run.run w = (r, w')) :
    (∃ fault, (program :: arguments).forM Site.check = .error fault ∧ r = .error fault ∧ w' = w) ∨
      (program :: arguments).forM Site.check = .ok () ∧
        ∃ launch : Launch, launch = ⟨program, arguments, input, w.environment, w.here, seconds⟩ ∧
          r = .ok (w.run launch w.files).1 ∧ w' = { w with files := (w.run launch w.files).2 } := by
  unfold launch at h
  rcases run_ask_bind_cases h with ⟨fault, hcheck, rfl, rfl⟩ | ⟨⟨⟩, hcheck, h⟩
  · exact .inl ⟨fault, hcheck, rfl, rfl⟩
  · cases h
    exact .inr ⟨hcheck, _, rfl, rfl, rfl⟩

theorem run_launch_bind_cases {program : Text} {arguments : List Text} {input : Bytes}
    {seconds : Option Float} {f : Outcome → Run β} {r : Except Fault β}
    (h : (launch program arguments input seconds >>= f).run.run w = (r, w')) :
    (∃ fault, (program :: arguments).forM Site.check = .error fault ∧ r = .error fault ∧ w' = w) ∨
      (program :: arguments).forM Site.check = .ok () ∧ ∃ (launch : Launch) (w₁ : World),
        launch = ⟨program, arguments, input, w.environment, w.here, seconds⟩ ∧
          w₁ = { w with files := (w.run launch w.files).2 } ∧
          (f (w.run launch w.files).1).run.run w₁ = (r, w') := by
  rcases run_bind_cases h with ⟨fault, rfl, hlaunch⟩ | ⟨outcome, w₁, hlaunch, h⟩
  · rcases run_launch_cases hlaunch with ⟨fault', hcheck, he, rfl⟩ | ⟨-, _, -, he, -⟩
    · cases he
      exact .inl ⟨_, hcheck, rfl, rfl⟩
    · cases he
  · rcases run_launch_cases hlaunch with ⟨_, -, he, -⟩ | ⟨hcheck, launch, hlaunched, he, rfl⟩
    · cases he
    · cases he
      exact .inr ⟨hcheck, launch, _, hlaunched, rfl, h⟩

theorem run_tryCatch_of_ok {x : Run α} {a : α} (h : x.run.run w = (.ok a, w'))
    (handle : Fault → Run α) : (tryCatch x handle).run.run w = (.ok a, w') := by
  change (ExceptT.tryCatch x handle).run.run w = _
  have hx : StateT.run x w = (.ok a, w') := h
  simp only [ExceptT.tryCatch, ExceptT.run_mk, StateT.run_bind, hx]
  rfl

theorem run_tryCatch_of_error {x : Run α} (h : x.run.run w = (.error fault, w'))
    (handle : Fault → Run α) :
    (tryCatch x handle).run.run w = (handle fault).run.run w' := by
  change (ExceptT.tryCatch x handle).run.run w = _
  have hx : StateT.run x w = (.error fault, w') := h
  simp only [ExceptT.tryCatch, ExceptT.run_mk, StateT.run_bind, hx]
  rfl

/-- An action with a handler ends as the action does, or fails and ends as the handler does. -/
theorem run_tryCatch_eq_iff {x : Run α} {handle : Fault → Run α} {r : Except Fault α} :
    (tryCatch x handle).run.run w = (r, w') ↔
      (∃ a, r = .ok a ∧ x.run.run w = (.ok a, w')) ∨
        ∃ fault w₁, x.run.run w = (.error fault, w₁) ∧ (handle fault).run.run w₁ = (r, w') := by
  obtain ⟨r₁, w₁, hx⟩ : ∃ r₁ w₁, x.run.run w = (r₁, w₁) := ⟨_, _, rfl⟩
  cases r₁ with
  | ok a =>
    rw [run_tryCatch_of_ok hx, hx]
    constructor
    · intro h
      cases h
      exact .inl ⟨a, rfl, rfl⟩
    · rintro (⟨a', rfl, h⟩ | ⟨e, w₂, h, -⟩)
      · exact h
      · cases h
  | error e =>
    rw [run_tryCatch_of_error hx, hx]
    constructor
    · exact fun h => .inr ⟨e, w₁, rfl, h⟩
    · rintro (⟨a', rfl, h⟩ | ⟨e', w₂, h, hf⟩)
      · cases h
      · cases h
        exact hf

theorem exists_run_eq {x : Run α} {r : Except Fault α} (h : (x.run.run w).1 = r) :
    ∃ w', x.run.run w = (r, w') :=
  ⟨(x.run.run w).2, Prod.ext h rfl⟩

theorem exists_run_eq_ok {x : Run α} (h : (x.run.run w).1.toOption.isSome = true) :
    ∃ a w', x.run.run w = (.ok a, w') := by
  cases hx : (x.run.run w).1 with
  | ok a => exact ⟨a, _, Prod.ext hx rfl⟩
  | error fault =>
    rw [hx] at h
    cases h

/-- What a call about a path gives, if the system takes the path. -/
def called (s : Site) (path : Text)
    (call : FileSystem → Location → Text → Except Errno FileSystem) : Except Fault FileSystem := do
  Site.check path
  Site.refuse path (call s.files s.here path)

theorem run_change (path : Text)
    (call : FileSystem → Location → Text → Except Errno FileSystem) (w : World) :
    (change path call).run.run w =
      match called w.toSite path call with
      | .ok files => (.ok (), { w with files := files })
      | .error fault => (.error fault, w) := by
  have hask := run_ask (called · path call) w
  change (ask (called · path call) >>= fun files =>
    modify fun w => { w with files := files }).run.run w = _
  cases h : called w.toSite path call with
  | ok files =>
    rw [h] at hask
    rw [run_bind_of_ok hask]
    rfl
  | error fault =>
    rw [h] at hask
    rw [run_bind_of_error hask]

theorem called_eq_ok_iff {s : Site} {path : Text}
    {call : FileSystem → Location → Text → Except Errno FileSystem} {files : FileSystem} :
    called s path call = .ok files ↔
      Site.check path = .ok () ∧ call s.files s.here path = .ok files := by
  rw [called, bind_eq_ok_iff]
  simp only [Site.refuse_eq_ok_iff]
  exact ⟨fun ⟨⟨⟩, hc, h⟩ => ⟨hc, h⟩, fun ⟨hc, h⟩ => ⟨(), hc, h⟩⟩

theorem run_change_eq_ok_iff {path : Text}
    {call : FileSystem → Location → Text → Except Errno FileSystem} :
    (change path call).run.run w = (.ok (), w') ↔
      ∃ files, Site.check path = .ok () ∧ call w.files w.here path = .ok files ∧
        w' = { w with files := files } := by
  rw [run_change]
  simp only [← and_assoc, ← called_eq_ok_iff]
  cases called w.toSite path call with
  | ok files =>
    constructor
    · intro h
      exact ⟨files, rfl, (congrArg Prod.snd h).symm⟩
    · rintro ⟨files', h, rfl⟩
      cases h
      rfl
  | error e =>
    constructor
    · intro h
      cases h
    · rintro ⟨files', h, -⟩
      cases h

theorem run_change_eq_error {path : Text}
    {call : FileSystem → Location → Text → Except Errno FileSystem}
    (h : (change path call).run.run w = (.error fault, w')) : w = w' := by
  rw [run_change] at h
  split at h
  · cases h
  · exact congrArg Prod.snd h

/-- A text without an encoding only empties the file. One with an encoding is written as a whole, or
as far as the system takes it, which is a fault that names no path. -/
theorem run_writeText_cases {p : Path} {t : Text} {r : Except Fault Unit}
    (h : (writeText p t).run.run w = (r, w')) :
    (Text.Utf8.encode? t = none ∧ (writeBytes p [] >>= fun _ => throw .notEncodable).run.run w =
        (r, w')) ∨
      ∃ bytes, Text.Utf8.encode? t = some bytes ∧
        ((w.refusal w.toSite p.toText bytes = none ∧ (writeBytes p bytes).run.run w = (r, w')) ∨
          ∃ refusal, w.refusal w.toSite p.toText bytes = some refusal ∧
            (writeBytes p (bytes.take refusal.count) >>= fun _ =>
              throw (.pathless refusal.errno)).run.run w = (r, w')) := by
  unfold writeText at h
  split at h
  · rename_i bytes hbytes
    refine .inr ⟨bytes, hbytes, ?_⟩
    rw [run_get_bind] at h
    split at h
    · exact .inl ⟨‹_›, h⟩
    · exact .inr ⟨_, ‹_›, h⟩
  · exact .inl ⟨‹_›, h⟩

theorem run_bind_throw_ne_ok {x : Run α} {b : β} :
    (x >>= fun _ => (throw fault : Run β)).run.run w ≠ (.ok b, w') := by
  intro h
  obtain ⟨_, _, -, hthrow⟩ := run_bind_eq_ok_iff.1 h
  cases hthrow

theorem run_writeText_eq_ok {p : Path} {t : Text} (h : (writeText p t).run.run w = (.ok (), w')) :
    ∃ bytes, Text.Utf8.encode? t = some bytes ∧ (writeBytes p bytes).run.run w = (.ok (), w') := by
  rcases run_writeText_cases h with ⟨-, h⟩ | ⟨bytes, hbytes, ⟨-, h⟩ | ⟨refusal, -, h⟩⟩
  · exact absurd h run_bind_throw_ne_ok
  · exact ⟨bytes, hbytes, h⟩
  · exact absurd h run_bind_throw_ne_ok

/-- Whatever the world is, `R` leads from it to the one that an action leaves, unless the action fails
with a fault that is not among the `told` ones. -/
def Within (R : World → World → Prop) (Told : Fault → Prop) (x : Run α) : Prop :=
  ∀ w r w', x.run.run w = (r, w') → (∀ fault, r = .error fault → Told fault) → R w w'

/-- An action fails with no other faults than these. -/
def FailsWith (Q : Fault → Prop) (x : Run α) : Prop :=
  ∀ w fault w', x.run.run w = (.error fault, w') → Q fault

section Within

variable {R : World → World → Prop} {Told : Fault → Prop}

theorem within_pure (hR : ∀ w, R w w) (a : α) : Within R Told (pure a : Run α) := by
  intro w r w' h _
  obtain rfl : w = w' := congrArg Prod.snd h
  exact hR w

theorem within_throw (hR : ∀ w, R w w) (fault : Fault) : Within R Told (throw fault : Run α) := by
  intro w r w' h _
  obtain rfl : w = w' := congrArg Prod.snd h
  exact hR w

theorem within_ask (hR : ∀ w, R w w) (question : Site → Except Fault α) :
    Within R Told (ask question) := by
  intro w r w' h _
  rw [run_ask] at h
  obtain rfl : w = w' := congrArg Prod.snd h
  exact hR w

theorem Within.comp {S T : World → World → Prop} (hleft : ∀ a b, R a b → T a b)
    (hT : ∀ a b c, R a b → S b c → T a c) {x : Run α} {f : α → Run β}
    (hx : Within R Told x) (hf : ∀ a, Within S Told (f a)) : Within T Told (x >>= f) := by
  intro w r w' h htold
  cases r with
  | ok b =>
    obtain ⟨a, w₁, hx', hf'⟩ := run_bind_eq_ok_iff.1 h
    have hfirst : R w w₁ := hx w _ w₁ hx' fun _ he => by cases he
    exact hT _ _ _ hfirst (hf a w₁ _ w' hf' fun _ he => by cases he)
  | error fault =>
    have hfault : Told fault := htold fault rfl
    rcases run_bind_eq_error_iff.1 h with hx' | ⟨a, w₁, hx', hf'⟩
    · exact hleft _ _ (hx w _ w' hx' fun _ he => Except.error.inj he ▸ hfault)
    · have hfirst : R w w₁ := hx w _ w₁ hx' fun _ he => by cases he
      exact hT _ _ _ hfirst (hf a w₁ _ w' hf' fun _ he => Except.error.inj he ▸ hfault)

theorem Within.bind (hR : ∀ a b c, R a b → R b c → R a c) {x : Run α} {f : α → Run β}
    (hx : Within R Told x) (hf : ∀ a, Within R Told (f a)) : Within R Told (x >>= f) :=
  hx.comp (fun _ _ => id) hR hf

theorem Within.bind_still {x : Run α} {f : α → Run β} (hx : Within R Told x)
    (hf : ∀ a, Within Eq Told (f a)) : Within R Told (x >>= f) :=
  hx.comp (fun _ _ => id) (fun _ _ _ h he => he ▸ h) hf

theorem Within.still_bind (hR : ∀ w, R w w) {x : Run α} {f : α → Run β} (hx : Within Eq Told x)
    (hf : ∀ a, Within R Told (f a)) : Within R Told (x >>= f) :=
  hx.comp (fun a _ he => he ▸ hR a) (fun _ _ _ he h => he ▸ h) hf

theorem Within.discard {x : Run α} (hx : Within R Told x) : Within R Told (Functor.discard x) := by
  rw [discard_eq_bind]
  exact hx.bind_still fun _ => within_pure (fun _ => rfl) _

/-- A handler has to be known for the faults that come to it, which are all of them. -/
theorem Within.tryCatch (hR : ∀ a b c, R a b → R b c → R a c) {x : Run α}
    {handle : Fault → Run α} (hx : Within R (fun _ => True) x)
    (hh : ∀ fault, Within R (fun _ => True) (handle fault)) :
    Within R (fun _ => True) (MonadExcept.tryCatch x handle) := by
  intro w r w' h _
  rcases run_tryCatch_eq_iff.1 h with ⟨a, -, hx'⟩ | ⟨fault, w₁, hx', hh'⟩
  · exact hx w _ w' hx' fun _ _ => trivial
  · exact hR _ _ _ (hx w _ w₁ hx' fun _ _ => trivial) (hh fault w₁ _ w' hh' fun _ _ => trivial)

theorem Within.forIn (hrefl : ∀ w, R w w) (hR : ∀ a b c, R a b → R b c → R a c) {l : List α}
    {step : α → β → Run (ForInStep β)} (h : ∀ a ∈ l, ∀ b, Within R Told (step a b)) (b : β) :
    Within R Told (ForIn.forIn l b step) := by
  induction l generalizing b with
  | nil => exact within_pure hrefl b
  | cons a l ih =>
    rw [List.forIn_cons]
    refine Within.bind hR (h a List.mem_cons_self b) fun next => ?_
    cases next with
    | done b => exact within_pure hrefl b
    | yield b => exact ih (fun a' ha' => h a' (List.mem_cons_of_mem a ha')) b

theorem within_change (hR : ∀ w, R w w) {path : Text}
    {call : FileSystem → Location → Text → Except Errno FileSystem}
    (h : ∀ (w : World) (files : FileSystem), call w.files w.here path = .ok files →
      R w { w with files := files }) :
    Within R Told (change path call) := by
  intro w r w' hrun _
  cases r with
  | ok =>
    obtain ⟨files, -, hcall, rfl⟩ := run_change_eq_ok_iff.1 hrun
    exact h w files hcall
  | error fault =>
    obtain rfl := run_change_eq_error hrun
    exact hR w

end Within

section FailsWith

variable {Q : Fault → Prop}

theorem FailsWith.mono {Q' : Fault → Prop} {x : Run α} (h : FailsWith Q x)
    (hq : ∀ fault, Q fault → Q' fault) : FailsWith Q' x :=
  fun w fault w' hrun => hq fault (h w fault w' hrun)

theorem failsWith_pure (a : α) : FailsWith Q (pure a : Run α) := fun _ _ _ h => by cases h

theorem failsWith_throw (h : Q fault) : FailsWith Q (throw fault : Run α) := by
  intro w e w' hrun
  obtain rfl : fault = e := Except.error.inj (congrArg Prod.fst hrun)
  exact h

theorem failsWith_ask {question : Site → Except Fault α}
    (h : ∀ s fault, question s = .error fault → Q fault) : FailsWith Q (ask question) := by
  intro w fault w' hrun
  rw [run_ask] at hrun
  exact h _ _ (congrArg Prod.fst hrun)

theorem FailsWith.bind {x : Run α} {f : α → Run β} (hx : FailsWith Q x)
    (hf : ∀ a, FailsWith Q (f a)) : FailsWith Q (x >>= f) := by
  intro w fault w' h
  rcases run_bind_eq_error_iff.1 h with h | ⟨a, w₁, -, h⟩
  · exact hx w fault w' h
  · exact hf a w₁ fault w' h

theorem FailsWith.discard {x : Run α} (hx : FailsWith Q x) : FailsWith Q (Functor.discard x) := by
  rw [discard_eq_bind]
  exact hx.bind fun _ => failsWith_pure _

theorem FailsWith.ite {c : Prop} [Decidable c] {x y : Run α} (hx : FailsWith Q x)
    (hy : FailsWith Q y) : FailsWith Q (if c then x else y) := by
  split
  · exact hx
  · exact hy

theorem FailsWith.forIn {l : List α} {step : α → β → Run (ForInStep β)}
    (h : ∀ a b, FailsWith Q (step a b)) (b : β) : FailsWith Q (ForIn.forIn l b step) := by
  induction l generalizing b with
  | nil => exact failsWith_pure b
  | cons a l ih =>
    rw [List.forIn_cons]
    refine (h a b).bind fun next => ?_
    cases next with
    | done b => exact failsWith_pure b
    | yield b => exact ih b

theorem FailsWith.tryCatch {x : Run α} {handle : Fault → Run α} (hx : FailsWith Q x)
    (hh : ∀ fault, Q fault → FailsWith Q (handle fault)) :
    FailsWith Q (MonadExcept.tryCatch x handle) := by
  intro w fault w' h
  rcases run_tryCatch_eq_iff.1 h with ⟨a, h, -⟩ | ⟨e, w₁, hx', h⟩
  · cases h
  · exact hh e (hx w e w₁ hx') w₁ fault w' h

end FailsWith

section Lift

variable {c c' : σ}

theorem run_liftM (x : Run α) (c : σ) :
    (liftM x : StateT σ Run α).run c = x >>= fun a => pure (a, c) := rfl

theorem run_liftM_eq_ok_iff {x : Run α} {a : α} :
    ((liftM x : StateT σ Run α).run c).run.run w = (.ok (a, c'), w') ↔
      x.run.run w = (.ok a, w') ∧ c = c' := by
  rw [run_liftM, run_bind_eq_ok_iff]
  simp only [run_pure_eq_ok_iff, Prod.mk.injEq]
  constructor
  · rintro ⟨a', w₁, hx, ⟨rfl, rfl⟩, rfl⟩
    exact ⟨hx, rfl⟩
  · rintro ⟨hx, rfl⟩
    exact ⟨a, w', hx, ⟨rfl, rfl⟩, rfl⟩

theorem run_liftM_eq_error_iff {x : Run α} :
    ((liftM x : StateT σ Run α).run c).run.run w = (.error fault, w') ↔
      x.run.run w = (.error fault, w') := by
  rw [run_liftM, run_bind_eq_error_iff]
  refine or_iff_left ?_
  rintro ⟨a, w₁, -, h⟩
  cases h

end Lift

end World

end DocPress
