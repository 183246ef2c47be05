import DocPress.Build
import DocPress.Proofs.Diagram.Simulation
import DocPress.Proofs.World.Running

namespace DocPress.Build

open World

section Stages

variable {m : Type → Type} [Monad m] [MonadLiftT Run m]

/-- What comes before anything is written: the format and the page. -/
def prepare (render : Text → m Text) (project : Project) (format : Text) : m (Format × Text) := do
  let format ← liftM (World.ask fun _ => match Format.named.lookup format with
    | some format => .ok format
    | none => .error (.project (.unknownFormat format)))
  let document ← compileDocument render project.entryPath
  let page ← liftM (World.ask (Template.page · project.templatePath document))
  return (format, page)

def finish (settings : Settings) (project : Project) (format : Format) (page : Text) :
    Run Product := do
  let file ← writePage project page
  match format with
  | .html => return ⟨file, none⟩
  | .pdf => return ⟨file, some (← writePdf settings project file)⟩

theorem build_eq [LawfulMonad m] [LawfulMonadLiftT Run m] (settings : Settings)
    (render : Text → m Text) (project : Project) (format : Text) :
    build settings render project format =
      prepare render project format >>= fun (format, page) =>
        liftM (finish settings project format page) := by
  unfold build prepare finish
  simp only [bind_assoc, pure_bind, liftM_bind]
  refine bind_congr fun format => bind_congr fun document => bind_congr fun page =>
    bind_congr fun file => ?_
  cases format
  · simp only [liftM_bind, liftM_pure]
  · simp only [liftM_pure]

end Stages

variable {σ : Type} {settings : Settings} {render : Text → StateT σ Run Text} {project : Project}
  {format : Text} {c c' : σ} {w w' : World} {product : Product} {fault : Fault}

theorem run_build_eq_ok_iff :
    ((build settings render project format).run c).run.run w = (.ok (product, c'), w') ↔
      ∃ format' page w₁,
        ((prepare render project format).run c).run.run w = (.ok ((format', page), c'), w₁) ∧
          (finish settings project format' page).run.run w₁ = (.ok product, w') := by
  rw [build_eq, StateT.run_bind, run_bind_eq_ok_iff]
  constructor
  · rintro ⟨⟨⟨format', page⟩, c₁⟩, w₁, hp, hf⟩
    obtain ⟨hfinish, rfl⟩ := run_liftM_eq_ok_iff.1 hf
    exact ⟨format', page, w₁, hp, hfinish⟩
  · rintro ⟨format', page, w₁, hp, hf⟩
    exact ⟨((format', page), c'), w₁, hp, run_liftM_eq_ok_iff.2 ⟨hf, rfl⟩⟩

theorem run_build_eq_error_iff :
    ((build settings render project format).run c).run.run w = (.error fault, w') ↔
      ((prepare render project format).run c).run.run w = (.error fault, w') ∨
        ∃ format' page c₁ w₁,
          ((prepare render project format).run c).run.run w = (.ok ((format', page), c₁), w₁) ∧
            (finish settings project format' page).run.run w₁ = (.error fault, w') := by
  rw [build_eq, StateT.run_bind, run_bind_eq_error_iff]
  refine or_congr_right ?_
  constructor
  · rintro ⟨⟨⟨format', page⟩, c₁⟩, w₁, hp, hf⟩
    exact ⟨format', page, c₁, w₁, hp, run_liftM_eq_error_iff.1 hf⟩
  · rintro ⟨format', page, c₁, w₁, hp, hf⟩
    exact ⟨((format', page), c₁), w₁, hp, run_liftM_eq_error_iff.2 hf⟩

theorem run_prepare_eq_ok {format' : Format} {page : Text}
    (h : ((prepare render project format).run c).run.run w = (.ok ((format', page), c'), w')) :
    Format.named.lookup format = some format' ∧ ∃ document content,
      ((compileDocument render project.entryPath).run c).run.run w = (.ok (document, c'), w') ∧
      w'.toSite.readText project.templatePath = .ok content ∧
      page = Template.fill Template.contentName content document := by
  unfold prepare at h
  simp only [StateT.run_bind] at h
  -- Of the three steps only the second, which composes and draws, changes the world.
  obtain ⟨⟨format'', c₁⟩, w₁, hformat, h⟩ := run_bind_eq_ok_iff.1 h
  obtain ⟨hnamed, rfl⟩ := run_liftM_eq_ok_iff.1 hformat
  rw [run_ask] at hnamed
  obtain rfl : w = w₁ := congrArg Prod.snd hnamed
  obtain ⟨⟨document, c₂⟩, w₂, hdocument, h⟩ := run_bind_eq_ok_iff.1 h
  obtain ⟨⟨page', c₃⟩, w₃, hpage, h⟩ := run_bind_eq_ok_iff.1 h
  obtain ⟨hfilled, rfl⟩ := run_liftM_eq_ok_iff.1 hpage
  rw [run_ask] at hfilled
  obtain rfl : w₂ = w₃ := congrArg Prod.snd hfilled
  obtain ⟨⟨⟨rfl, rfl⟩, rfl⟩, rfl⟩ : ((format'' = format' ∧ page' = page) ∧ c₂ = c') ∧ w₂ = w' := by
    simpa using run_pure_eq_ok_iff.1 h
  constructor
  · have hlookup := congrArg Prod.fst hnamed
    dsimp only at hlookup
    split at hlookup
    · obtain rfl := Except.ok.inj hlookup
      assumption
    · cases hlookup
  · have hfill := congrArg Prod.fst hfilled
    unfold Template.page at hfill
    cases hread : w₂.toSite.readText project.templatePath with
    | ok content =>
      rw [hread] at hfill
      exact ⟨document, content, hdocument, rfl, (Except.ok.inj hfill).symm⟩
    | error fault =>
      rw [hread] at hfill
      cases fault <;> cases hfill

section Within

variable {R : World → World → Prop} {Told : Fault → Prop}

theorem within_run_liftM {α : Type} {x : Run α} (h : Within R Told x) (c : σ) :
    Within R Told ((liftM x : StateT σ Run α).run c) := by
  rw [run_liftM]
  exact h.bind_still fun _ => within_pure (fun _ => rfl) _

theorem within_compile (hrefl : ∀ w, R w w) (htrans : ∀ a b c, R a b → R b c → R a c)
    (h : ∀ source c, Within R Told ((render source).run c)) (markdown : Text) (c : σ) :
    Within R Told ((compile (some render) markdown).run c) := by
  -- Nothing is said of the renderer beside it.
  have hsim : Diagram.Simulates (m := StateT σ Run) (n := Id)
      fun _ x _ => ∀ c, Within R Told (x.run c) := by
    refine ⟨fun a c => within_pure hrefl _, fun hx hf c => ?_⟩
    rw [StateT.run_bind]
    exact (hx c).bind htrans fun ⟨a, c⟩ => hf a c
  exact Diagram.compile_related hsim render (fun source => source) (fun source => h source) markdown c

theorem within_prepare (hrefl : ∀ w, R w w) (htrans : ∀ a b c, R a b → R b c → R a c)
    (h : ∀ source c, Within R Told ((render source).run c)) (project : Project) (format : Text)
    (c : σ) : Within R Told ((prepare render project format).run c) := by
  unfold prepare compileDocument
  simp only [StateT.run_bind]
  refine (within_run_liftM (within_ask hrefl _) c).bind htrans fun a => ?_
  refine Within.bind htrans (Within.bind htrans (within_run_liftM (within_ask hrefl _) _)
    fun b => within_compile hrefl htrans h _ _) fun b => ?_
  exact (within_run_liftM (within_ask hrefl _) _).bind htrans fun _ => within_pure hrefl _

end Within

def pictureless (_ : Text) : StateT Unit Run Text := pure []

end DocPress.Build
