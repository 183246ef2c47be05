import DocPress.Diagram

namespace DocPress

open Markdown

namespace Diagram

variable {m n : Type → Type} [Monad m] [Monad n]

/-- A relation between actions that goes along with their composition. -/
structure Simulates (R : ∀ α : Type, m α → n α → Prop) : Prop where
  pure {α : Type} (a : α) : R α (Pure.pure a : m α) (Pure.pure a : n α)
  bind {α β : Type} {x : m α} {y : n α} {f : α → m β} {g : α → n β} :
    R α x y → (∀ a, R β (f a) (g a)) → R β (x >>= f) (y >>= g)

variable {R : ∀ α : Type, m α → n α → Prop} {render : Text → m Text} {render' : Text → n Text}

theorem discard_bind [LawfulMonad m] {α β : Type} (x : m α) (f : PUnit → m β) :
    (discard x >>= f) = x >>= fun _ => f ⟨⟩ := by
  rw [discard, LawfulFunctor.map_const, Function.comp_apply, bind_map_left]

mutual

theorem substituteNode_related [LawfulMonad m] [LawfulMonad n] (hR : Simulates R)
    (h : ∀ source, R _ (render source) (render' source)) :
    ∀ node : Node, R _ (substituteNode render node) (substituteNode render' node)
  | .leaf t children => by
    have hc := substitute_related hR h children
    simp only [substituteNode, discard_bind]
    split
    · exact hR.bind (h _) fun _ => hR.bind hc fun _ => hR.pure _
    · exact hR.bind hc fun _ => hR.pure _
  | .nest opening children closing => by
    simp only [substituteNode]
    exact hR.bind (substitute_related hR h children) fun _ => hR.pure _

theorem substitute_related [LawfulMonad m] [LawfulMonad n] (hR : Simulates R)
    (h : ∀ source, R _ (render source) (render' source)) :
    ∀ nodes : List Node, R _ (substitute render nodes) (substitute render' nodes)
  | [] => by
    simp only [substitute]
    exact hR.pure _
  | node :: rest => by
    simp only [substitute]
    exact hR.bind (substituteNode_related hR h node) fun _ =>
      hR.bind (substitute_related hR h rest) fun _ => hR.pure _

end

/-- Documents compiled with two renderers are related as the renderers are. -/
theorem compile_related [LawfulMonad m] [LawfulMonad n] (hR : Simulates R)
    (render : Text → m Text) (render' : Text → n Text)
    (h : ∀ source, R _ (render source) (render' source)) (markdown : Text) :
    R _ (compile (some render) markdown) (compile (some render') markdown) :=
  hR.bind (substitute_related hR h _) fun _ => hR.pure _

end Diagram

end DocPress
