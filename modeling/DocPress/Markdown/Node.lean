import DocPress.Markdown.Token

namespace DocPress.Markdown

inductive Node where
  /-- A token that stands alone, with the elements in its text. -/
  | leaf (token : Token) (children : List Node)
  | nest (opening : Token) (children : List Node) (closing : Token)

namespace Node

/-- An opening token and the nodes after it, the last one first, that wait for a closing token. -/
abbrev Pending := Token × List Node

/-- Opening tokens that were never closed stand alone. -/
def unfinished : List Pending → List Node → List Node
  | [], done => done.reverse
  | (opening, before) :: pending, done => unfinished pending (done ++ .leaf opening [] :: before)

mutual

def ofToken : Token → Node
  | t@{ children, .. } => .leaf t (groupFrom [] [] children)

/-- Groups tokens into nodes. A closing token that closes nothing stands alone. -/
def groupFrom (pending : List Pending) (done : List Node) : List Token → List Node
  | [] => unfinished pending done
  | t :: rest =>
    match t.place with
    | .alone => groupFrom pending (ofToken t :: done) rest
    | .opening => groupFrom ((t, done) :: pending) [] rest
    | .closing =>
      match pending with
      | [] => groupFrom [] (.leaf t [] :: done) rest
      | (opening, before) :: pending =>
        groupFrom pending (.nest opening done.reverse t :: before) rest

end

def group (tokens : List Token) : List Node := groupFrom [] [] tokens

mutual

/-- The tokens of a node; those in the text of a leaf are part of its token. -/
def tokens : Node → List Token
  | leaf t _ => [t]
  | nest opening children closing => opening :: (flatten children ++ [closing])

def flatten : List Node → List Token
  | [] => []
  | n :: rest => n.tokens ++ flatten rest

end

theorem flatten_append (a b : List Node) : flatten (a ++ b) = flatten a ++ flatten b := by
  induction a with
  | nil => rfl
  | cons n rest ih => simp [flatten, ih]

theorem tokens_ofToken (t : Token) : (ofToken t).tokens = [t] := by
  cases t; simp [ofToken, tokens]

/-- The tokens that have been read when `pending` and `done` stand for them. -/
def read : List Pending → List Node → List Token
  | [], done => flatten done.reverse
  | (opening, before) :: pending, done => read pending before ++ opening :: flatten done.reverse

theorem read_cons (pending : List Pending) (n : Node) (done : List Node) :
    read pending (n :: done) = read pending done ++ n.tokens := by
  cases pending <;> simp [read, flatten_append, flatten]

theorem flatten_unfinished (pending : List Pending) (done : List Node) :
    flatten (unfinished pending done) = read pending done := by
  induction pending generalizing done with
  | nil => rfl
  | cons p pending ih =>
    obtain ⟨opening, before⟩ := p
    have h : ∀ done : List Node, read pending (done ++ leaf opening [] :: before) =
        read pending before ++ opening :: flatten done.reverse := by
      intro done
      cases pending <;> simp [read, flatten_append, flatten, tokens]
    simp [unfinished, ih, h, read]

theorem flatten_groupFrom (pending : List Pending) (done : List Node) (ts : List Token) :
    flatten (groupFrom pending done ts) = read pending done ++ ts := by
  induction ts generalizing pending done with
  | nil => simp [groupFrom, flatten_unfinished]
  | cons t rest ih =>
    rw [groupFrom.eq_def]; dsimp only
    split
    · simp [ih, read_cons, tokens_ofToken]
    · simp [ih, read, flatten]
    · split
      · simp [ih, read_cons, tokens]
      · simp [ih, read_cons, read, tokens]

theorem flatten_group (ts : List Token) : flatten (group ts) = ts := by
  simp [group, flatten_groupFrom, read, flatten]

end Node

end DocPress.Markdown
