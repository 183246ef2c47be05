import DocPress.Text.Blank

namespace DocPress.Text

inductive Pattern where
  | point (accepts : CodePoint → Bool)
  | literal (t : Text)
  | sequence (first second : Pattern)
  | choice (first second : Pattern)
  /-- At most so many items. -/
  | upTo (count : Nat) (item : Pattern)
  /-- Any number of items, none of which matches the empty text. -/
  | many (item : Pattern)

namespace Pattern

def optional (p : Pattern) : Pattern := .upTo 1 p

def sequences : List Pattern → Pattern
  | [] => .literal []
  | [p] => p
  | p :: ps => .sequence p (sequences ps)

def repeatMatch (item : Text → (Text → Option Text) → Option Text) :
    Nat → Text → (Text → Option Text) → Option Text
  | 0, t, next => next t
  | count + 1, t, next =>
    match item t fun rest => repeatMatch item count rest next with
    | some r => some r
    | none => next t

/-- Tries the ways in which the pattern matches at the beginning of the text, the preferred ones
first, until `next` accepts what is left. -/
def matchThen : Pattern → Text → (Text → Option Text) → Option Text
  | point accepts, t, next =>
    match t with
    | [] => none
    | c :: rest => if accepts c then next rest else none
  | literal word, t, next => (Text.after? word t).bind next
  | sequence p q, t, next => p.matchThen t fun rest => q.matchThen rest next
  | choice p q, t, next =>
    match p.matchThen t next with
    | some r => some r
    | none => q.matchThen t next
  | upTo count item, t, next => repeatMatch item.matchThen count t next
  | many item, t, next => repeatMatch item.matchThen t.length t next

def after? (p : Pattern) (t : Text) : Option Text := p.matchThen t some

def read? (p : Pattern) (t : Text) : Option (Text × Text) :=
  (p.after? t).map fun rest => (t.take (t.length - rest.length), rest)

/-- The pattern matches the whole text, but for a newline that may end it. -/
def matchesLine (p : Pattern) (t : Text) : Bool :=
  (p.matchThen t fun rest => if rest = [] ∨ rest = text "\n" then some rest else none).isSome

end Pattern

end DocPress.Text
