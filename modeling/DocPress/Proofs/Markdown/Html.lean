import DocPress.Markdown.Html

namespace DocPress.Markdown.Token

/-- The pieces of the tokens of a stream that stands after `previous`. -/
def pieces (previous : Option Token) : List Token → List Text
  | [] => []
  | t :: rest => t.piece previous rest.head? :: pieces (some t) rest

theorem html_eq_flatten_pieces (previous : Option Token) (ts : List Token) :
    html previous ts = (pieces previous ts).flatten := by
  induction ts generalizing previous with
  | nil => rfl
  | cons t rest ih => rw [html, ih, pieces, List.flatten_cons]

theorem length_pieces (previous : Option Token) (ts : List Token) :
    (pieces previous ts).length = ts.length := by
  induction ts generalizing previous with
  | nil => rfl
  | cons t rest ih => rw [pieces, List.length_cons, ih, List.length_cons]

/-- The token before the one at `i` in a stream that stands after `previous`. -/
def before (previous : Option Token) (ts : List Token) : Nat → Option Token
  | 0 => previous
  | i + 1 => ts[i]?

theorem getElem?_pieces (previous : Option Token) (ts : List Token) (i : Nat) :
    (pieces previous ts)[i]? =
      ts[i]?.map fun t => t.piece (before previous ts i) ts[i + 1]? := by
  induction ts generalizing previous i with
  | nil => rfl
  | cons t rest ih =>
    cases i with
    | zero =>
      rw [pieces, List.head?_eq_getElem?]
      rfl
    | succ i =>
      have hb : before (some t) rest i = before previous (t :: rest) (i + 1) := by
        cases i <;> rfl
      rw [pieces, List.getElem?_cons_succ, ih, hb]
      rfl

/-- What is seen of a token from the ones next to it. -/
structure Seen where
  hidden : Bool
  isInline : Bool
  /-- The tag of a closing token. -/
  closed : Option Text

def seen (t : Token) : Seen :=
  { hidden := t.hidden, isInline := t.element = .inline
    closed := if t.place = .closing then some t.element.tag else none }

theorem breaksAfter_eq (t : Token) (next : Option Token) :
    t.breaksAfter next = (t.element.isBlock &&
      !(t.place = .opening && (next.map seen).any fun s =>
        s.isInline || s.hidden || s.closed == some t.element.tag)) := by
  cases next with
  | none => rfl
  | some n =>
    by_cases hc : n.place = .closing
    · simp [breaksAfter, seen, hc]
    · simp [breaksAfter, seen, hc]

variable {previous previous' next next' : Option Token}

theorem tagHtml_congr (hp : previous.map seen = previous'.map seen)
    (hn : next.map seen = next'.map seen) (t : Token) :
    tagHtml previous t next = tagHtml previous' t next' := by
  have hh : previous.any (·.hidden) = previous'.any (·.hidden) := by
    have h : ∀ o : Option Token, o.any (·.hidden) = (o.map seen).any (·.hidden) := by
      intro o
      cases o <;> rfl
    rw [h, hp, ← h]
  rw [tagHtml, tagHtml, breaksAfter_eq, breaksAfter_eq, hh, hn]

/-- Tokens that are seen alike may be put next to another without a change of its piece. -/
theorem piece_congr (hp : previous.map seen = previous'.map seen)
    (hn : next.map seen = next'.map seen) (t : Token) :
    t.piece previous next = t.piece previous' next' := by
  obtain ⟨element, place, attributes, lines, level, content, info, hidden, children⟩ := t
  cases element <;> simp only [piece]
  all_goals exact tagHtml_congr hp hn _

theorem map_seen_before (hp : previous.map seen = previous'.map seen) {ts ts' : List Token}
    (h : ts.map seen = ts'.map seen) (i : Nat) :
    (before previous ts i).map seen = (before previous' ts' i).map seen := by
  cases i with
  | zero => exact hp
  | succ i => rw [before, before, ← List.getElem?_map, h, List.getElem?_map]

/-- In two streams whose tokens are seen alike, equal tokens at a position have equal pieces. -/
theorem getElem?_pieces_congr (hp : previous.map seen = previous'.map seen) {ts ts' : List Token}
    (h : ts.map seen = ts'.map seen) {i : Nat} (hi : ts[i]? = ts'[i]?) :
    (pieces previous ts)[i]? = (pieces previous' ts')[i]? := by
  have hnext : ts[i + 1]?.map seen = ts'[i + 1]?.map seen := by
    rw [← List.getElem?_map, h, List.getElem?_map]
  rw [getElem?_pieces, getElem?_pieces, hi]
  cases ts'[i]? with
  | none => rfl
  | some t => exact congrArg some (piece_congr (map_seen_before hp h i) hnext t)

end DocPress.Markdown.Token
