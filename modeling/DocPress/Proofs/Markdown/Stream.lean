import DocPress.Diagram

namespace DocPress.Markdown

/-- The element is one token; all others are an opening and a closing one. -/
def Element.isSingle : Element → Bool
  | .thematicBreak | .codeBlock | .fence | .htmlBlock | .inline | .text | .escapedText | .softBreak
  | .hardBreak | .code | .htmlInline | .image => true
  | .paragraph | .heading _ | .blockquote | .bulletList | .orderedList | .listItem | .table
  | .tableHead | .tableBody | .tableRow | .headerCell | .cell | .emphasis | .strong
  | .strikethrough | .link => false

/-- Every opening token has its closing one, and nothing is between them but nested tokens. -/
inductive Nested : List Token → Prop
  | nil : Nested []
  | single {t : Token} {rest : List Token} :
      t.place = .alone → t.element.isSingle = true → Nested rest → Nested (t :: rest)
  | pair {opening closing : Token} {inner rest : List Token} :
      opening.place = .opening → closing.place = .closing → closing.element = opening.element →
      opening.element.isSingle = false → Nested inner → Nested rest →
      Nested (opening :: (inner ++ closing :: rest))

namespace Token

mutual

def within : Token → List Token
  | { children, .. } => allTokens children

def allTokens : List Token → List Token
  | [] => []
  | t :: rest => t :: (t.within ++ allTokens rest)

end

theorem mem_allTokens {ts : List Token} {u : Token} :
    u ∈ allTokens ts ↔ ∃ t ∈ ts, u = t ∨ u ∈ t.within := by
  induction ts with
  | nil => simp [allTokens]
  | cons t rest ih => simp [allTokens, ih, or_assoc]

end Token

open Node Token

namespace Nested

theorem append {a b : List Token} (ha : Nested a) (hb : Nested b) : Nested (a ++ b) := by
  induction ha with
  | nil => exact hb
  | single hp hs _ ih => exact .single hp hs ih
  | @pair opening closing inner rest ho hc he hs hi _ _ ihr =>
    rw [List.cons_append, List.append_assoc, List.cons_append]
    exact .pair ho hc he hs hi ihr

theorem map {ts : List Token} (h : Nested ts) {f : Token → Token}
    (hp : ∀ t, (f t).place = t.place) (he : ∀ t, (f t).element = t.element) :
    Nested (ts.map f) := by
  induction h with
  | nil => exact .nil
  | single hplace hs _ ih => exact .single (by rw [hp, hplace]) (by rw [he, hs]) ih
  | pair ho hc hec hs _ _ ihi ihr =>
    rw [List.map_cons, List.map_append, List.map_cons]
    exact .pair (by rw [hp, ho]) (by rw [hp, hc]) (by rw [he, he, hec]) (by rw [he, hs]) ihi ihr

theorem place_eq {ts : List Token} (h : Nested ts) :
    ∀ t ∈ ts, t.element.isSingle = true → t.place = .alone := by
  induction h with
  | nil => exact List.forall_mem_nil _
  | single hp _ _ ih => exact List.forall_mem_cons.2 ⟨fun _ => hp, ih⟩
  | pair _ _ he hs _ _ ihi ihr =>
    have hno : ∀ {t : Token} {p : Prop}, t.element.isSingle = false →
        t.element.isSingle = true → p := by
      intro t p hf ht
      rw [hf] at ht
      cases ht
    refine List.forall_mem_cons.2 ⟨hno hs, List.forall_mem_append.2 ⟨ihi, ?_⟩⟩
    exact List.forall_mem_cons.2 ⟨hno (by rw [he, hs]), ihr⟩

end Nested

theorem groupFrom_alone {t : Token} (hp : t.place = .alone) (pending : List Pending)
    (done : List Node) (rest : List Token) :
    groupFrom pending done (t :: rest) = groupFrom pending (ofToken t :: done) rest := by
  rw [groupFrom.eq_def]
  simp only [hp]

theorem groupFrom_opening {t : Token} (hp : t.place = .opening) (pending : List Pending)
    (done : List Node) (rest : List Token) :
    groupFrom pending done (t :: rest) = groupFrom ((t, done) :: pending) [] rest := by
  rw [groupFrom.eq_def]
  simp only [hp]

theorem groupFrom_closing {opening t : Token} (hp : t.place = .closing) (pending : List Pending)
    (before done : List Node) (rest : List Token) :
    groupFrom ((opening, before) :: pending) done (t :: rest) =
      groupFrom pending (.nest opening done.reverse t :: before) rest := by
  rw [groupFrom.eq_def]
  simp only [hp]

theorem groupFrom_nil (done : List Node) : groupFrom [] done [] = done.reverse := rfl

/-- A stream that is grouped on its own wherever it stands. -/
def IsWhole (ts : List Token) : Prop :=
  ∀ (pending : List Pending) (done : List Node) (rest : List Token),
    groupFrom pending done (ts ++ rest) = groupFrom pending ((group ts).reverse ++ done) rest

namespace IsWhole

theorem groupFrom_done {ts : List Token} (h : IsWhole ts) (done : List Node) :
    groupFrom [] done ts = done.reverse ++ group ts := by
  have hr := h [] done []
  rw [List.append_nil, groupFrom_nil] at hr
  simp [hr]

theorem group_cons {t : Token} {ts : List Token} (hp : t.place = .alone) (h : IsWhole ts) :
    group (t :: ts) = ofToken t :: group ts := by
  rw [group, groupFrom_alone hp, h.groupFrom_done]
  rfl

theorem groupFrom_pair {opening closing : Token} {inner : List Token}
    (ho : opening.place = .opening) (hc : closing.place = .closing) (hi : IsWhole inner)
    (pending : List Pending) (done : List Node) (rest : List Token) :
    groupFrom pending done (opening :: (inner ++ closing :: rest)) =
      groupFrom pending (.nest opening (group inner) closing :: done) rest := by
  rw [groupFrom_opening ho, hi, groupFrom_closing hc, List.append_nil, List.reverse_reverse]

theorem group_pair {opening closing : Token} {inner ts : List Token}
    (ho : opening.place = .opening) (hc : closing.place = .closing) (hi : IsWhole inner)
    (h : IsWhole ts) :
    group (opening :: (inner ++ closing :: ts)) =
      .nest opening (group inner) closing :: group ts := by
  rw [group, groupFrom_pair ho hc hi, h.groupFrom_done]
  rfl

end IsWhole

theorem Nested.isWhole {ts : List Token} (h : Nested ts) : IsWhole ts := by
  -- What is inside a pair is grouped while the opening token waits, hence with any `pending`.
  induction h with
  | nil => exact fun _ _ _ => rfl
  | single hp _ _ ih =>
    intro pending done rest
    rw [List.cons_append, groupFrom_alone hp, ih, IsWhole.group_cons hp ih]
    simp
  | pair ho hc _ _ _ _ ihi ih =>
    intro pending done rest
    rw [List.cons_append, List.append_assoc, List.cons_append, IsWhole.groupFrom_pair ho hc ihi, ih,
      IsWhole.group_pair ho hc ihi ih]
    simp

/-- A stream of tokens as one of a document is: nested, with no fence in the text of a block, and
with what follows an opening marker for fences only. -/
structure IsStream (ts : List Token) : Prop where
  nested : Nested ts
  noFenceWithin : ∀ t ∈ ts, ∀ u ∈ t.within, u.element ≠ .fence
  noCodeInfo : ∀ t ∈ allTokens ts, t.element = .codeBlock → t.info = []

end DocPress.Markdown
