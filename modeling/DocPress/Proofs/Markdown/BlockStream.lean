import DocPress.Proofs.Markdown.Stream

namespace DocPress.Markdown

/-- A token of a block whose text has not been read. -/
structure Token.IsUnread (t : Token) : Prop where
  isBlock : t.element.isBlock = true
  children : t.children = []
  info : t.element ≠ .fence → t.info = []
  hidden : t.hidden = true → t.element = .paragraph

/-- A nested stream of blocks. -/
structure IsBlockStream (ts : List Token) : Prop where
  nested : Nested ts
  unread : ∀ t ∈ ts, t.IsUnread

namespace IsBlockStream

theorem nil : IsBlockStream [] := ⟨.nil, List.forall_mem_nil _⟩

theorem single {t : Token} (hp : t.place = .alone) (hs : t.element.isSingle = true)
    (hu : t.IsUnread) : IsBlockStream [t] :=
  ⟨.single hp hs .nil, List.forall_mem_singleton.2 hu⟩

theorem append {a b : List Token} (ha : IsBlockStream a) (hb : IsBlockStream b) :
    IsBlockStream (a ++ b) :=
  ⟨ha.nested.append hb.nested, List.forall_mem_append.2 ⟨ha.unread, hb.unread⟩⟩

theorem flatten {tss : List (List Token)} (h : ∀ ts ∈ tss, IsBlockStream ts) :
    IsBlockStream tss.flatten := by
  induction tss with
  | nil => exact nil
  | cons ts tss ih =>
    obtain ⟨ht, hr⟩ := List.forall_mem_cons.1 h
    exact ht.append (ih hr)

theorem map {ts : List Token} (h : IsBlockStream ts) {f : Token → Token}
    (hp : ∀ t, (f t).place = t.place) (he : ∀ t, (f t).element = t.element)
    (hu : ∀ t, t.IsUnread → (f t).IsUnread) : IsBlockStream (ts.map f) :=
  ⟨h.nested.map hp he, List.forall_mem_map.2 fun t ht => hu t (h.unread t ht)⟩

end IsBlockStream

namespace Area

variable {a : Area}

theorem isBlockStream_wrap {element : Element} (hb : element.isBlock = true)
    (hs : element.isSingle = false) (first last : Nat) (attributes : List (Text × Text))
    {inner : List Token} (h : IsBlockStream inner) :
    IsBlockStream (a.wrap element first last attributes inner) := by
  have ho : ∀ t : Token, t.element = element → t.children = [] → t.info = [] →
      t.hidden = false → t.IsUnread := fun t he hc hi hh =>
    ⟨by rw [he, hb], hc, fun _ => hi, fun h => by rw [hh] at h; cases h⟩
  refine ⟨.pair rfl rfl rfl hs h.nested .nil, List.forall_mem_cons.2 ⟨ho _ rfl rfl rfl rfl, ?_⟩⟩
  exact List.forall_mem_append.2
    ⟨h.unread, List.forall_mem_singleton.2 (ho _ rfl rfl rfl rfl)⟩

theorem isBlockStream_textBlock {element : Element} (hb : element.isBlock = true)
    (hs : element.isSingle = false) (first last textLast : Nat)
    (attributes : List (Text × Text)) (content : Text) :
    IsBlockStream (a.textBlock element first last textLast attributes content) :=
  isBlockStream_wrap hb hs first last attributes
    (.single rfl rfl ⟨rfl, rfl, fun _ => rfl, fun h => by cases h⟩)

theorem isBlockStream_rowTokens {element : Element} (hb : element.isBlock = true)
    (hs : element.isSingle = false) (i : Nat) (alignments : List Alignment) (cells : List Text) :
    IsBlockStream (a.rowTokens element i alignments cells) := by
  refine isBlockStream_wrap rfl rfl _ _ _ (IsBlockStream.map ?_ ?_ ?_ ?_)
  · rw [List.flatMap_def]
    refine .flatten (List.forall_mem_map.2 ?_)
    rintro ⟨alignment, k⟩ _
    exact isBlockStream_textBlock hb hs _ _ _ _ _
  · intro t
    split <;> rfl
  · intro t
    split <;> rfl
  · intro t hu
    split
    · exact ⟨hu.isBlock, hu.children, hu.info, hu.hidden⟩
    · exact hu

theorem isBlockStream_tableRows (ends : Nat → Bool) (alignments : List Alignment) (count : Nat)
    (filled : Int) (i : Nat) :
    ∀ row ∈ (a.tableRows ends alignments count filled i).1, IsBlockStream row := by
  induction count generalizing filled i with
  | zero => exact List.forall_mem_nil _
  | succ count ih =>
    rw [tableRows]
    dsimp only
    split
    · exact List.forall_mem_nil _
    · split
      · exact List.forall_mem_nil _
      · exact List.forall_mem_cons.2 ⟨isBlockStream_rowTokens rfl rfl _ _ _, ih _ _⟩

theorem isBlockStream_table? {ends : Nat → Bool} {i limit : Nat} :
    ∀ r ∈ a.table? ends i limit, IsBlockStream r.tokens := by
  intro r hr
  obtain ⟨head, _, rfl⟩ := Option.map_eq_some_iff.1 hr
  refine isBlockStream_wrap rfl rfl _ _ _ (.append ?_ ?_)
  · exact isBlockStream_wrap rfl rfl _ _ _ (isBlockStream_rowTokens rfl rfl _ _ _)
  · split
    · exact .nil
    · exact isBlockStream_wrap rfl rfl _ _ _ (.flatten (isBlockStream_tableRows _ _ _ _ _))

theorem isBlockStream_leaf {element : Element} (hb : element.isBlock = true)
    (hs : element.isSingle = true) (i next : Nat) (content : Text) :
    IsBlockStream [{ a.token element i next with content }] :=
  .single rfl hs ⟨hb, rfl, fun _ => rfl, fun h => by cases h⟩

theorem isBlockStream_code? {i limit : Nat} :
    ∀ r ∈ a.code? i limit, IsBlockStream r.tokens := by
  intro r hr
  rw [code?] at hr
  split at hr
  · obtain rfl := Option.mem_some.1 hr
    exact isBlockStream_leaf rfl rfl _ _ _
  · cases hr

theorem isBlockStream_fence? {i limit : Nat} :
    ∀ r ∈ a.fence? i limit, IsBlockStream r.tokens := by
  intro r hr
  obtain ⟨o, _, rfl⟩ := Option.map_eq_some_iff.1 hr
  exact .single rfl rfl ⟨rfl, rfl, fun h => absurd rfl h, fun h => by cases h⟩

theorem isBlockStream_thematicBreak? {i : Nat} :
    ∀ r ∈ a.thematicBreak? i, IsBlockStream r.tokens := by
  intro r hr
  rw [thematicBreak?] at hr
  split at hr
  · obtain rfl := Option.mem_some.1 hr
    exact isBlockStream_leaf rfl rfl _ _ _
  · cases hr

theorem isBlockStream_html? {i limit : Nat} :
    ∀ r ∈ a.html? i limit, IsBlockStream r.tokens := by
  intro r hr
  obtain ⟨kind, _, rfl⟩ := Option.map_eq_some_iff.1 hr
  exact isBlockStream_leaf rfl rfl _ _ _

theorem isBlockStream_heading? {i : Nat} : ∀ r ∈ a.heading? i, IsBlockStream r.tokens := by
  intro r hr
  obtain ⟨rank, _, rfl⟩ := Option.map_eq_some_iff.1 hr
  exact isBlockStream_textBlock rfl rfl _ _ _ _ _

theorem isBlockStream_underlinedHeading? {i limit : Nat} :
    ∀ r ∈ a.underlinedHeading? i limit, IsBlockStream r.tokens := by
  intro r hr
  rw [underlinedHeading?] at hr
  split at hr
  · cases hr
  · obtain ⟨⟨last, rank⟩, _, rfl⟩ := Option.map_eq_some_iff.1 hr
    exact isBlockStream_textBlock rfl rfl _ _ _ _ _

theorem isBlockStream_definition? {i : Nat} :
    ∀ r ∈ a.definition? i, IsBlockStream r.tokens := by
  intro r hr
  rw [definition?] at hr
  split at hr
  · cases hr
  · obtain ⟨⟨definition, count⟩, _, rfl⟩ := Option.map_eq_some_iff.1 hr
    exact .nil

theorem isBlockStream_paragraph (i : Nat) : IsBlockStream (a.paragraph i).tokens :=
  isBlockStream_textBlock rfl rfl _ _ _ _ _

theorem isBlockStream_tighten (level : Nat) {ts : List Token} (h : IsBlockStream ts) :
    IsBlockStream (tighten level ts) := by
  refine h.map ?_ ?_ ?_
  · intro t
    split <;> rfl
  · intro t
    split <;> rfl
  · intro t hu
    split
    case isTrue ht => exact ⟨hu.isBlock, hu.children, hu.info, fun _ => ht.1⟩
    case isFalse => exact hu

theorem forall_mem_orElse {α : Type} {p : α → Prop} {x y : Option α} (hx : ∀ r ∈ x, p r)
    (hy : ∀ r ∈ y, p r) : ∀ r ∈ (x <|> y), p r := by
  cases x with
  | none => exact hy
  | some r => exact hx

theorem getD_of_forall_mem {α : Type} {p : α → Prop} {x : Option α} {d : α} (hx : ∀ r ∈ x, p r)
    (hd : p d) : p (x.getD d) := by
  cases x with
  | none => exact hd
  | some r => exact hx r rfl

section Container

variable {inner : BlockReader} (hi : ∀ a first limit, IsBlockStream (inner a first limit).tokens)

include hi

theorem isBlockStream_quote? {i limit : Nat} :
    ∀ r ∈ a.quote? inner i limit, IsBlockStream r.tokens := by
  intro r hr
  rw [quote?] at hr
  split at hr
  · obtain rfl := Option.mem_some.1 hr
    exact isBlockStream_wrap rfl rfl _ _ _ (hi _ _ _)
  · cases hr

theorem isBlockStream_item (limit : Nat) (m : ListMarker) {found : Items}
    (h : IsBlockStream found.tokens) : IsBlockStream (a.item inner limit m found).tokens := by
  refine h.append (isBlockStream_wrap rfl rfl _ _ _ ?_)
  split
  · exact .nil
  · exact hi _ _ _

theorem isBlockStream_items (limit count : Nat) (m : ListMarker) {found : Items}
    (h : IsBlockStream found.tokens) :
    IsBlockStream (a.items inner limit count m found).tokens := by
  induction count generalizing m found with
  | zero => exact h
  | succ count ih =>
    have hn : IsBlockStream (a.item inner limit m found).tokens := isBlockStream_item hi limit m h
    rw [items]
    split
    · exact hn
    · split
      · split
        · exact ih _ hn
        · exact hn
      · exact hn

theorem isBlockStream_list? {i limit : Nat} :
    ∀ r ∈ a.list? inner i limit, IsBlockStream r.tokens := by
  intro r hr
  obtain ⟨m, _, rfl⟩ := Option.map_eq_some_iff.1 hr
  have hf : IsBlockStream (a.items inner limit (limit - i) m { next := i }).tokens :=
    isBlockStream_items hi _ _ _ .nil
  have he : m.element.isBlock = true ∧ m.element.isSingle = false := by
    rw [ListMarker.element]
    split <;> exact ⟨rfl, rfl⟩
  refine isBlockStream_wrap he.1 he.2 _ _ _ ?_
  split
  · exact isBlockStream_tighten _ hf
  · exact hf

theorem isBlockStream_block (i limit : Nat) : IsBlockStream (a.block inner i limit).tokens :=
  getD_of_forall_mem
    (forall_mem_orElse isBlockStream_table? <| forall_mem_orElse isBlockStream_code? <|
      forall_mem_orElse isBlockStream_fence? <| forall_mem_orElse (isBlockStream_quote? hi) <|
      forall_mem_orElse isBlockStream_thematicBreak? <|
      forall_mem_orElse (isBlockStream_list? hi) <|
      forall_mem_orElse isBlockStream_definition? <| forall_mem_orElse isBlockStream_html? <|
      forall_mem_orElse isBlockStream_heading? isBlockStream_underlinedHeading?)
    (isBlockStream_paragraph i)

theorem isBlockStream_blocksFrom (limit count : Nat) (sawEmpty : Bool) {found : Blocks}
    (h : IsBlockStream found.tokens) :
    IsBlockStream (a.blocksFrom inner limit count sawEmpty found).tokens := by
  induction count generalizing sawEmpty found with
  | zero => exact h
  | succ count ih =>
    rw [blocksFrom]
    dsimp only
    split
    · exact h
    · split
      · exact h
      · split
        · exact h
        · exact ih _ (h.append (isBlockStream_block hi _ _))

end Container

theorem isBlockStream_blocks (depth : Nat) (a : Area) (first limit : Nat) :
    IsBlockStream (Area.blocks depth a first limit).tokens := by
  -- Quotes and lists call the reader of one level less, in an area of their own.
  induction depth generalizing a first limit with
  | zero => exact .nil
  | succ depth ih => exact isBlockStream_blocksFrom ih _ _ _ .nil

end Area

theorem isBlockStream_readBlocks (t : Text) : IsBlockStream (readBlocks t).tokens :=
  Area.isBlockStream_blocks _ _ _ _

end DocPress.Markdown
