import DocPress.Proofs.Text.Storable
import DocPress.Proofs.Toml.Levels

namespace DocPress

open Text

namespace Decimal

theorem storable_padLeft (width : Nat) {t : Text} (h : IsStorable t) : IsStorable (padLeft width t) :=
  storable_append.2 ⟨storable_replicate _ (by decide), h⟩

/-- Digits are digits: each of them is below ten. -/
def Digits.IsDecimal (d : Digits) : Prop := ∀ k ∈ d.digits, k < 10

theorem lt_ten_of_mem_digitsOf {n k : Nat} (h : k ∈ digitsOf n) : k < 10 := by
  obtain ⟨c, hc, rfl⟩ := List.mem_map.1 h
  have hdigit : c.isDigit = true := Nat.isDigit_of_mem_toDigits (by decide) (by decide) hc
  have hnine : c.toNat ≤ 57 := (Char.isDigit_iff_toNat.1 hdigit).2
  omega

theorem isDecimal_firstOf (b : Binary) (top : Int) (counts : List Nat) :
    (firstOf b top counts).IsDecimal := by
  induction counts with
  | nil => exact List.forall_mem_nil _
  | cons count more ih =>
    unfold firstOf
    dsimp only
    split
    · rename_i d _
      intro k hk
      have hmem : k ∈ (digitsOf d).reverse :=
        (List.dropWhile_sublist _).subset (List.mem_reverse.1 hk)
      exact lt_ten_of_mem_digitsOf (List.mem_reverse.1 hmem)
    · exact ih

theorem storable_digitText {d : Digits} (h : d.IsDecimal) : IsStorable (digitText d.digits) := by
  intro c hc
  obtain ⟨k, hk, rfl⟩ := List.mem_map.1 hc
  exact storable_digit k (Nat.lt_trans (h k hk) (by decide))

theorem storable_plain {d : Digits} (h : d.IsDecimal) : IsStorable (plain d) := by
  have hzeros : ∀ n, IsStorable (List.replicate n ('0' : CodePoint)) := fun n =>
    storable_replicate n (by decide)
  have hdot : IsStorable (text ".") := by decide
  unfold plain
  split
  · exact storable_append.2 ⟨storable_append.2 ⟨by decide, hzeros _⟩, storable_digitText h⟩
  · have hall : IsStorable (digitText d.digits ++
        List.replicate (d.exponent.toNat + 1 + 1 - d.digits.length) ('0' : CodePoint)) :=
      storable_append.2 ⟨storable_digitText h, hzeros _⟩
    refine storable_append.2 ⟨storable_append.2 ⟨?_, hdot⟩, ?_⟩
    · exact hall.of_subset (List.take_subset _ _)
    · exact hall.of_subset (List.drop_subset _ _)

theorem storable_scientific (n : Layout) {d : Digits} (h : d.IsDecimal) :
    IsStorable (scientific n d) := by
  have hall := storable_digitText h
  unfold scientific
  refine storable_append.2 ⟨storable_append.2 ⟨storable_append.2 ⟨?_, ?_⟩, ?_⟩, ?_⟩
  · exact hall.of_subset (List.take_subset _ _)
  · split
    · exact storable_nil
    · exact storable_append.2 ⟨by decide, hall.of_subset (List.drop_subset _ _)⟩
  · split <;> decide
  · exact storable_padLeft _ (storable_ofNat _)

theorem storable_write (n : Layout) (x : Float) : IsStorable (n.write x) := by
  have hsign : ∀ p : Prop, [Decidable p] → IsStorable (if p then text "-" else []) := fun p _ =>
    storable_ite (by decide) storable_nil
  have hdecimal : (shortest (binaryOf x)).IsDecimal := isDecimal_firstOf _ _ _
  unfold Layout.write
  refine storable_ite (by decide) (storable_ite ?_ (storable_ite ?_ ?_))
  · exact storable_append.2 ⟨hsign _, by decide⟩
  · exact storable_append.2 ⟨hsign _, by decide⟩
  · exact storable_append.2 ⟨hsign _, storable_ite (storable_plain hdecimal)
      (storable_scientific n hdecimal)⟩

end Decimal

namespace Toml

theorem storable_date (d : Date) : IsStorable d.write := by
  have htwo : ∀ n, IsStorable (twoDigits n) := fun n => Decimal.storable_padLeft _ (storable_ofNat n)
  have hdash : IsStorable (text "-") := by decide
  have hyear : IsStorable (Decimal.padLeft 4 (Text.ofNat d.year)) :=
    Decimal.storable_padLeft _ (storable_ofNat _)
  simp only [Date.write, storable_append, htwo, hdash, hyear, and_self]

theorem storable_clock (c : Clock) : IsStorable c.write := by
  have htwo : ∀ n, IsStorable (twoDigits n) := fun n => Decimal.storable_padLeft _ (storable_ofNat n)
  have hcolon : IsStorable (text ":") := by decide
  simp only [Clock.write, storable_append, htwo, hcolon, and_self, true_and]
  split
  · exact storable_nil
  · exact storable_append.2 ⟨by decide, Decimal.storable_padLeft _ (storable_ofNat _)⟩

theorem storable_writeOffset (minutes : Int) : IsStorable (writeOffset minutes) := by
  have htwo : ∀ n, IsStorable (twoDigits n) := fun n => Decimal.storable_padLeft _ (storable_ofNat n)
  have hcolon : IsStorable (text ":") := by decide
  have hsign : IsStorable (if minutes < 0 then text "-" else text "+") :=
    storable_ite (by decide) (by decide)
  simp only [writeOffset, storable_append, htwo, hcolon, hsign, and_self]

theorem yields_writeInt (i : Int) : Yields IsStorable (writeInt i) := by
  unfold writeInt
  split
  · exact yields_pure (storable_ofInt i)
  · exact yields_error _

theorem storable_moment (m : Moment) : IsStorable (m.write (text "T")) := by
  cases m with
  | date d => exact storable_date d
  | clock c => exact storable_clock c
  | both d c offset =>
    have hoffset : IsStorable ((offset.map writeOffset).getD []) := by
      cases offset with
      | none => exact storable_nil
      | some minutes => exact storable_writeOffset minutes
    simp only [Moment.write, storable_append]
    exact ⟨⟨⟨storable_date d, by decide⟩, storable_clock c⟩, hoffset⟩

theorem yields_writeMoment (m : Moment) : Yields IsStorable (writeMoment m) := by
  unfold writeMoment
  split
  · exact yields_pure (storable_substitute (by decide) (storable_moment m))
  · exact yields_error _

theorem storable_escapedBody (t : Text) : IsStorable (escapedBody t) := by
  have hbody : IsStorable ((t.quoted.drop 1).dropLast) :=
    (storable_quoted t).of_subset
      (List.Subset.trans (List.dropLast_subset _) (List.drop_subset _ _))
  unfold escapedBody
  split
  · exact storable_substitute (by decide) (storable_substitute (by decide) hbody)
  · exact hbody

theorem storable_gluing {t : Text} (h : IsStorable t) : IsStorable (gluing t) := by
  exact storable_append.2
    ⟨storable_substitute (by decide) h, storable_ite (by decide) (by decide)⟩

theorem yields_joinEscapes {pieces : List Text} (hpieces : ∀ p ∈ pieces, IsStorable p) {t : Text}
    (ht : IsStorable t) : Yields IsStorable (joinEscapes t pieces) := by
  fun_induction joinEscapes t pieces with
  | case1 t => exact yields_pure ht
  | case2 => exact yields_error _
  | case3 => exact yields_error _
  | case4 next third rest hne ih =>
    simp only [List.forall_mem_cons] at hpieces
    exact ih hpieces.2.2 (storable_append.2 ⟨storable_gluing hpieces.1, hpieces.2.1⟩)
  | case5 c t next rest ih =>
    rw [List.forall_mem_cons] at hpieces
    exact ih hpieces.2 (storable_append.2 ⟨storable_gluing ht, hpieces.1⟩)

theorem yields_writeString (t : Text) : Yields IsStorable (writeString t) := by
  have hpieces : ∀ p ∈ Text.pieces (text "\\x") (escapedBody t), IsStorable p :=
    storable_of_mem_pieces (storable_escapedBody t)
  have hhead : IsStorable ((Text.pieces (text "\\x") (escapedBody t)).headD []) := by
    cases h : Text.pieces (text "\\x") (escapedBody t) with
    | nil => exact storable_nil
    | cons p rest => exact hpieces p (h ▸ List.mem_cons_self)
  refine (yields_joinEscapes (fun p hp => hpieces p (List.mem_of_mem_drop hp)) hhead).bind
    fun joined hjoined => yields_pure ?_
  exact storable_append.2 ⟨storable_append.2 ⟨by decide, hjoined⟩, by decide⟩

theorem isStorable_of_isBareKeyPoint {c : CodePoint} (h : isBareKeyPoint c = true) :
    c.isStorable = true := by
  simp only [isBareKeyPoint, CodePoint.isAlphanumeric, CodePoint.isLetter, CodePoint.isUpper,
    CodePoint.isLower, CodePoint.isDigit, Bool.or_eq_true, Bool.and_eq_true, decide_eq_true_eq,
    beq_iff_eq] at h
  have hval : 0x20 ≤ c.val ∧ c.val < 0x80 := by
    rcases h with (((h | h) | h) | rfl) | rfl
    · omega
    · omega
    · omega
    · decide
    · decide
  have hreturn : c ≠ '\r' := by
    rintro rfl
    exact absurd hval.1 (by decide)
  exact isStorable_iff.2 ⟨hreturn, by omega⟩

theorem yields_writeKey (key : Text) : Yields IsStorable (writeKey key) := by
  have hbody : ∀ body : Text, body.all isBareKeyPoint = true → IsStorable body := fun body h c hc =>
    isStorable_of_isBareKeyPoint (List.all_eq_true.1 h c hc)
  unfold writeKey
  by_cases hlast : key.getLast? = some ('\n' : CodePoint)
  · obtain ⟨body, rfl⟩ := List.getLast?_eq_some_iff.1 hlast
    simp only [if_pos hlast, List.dropLast_concat]
    split
    · rename_i hbare
      exact yields_pure (storable_append.2 ⟨hbody body hbare.2, by decide⟩)
    · exact yields_writeString _
  · simp only [if_neg hlast]
    split
    · rename_i hbare
      exact yields_pure (hbody _ hbare.2)
    · exact yields_writeString key

mutual

theorem yields_writeValue : ∀ v, Yields IsStorable (writeValue v)
  | .bool _ => yields_pure (storable_ite (by decide) (by decide))
  | .int i => yields_writeInt i
  | .real x => yields_pure (Decimal.storable_write _ x)
  | .string t => yields_writeString t
  | .moment m => yields_writeMoment m
  | .array items => (yields_writeItems items).bind fun t ht => yields_pure <|
    storable_append.2 ⟨storable_append.2 ⟨by decide, ht⟩, by decide⟩
  | .table members => (yields_writeKeys members).bind fun t ht => yields_pure <|
    storable_append.2 ⟨storable_append.2 ⟨by decide, ht⟩, by decide⟩

theorem yields_writeItems : ∀ items, Yields IsStorable (writeItems items)
  | [] => yields_pure storable_nil
  | v :: rest => (yields_writeValue v).bind fun t ht => (yields_writeItems rest).bind fun r hr =>
    yields_pure <| storable_append.2
      ⟨storable_append.2 ⟨storable_append.2 ⟨by decide, ht⟩, by decide⟩, hr⟩

theorem yields_writeKeys : ∀ members, Yields IsStorable (writeKeys members)
  | [] => yields_pure storable_nil
  | (k, _) :: rest => (yields_writeString k).bind fun t ht => (yields_writeKeys rest).bind fun r hr =>
    yields_pure <| storable_append.2
      ⟨storable_append.2 ⟨storable_append.2 ⟨by decide, ht⟩, by decide⟩, hr⟩

end

/-- The names of sections, which stand in headers, are storable. -/
def Sections.IsStorable (sections : Sections) : Prop := ∀ s ∈ sections, Text.IsStorable s.1

structure Written.IsStorable (w : Written) : Prop where
  plain : Text.IsStorable w.plain
  arrays : Text.IsStorable w.arrays
  sections : Sections.IsStorable w.sections

variable {name above within : Text} {sections added : Sections} {w share : Written}

theorem Written.IsStorable.body (h : w.IsStorable) : Text.IsStorable w.body :=
  storable_append.2 ⟨h.plain, h.arrays⟩

theorem storable_header (h : IsStorable name) : IsStorable (header name) :=
  storable_append.2 ⟨storable_append.2 ⟨by decide, h⟩, by decide⟩

theorem storable_under (habove : IsStorable above) (hname : IsStorable name) :
    IsStorable (above ++ text "." ++ name) :=
  storable_append.2 ⟨storable_append.2 ⟨habove, by decide⟩, hname⟩

theorem storable_withinOf (h : IsStorable above) : IsStorable (withinOf above) :=
  storable_ite h (storable_append.2 ⟨h, by decide⟩)

theorem storable_putSection (hname : IsStorable name) (t : Table) (h : Sections.IsStorable sections) :
    Sections.IsStorable (putSection name t sections) := by
  induction sections with
  | nil => exact List.forall_mem_singleton.2 hname
  | cons s rest ih =>
    obtain ⟨hs, hrest⟩ := List.forall_mem_cons.1 h
    unfold putSection
    split
    · exact List.forall_mem_cons.2 ⟨hs, hrest⟩
    · exact List.forall_mem_cons.2 ⟨hs, ih hrest⟩

theorem storable_putAll (hadded : Sections.IsStorable added) (h : Sections.IsStorable sections) :
    Sections.IsStorable (putAll added sections) :=
  List.foldlRecOn added _ h fun _ hacc s hs => storable_putSection (hadded s hs) s.2 hacc

theorem Written.IsStorable.add (h : w.IsStorable) (hshare : share.IsStorable) :
    (w.add share).IsStorable :=
  ⟨storable_append.2 ⟨h.plain, hshare.plain⟩, storable_append.2 ⟨h.arrays, hshare.arrays⟩,
    storable_putAll hshare.sections h.sections⟩

theorem Written.IsStorable.inner (h : w.IsStorable) (hname : Text.IsStorable name) :
    Sections.IsStorable (w.inner name) := by
  intro s hs
  obtain ⟨inner, hinner, rfl⟩ := List.mem_map.1 hs
  exact storable_under hname (h.sections inner hinner)

theorem yields_writeInner {write : Text → Table → Except Fault Written}
    (hwrite : ∀ above t, IsStorable above → Yields Written.IsStorable (write above t))
    (habove : IsStorable above) (fuel : Nat) (h : Sections.IsStorable sections) :
    Yields IsStorable (writeInner write above fuel sections) := by
  induction fuel generalizing sections with
  | zero => exact yields_pure storable_nil
  | succ fuel ih =>
    have hmap : Yields (fun ws => ∀ w ∈ ws, IsStorable w.1 ∧ Written.IsStorable w.2)
        (sections.mapM fun (s : Text × Table) => do
          return (s.1, ← write (above ++ text "." ++ s.1) s.2)) :=
      Yields.mapM fun s hs => (hwrite _ s.2 (storable_under habove (h s hs))).bind fun w hw =>
        yields_pure ⟨h s hs, hw⟩
    rw [writeInner_succ]
    refine hmap.bind fun ws hws => ?_
    have hhere : IsStorable (ws.flatMap fun (w : Text × Written) =>
        if w.2.body = [] then [] else header (above ++ text "." ++ w.1) ++ w.2.body) := by
      refine storable_flatten fun t ht => ?_
      obtain ⟨w, hw, rfl⟩ := List.mem_map.1 ht
      obtain ⟨hname, hwritten⟩ := hws w hw
      exact storable_ite storable_nil
        (storable_append.2 ⟨storable_header (storable_under habove hname), hwritten.body⟩)
    have hdeeper : Sections.IsStorable (deeperOf ws) :=
      List.foldlRecOn ws _ (List.forall_mem_nil _) fun _ hacc w hw =>
        storable_putAll ((hws w hw).2.inner (hws w hw).1) hacc
    dsimp only
    split
    · exact yields_pure hhere
    · exact (ih hdeeper).bind fun rest hrest => yields_pure (storable_append.2 ⟨hhere, hrest⟩)

theorem yields_writeElement {fuel : Nat}
    (htable : ∀ above t, IsStorable above → Yields Written.IsStorable (writeTable fuel above t))
    (hwithin : IsStorable within) {key : Text} (hkey : IsStorable key) (item : Value) :
    Yields IsStorable (writeElement fuel within key item) := by
  have hunder := storable_append.2 ⟨hwithin, hkey⟩
  have hopening : IsStorable (text "[[" ++ within ++ key ++ text "]]\n") := by
    have hbracket : IsStorable (text "[[") := by decide
    have hbrackets : IsStorable (text "]]\n") := by decide
    simp only [storable_append, hbracket, hwithin, hkey, hbrackets, and_self]
  have hend : IsStorable (text "\n") := by decide
  refine (yields_true (itemTable item)).bind fun t _ => ?_
  refine (htable _ t hunder).bind fun inner hinner => ?_
  refine (yields_writeInner htable hunder fuel hinner.sections).bind fun deeper hdeeper => ?_
  dsimp only
  split
  · exact yields_pure (storable_append.2
      ⟨storable_append.2 ⟨storable_append.2 ⟨hopening, hend⟩, hinner.body⟩, hdeeper⟩)
  · exact yields_pure (storable_append.2
      ⟨storable_append.2 ⟨storable_append.2 ⟨hopening, hinner.body⟩, hend⟩, hdeeper⟩)

theorem yields_writeLine (name : Text) (v : Value) : Yields IsStorable (writeLine name v) :=
  (yields_writeKey name).bind fun _ hkey => (yields_writeValue v).bind fun _ hv =>
    yields_pure (storable_append.2 ⟨storable_append.2 ⟨storable_append.2 ⟨hkey, by decide⟩, hv⟩,
      by decide⟩)

/-- Of a member only its key is put into the text as it is, and a key is quoted where it has to be. -/
theorem yields_writeMember {fuel : Nat}
    (htable : ∀ above t, IsStorable above → Yields Written.IsStorable (writeTable fuel above t))
    (hwithin : IsStorable within) (name : Text) (v : Value) :
    Yields Written.IsStorable (writeMember fuel within name v) := by
  have hline : ∀ v', Yields Written.IsStorable (do
      return ⟨← writeLine name v', [], []⟩ : Except Fault Written) := fun v' =>
    (yields_writeLine name v').bind fun _ hwritten =>
      yields_pure ⟨hwritten, storable_nil, List.forall_mem_nil _⟩
  cases v with
  | table members =>
    exact (yields_writeKey name).bind fun _ hkey =>
      yields_pure ⟨storable_nil, storable_nil, List.forall_mem_singleton.2 hkey⟩
  | array items =>
    rw [writeMember]
    split
    · exact hline _
    · refine (yields_writeKey name).bind fun key hkey => ?_
      refine (Yields.mapM fun item _ => yields_writeElement htable hwithin hkey item).bind
        fun tables htables => ?_
      exact yields_pure ⟨storable_nil, storable_flatten htables, List.forall_mem_nil _⟩
  | _ => exact hline _

theorem yields_writeTable (fuel : Nat) (habove : IsStorable above) (t : Table) :
    Yields Written.IsStorable (writeTable fuel above t) := by
  have hnil : Written.IsStorable ⟨[], [], []⟩ := ⟨storable_nil, storable_nil, List.forall_mem_nil _⟩
  induction fuel generalizing above t with
  | zero => exact yields_pure hnil
  | succ fuel ih =>
    rw [writeTable_succ]
    exact Yields.foldlM (fun w m _ hw =>
      (yields_writeMember (fun _ t h => ih h t) (storable_withinOf habove) m.1 m.2).map
        fun _ hshare => hw.add hshare) hnil

theorem yields_addSection (fuel : Nat) {r : Text × Sections} (hdone : IsStorable r.1)
    (h : Sections.IsStorable r.2) {s : Text × Table} (hname : IsStorable s.1) :
    Yields (fun r : Text × Sections => IsStorable r.1 ∧ Sections.IsStorable r.2)
      (addSection fuel r s) := by
  refine (yields_writeTable fuel hname s.2).bind fun w hw => yields_pure ⟨?_, ?_⟩
  · have hgap : IsStorable (gapAfter r.1) := storable_ite (by decide) storable_nil
    refine storable_ite ?_ hdone
    exact storable_append.2
      ⟨storable_append.2 ⟨storable_append.2 ⟨hdone, hgap⟩, storable_header hname⟩, hw.body⟩
  · exact storable_putAll (hw.inner hname) h

theorem yields_writeSections (fuel levels : Nat) {done : Text} (hdone : IsStorable done)
    (h : Sections.IsStorable sections) : Yields IsStorable (writeSections fuel levels done sections) := by
  induction levels generalizing done sections with
  | zero => exact yields_pure hdone
  | succ levels ih =>
    have hnil : Sections.IsStorable [] := List.forall_mem_nil _
    rw [writeSections_succ]
    -- The names of deeper sections are made of names of this level, with dots between them.
    refine Yields.bind (p := fun r => IsStorable r.1 ∧ Sections.IsStorable r.2)
      (Yields.foldlM (fun r s hs hr => yields_addSection fuel hr.1 hr.2 (h s hs)) ⟨hdone, hnil⟩)
      fun r hr => ih hr.1 hr.2

/-- What is written can be encoded, and it has no carriage returns, whatever the keys and values have.
-/
theorem storable_of_write {t : Table} {written : Text} (h : write t = .ok written) :
    IsStorable written := by
  have hall : Yields IsStorable (write t) :=
    (yields_writeTable _ storable_nil t).bind fun w hw =>
      yields_writeSections _ _ hw.body hw.sections
  exact hall.of_eq_ok h

end Toml

end DocPress
