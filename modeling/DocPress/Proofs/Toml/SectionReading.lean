import DocPress.Proofs.Toml.Members
import DocPress.Proofs.Toml.SectionLines

namespace DocPress.Toml

open Text

variable {name p : Text} {c : CodePoint}

section Bare

theorem IsBare.head_last (h : IsBare name) :
    (∀ c ∈ name.head?, c.isBlank = false) ∧ ∀ c ∈ name.getLast?, c.isBlank = false :=
  ⟨fun c hc => Scan.isBlank_of_isBareKeyPoint (h.points c (List.mem_of_mem_head? hc)),
    fun c hc => Scan.isBlank_of_isBareKeyPoint (h.points c (List.mem_of_getLast? hc))⟩

theorem IsBare.trim_eq (h : IsBare name) : trim name = name :=
    trim_eq_self h.head_last.1 h.head_last.2

end Bare

theorem quoteSplits_of_notMem {line : Text} (hdouble : doubleQuote ∉ line)
    (hsingle : singleQuote ∉ line) :
    quoteSplits line = [line] := by
  unfold quoteSplits
  rw [splitAt_of_notMem hdouble]
  simp [splitAt_of_notMem hsingle]

theorem quoteSplits_of_head {first : Text} (hdouble : doubleQuote ∉ first)
    (hsingle : singleQuote ∉ first) (rest : Text) :
    quoteSplits (first ++ doubleQuote :: rest) = first :: splitAt doubleQuote rest := by
  unfold quoteSplits
  rw [splitAt_append, splitAt_of_notMem hdouble]
  simp [splitAt_of_notMem hsingle, hsingle]

theorem countBefore_of_contains {marker first : Text} (h : Text.contains marker first = true)
    (rest : List Text) : countBefore marker false (first :: rest) = 0 := by
  rw [countBefore]
  simp [h]

namespace Reading

theorem headerNames_of_isBare (h : IsBare name) :
    headerNames (name ++ text "]") (text "]") = .ok [name] := by
  -- The name holds no bracket, quote or dot, so every cut of the header is known.
  have hbreak : breakOn (text "]") (name ++ text "]") = some (name, []) :=
    breakOn_append_cons (h.notMem (by decide)) []
  have hcontains : Text.contains (text "]") (name ++ text "]") = true := by
    rw [Text.contains, hbreak]
    rfl
  have hsplits : quoteSplits (name ++ text "]") = [name ++ text "]"] := by
    refine quoteSplits_of_notMem ?_ ?_
    · exact fun hm => (List.mem_append.1 hm).elim (h.notMem (by decide)) (by decide)
    · exact fun hm => (List.mem_append.1 hm).elim (h.notMem (by decide)) (by decide)
  have hparts : splitTimes (text "]") 1 (name ++ text "]") = [name, []] := by
    rw [splitTimes, hbreak]
    rfl
  have hgroup : isBareGroup name = true := by
    rw [isBareGroup, Bool.and_eq_true]
    exact ⟨decide_eq_true h.ne_nil, List.all_eq_true.2 h.points⟩
  have hquote : ¬(name.head?.any fun c => decide (c = doubleQuote ∨ c = singleQuote)) = true := by
    obtain ⟨c, r, rfl⟩ := List.exists_cons_of_ne_nil h.ne_nil
    have hne : ∀ d, isBareKeyPoint d = false → c ≠ d := fun d hd =>
      ne_of_isBareKeyPoint hd (h.points c List.mem_cons_self)
    simp [hne doubleQuote (by decide), hne singleQuote (by decide)]
  have hnames : groupNames none [name] = .ok [name] := by
    rw [groupNames]
    simp only [h.trim_eq, if_neg hquote, if_pos hgroup, groupNames]
    rfl
  have hdot : splitAt '.' name = [name] := splitAt_of_notMem (h.notMem (by decide))
  have hjoin : Text.join (text "]") [name] = name := join_singleton _ _
  have hshape : ¬([name, []].length < 1 + 1 ∨ (([name, []] : List Text).getLastD []).trim ≠ []) :=
    not_or.2 ⟨Nat.lt_irrefl 2, not_not_intro rfl⟩
  unfold headerNames
  rw [hsplits, countBefore_of_contains hcontains]
  simp only [Nat.add_zero, hparts]
  rw [if_neg hshape]
  exact (congrArg (fun t => groupNames none (splitAt '.' t)) hjoin).trans
    ((congrArg (groupNames none) hdot).trans hnames)

theorem trim_headerLine (name : Text) : trim (headerLine name) = headerLine name := by
  refine trim_eq_self (fun c hc => ?_) fun c hc => ?_
  · obtain rfl : ('[' : CodePoint) = c := Option.some.inj hc
    decide
  · rw [headerLine, List.getLast?_append] at hc
    obtain rfl : (']' : CodePoint) = c := Option.some.inj hc
    decide

theorem line_of_bracket {r : Reading} (hopened : r.opened = none) {t u : Text}
    (ht : trim t = ('[' : CodePoint) :: u) : r.line t = r.header (('[' : CodePoint) :: u) := by
  rw [line_of_opened_eq_none hopened, ht]
  rfl

theorem line_of_equals {r : Reading} (hopened : r.opened = none) {t u : Text} (ht : trim t = c :: u)
    (hbracket : c ≠ '[') (hbrace : c ≠ '\x7b') (hequals : ('=' : CodePoint) ∈ c :: u) :
    r.line t = r.readMember (c :: u) := by
  rw [line_of_opened_eq_none hopened, ht, readWhole, if_neg hbracket, if_neg hbrace,
    if_pos hequals]

theorem line_headerLine (h : IsBare name) {r : Reading} (hopened : r.opened = none) :
    r.line (headerLine name) = enterGroups false [name] { r with place := [] } := by
  obtain ⟨c, rest, rfl⟩ := List.exists_cons_of_ne_nil h.ne_nil
  have hc : c ≠ '[' := ne_of_isBareKeyPoint (by decide) (h.points c List.mem_cons_self)
  have hnames := headerNames_of_isBare h
  rw [List.cons_append] at hnames
  have htrim : trim (headerLine (c :: rest)) = ('[' : CodePoint) :: c :: (rest ++ text "]") :=
    trim_headerLine _
  rw [line_of_bracket hopened htrim]
  unfold header
  simp only [List.drop_one, List.tail_cons, if_neg hc, hnames]
  rfl

end Reading

section Member

theorem spell_head_ne (p : Text) : (p.flatMap spell).head? ≠ some doubleQuote := fun h =>
  (head_flatMap_escapePoint (by decide) h).2 rfl

theorem spelled_eq (p : Text) : spelled p = doubleQuote :: (p.flatMap spell ++ [doubleQuote]) := rfl

theorem getLast?_spelled (p : Text) : (spelled p).getLast? = some doubleQuote := by
  rw [spelled_eq, ← List.cons_append, List.getLast?_concat]

theorem keyAndValue_memberLine (h : IsBare name) (p : Text) :
    ∃ strict, keyAndValue (memberLine name p) = .ok (name, spelled p, strict) := by
  -- The first quote is a double one and comes after the key, so it begins the value.
  have hsplits : quoteSplits (memberLine name p) =
      (name ++ text " = ") :: splitAt doubleQuote (p.flatMap spell ++ [doubleQuote]) := by
    refine quoteSplits_of_head ?_ ?_ _
    · exact fun hm => (List.mem_append.1 hm).elim (h.notMem (by decide)) (by decide)
    · exact fun hm => (List.mem_append.1 hm).elim (h.notMem (by decide)) (by decide)
  have hequals : ('=' : CodePoint) ∉ name ++ text " " :=
    fun hm => (List.mem_append.1 hm).elim (h.notMem (by decide)) (by decide)
  have hbreak : ∀ rest, breakOn equals (name ++ text " = " ++ rest) =
      some (name ++ text " ", text " " ++ rest) := by
    intro rest
    have hcut := breakOn_append_cons hequals (text " " ++ rest)
    rw [List.append_assoc] at hcut ⊢
    exact hcut
  have hcontains : Text.contains equals (name ++ text " = ") = true := by
    have hcut := hbreak []
    rw [List.append_nil] at hcut
    rw [Text.contains, hcut]
    rfl
  have hparts : splitTimes equals 1 (memberLine name p) =
      [name ++ text " ", text " " ++ spelled p] := by
    rw [splitTimes, show memberLine name p = name ++ text " = " ++ spelled p from rfl, hbreak]
    rfl
  have hkey : trim (name ++ text " ") = name :=
    trim_between (u := []) (List.forall_mem_nil _) (by decide) h.ne_nil h.head_last.1 h.head_last.2
  have hvalue : trim (text " " ++ spelled p) = spelled p := by
    have hblank : doubleQuote.isBlank = false := by decide
    refine (congrArg trim (List.append_nil _).symm).trans
      (trim_between (by decide) (List.forall_mem_nil _) (List.cons_ne_nil _ _)
        (fun c hc => ?_) fun c hc => ?_)
    · obtain rfl : doubleQuote = c := Option.some.inj hc
      exact hblank
    · rw [getLast?_spelled] at hc
      obtain rfl : doubleQuote = c := Option.some.inj hc
      exact hblank
  have hdrop : dropUnderscores [name ++ text " ", text " " ++ spelled p] =
      [name ++ text " ", text " " ++ spelled p] := rfl
  have hbare : isBareValue (text " " ++ spelled p) = false := rfl
  have hsettle : ∀ fuel count strict, settleValue (memberLine name p) (fuel + 1) count
      [name ++ text " ", text " " ++ spelled p] strict =
        .ok ([name ++ text " ", text " " ++ spelled p], strict) := by
    intro fuel count strict
    rw [settleValue]
    simp [hbare]
  have hjoin : join equals [name ++ text " "] = name ++ text " " := join_singleton _ _
  refine ⟨strictNumber (text " " ++ spelled p), ?_⟩
  unfold keyAndValue
  rw [hsplits, countBefore_of_contains hcontains]
  simp only [Nat.add_zero, hparts, hdrop, hsettle, bind, Except.bind, pure, Except.pure]
  refine congrArg Except.ok (Prod.ext (Eq.trans (congrArg trim hjoin) hkey) (Prod.ext hvalue rfl))

theorem keyPath_of_isBare (h : IsBare name) : keyPath name = .ok ([], name) := by
  obtain ⟨c, r, rfl⟩ := List.exists_cons_of_ne_nil h.ne_nil
  have hne : ∀ d, isBareKeyPoint d = false → c ≠ d := fun d hd =>
    ne_of_isBareKeyPoint hd (h.points c List.mem_cons_self)
  have hquote : ¬((c :: r).getLast? = some c ∧ (c = doubleQuote ∨ c = singleQuote)) := fun hq =>
    hq.2.elim (hne _ (by decide)) (hne _ (by decide))
  rw [keyPath, if_neg (h.notMem (by decide))]
  simp only [List.head?_cons, if_neg hquote]

theorem opensString_spelled (p : Text) : opensString (spelled p) = .ok false := by
  cases hbody : p.flatMap spell with
  | nil => rw [spelled_eq, hbody]; rfl
  | cons d r =>
    have hd : d ≠ doubleQuote := by
      rintro rfl
      exact spell_head_ne p (by rw [hbody]; rfl)
    have hlength : ¬(doubleQuote :: (d :: r ++ [doubleQuote])).length < 3 := by simp
    have hopen : (some doubleQuote == some ('[' : CodePoint)) = false := rfl
    rw [spelled_eq, hbody]
    unfold opensString
    rw [if_neg hlength]
    simp [hopen, hd]
    rfl

theorem readItem_spelled (h : IsKept p) (fuel : Nat) (strict : Bool) :
    readItem (fuel + 1) (spelled p) strict = .ok (.string p, .string) := by
  have hhead : ∀ u : Text, u.head? ≠ some doubleQuote → spelled p ≠ u := by
    rintro u hu rfl
    exact hu rfl
  have hlower : ∀ u : Text, u.head? ≠ some doubleQuote → toLower (spelled p) ≠ u := by
    rintro u hu rfl
    exact hu rfl
  have hitem : stringItem doubleQuote (spelled p) = .ok p := stringItem_of_isKept h
  rw [readItem.eq_def]
  simp only [if_neg (hhead (text "true") (by decide)), if_neg (hhead (text "false") (by decide)),
    if_neg (not_or.2 ⟨hlower (text "true") (by decide), hlower (text "false") (by decide)⟩)]
  rw [spelled_eq] at hitem ⊢
  simp only [true_or, if_true, hitem]
  rfl

end Member

namespace Reading

theorem trim_memberLine (h : IsBare name) (p : Text) :
    trim (memberLine name p) = memberLine name p := by
  obtain ⟨c, rest, rfl⟩ := List.exists_cons_of_ne_nil h.ne_nil
  refine trim_eq_self (fun d hd => ?_) fun d hd => ?_
  · obtain rfl : c = d := Option.some.inj hd
    exact Scan.isBlank_of_isBareKeyPoint (h.points c List.mem_cons_self)
  · rw [memberLine, List.getLast?_append, getLast?_spelled] at hd
    obtain rfl : doubleQuote = d := Option.some.inj hd
    decide

theorem readLine_memberLine (hname : IsBare name) (hp : IsKept p) {members : Table}
    (hnew : Table.get? members name = none) (fuel : Nat) :
    readLine (fuel + 2) (memberLine name p) (.table members) =
      .ok (.table (Table.put members name (.string p)), none) := by
  obtain ⟨strict, hkey⟩ := keyAndValue_memberLine hname p
  have hadd : addMember name (.string p) (.table members) =
      .ok (.table (Table.put members name (.string p))) := by
    rw [addMember, hnew]
    rfl
  rw [readLine.eq_def]
  simp only [hkey, bind, Except.bind, keyPath_of_isBare hname, Table.modifyAt, opensString_spelled,
    readItem_spelled hp, hadd, Bool.false_eq_true, if_false]
  rfl

theorem line_memberLine (hname : IsBare name) (hp : IsKept p) {r : Reading}
    (hopened : r.opened = none) {members : Table} (hcurrent : r.current = .table members)
    (hnew : Table.get? members name = none) :
    r.line (memberLine name p) = .ok (r.put (.table (Table.put members name (.string p)))) := by
  obtain ⟨c, rest, rfl⟩ := List.exists_cons_of_ne_nil hname.ne_nil
  have hne : ∀ d, isBareKeyPoint d = false → c ≠ d := fun d hd =>
    ne_of_isBareKeyPoint hd (hname.points c List.mem_cons_self)
  have htrim : trim (memberLine (c :: rest) p) = c :: (rest ++ text " = " ++ spelled p) :=
    trim_memberLine hname p
  have hequals : ('=' : CodePoint) ∈ memberLine (c :: rest) p :=
    List.mem_append_left _ (List.mem_append_right _ (by decide))
  have hread := readLine_memberLine hname hp hnew (4 * (memberLine (c :: rest) p).length + 6)
  rw [line_of_equals hopened htrim (hne _ (by decide)) (hne _ (by decide)) hequals, readMember,
    hcurrent]
  refine (congrArg (· >>= _) hread).trans (congrArg Except.ok ?_)
  cases r
  cases hopened
  rfl

end Reading

end DocPress.Toml
