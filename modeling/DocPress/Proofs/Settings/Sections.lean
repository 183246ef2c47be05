import DocPress.Proofs.Settings.Storing
import DocPress.Proofs.Toml.Meaning

namespace DocPress.Settings

open World
open Toml (Table Value Meaning)

/-- A call that changes the settings. -/
inductive Call where
  | renderer (drawer background : Text) (seconds : Option Int)
  | pdf (browser : Text)
  | clear

namespace Call

def run (file : Path) : Call → Run Bool
  | renderer drawer background seconds =>
    saveRenderer file (.string drawer) (.string background) (seconds.map .int)
  | pdf browser => savePdf file (.string browser)
  | clear => Settings.clear file

/-- What a call makes of a section, if it does anything to it: the section is saved or dropped. -/
def sets (key : Text) : Call → Option (Option Value)
  | renderer drawer background seconds =>
    if key = rendererKey then
      some (some (.table (rendererSection (.string drawer) (.string background) (seconds.map .int))))
    else none
  | pdf browser => if key = pdfKey then some (some (.table [(browserKey, .string browser)])) else none
  | clear => if key = rendererKey ∨ key = pdfKey then some none else none

/-- The sections that a call writes where it has read `t`. -/
def apply (t : Table) : Call → Table
  | renderer drawer background seconds => t.put rendererKey
      (.table (rendererSection (.string drawer) (.string background) (seconds.map .int)))
  | pdf browser => t.put pdfKey (.table [(browserKey, .string browser)])
  | clear => (t.without rendererKey).without pdfKey

theorem run_eq (file : Path) (call : Call) :
    call.run file = readAll file >>= fun t => writeAll file (call.apply t) := by
  cases call <;> rfl

theorem sets_of_ne {key : Text} (hr : key ≠ rendererKey) (hp : key ≠ pdfKey) (call : Call) :
    call.sets key = none := by
  cases call <;> simp [sets, hr, hp]

theorem exists_table_of_sets {key : Text} {call : Call} {v : Value}
    (h : call.sets key = some (some v)) : ∃ members, v = .table members := by
  cases call <;> simp only [sets, Option.ite_none_right_eq_some, Option.some.injEq] at h
  case renderer => exact ⟨_, h.2.symm⟩
  case pdf => exact ⟨_, h.2.symm⟩
  case clear => cases h.2

end Call

/-- What is under a key after some calls: what the last call that sets or drops it has made of it. -/
def lastSet (calls : List Call) (key : Text) (before : Option Value) : Option Value :=
  (calls.reverse.findSome? (Call.sets key)).getD before

variable {file : Path} {w w' : World} {t t' : Table} {call : Call} {calls : List Call}
  {results : List Bool} {key : Text}

theorem lastSet_cons (call : Call) (calls : List Call) (key : Text) (before : Option Value) :
    lastSet (call :: calls) key before = lastSet calls key ((call.sets key).getD before) := by
  unfold lastSet
  rw [List.reverse_cons, List.findSome?_append]
  cases calls.reverse.findSome? (Call.sets key) with
  | some made => rfl
  | none => cases h : call.sets key <;> simp [h]

theorem lastSet_of_ne (hr : key ≠ rendererKey) (hp : key ≠ pdfKey) (calls : List Call)
    (before : Option Value) : lastSet calls key before = before := by
  induction calls with
  | nil => rfl
  | cons call rest ih => rw [lastSet_cons, Call.sets_of_ne hr hp, Option.getD_none, ih]

def meaningAt (t : Table) (key : Text) : Option Meaning := (Table.get? t key).map Value.meaning

theorem map_lastSet_congr {before before' : Option Value}
    (h : before.map Value.meaning = before'.map Value.meaning) :
    (lastSet calls key before).map Value.meaning = (lastSet calls key before').map Value.meaning := by
  unfold lastSet
  cases calls.reverse.findSome? (Call.sets key) with
  | some made => rfl
  | none => exact h

theorem meaningAt_apply (t : Table) (call : Call) (key : Text) :
    meaningAt (call.apply t) key = ((call.sets key).getD (Table.get? t key)).map Value.meaning := by
  have hput : ∀ k v, meaningAt (Table.put t k v) key =
      ((if key = k then some v else Table.get? t key).map Value.meaning) := by
    intro k v
    rw [meaningAt, Toml.meaning_get?, Toml.under_put]
    by_cases hk : key = k
    · simp [hk]
    · simp [hk, Toml.meaning_get?]
  cases call with
  | renderer drawer background seconds =>
    rw [Call.apply, hput, Call.sets]
    by_cases hk : key = rendererKey <;> simp [hk]
  | pdf browser =>
    rw [Call.apply, hput, Call.sets]
    by_cases hk : key = pdfKey <;> simp [hk]
  | clear =>
    rw [Call.apply, meaningAt, Toml.meaning_get?, Toml.under_without, Toml.under_without, Call.sets]
    by_cases hr : key = rendererKey
    · simp [hr]
    · by_cases hp : key = pdfKey
      · simp [hp]
      · simp [hr, hp, Toml.meaning_get?]

/-- A table that is written is read as what it says. -/
def ReadsBack (t : Table) : Prop :=
  ∀ written, Toml.write t = .ok written → ∃ t', Toml.read written = .ok t' ∧
    Value.meaning (.table t') = Value.meaning (.table t)

def tablesOf (file : Path) : World → List Call → List Table
  | _, [] => []
  | w, call :: rest =>
    (((readAll file).run.run w).1.toOption.map call.apply).toList ++
      tablesOf file ((call.run file).run.run w).2 rest

/-- A table that stands under a key, if anything does. -/
def IsSection (t : Table) (key : Text) : Prop :=
  ∀ v, Table.get? t key = some v → ∃ members, v = .table members

theorem exists_table_of_lastSet (ht : IsSection t key) {v : Value}
    (h : lastSet calls key (Table.get? t key) = some v) : ∃ members, v = .table members := by
  unfold lastSet at h
  cases hset : calls.reverse.findSome? (Call.sets key) with
  | none =>
    rw [hset] at h
    exact ht v h
  | some made =>
    rw [hset] at h
    obtain ⟨call, -, hcall⟩ := List.exists_of_findSome?_eq_some hset
    exact Call.exists_table_of_sets (hcall.trans (congrArg some h))

theorem mergeSection_congr (defaults : Table) {v v' : Option Value}
    (h : v'.map Value.meaning = v.map Value.meaning)
    (hv : ∀ u, v = some u → ∃ members, u = .table members) :
    ∃ m m', mergeSection defaults v = .ok m ∧ mergeSection defaults v' = .ok m' ∧
      Value.meaning (.table m') = Value.meaning (.table m) := by
  cases v with
  | none =>
    cases v' with
    | none => exact ⟨defaults, defaults, rfl, rfl, rfl⟩
    | some u => cases h
  | some u =>
    obtain ⟨members, rfl⟩ := hv u rfl
    cases v' with
    | none => cases h
    | some u' =>
      have hu : u'.meaning = Value.meaning (.table members) := Option.some.inj h
      obtain ⟨members', rfl⟩ := Toml.exists_table_of_meaning hu
      refine ⟨_, _, rfl, rfl, Toml.meaning_table_eq_iff.2 fun key => ?_⟩
      rw [Toml.under_merge, Toml.under_merge, Toml.meaning_table_eq_iff.1 hu key]

theorem run_readSection (h : (readAll file).run.run w = (.ok t, w)) (defaults : Table) (key : Text) :
    (readSection file defaults key).run.run w =
      (mergeSection defaults (Table.get? t key), w) := by
  unfold readSection
  rw [run_bind_of_ok h, run_ask]

theorem Call.exists_of_run_eq_true (h : (call.run file).run.run w = (.ok true, w')) :
    ∃ t, (readAll file).run.run w = (.ok t, w) ∧
      (store file (call.apply t)).run.run w = (.ok (), w') := by
  rw [Call.run_eq] at h
  obtain ⟨t, w₁, hread, hwrite⟩ := run_bind_eq_ok_iff.1 h
  obtain rfl := eq_of_run_readAll hread
  exact ⟨t, hread, run_store_of_writeAll hwrite⟩

theorem run_calls_cons
    (h : ((call :: calls).mapM (Call.run file)).run.run w = (.ok results, w'))
    (hresults : ∀ b ∈ results, b = true) :
    ∃ w₁ more, (call.run file).run.run w = (.ok true, w₁) ∧
      (calls.mapM (Call.run file)).run.run w₁ = (.ok more, w') ∧ ∀ b ∈ more, b = true := by
  rw [List.mapM_cons] at h
  obtain ⟨b, w₁, hcall, h⟩ := run_bind_eq_ok_iff.1 h
  obtain ⟨more, w₂, hmore, h⟩ := run_bind_eq_ok_iff.1 h
  obtain ⟨rfl, rfl⟩ := run_pure_eq_ok_iff.1 h
  obtain ⟨rfl, hrest⟩ := List.forall_mem_cons.1 hresults
  exact ⟨w₁, more, hcall, hmore, hrest⟩

/-- What forgets all that is written does so after the calls too. -/
theorem isSink_of_calls (h : (calls.mapM (Call.run file)).run.run w = (.ok results, w'))
    (hresults : ∀ b ∈ results, b = true) (hsink : w.toSite.IsSink file) :
    w'.toSite.IsSink file := by
  induction calls generalizing w results with
  | nil =>
    obtain ⟨-, rfl⟩ := run_pure_eq_ok_iff.1 h
    exact hsink
  | cons call rest ih =>
    obtain ⟨w₁, more, hcall, hrest, hmore⟩ := run_calls_cons h hresults
    obtain ⟨t, -, hstore⟩ := Call.exists_of_run_eq_true hcall
    exact ih hrest hmore ((run_store_eq_ok hstore).1 hsink)

theorem sections_of_call (hread : (readAll file).run.run w = (.ok t, w))
    (h : (call.run file).run.run w = (.ok true, w')) (hback : ReadsBack (call.apply t))
    (hkeeps : ¬w'.toSite.IsSink file) :
    ∃ t', (readAll file).run.run w' = (.ok t', w') ∧
      ∀ key, meaningAt t' key = ((call.sets key).getD (Table.get? t key)).map Value.meaning := by
  obtain ⟨t₁, hread₁, hstore⟩ := Call.exists_of_run_eq_true h
  -- Reading twice gives the same.
  obtain rfl : t = t₁ := Except.ok.inj (congrArg Prod.fst (hread.symm.trans hread₁))
  obtain hsink | ⟨written, hwritten, hreads⟩ := (run_store_eq_ok hstore).2
  · exact absurd hsink hkeeps
  · obtain ⟨t', ht', hsame⟩ := hback written hwritten
    refine ⟨t', hreads t' ht', fun key => ?_⟩
    rw [← meaningAt_apply, meaningAt, meaningAt, Toml.meaning_get?, Toml.meaning_get?,
      Toml.meaning_table_eq_iff.1 hsame key]

/-- What the calls make of the sections, one after the other, is what is read in the end. -/
theorem meaningAt_of_calls (hread : (readAll file).run.run w = (.ok t, w))
    (h : (calls.mapM (Call.run file)).run.run w = (.ok results, w'))
    (hresults : ∀ b ∈ results, b = true) (hback : ∀ u ∈ tablesOf file w calls, ReadsBack u)
    (hkeeps : ¬w'.toSite.IsSink file) :
    ∃ t', (readAll file).run.run w' = (.ok t', w') ∧
      ∀ key, meaningAt t' key = (lastSet calls key (Table.get? t key)).map Value.meaning := by
  -- The other calls begin with what the first one has left, so the table is not fixed.
  induction calls generalizing w t results with
  | nil =>
    obtain ⟨-, rfl⟩ := run_pure_eq_ok_iff.1 h
    exact ⟨t, hread, fun key => rfl⟩
  | cons call rest ih =>
    obtain ⟨w₁, more, hcall, hrest, hmore⟩ := run_calls_cons h hresults
    simp only [tablesOf, hread, hcall, List.mem_append] at hback
    obtain ⟨t₁, hread₁, hmade⟩ := sections_of_call hread hcall
      (hback _ (.inl (Option.mem_toList.2 rfl)))
      fun hsink => hkeeps (isSink_of_calls hrest hmore hsink)
    obtain ⟨t', hread', hall⟩ := ih hread₁ hrest hmore fun u hu => hback u (.inr hu)
    refine ⟨t', hread', fun key => ?_⟩
    rw [hall, lastSet_cons]
    exact map_lastSet_congr (hmade key)

theorem readSection_of_meaning {t' : Table} {v : Option Value}
    (hread : (readAll file).run.run w = (.ok t', w))
    (h : meaningAt t' key = v.map Value.meaning) (hv : ∀ u, v = some u → ∃ members, u = .table members)
    (defaults : Table) :
    ∃ m m', mergeSection defaults v = .ok m ∧
      (readSection file defaults key).run.run w = (.ok m', w) ∧
      Value.meaning (.table m') = Value.meaning (.table m) := by
  obtain ⟨m, m', hm, hm', hsame⟩ := mergeSection_congr defaults h hv
  refine ⟨m, m', hm, ?_, hsame⟩
  rw [run_readSection hread, hm']

/-- After calls that succeed each section is what the last call that sets or drops it has made of it,
and all else says what it did before; the sections that have defaults are read over them. This is so
where the tables that are written read back, and the file is no sink. -/
theorem sections_of_calls (hread : (readAll file).run.run w = (.ok t, w))
    (hrenderer : IsSection t rendererKey) (hpdf : IsSection t pdfKey)
    (h : (calls.mapM (Call.run file)).run.run w = (.ok results, w'))
    (hresults : ∀ b ∈ results, b = true) (hback : ∀ u ∈ tablesOf file w calls, ReadsBack u)
    (hkeeps : ¬w'.toSite.IsSink file) :
    (∃ t', (readAll file).run.run w' = (.ok t', w') ∧
      (∀ key, key ≠ rendererKey → key ≠ pdfKey → meaningAt t' key = meaningAt t key) ∧
      ∀ key, meaningAt t' key = (lastSet calls key (Table.get? t key)).map Value.meaning) ∧
    (∃ m m', mergeSection rendererDefaults
        (lastSet calls rendererKey (Table.get? t rendererKey)) = .ok m ∧
      (readRenderer file).run.run w' = (.ok m', w') ∧
      Value.meaning (.table m') = Value.meaning (.table m)) ∧
    ∃ m m', mergeSection pdfDefaults (lastSet calls pdfKey (Table.get? t pdfKey)) = .ok m ∧
      (readPdf file).run.run w' = (.ok m', w') ∧
      Value.meaning (.table m') = Value.meaning (.table m) := by
  obtain ⟨t', hread', hall⟩ := meaningAt_of_calls hread h hresults hback hkeeps
  refine ⟨⟨t', hread', fun key hr hp => ?_, hall⟩, ?_, ?_⟩
  · rw [hall, lastSet_of_ne hr hp, meaningAt]
  · exact readSection_of_meaning hread' (hall _) (fun _ => exists_table_of_lastSet hrenderer) _
  · exact readSection_of_meaning hread' (hall _) (fun _ => exists_table_of_lastSet hpdf) _

section Desk

def checksBack (t : Table) : Bool :=
  match Toml.write t with
  | .ok written => (Toml.read written).toOption.any (Toml.haveSame · t)
  | .error _ => true

theorem readsBack_of_checksBack (h : checksBack t = true) : ReadsBack t := by
  intro written hwritten
  simp only [checksBack, hwritten] at h
  cases hread : Toml.read written with
  | ok t' =>
    rw [hread] at h
    obtain rfl : t' = t := Toml.eq_of_haveSame h
    exact ⟨t', rfl, rfl⟩
  | error fault =>
    rw [hread] at h
    cases h

theorem run_readAll_of_haveSame
    (h : ((readAll file).run.run w).1.toOption.any (Toml.haveSame · t) = true) :
    (readAll file).run.run w = (.ok t, w) := by
  obtain ⟨r, w₁, hrun⟩ : ∃ r w₁, (readAll file).run.run w = (r, w₁) := ⟨_, _, rfl⟩
  rw [hrun] at h
  cases r with
  | ok t' =>
    obtain rfl : t' = t := Toml.eq_of_haveSame h
    rw [hrun, eq_of_run_readAll hrun]
  | error fault => cases h

def desk (e : Entry) : World := still ⟨⟨[([text "c"], e)]⟩, []⟩

def deskFile : Path := .ofText (text "/c")

def deskText : Text := text "x = 1\n[pdf]\nbrowser_path = \x22/b\x22\n"

def deskSections : Table :=
  [(text "x", .int 1), (pdfKey, .table [(browserKey, .string (text "/b"))])]

def filledDesk : World := desk (.file (Text.Utf8.encodeLenient deskText) false)

def deskCalls : List Call :=
  [.renderer (text "m") (text "white") (some 5), .pdf (text "p"), .clear,
    .renderer (text "m") (text "red") none]

theorem sections_of_calls_desk :
    ∃ w', (deskCalls.mapM (Call.run deskFile)).run.run filledDesk =
        (.ok [true, true, true, true], w') ∧
      (∃ t', (readAll deskFile).run.run w' = (.ok t', w') ∧
        meaningAt t' (text "x") = some (.int 1) ∧
        meaningAt t' rendererKey = some (Value.meaning (.table
          [(drawerKey, .string (text "m")), (backgroundKey, .string (text "red"))])) ∧
        meaningAt t' pdfKey = none) ∧
      (∃ m, (readRenderer deskFile).run.run w' = (.ok m, w') ∧
        Value.meaning (.table m) = Value.meaning (.table
          [(drawerKey, .string (text "m")), (backgroundKey, .string (text "red"))])) ∧
      ∃ m, (readPdf deskFile).run.run w' = (.ok m, w') ∧
        Value.meaning (.table m) = Value.meaning (.table pdfDefaults) := by
  obtain ⟨w', hrun⟩ : ∃ w', (deskCalls.mapM (Call.run deskFile)).run.run filledDesk =
      (.ok [true, true, true, true], w') := exists_run_eq (by decide +kernel)
  have hread : (readAll deskFile).run.run filledDesk = (.ok deskSections, filledDesk) :=
    run_readAll_of_haveSame (by decide +kernel)
  have hrenderer : IsSection deskSections rendererKey := by
    intro v hv
    cases hv
  have hpdf : IsSection deskSections pdfKey := by
    intro v hv
    obtain rfl := Option.some.inj hv
    exact ⟨_, rfl⟩
  have hback : ∀ u ∈ tablesOf deskFile filledDesk deskCalls, ReadsBack u := by
    have hall : (tablesOf deskFile filledDesk deskCalls).all checksBack = true := by decide +kernel
    exact fun u hu => readsBack_of_checksBack (List.all_eq_true.1 hall u hu)
  have hkeeps : ¬((deskCalls.mapM (Call.run deskFile)).run.run filledDesk).2.toSite.IsSink
      deskFile := by decide +kernel
  rw [hrun] at hkeeps
  obtain ⟨⟨t', hread', hother, hall⟩, ⟨m, m', hm, hm', hsame⟩, n, n', hn, hn', hsame'⟩ :=
    sections_of_calls hread hrenderer hpdf hrun (by decide) hback hkeeps
  refine ⟨w', hrun, ⟨t', hread', ?_, hall rendererKey, hall pdfKey⟩, ⟨m', hm', ?_⟩, n', hn', ?_⟩
  · exact hother (text "x") (by decide) (by decide)
  · cases hm
    exact hsame
  · cases hn
    exact hsame'

def onlyPdf : List Call := [.pdf (text "p")]

/-- Where the file is a sink, a section that was saved with success is not read again, though what
was written would be read back. -/
theorem sections_of_calls_sink :
    ∃ w', (readAll deskFile).run.run (desk .sink) = (.ok [], desk .sink) ∧
      IsSection [] rendererKey ∧ IsSection [] pdfKey ∧
      (onlyPdf.mapM (Call.run deskFile)).run.run (desk .sink) = (.ok [true], w') ∧
      (∀ u ∈ tablesOf deskFile (desk .sink) onlyPdf, ReadsBack u) ∧
      ¬∃ t', (readAll deskFile).run.run w' = (.ok t', w') ∧
        meaningAt t' pdfKey =
          (lastSet onlyPdf pdfKey (Table.get? [] pdfKey)).map Value.meaning := by
  obtain ⟨w', hrun⟩ : ∃ w', (onlyPdf.mapM (Call.run deskFile)).run.run (desk .sink) =
      (.ok [true], w') := exists_run_eq (by decide +kernel)
  have hread : (readAll deskFile).run.run (desk .sink) = (.ok [], desk .sink) :=
    run_readAll_of_haveSame (by decide +kernel)
  have hempty : ∀ key, IsSection [] key := by
    intro key v hv
    cases hv
  have hafter : (readAll deskFile).run.run
      ((onlyPdf.mapM (Call.run deskFile)).run.run (desk .sink)).2 =
        (.ok [], ((onlyPdf.mapM (Call.run deskFile)).run.run (desk .sink)).2) :=
    run_readAll_of_haveSame (by decide +kernel)
  have hback : ∀ u ∈ tablesOf deskFile (desk .sink) onlyPdf, ReadsBack u := by
    have hall : (tablesOf deskFile (desk .sink) onlyPdf).all checksBack = true := by
      decide +kernel
    exact fun u hu => readsBack_of_checksBack (List.all_eq_true.1 hall u hu)
  refine ⟨w', hread, hempty _, hempty _, hrun, hback, ?_⟩
  rintro ⟨t', hread', hsaved⟩
  rw [hrun] at hafter
  obtain rfl := Except.ok.inj (congrArg Prod.fst (hread'.symm.trans hafter))
  cases hsaved

end Desk

end DocPress.Settings
