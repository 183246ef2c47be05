import DocPress.Proofs.Assets.Copying

namespace DocPress.Assets

open World FileSystem

variable {fs₀ fs fs₁ fs₂ : FileSystem} {A T l r s : Location} {content : Bytes} {executable : Bool}

theorem IsAsset.eq_of_prefix (htree : fs₀.IsTree) (hr : IsAsset fs₀ A r) (hs : IsAsset fs₀ A s)
    (h : r <+: s) : r = s := by
  by_contra hne
  obtain ⟨-, content, executable, hfile⟩ := hr
  obtain ⟨-, _, _, hbelow⟩ := hs
  have hprefix : A ++ r <+: A ++ s := (List.prefix_append_right_inj A).2 h
  have hd := (htree.open_of_prefix hbelow hprefix (by simpa using hne)).entryAt_eq
  rw [hfile] at hd
  cases hd

theorem exists_landing (fs : FileSystem) (T : Location) (hr : r ≠ []) :
    ∃ s, landing fs (T ++ r) = T ++ s ∧ r <+: s := by
  unfold landing
  split
  · rw [List.getLast?_append_of_ne_nil _ hr, List.append_assoc]
    exact ⟨_, rfl, List.prefix_append _ _⟩
  · exact ⟨r, rfl, List.prefix_rfl⟩

theorem landing_eq_iff (h : fs₀.entryAt l = some .directory ↔ fs.entryAt l = some .directory) :
    landing fs l = landing fs₀ l := by
  unfold landing isDirectoryAt
  simp only [decide_eq_true_eq, h]

theorem eq_of_landing_eq (htree : fs₀.IsTree) (hr : IsAsset fs₀ A r) (hs : IsAsset fs₀ A s)
    (h : landing fs₀ (T ++ r) = landing fs₀ (T ++ s)) : r = s := by
  obtain ⟨t, ht, hrt⟩ := exists_landing fs₀ T hr.1
  obtain ⟨u, hu, hsu⟩ := exists_landing fs₀ T hs.1
  obtain rfl : t = u := List.append_cancel_left (ht.symm.trans (h.trans hu))
  rcases List.prefix_or_prefix_of_prefix hrt hsu with hp | hp
  · exact hr.eq_of_prefix htree hs hp
  · exact (hs.eq_of_prefix htree hr hp).symm

theorem eq_of_eq_landing (htree : fs₀.IsTree) (hr : IsAsset fs₀ A r) (hs : IsAsset fs₀ A s)
    (h : T ++ r = landing fs₀ (T ++ s)) : r = s := by
  obtain ⟨t, ht, hst⟩ := exists_landing fs₀ T hs.1
  obtain rfl : r = t := List.append_cancel_left (h.trans ht)
  exact (hs.eq_of_prefix htree hr hst).symm

theorem not_prefix_dropLast (htree : fs₀.IsTree) (hr : IsAsset fs₀ A r) (hs : IsAsset fs₀ A s)
    {t : Location} (hrt : r <+: t) : ¬T ++ t <+: T ++ s.dropLast := by
  intro h
  have hts : t <+: s.dropLast := (List.prefix_append_right_inj T).1 h
  obtain rfl := hr.eq_of_prefix htree hs ((hrt.trans hts).trans (List.dropLast_prefix s))
  have hlength := (hrt.trans hts).length_le
  rw [List.length_dropLast] at hlength
  exact hr.1 (List.eq_nil_of_length_eq_zero (by omega))

theorem not_landing_prefix_dropLast (htree : fs₀.IsTree) (hr : IsAsset fs₀ A r) (hs : IsAsset fs₀ A s) :
    ¬landing fs₀ (T ++ r) <+: T ++ s.dropLast := by
  obtain ⟨t, ht, hrt⟩ := exists_landing fs₀ T hr.1
  rw [ht]
  exact not_prefix_dropLast htree hr hs hrt

/-- The files of `A` for which `done` holds have been copied below `T`, and nothing else has changed
since `fs₀`. -/
structure Copied (fs₀ : FileSystem) (A T : Location) (done : Location → Prop) (fs : FileSystem) :
    Prop where
  linkFree : fs.LinkFree
  isTree : fs.IsTree
  isOpen : ∀ r, done r → fs.Open (T ++ r.dropLast)
  landed : ∀ r, done r → ∀ content executable,
    fs₀.entryAt (A ++ r) = some (.file content executable) →
    fs.entryAt (landing fs₀ (T ++ r)) =
      some (.over (fs₀.entryAt (landing fs₀ (T ++ r))) content executable)
  directories : ∀ l, fs₀.entryAt l = some .directory → fs.entryAt l = some .directory
  elsewhere : ∀ l, (∀ r, done r → l ≠ landing fs₀ (T ++ r)) →
    fs.entryAt l = fs₀.entryAt l ∨ fs₀.entryAt l = none ∧ fs.entryAt l = some .directory ∧
      ∃ r, done r ∧ l <+: T ++ r.dropLast

theorem copied_none (hfree : fs₀.LinkFree) (htree : fs₀.IsTree) :
    Copied fs₀ A T (fun _ => False) fs₀ :=
  ⟨hfree, htree, nofun, nofun, fun _ h => h, fun _ _ => .inl rfl⟩

theorem Copied.congr {done done' : Location → Prop} (h : Copied fs₀ A T done fs)
    (hd : ∀ r, done r ↔ done' r) : Copied fs₀ A T done' fs := by
  obtain rfl : done = done' := funext fun r => propext (hd r)
  exact h

variable {done : Location → Prop}

theorem Copied.source_eq (h : Copied fs₀ A T done fs)
    (hout : ∀ s, done s → ¬A <+: landing fs₀ (T ++ s))
    (hfile : fs₀.entryAt (A ++ r) = some (.file content executable)) :
    fs.entryAt (A ++ r) = some (.file content executable) := by
  have hne : ∀ s, done s → A ++ r ≠ landing fs₀ (T ++ s) :=
    fun s hs he => hout s hs (he ▸ List.prefix_append A r)
  rcases h.elsewhere _ hne with he | ⟨hn, -⟩
  · rw [he, hfile]
  · rw [hn] at hfile
    cases hfile

theorem Copied.open_of_open (h : Copied fs₀ A T done fs) (hl : fs₀.Open l) : fs.Open l :=
  fun k hk => h.directories k (hl k hk)

theorem Copied.directory_iff (h : Copied fs₀ A T done fs) (htree : fs₀.IsTree)
    (hdone : ∀ s, done s → IsAsset fs₀ A s) (hr : IsAsset fs₀ A r) :
    fs₀.entryAt (T ++ r) = some .directory ↔ fs.entryAt (T ++ r) = some .directory := by
  by_cases hland : ∃ s, done s ∧ T ++ r = landing fs₀ (T ++ s)
  · obtain ⟨s, hs, he⟩ := hland
    obtain rfl := eq_of_eq_landing htree hr (hdone s hs) he
    obtain ⟨-, content, executable, hfile⟩ := hr
    have hnot : fs₀.entryAt (T ++ r) ≠ some .directory := by
      intro hd
      have hlength := congrArg List.length he
      rw [landing_of_isDirectoryAt hd, List.getLast?_append_of_ne_nil _ (hdone r hs).1,
        List.getLast?_eq_some_getLast (hdone r hs).1] at hlength
      simp at hlength
    refine iff_of_false hnot ?_
    rw [he, h.landed r hs content executable hfile]
    simp
  · have hne : ∀ s, done s → T ++ r ≠ landing fs₀ (T ++ s) := fun s hs he => hland ⟨s, hs, he⟩
    rcases h.elsewhere _ hne with he | ⟨-, -, s, hs, hp⟩
    · rw [he]
    · exact absurd hp (not_prefix_dropLast htree hr (hdone s hs) List.prefix_rfl)

/-- Where the next copy goes there is what was there at first, or an earlier copy of the same. -/
theorem Copied.entryAt_landing (h : Copied fs₀ A T done fs) (htree : fs₀.IsTree)
    (hdone : ∀ s, done s → IsAsset fs₀ A s) (hr : IsAsset fs₀ A r)
    (hfile : fs₀.entryAt (A ++ r) = some (.file content executable)) :
    Entry.over (fs.entryAt (landing fs₀ (T ++ r))) content executable =
      .over (fs₀.entryAt (landing fs₀ (T ++ r))) content executable := by
  by_cases hland : done r
  · rw [h.landed r hland content executable hfile, Entry.over_over]
  · have hne : ∀ s, done s → landing fs₀ (T ++ r) ≠ landing fs₀ (T ++ s) :=
      fun s hs he => hland (eq_of_landing_eq htree hr (hdone s hs) he ▸ hs)
    rcases h.elsewhere _ hne with he | ⟨-, -, s, hs, hp⟩
    · rw [he]
    · exact absurd hp (not_landing_prefix_dropLast htree hr (hdone s hs))

/-- One more file is copied: the directories above its copy are made, and then the copy is put
there. -/
theorem Copied.step (h : Copied fs₀ A T done fs) (htree : fs₀.IsTree)
    (hdone : ∀ s, done s → IsAsset fs₀ A s) (hr : IsAsset fs₀ A r)
    (hfile : fs₀.entryAt (A ++ r) = some (.file content executable))
    (hopened : Opened fs (T ++ r.dropLast) fs₁)
    (hplaced : Placed fs₁ (landing fs₁ (T ++ r))
      (.over (fs₁.entryAt (landing fs₁ (T ++ r))) content executable) fs₂) :
    Copied fs₀ A T (fun s => s = r ∨ done s) fs₂ := by
  -- Making directories changes nothing at the target nor where the copy lands.
  have hkept : ∀ {s t}, IsAsset fs₀ A s → s <+: t → fs₁.entryAt (T ++ t) = fs.entryAt (T ++ t) :=
    fun hs hst => hopened.entryAt_of_not_prefix (not_prefix_dropLast htree hs hr hst)
  have hkept' : ∀ {s}, IsAsset fs₀ A s →
      fs₁.entryAt (landing fs₀ (T ++ s)) = fs.entryAt (landing fs₀ (T ++ s)) :=
    fun hs => hopened.entryAt_of_not_prefix (not_landing_prefix_dropLast htree hs hr)
  have hland : landing fs₁ (T ++ r) = landing fs₀ (T ++ r) :=
    landing_eq_iff (by rw [hkept hr List.prefix_rfl]; exact h.directory_iff htree hdone hr)
  rw [hland, hkept' hr, h.entryAt_landing htree hdone hr hfile] at hplaced
  refine ⟨hplaced.linkFree (hopened.linkFree h.linkFree) (by simp),
    hplaced.isTree (hopened.isTree h.isTree), ?_, ?_, ?_, ?_⟩
  · rintro s (rfl | hs)
    · exact hplaced.open_of_open hopened.isOpen
    · exact hplaced.open_of_open (hopened.open_of_open (h.isOpen s hs))
  · intro s hs content' executable' hfile'
    by_cases hsr : s = r
    · subst hsr
      obtain ⟨rfl, rfl⟩ : content = content' ∧ executable = executable' := by
        simpa [hfile] using hfile'
      exact hplaced.entryAt_self
    · have hs' : done s := hs.resolve_left hsr
      rw [hplaced.entryAt_of_ne fun he => hsr (eq_of_landing_eq htree (hdone s hs') hr he),
        hkept' (hdone s hs')]
      exact h.landed s hs' content' executable' hfile'
  · intro l hl
    have hl₁ := hopened.entryAt_of_some (h.directories l hl)
    have hne : l ≠ landing fs₀ (T ++ r) := fun he => hplaced.notDirectory (he ▸ hl₁)
    rw [hplaced.entryAt_of_ne hne, hl₁]
  · intro l hl
    rw [hplaced.entryAt_of_ne (hl r (.inl rfl))]
    have hold := h.elsewhere l fun s hs => hl s (.inr hs)
    rcases hopened.elsewhere l with he | ⟨hn, hd, hp⟩
    · rw [he]
      exact hold.imp_right fun ⟨hn, hd, s, hs, hp⟩ => ⟨hn, hd, s, .inr hs, hp⟩
    · right
      rcases hold with he | ⟨-, hd', -⟩
      · exact ⟨he.symm.trans hn, hd, r, .inl rfl, hp⟩
      · rw [hn] at hd'
        cases hd'

section Run

variable {w w' : World} {source destination : Path}

/-- The world is as before, but for files that were copied. -/
def HasCopied (fs₀ : FileSystem) (A T : Location) (done : Location → Prop) (w w' : World) : Prop :=
  ∃ files, w' = { w with files := files } ∧ Copied fs₀ A T done files

theorem run_copyBelow_eq_ok (hs : source.IsPlain) (ht : (target source destination).IsPlain)
    (htree : fs₀.IsTree)
    (hw : Copied fs₀ source.parts (target source destination).parts done w.files)
    (hdone : ∀ s, done s → IsAsset fs₀ source.parts s)
    (hout : ∀ s, done s → ¬source.parts <+: landing fs₀ ((target source destination).parts ++ s))
    (hr : IsAsset fs₀ source.parts r)
    (h : (copyBelow source destination r).run.run w = (.ok (), w')) :
    HasCopied fs₀ source.parts (target source destination).parts (fun s => s = r ∨ done s) w w' := by
  obtain ⟨-, content, executable, hfile⟩ := id hr
  have hinside := htree.isInside hfile
  have hcopied : ((target source destination).below r).IsPlain := ht.below hinside
  obtain ⟨⟨⟩, w₁, hmade, h⟩ := run_bind_eq_ok_iff.1 h
  obtain ⟨files₁, rfl, hopened⟩ := run_makeDirectories_eq_ok hw.linkFree hcopied.parent hmade
  have hparent : ((target source destination).below r).parent.parts =
      (target source destination).parts ++ r.dropLast := Path.dropLast_parts_below hr.1 _
  rw [hparent] at hopened
  have hsource : files₁.entryAt (source.parts ++ r) = some (.file content executable) :=
    hopened.entryAt_of_some (hw.source_eq hout hfile)
  have hname : (source.below r).parts.getLast? =
      ((target source destination).below r).parts.getLast? :=
    (List.getLast?_append_of_ne_nil _ hr.1).trans (List.getLast?_append_of_ne_nil _ hr.1).symm
  obtain ⟨files, rfl, hplaced⟩ := run_copyFile_eq_ok (hopened.linkFree hw.linkFree)
    (hs.below hinside) hcopied hname hsource h
  exact ⟨files, rfl, hw.step htree hdone hr hfile hopened hplaced⟩

theorem run_checkLabel_eq_ok {parts : List Text} (h : (checkLabel parts).run.run w = (.ok (), w')) :
    w = w' := by
  unfold checkLabel at h
  split at h
  · exact (run_pure_eq_ok_iff.1 h).2
  · cases h

def copyRound (source destination : Path) (parts : List Text) (_ : PUnit) :
    Run (ForInStep PUnit) := do
  try copyBelow source destination parts catch fault => do
    checkLabel parts
    throw fault
  pure (ForInStep.yield PUnit.unit)

theorem run_copyRound_eq_ok {parts : List Text} {step : ForInStep PUnit}
    (h : (copyRound source destination parts ⟨⟩).run.run w = (.ok step, w')) :
    step = .yield ⟨⟩ ∧ (copyBelow source destination parts).run.run w = (.ok (), w') := by
  obtain ⟨⟨⟩, w₁, htry, hyield⟩ := run_bind_eq_ok_iff.1 h
  obtain ⟨rfl, rfl⟩ := run_pure_eq_ok_iff.1 hyield
  refine ⟨rfl, ?_⟩
  rcases run_tryCatch_eq_iff.1 htry with ⟨_, -, hcopy⟩ | ⟨fault, w₂, -, hhandle⟩
  · exact hcopy
  · obtain ⟨_, _, -, hthrow⟩ := run_bind_eq_ok_iff.1 hhandle
    cases hthrow

theorem run_forIn_copyRound_eq_ok (hs : source.IsPlain) (ht : (target source destination).IsPlain)
    (htree : fs₀.IsTree) {files : List Location}
    (hw : Copied fs₀ source.parts (target source destination).parts done w.files)
    (hdone : ∀ r, r ∈ files ∨ done r → IsAsset fs₀ source.parts r ∧
      ¬source.parts <+: landing fs₀ ((target source destination).parts ++ r))
    (h : (forIn files PUnit.unit (copyRound source destination)).run.run w = (.ok ⟨⟩, w')) :
    HasCopied fs₀ source.parts (target source destination).parts
      (fun r => r ∈ files ∨ done r) w w' := by
  induction files generalizing done w with
  | nil =>
    obtain ⟨-, rfl⟩ := run_pure_eq_ok_iff.1 h
    exact ⟨w.files, rfl, hw.congr fun r => by simp⟩
  | cons r files ih =>
    rw [List.forIn_cons] at h
    obtain ⟨step, w₁, hround, h⟩ := run_bind_eq_ok_iff.1 h
    obtain ⟨rfl, hcopy⟩ := run_copyRound_eq_ok hround
    have hdone' := fun s hs => hdone s (.inr hs)
    obtain ⟨files₁, rfl, hw₁⟩ := run_copyBelow_eq_ok hs ht htree hw (fun s hs => (hdone' s hs).1)
      (fun s hs => (hdone' s hs).2) (hdone r (.inl List.mem_cons_self)).1 hcopy
    have hiff : ∀ s, s ∈ r :: files ∨ done s ↔ s ∈ files ∨ s = r ∨ done s := fun s => by
      rw [List.mem_cons, or_assoc, or_left_comm]
    obtain ⟨files₂, rfl, hw₂⟩ := ih hw₁ (fun s hs => hdone s ((hiff s).2 hs)) h
    exact ⟨files₂, rfl, hw₂.congr fun s => (hiff s).symm⟩

/-- All files have been copied when the loop is through. -/
theorem run_copyAll_eq_ok (hs : source.IsPlain) (ht : (target source destination).IsPlain)
    (hfree : w.files.LinkFree) (htree : w.files.IsTree) {files : List Location}
    (hfiles : ∀ r ∈ files, IsAsset w.files source.parts r ∧
      ¬source.parts <+: landing w.files ((target source destination).parts ++ r))
    (h : (copyAll source destination files).run.run w = (.ok (), w')) :
    HasCopied w.files source.parts (target source destination).parts (· ∈ files) w w' := by
  obtain ⟨⟨⟩, w₁, hloop, h⟩ := run_bind_eq_ok_iff.1 h
  have hlast : w₁ = w' := by
    cases hl : files.getLast? with
    | none =>
      rw [hl] at h
      exact (run_pure_eq_ok_iff.1 h).2
    | some parts =>
      rw [hl] at h
      exact run_checkLabel_eq_ok h
  subst hlast
  obtain ⟨files₁, rfl, hcopied⟩ := run_forIn_copyRound_eq_ok hs ht htree (copied_none hfree htree)
    (fun r hr => hfiles r (by simpa using hr)) hloop
  exact ⟨files₁, rfl, hcopied.congr fun r => by simp⟩

theorem run_list_eq_ok {files : List (List Text)}
    (h : (list source).run.run w = (.ok files, w')) : w = w' ∧ filesIn w.toSite source = .ok files := by
  obtain ⟨b, w₁, hask, h⟩ := run_bind_eq_ok_iff.1 h
  rw [run_ask] at hask
  obtain rfl : w = w₁ := congrArg Prod.snd hask
  by_cases hb : b = true
  · rw [if_pos hb] at h
    rw [run_ask] at h
    exact ⟨congrArg Prod.snd h, congrArg Prod.fst h⟩
  · rw [if_neg hb] at h
    cases h

theorem run_copy_eq_ok (hs : source.IsPlain) (ht : (target source destination).IsPlain)
    (hfree : w.files.LinkFree) (htree : w.files.IsTree)
    (hout : ∀ r, IsAsset w.files source.parts r →
      ¬source.parts <+: landing w.files ((target source destination).parts ++ r))
    {copied : Path} (h : (copy source destination).run.run w = (.ok copied, w')) :
    copied = target source destination ∧
      ∃ files printed, w' = { w with files := files, printed := printed } ∧
        Copied w.files source.parts (target source destination).parts
          (IsAsset w.files source.parts) files := by
  obtain ⟨files, w₁, hlist, h⟩ := run_bind_eq_ok_iff.1 h
  obtain ⟨rfl, hlisted⟩ := run_list_eq_ok hlist
  have hmem : ∀ r, r ∈ files ↔ IsAsset w.files source.parts r := fun r =>
    mem_filesIn hfree htree hs hlisted
  obtain ⟨⟨⟩, w₂, htry, h⟩ := run_bind_eq_ok_iff.1 h
  obtain ⟨⟨⟩, w₃, hprint, h⟩ := run_bind_eq_ok_iff.1 h
  obtain ⟨rfl, rfl⟩ := run_pure_eq_ok_iff.1 h
  obtain rfl : { w₂ with printed := w₂.printed ++ text "\n" } = w₃ := congrArg Prod.snd hprint
  have hcopy : (copyAll source destination files).run.run w = (.ok (), w₂) := by
    rcases run_tryCatch_eq_iff.1 htry with ⟨_, -, hcopy⟩ | ⟨fault, w₃, -, hhandle⟩
    · exact hcopy
    · split at hhandle
      · cases hhandle
      · obtain ⟨_, _, -, hthrow⟩ := run_bind_eq_ok_iff.1 hhandle
        cases hthrow
  obtain ⟨files₁, rfl, hcopied⟩ := run_copyAll_eq_ok hs ht hfree htree
    (fun r hr => ⟨(hmem r).1 hr, hout r ((hmem r).1 hr)⟩) hcopy
  exact ⟨rfl, files₁, _, rfl, hcopied.congr hmem⟩

end Run

end DocPress.Assets
