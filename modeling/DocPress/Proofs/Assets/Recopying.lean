import DocPress.Proofs.Assets.Transfer

namespace DocPress

namespace FileSystem

variable {fs fs' fs'' : FileSystem} {l : Location} {e : Entry} {p : Path}

/-- The same entries are there. -/
def SameEntries (fs fs' : FileSystem) : Prop := ∀ l, fs'.entryAt l = fs.entryAt l

theorem SameEntries.trans (h : SameEntries fs fs') (h' : SameEntries fs' fs'') :
    SameEntries fs fs'' :=
  fun l => (h' l).trans (h l)

theorem SameEntries.linkFree (h : SameEntries fs fs') (hfree : fs.LinkFree) : fs'.LinkFree :=
  fun l target he => hfree l target ((h l).symm.trans he)

theorem SameEntries.open_iff (h : SameEntries fs fs') : fs'.Open l ↔ fs.Open l := by
  simp only [Open, h _]

theorem Placed.sameEntries (h : Placed fs l e fs') (he : fs.entryAt l = some e) :
    SameEntries fs fs' := by
  intro k
  by_cases hk : k = l
  · rw [hk, h.entryAt_self, he]
  · exact h.entryAt_of_ne hk

theorem makeDirectory_ne_ok_of_open (hfree : fs.LinkFree) (hp : p.IsPlain) (hopen : fs.Open p.parts)
    (here : Location) : fs.makeDirectory here p.toText ≠ .ok fs' := by
  intro h
  obtain ⟨l, hl, hn, -⟩ := makeDirectory_eq_ok_iff.1 h
  obtain ⟨rfl, -⟩ := (locate_eq_ok_iff hfree hp here l).1 hl
  rw [hopen.entryAt_eq] at hn
  cases hn

end FileSystem

namespace World

open FileSystem

variable {fs : FileSystem} {p : Path}

/-- Where the entries are those of `fs`, they still are. -/
def Stays (fs : FileSystem) (w w' : World) : Prop :=
  SameEntries fs w.files → SameEntries fs w'.files

theorem stays_refl (w : World) : Stays fs w w := id

theorem stays_trans (a b c : World) (h : Stays fs a b) (h' : Stays fs b c) : Stays fs a c :=
  fun ha => h' (h ha)

theorem stays_makeDirectories (hfree : fs.LinkFree) (hp : p.IsPlain) (hopen : fs.Open p.parts) :
    Within (Stays fs) (fun _ => True) (makeDirectories p) := by
  refine within_makeDirectories_of stays_refl stays_trans fun count w files h hw => ?_
  have hplain : ({ p with parts := p.parts.take count } : Path).IsPlain :=
    ⟨hp.isAbsolute, fun part hm => hp.wellFormed part (List.mem_of_mem_take hm),
      fun hm => hp.dotDot_notMem (List.mem_of_mem_take hm)⟩
  have hopen' : w.files.Open (p.parts.take count) :=
    hw.open_iff.2 fun k hk => hopen k (hk.trans (List.take_prefix _ _))
  exact absurd h (makeDirectory_ne_ok_of_open (hw.linkFree hfree) hplain hopen' w.here)

end World

namespace Assets

open World FileSystem

variable {fs₀ fs : FileSystem} {A T r : Location} {w w' : World}
  {source copied place destination : Path} {content : Bytes} {executable : Bool} {old : Option Entry}

theorem stays_copyTo (hfree : fs.LinkFree) (hs : source.IsPlain) (hp : place.IsPlain)
    (hfile : fs.entryAt source.parts = some (.file content executable))
    (hplace : fs.entryAt place.parts = some (.over old content executable) ∨
      fs.entryAt place.parts = some .directory) :
    Within (Stays fs) (fun _ => True) (copyTo source place executable) := by
  intro w result w' h _ hw
  have hfree' := hw.linkFree hfree
  have hfile' : w.files.entryAt source.parts = some (.file content executable) := (hw _).trans hfile
  have hplace' : w.files.entryAt place.parts ≠ some .directory →
      w.files.entryAt place.parts = some (.over old content executable) := by
    rw [hw]
    exact fun hd => hplace.resolve_right hd
  cases result with
  | ok =>
    obtain ⟨files, rfl, hplaced⟩ := run_copyTo_eq_ok hfree' hs hp hfile' h
    have he := hplace' hplaced.notDirectory
    rw [he, Entry.over_over] at hplaced
    exact hw.trans (hplaced.sameEntries he)
  | error fault =>
    -- The bytes may be written when the mode cannot be set.
    rcases run_bind_eq_error_iff.1 h with hask | ⟨content', w₁, hask, h⟩
    · rw [run_ask] at hask
      obtain rfl : w = w' := congrArg Prod.snd hask
      exact hw
    rw [run_ask] at hask
    obtain rfl : w = w₁ := congrArg Prod.snd hask
    obtain ⟨rfl, -⟩ := readBytes_of_file hfree' hs hfile' (congrArg Prod.fst hask)
    rcases run_bind_eq_error_iff.1 h with hwrite | ⟨⟨⟩, w₁, hwrite, hmode⟩
    · obtain rfl := run_change_eq_error hwrite
      exact hw
    · obtain rfl := run_change_eq_error hmode
      obtain ⟨files, hc, hwritten, rfl⟩ := run_change_eq_ok_iff.1 hwrite
      have hplaced := placed_of_write hfree' hp hc hwritten
      have he := hplace' hplaced.notDirectory
      rw [he, Entry.over_again] at hplaced
      exact hw.trans (hplaced.sameEntries he)

theorem stays_copyFile (hfree : fs.LinkFree) (hs : source.IsPlain) (ht : copied.IsPlain)
    (hname : source.parts.getLast? = copied.parts.getLast?)
    (hfile : fs.entryAt source.parts = some (.file content executable))
    (hlanded : fs.entryAt (landing fs copied.parts) = some (.over old content executable)) :
    Within (Stays fs) (fun _ => True) (copyFile source copied) := by
  intro w result w' h _ hw
  have hfree' := hw.linkFree hfree
  have hfile' : w.files.entryAt source.parts = some (.file content executable) := (hw _).trans hfile
  obtain ⟨_, -, rfl⟩ | hcopy := run_copyFile h
  · exact hw
  obtain ⟨_, -, hask⟩ | ⟨content', w₁, hask, -⟩ := run_bind_cases hcopy
  · rw [run_ask] at hask
    obtain rfl : w = w' := congrArg Prod.snd hask
    exact hw
  rw [run_ask] at hask
  obtain ⟨-, hentry⟩ := readBytes_of_file hfree' hs hfile' (congrArg Prod.fst hask)
  simp only [hentry] at hcopy
  obtain ⟨hplace, hcases⟩ := placeOf_cases hfree' ht (ne_nil_of_file hfile) hname
  have hland : landing w.files copied.parts = landing fs copied.parts :=
    landing_eq_iff (by rw [hw])
  rw [hland, hw] at hcases
  exact stays_copyTo hfree hs hplace hfile (hcases.imp_left fun he => he ▸ hlanded)
    w result w' hcopy (fun _ _ => trivial) hw

theorem stays_checkLabel (parts : List Text) : Within (Stays fs) (fun _ => True) (checkLabel parts) := by
  unfold checkLabel
  split
  · exact within_pure stays_refl _
  · exact within_throw stays_refl _

theorem stays_list : Within (Stays fs) (fun _ => True) (list source) := by
  refine Within.bind stays_trans (within_ask stays_refl _) fun b => ?_
  split
  · exact within_ask stays_refl _
  · exact Within.bind stays_trans (within_throw stays_refl _) fun _ => within_ask stays_refl _

theorem stays_print (t : Text) : Within (Stays fs) (fun _ => True) (World.print t) := by
  intro w result w' hrun _
  obtain rfl : { w with printed := w.printed ++ t } = w' := congrArg Prod.snd hrun
  exact id

/-- What has been copied from `A` to `T`: the copies are there, and their directories. -/
structure HasCopies (A T : Location) (fs : FileSystem) : Prop where
  linkFree : fs.LinkFree
  isTree : fs.IsTree
  isOpen : ∀ r, IsAsset fs A r → fs.Open (T ++ r.dropLast)
  landed : ∀ r, r ≠ [] → ∀ content executable,
    fs.entryAt (A ++ r) = some (.file content executable) →
    ∃ old, fs.entryAt (landing fs (T ++ r)) = some (.over old content executable)

section Again

variable (h : HasCopies source.parts (target source destination).parts fs)
  (hs : source.IsPlain) (ht : (target source destination).IsPlain)

include h hs ht

theorem stays_copyBelow (hr : IsAsset fs source.parts r) :
    Within (Stays fs) (fun _ => True) (copyBelow source destination r) := by
  obtain ⟨hne, content, executable, hfile⟩ := id hr
  have hinside := h.isTree.isInside hfile
  obtain ⟨old, hlanded⟩ := h.landed r hne content executable hfile
  have hcopied : ((target source destination).below r).IsPlain := ht.below hinside
  have hparent : ((target source destination).below r).parent.parts =
      (target source destination).parts ++ r.dropLast := Path.dropLast_parts_below hne _
  have hname : (source.below r).parts.getLast? =
      ((target source destination).below r).parts.getLast? :=
    (List.getLast?_append_of_ne_nil _ hne).trans (List.getLast?_append_of_ne_nil _ hne).symm
  refine Within.bind stays_trans ?_ fun _ => ?_
  · exact stays_makeDirectories h.linkFree hcopied.parent (hparent ▸ h.isOpen r hr)
  · exact stays_copyFile h.linkFree (hs.below hinside) hcopied hname hfile hlanded

theorem stays_copyAll {files : List Location} (hfiles : ∀ r ∈ files, IsAsset fs source.parts r) :
    Within (Stays fs) (fun _ => True) (copyAll source destination files) := by
  refine Within.bind stays_trans (Within.forIn stays_refl stays_trans (fun r hr _ => ?_) _) fun _ => ?_
  · refine Within.bind stays_trans ?_ fun _ => within_pure stays_refl _
    exact (stays_copyBelow h hs ht (hfiles r hr)).tryCatch stays_trans fun fault =>
      (stays_checkLabel r).bind stays_trans fun _ => within_throw stays_refl _
  · cases files.getLast? with
    | none => exact within_pure stays_refl _
    | some parts => exact stays_checkLabel parts

/-- Copying again leaves everything as it is, however it ends. -/
theorem stays_copy : Within (Stays fs) (fun _ => True) (copy source destination) := by
  intro w result w' hrun _ hw
  obtain ⟨fault, -, hlist⟩ | ⟨files, w₁, hlist, hrun⟩ := run_bind_cases hrun
  · exact stays_list w _ w' hlist (fun _ _ => trivial) hw
  obtain ⟨rfl, hlisted⟩ := run_list_eq_ok hlist
  have hfiles : ∀ r ∈ files, IsAsset fs source.parts r := by
    intro r hr
    have hasset := (mem_filesIn (hw.linkFree h.linkFree) ((isTree_congr hw).2 h.isTree) hs hlisted).1 hr
    simpa only [IsAsset, hw _] using hasset
  refine (?_ : Within (Stays fs) (fun _ => True) _) w result w' hrun (fun _ _ => trivial) hw
  refine Within.bind stays_trans ?_ fun _ => ?_
  · refine (stays_copyAll h hs ht hfiles).tryCatch stays_trans fun fault => ?_
    split
    · exact within_throw stays_refl _
    · exact (stays_print _).bind stays_trans fun _ => within_throw stays_refl _
  · exact (stays_print _).bind stays_trans fun _ => within_pure stays_refl _

end Again

end Assets

end DocPress
