import DocPress.Proofs.Assets.Recopying
import DocPress.Proofs.FileSystem.Refusal

namespace DocPress.Assets

open World FileSystem

variable {A T l r : Location} {before after : FileSystem}

/-- What copying the directory `A` to `T` makes of a file system. -/
structure Transferred (A T : Location) (before after : FileSystem) : Prop where
  /-- A copy is where it belongs, unless that is a directory or forgets what is written. -/
  copies : ∀ r content executable, r ≠ [] →
    before.entryAt (A ++ r) = some (.file content executable) →
    before.entryAt (T ++ r) ≠ some .directory → before.entryAt (T ++ r) ≠ some .sink →
    after.entryAt (T ++ r) = some (.file content executable)
  /-- A directory in its place takes the copy in, under the name of the file. -/
  takenIn : ∀ r content executable, r ≠ [] →
    before.entryAt (A ++ r) = some (.file content executable) →
    before.entryAt (T ++ r) = some .directory →
    after.entryAt (T ++ r) = some .directory ∧
      after.entryAt (T ++ r ++ r.getLast?.toList) =
        some (.over (before.entryAt (T ++ r ++ r.getLast?.toList)) content executable)
  elsewhere : ∀ l, (∀ r, IsAsset before A r → l ≠ landing before (T ++ r)) →
    after.entryAt l = before.entryAt l ∨
      before.entryAt l = none ∧ after.entryAt l = some .directory ∧
        ∃ r, IsAsset before A r ∧ l <+: T ++ r.dropLast
  source : ∀ r, after.entryAt (A ++ r) = before.entryAt (A ++ r)
  outside : ∀ l, ¬T <+: l →
    after.entryAt l = before.entryAt l ∨
      before.entryAt l = none ∧ after.entryAt l = some .directory ∧ l <+: T

theorem prefix_landing (fs : FileSystem) (T r : Location) : T <+: landing fs (T ++ r) := by
  unfold landing
  split
  · exact (List.prefix_append T r).trans (List.prefix_append _ _)
  · exact List.prefix_append T r

section Copied

variable (h : Copied before A T (IsAsset before A) after) (hA : ¬A <+: T) (hT : ¬T <+: A)

include hA hT in
theorem outside_of_source {k : Location} (hk : A <+: k) : ¬T <+: k := fun hk' =>
  (List.prefix_or_prefix_of_prefix hk hk').elim hA hT

include h

theorem Copied.outside (hl : ¬T <+: l) :
    after.entryAt l = before.entryAt l ∨
      before.entryAt l = none ∧ after.entryAt l = some .directory ∧ l <+: T := by
  have hne : ∀ r, IsAsset before A r → l ≠ landing before (T ++ r) :=
    fun r _ he => hl (he ▸ prefix_landing before T r)
  refine (h.elsewhere l hne).imp_right fun ⟨hn, hd, r, _, hp⟩ => ⟨hn, hd, ?_⟩
  exact (List.prefix_or_prefix_of_prefix hp (List.prefix_append T _)).resolve_right hl

include hA hT in
theorem Copied.entryAt_source (r : Location) : after.entryAt (A ++ r) = before.entryAt (A ++ r) := by
  rcases h.outside (outside_of_source hA hT (List.prefix_append A r)) with he | ⟨-, -, hp⟩
  · exact he
  · exact absurd ((List.prefix_append A r).trans hp) hA

include hA hT in
theorem Copied.isAsset_iff : IsAsset after A r ↔ IsAsset before A r := by
  simp only [IsAsset, h.entryAt_source hA hT]

include hA hT in
theorem Copied.transferred : Transferred A T before after where
  copies r content executable hr hfile hdirectory hsink := by
    have hlanded := h.landed r ⟨hr, content, executable, hfile⟩ content executable hfile
    rw [landing_of_not_isDirectoryAt hdirectory, Entry.over, if_neg hsink] at hlanded
    exact hlanded
  takenIn r content executable hr hfile hdirectory := by
    have hlanded := h.landed r ⟨hr, content, executable, hfile⟩ content executable hfile
    rw [landing_of_isDirectoryAt hdirectory, List.getLast?_append_of_ne_nil _ hr] at hlanded
    exact ⟨h.directories _ hdirectory, hlanded⟩
  elsewhere := h.elsewhere
  source := h.entryAt_source hA hT
  outside l := h.outside

include hA hT in
theorem Copied.hasCopies (htree : before.IsTree) : HasCopies A T after where
  linkFree := h.linkFree
  isTree := h.isTree
  isOpen r hr := h.isOpen r ((h.isAsset_iff hA hT).1 hr)
  landed r hr content executable hfile := by
    rw [h.entryAt_source hA hT] at hfile
    have hasset : IsAsset before A r := ⟨hr, content, executable, hfile⟩
    have hland : landing after (T ++ r) = landing before (T ++ r) :=
      landing_eq_iff (h.directory_iff htree (fun _ => id) hasset)
    rw [hland]
    exact ⟨_, h.landed r hasset content executable hfile⟩

end Copied

section Run

variable {w w' : World} {source destination : Path}

theorem run_copy_of_not_directory (hs : source.IsPlain) (hfree : w.files.LinkFree)
    (hnot : w.files.entryAt source.parts ≠ some .directory) :
    (copy source destination).run.run w = (.error (.project (.noAssets source)), w) ∨
      (¬source.Fits ∨ ∃ name ∈ source.parts, ¬IsShort name) ∧
        (copy source destination).run.run w =
          (.error (.system ⟨.nameTooLong, source.toText⟩), w) := by
  have hask := run_ask (·.isDirectory source) w
  cases hd : w.toSite.isDirectory source with
  | ok b =>
    left
    cases b with
    | true => exact absurd (Site.isDirectory_iff_open hfree hs hd).1.entryAt_eq hnot
    | false =>
      rw [hd] at hask
      refine run_bind_of_error ?_ _
      rw [list, run_bind_of_ok hask]
      rfl
  | error fault =>
    right
    refine ⟨Site.isLong_of_isDirectory hfree hs hd, ?_⟩
    rw [hd, Site.isDirectory_eq_error hd] at hask
    exact run_bind_of_error (run_bind_of_error hask _) _

/-- Copying loses nothing and touches nothing else: when it is through, each file below the source has
its copy, what stands elsewhere is as it was, and so is the source; only missing directories above the
copies are new outside of them. Copying again, however it ends, changes nothing. What is no directory
is refused, and nothing has changed then. -/
theorem copy_outcome (hs : source.IsPlain) (hd : destination.IsPlain) (hfree : w.files.LinkFree)
    (htree : w.files.IsTree) (hapart : ¬source.parts <+: (target source destination).parts)
    (hapart' : ¬(target source destination).parts <+: source.parts) :
    (∀ copied w', (copy source destination).run.run w = (.ok copied, w') →
      copied = target source destination ∧
      w' = { w with files := w'.files, printed := w'.printed } ∧
      Transferred source.parts (target source destination).parts w.files w'.files ∧
      ∀ w₁ result w₂, w₁.files = w'.files →
        (copy source destination).run.run w₁ = (result, w₂) → SameEntries w'.files w₂.files) ∧
    (w.files.entryAt source.parts ≠ some .directory →
      (copy source destination).run.run w = (.error (.project (.noAssets source)), w) ∨
        (¬source.Fits ∨ ∃ name ∈ source.parts, ¬IsShort name) ∧
          (copy source destination).run.run w =
            (.error (.system ⟨.nameTooLong, source.toText⟩), w)) := by
  have ht := isPlain_target hs hd
  refine ⟨fun copied w' h => ?_, run_copy_of_not_directory hs hfree⟩
  have hout : ∀ r, IsAsset w.files source.parts r →
      ¬source.parts <+: landing w.files ((target source destination).parts ++ r) :=
    fun r _ hp => outside_of_source hapart hapart' hp (prefix_landing _ _ _)
  obtain ⟨rfl, files, printed, rfl, hcopied⟩ := run_copy_eq_ok hs ht hfree htree hout h
  refine ⟨rfl, rfl, hcopied.transferred hapart hapart', fun w₁ result w₂ hw₁ hagain => ?_⟩
  have hcopies := hcopied.hasCopies hapart hapart' htree
  refine stays_copy hcopies hs ht w₁ result w₂ hagain (fun _ _ => trivial) fun l => ?_
  rw [hw₁]

end Run

section Shelf

def shelf (more : List (Location × Entry)) : World :=
  still ⟨⟨[([text "assets"], .directory), ([text "assets", text ".icons"], .directory),
    ([text "assets", text ".icons", text "i.svg"],
      .file (Text.Utf8.encodeLenient (text "<svg/>")) true)] ++ more⟩, []⟩

/-- An earlier copy that has changed since, and a file of another name beside it. -/
def lastYear : List (Location × Entry) :=
  [([text "out"], .directory), ([text "out", text "assets"], .directory),
    ([text "out", text "assets", text ".icons"], .directory),
    ([text "out", text "assets", text ".icons", text "i.svg"],
      .file (Text.Utf8.encodeLenient (text "<svg>")) false),
    ([text "out", text "assets", text "b.txt"], .file (Text.Utf8.encodeLenient (text "b")) false)]

theorem copy_outcome_shelf :
    (∃ w', (copy (.ofText (text "/assets")) (.ofText (text "/out"))).run.run (shelf lastYear) =
        (.ok (.ofText (text "/out/assets")), w') ∧
      Transferred [text "assets"] [text "out", text "assets"] (shelf lastYear).files w'.files ∧
      ∀ result w₂, (copy (.ofText (text "/assets")) (.ofText (text "/out"))).run.run w' =
        (result, w₂) → SameEntries w'.files w₂.files) ∧
    (copy (.ofText (text "/assets/.icons/i.svg")) (.ofText (text "/out"))).run.run
        (shelf lastYear) =
      (.error (.project (.noAssets (.ofText (text "/assets/.icons/i.svg")))), shelf lastYear) := by
  have hfree : (shelf lastYear).files.LinkFree := linkFree_of_all (by decide +kernel)
  have htree : (shelf lastYear).files.IsTree := isTree_of_forall (by decide +kernel)
  have hassets : (Path.ofText (text "/assets")).IsPlain := ⟨by decide, by decide, by decide⟩
  have hfile : (Path.ofText (text "/assets/.icons/i.svg")).IsPlain :=
    ⟨by decide, by decide, by decide⟩
  have hout : (Path.ofText (text "/out")).IsPlain := ⟨by decide, by decide, by decide⟩
  constructor
  · have hcopy := (copy_outcome hassets hout hfree htree (by decide) (by decide)).1
    obtain ⟨copied, w', hrun⟩ : ∃ copied w', (copy (.ofText (text "/assets"))
        (.ofText (text "/out"))).run.run (shelf lastYear) = (.ok copied, w') :=
      exists_run_eq_ok (by decide +kernel)
    obtain ⟨rfl, -, heffect, hagain⟩ := hcopy copied w' hrun
    exact ⟨w', hrun, heffect, fun result w₂ => hagain w' result w₂ rfl⟩
  · refine ((copy_outcome hfile hout hfree htree (by decide) (by decide)).2
      (by decide +kernel)).resolve_right ?_
    rintro ⟨hlong | ⟨name, hn, hlong⟩, -⟩
    · exact hlong (by decide)
    · revert name
      decide

def inTheWay : List (Location × Entry) :=
  [([text "out"], .directory), ([text "out", text "assets"], .directory),
    ([text "out", text "assets", text ".icons"], .directory),
    ([text "out", text "assets", text ".icons", text "i.svg"], .directory)]

/-- Copying succeeds, but a directory is where the copy of a file is to be. -/
theorem copy_outcome_inTheWay :
    Path.IsPlain (.ofText (text "/assets")) ∧ Path.IsPlain (.ofText (text "/out")) ∧
      (shelf inTheWay).files.LinkFree ∧ (shelf inTheWay).files.IsTree ∧
      ¬[text "assets"] <+: [text "out", text "assets"] ∧
      ¬[text "out", text "assets"] <+: [text "assets"] ∧
      ∃ w', (copy (.ofText (text "/assets")) (.ofText (text "/out"))).run.run (shelf inTheWay) =
          (.ok (.ofText (text "/out/assets")), w') ∧
        (shelf inTheWay).files.entryAt [text "assets", text ".icons", text "i.svg"] =
          some (.file (Text.Utf8.encodeLenient (text "<svg/>")) true) ∧
        w'.files.entryAt [text "out", text "assets", text ".icons", text "i.svg"] =
          some .directory := by
  refine ⟨⟨by decide, by decide, by decide⟩, ⟨by decide, by decide, by decide⟩,
    linkFree_of_all (by decide +kernel), isTree_of_forall (by decide +kernel), by decide, by decide, ?_⟩
  obtain ⟨w', hrun⟩ : ∃ w', (copy (.ofText (text "/assets")) (.ofText (text "/out"))).run.run
      (shelf inTheWay) = (.ok (.ofText (text "/out/assets")), w') := exists_run_eq (by decide +kernel)
  refine ⟨w', hrun, by decide +kernel, ?_⟩
  have hentry : ((copy (.ofText (text "/assets")) (.ofText (text "/out"))).run.run
      (shelf inTheWay)).2.files.entryAt
        [text "out", text "assets", text ".icons", text "i.svg"] = some .directory := by
    decide +kernel
  rwa [hrun] at hentry

end Shelf

end DocPress.Assets
