import DocPress.Proofs.Assets.Listing
import DocPress.Proofs.FileSystem.Mirroring
import DocPress.Proofs.World.Directories

namespace DocPress.Assets

open World FileSystem

/-- Where a file that is copied to a place ends up: a directory takes it in, under its own name. -/
def landing (fs : FileSystem) (target : Location) : Location :=
  if fs.isDirectoryAt target then target ++ target.getLast?.toList else target

theorem landing_of_isDirectoryAt {fs : FileSystem} {target : Location}
    (h : fs.entryAt target = some .directory) : landing fs target = target ++ target.getLast?.toList :=
  if_pos (by simp [isDirectoryAt, h])

theorem landing_of_not_isDirectoryAt {fs : FileSystem} {target : Location}
    (h : fs.entryAt target ≠ some .directory) : landing fs target = target :=
  if_neg (by simp [isDirectoryAt, h])

variable {w w' : World} {source target place : Path} {content : Bytes} {executable : Bool}

theorem isPlain_target {destination : Path} (hs : source.IsPlain) (hd : destination.IsPlain) :
    (Assets.target source destination).IsPlain := by
  refine hd.below fun name hn => ?_
  have hmem : name ∈ source.parts := List.mem_of_getLast? (Option.mem_toList.1 hn)
  exact ⟨hs.wellFormed name hmem, fun hd => hs.dotDot_notMem (hd ▸ hmem)⟩

/-- The bytes go to a place and get the mode of the file they come from. -/
def copyTo (source place : Path) (executable : Bool) : Run Unit := do
  let content ← World.ask (·.readBytes source.toText)
  World.writeBytes place content
  World.change place.toText fun files here path => do
    match ← files.find here path true with
    | (l, .file content _) => .ok (files.put l (.file content executable))
    | _ => .ok files

theorem readBytes_of_file {s : Site} (hfree : s.files.LinkFree) (hs : source.IsPlain)
    (hfile : s.files.entryAt source.parts = some (.file content executable)) {content' : Bytes}
    (h : s.readBytes source.toText = .ok content') :
    content' = content ∧ s.entry source.toText = .ok (.file content executable) := by
  obtain ⟨⟨⟩, hc, h⟩ := bind_eq_ok_iff.1 h
  cases hf : s.files.find s.here source.toText true with
  | error e =>
    simp only [FileSystem.read, hf] at h
    cases h
  | ok found =>
    obtain ⟨l, e⟩ := found
    obtain ⟨rfl, he, -⟩ := (find_eq_ok_iff hfree hs _ _ _).1 hf
    obtain rfl := Option.some.inj (hfile.symm.trans he)
    simp only [FileSystem.read, hf] at h
    refine ⟨(Except.ok.inj h).symm, ?_⟩
    simp only [Site.entry, hc, hf]
    rfl

theorem run_copyTo_eq_ok (hfree : w.files.LinkFree) (hs : source.IsPlain) (hp : place.IsPlain)
    {x : Bool} (hfile : w.files.entryAt source.parts = some (.file content x))
    (h : (copyTo source place executable).run.run w = (.ok (), w')) :
    ∃ files, w' = { w with files := files } ∧
      Placed w.files place.parts (.over (w.files.entryAt place.parts) content executable) files := by
  obtain ⟨content', w₁, hask, h⟩ := run_bind_eq_ok_iff.1 h
  rw [run_ask] at hask
  obtain rfl : w = w₁ := congrArg Prod.snd hask
  obtain ⟨rfl, -⟩ := readBytes_of_file hfree hs hfile (congrArg Prod.fst hask)
  obtain ⟨⟨⟩, w₁, hwrite, h⟩ := run_bind_eq_ok_iff.1 h
  obtain ⟨files, hc, hwritten, rfl⟩ := run_change_eq_ok_iff.1 hwrite
  have hplaced := placed_of_write hfree hp hc hwritten
  have hfree₁ : files.LinkFree := hplaced.linkFree hfree fun _ => Entry.over_ne_link _ _ _ _
  obtain ⟨files', -, hchmod, rfl⟩ := run_change_eq_ok_iff.1 h
  refine ⟨files', rfl, ?_⟩
  obtain ⟨⟨l, e⟩, hf, hchmod⟩ := bind_eq_ok_iff.1 hchmod
  obtain ⟨hl, he⟩ := find_eq_ok_iff_locate.1 hf
  obtain ⟨rfl, -⟩ := (locate_eq_ok_iff hfree₁ hp _ _).1 hl
  -- What was written there is known: a file, or what forgets it.
  rw [hplaced.entryAt_self] at he
  obtain rfl := Option.some.inj he
  by_cases hsink : w.files.entryAt place.parts = some .sink
  · have hover : ∀ x, Entry.over (w.files.entryAt place.parts) content' x = .sink := fun x => if_pos hsink
    rw [hover] at hchmod hplaced ⊢
    obtain rfl : files = files' := Except.ok.inj hchmod
    exact hplaced
  · have hover : ∀ x, Entry.over (w.files.entryAt place.parts) content' x = .file content' x :=
      fun x => if_neg hsink
    rw [hover] at hchmod hplaced ⊢
    obtain rfl : files.put place.parts (.file content' executable) = files' := Except.ok.inj hchmod
    exact hplaced.again (placed_put hfree₁ hp hc hl (by rw [hplaced.entryAt_self]; nofun) _)

def placeOf (s : Site) (source target : Path) : Path :=
  if (s.holds (· = .directory) target.toText).toOption.getD false then
    target.join ⟨.relative, [source.name]⟩
  else target

/-- A file goes where it is to land, unless a directory is there that cannot be asked for. -/
theorem placeOf_cases (hfree : w.files.LinkFree) (ht : target.IsPlain) (hne : source.parts ≠ [])
    (hname : source.parts.getLast? = target.parts.getLast?) :
    (placeOf w.toSite source target).IsPlain ∧
      ((placeOf w.toSite source target).parts = landing w.files target.parts ∨
        w.files.entryAt (placeOf w.toSite source target).parts = some .directory) := by
  by_cases hinto : (w.toSite.holds (· = .directory) target.toText).toOption.getD false = true
  · have hplace : placeOf w.toSite source target = target.below [source.name] := if_pos hinto
    have hdir : w.toSite.isDirectory target = .ok true := by
      unfold Site.isDirectory
      cases hd : w.toSite.holds (· = .directory) target.toText with
      | error => simp [hd, Except.toOption] at hinto
      | ok b => simpa [hd, Except.toOption] using hinto
    have hopen := (Site.isDirectory_iff_open hfree ht hdir).1
    have hlast : target.parts.getLast? = some source.name := by
      rw [← hname, Path.name, List.getLastD_eq_getLast?, List.getLast?_eq_some_getLast hne]
      rfl
    have hinside : Path.IsInside [source.name] := by
      intro name hn
      obtain rfl := List.mem_singleton.1 hn
      have hmem : source.name ∈ target.parts := List.mem_of_getLast? hlast
      exact ⟨ht.wellFormed _ hmem, fun hd => ht.dotDot_notMem (hd ▸ hmem)⟩
    rw [hplace]
    refine ⟨ht.below hinside, .inl ?_⟩
    rw [landing_of_isDirectoryAt hopen.entryAt_eq, hlast]
    rfl
  · have hplace : placeOf w.toSite source target = target := if_neg hinto
    rw [hplace]
    refine ⟨ht, ?_⟩
    by_cases hd : w.files.entryAt target.parts = some .directory
    · exact .inr hd
    · exact .inl (landing_of_not_isDirectoryAt hd).symm

theorem run_copyFile {r : Except Fault Unit} (h : (copyFile source target).run.run w = (r, w')) :
    (∃ fault, r = .error fault ∧ w' = w) ∨
      (copyTo source (placeOf w.toSite source target) (match w.entry source.toText with
        | .ok (.file _ executable) => executable
        | _ => false)).run.run w = (r, w') := by
  unfold copyFile at h
  rw [run_get_bind] at h
  exact (run_ite_throw_cases h).imp_left fun hr => ⟨_, hr⟩

/-- A file that is copied is all that has changed. -/
theorem run_copyFile_eq_ok (hfree : w.files.LinkFree) (hs : source.IsPlain) (ht : target.IsPlain)
    (hname : source.parts.getLast? = target.parts.getLast?)
    (hfile : w.files.entryAt source.parts = some (.file content executable))
    (h : (copyFile source target).run.run w = (.ok (), w')) :
    ∃ files, w' = { w with files := files } ∧
      Placed w.files (landing w.files target.parts)
        (.over (w.files.entryAt (landing w.files target.parts)) content executable) files := by
  obtain ⟨_, hr, -⟩ | hcopy := run_copyFile h
  · cases hr
  obtain ⟨content', w₁, hask, -⟩ := run_bind_eq_ok_iff.1 hcopy
  rw [run_ask] at hask
  obtain ⟨-, hentry⟩ := readBytes_of_file hfree hs hfile (congrArg Prod.fst hask)
  simp only [hentry] at hcopy
  obtain ⟨hplace, hcases⟩ := placeOf_cases hfree ht (ne_nil_of_file hfile) hname
  obtain ⟨files, hw, hplaced⟩ := run_copyTo_eq_ok hfree hs hplace hfile hcopy
  rw [hcases.resolve_right hplaced.notDirectory] at hplaced
  exact ⟨files, hw, hplaced⟩

end DocPress.Assets
