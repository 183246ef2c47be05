import DocPress.Proofs.FileSystem.Growth

namespace DocPress

/-- What stands in a place after a file was put there: nothing else than before where what is put is
forgotten. -/
def Entry.over (old : Option Entry) (content : Bytes) (executable : Bool) : Entry :=
  if old = some .sink then .sink else .file content executable

def Entry.isExecutable : Option Entry → Bool
  | some (.file _ executable) => executable
  | _ => false

@[simp] theorem Entry.over_ne_directory (old : Option Entry) (content : Bytes) (executable : Bool) :
    Entry.over old content executable ≠ .directory := by
  unfold Entry.over
  split <;> nofun

@[simp] theorem Entry.over_ne_link (old : Option Entry) (content : Bytes) (executable : Bool)
    (target : Text) : Entry.over old content executable ≠ .link target := by
  unfold Entry.over
  split <;> nofun

@[simp] theorem Entry.over_over (old : Option Entry) (content content' : Bytes)
    (executable executable' : Bool) :
    Entry.over (some (Entry.over old content executable)) content' executable' =
      Entry.over old content' executable' := by
  unfold Entry.over
  by_cases h : old = some .sink <;> simp [h]

theorem Entry.over_again (old : Option Entry) (content : Bytes) (executable : Bool) :
    Entry.over (some (Entry.over old content executable)) content
      (Entry.isExecutable (some (Entry.over old content executable))) =
      Entry.over old content executable := by
  unfold Entry.over
  by_cases h : old = some .sink <;> simp [h, isExecutable]

namespace FileSystem

variable {fs fs' fs'' : FileSystem} {l k : Location} {e : Entry}

theorem takes_of_check {p : Path} (hp : p.IsPlain) (hc : Site.check p.toText = .ok ())
    (hs : ∀ name ∈ p.parts, IsShort name) : ∀ name ∈ p.parts, Takes name := by
  intro name hn
  have hsub := Path.part_subset_toText hn
  refine ⟨⟨hp.wellFormed name hn, fun hd => hp.dotDot_notMem (hd ▸ hn), ?_, hs name hn⟩,
    Site.check_of_subset hsub hc⟩
  exact fun hnul => (Site.check_eq_ok_iff.1 hc).1 (hsub hnul)

/-- An entry was put in a directory, in the place of none or of one that is no directory. -/
structure Placed (fs : FileSystem) (l : Location) (e : Entry) (fs' : FileSystem) : Prop where
  isOpen : fs.Open l.dropLast
  takes : ∀ name ∈ l, Takes name
  notDirectory : fs.entryAt l ≠ some .directory
  entryAt_eq : ∀ k, fs'.entryAt k = if k = l then some e else fs.entryAt k

theorem Placed.entryAt_self (h : Placed fs l e fs') : fs'.entryAt l = some e :=
  (h.entryAt_eq l).trans (if_pos rfl)

theorem Placed.entryAt_of_ne (h : Placed fs l e fs') (hk : k ≠ l) : fs'.entryAt k = fs.entryAt k :=
  (h.entryAt_eq k).trans (if_neg hk)

theorem Placed.open_of_open (h : Placed fs l e fs') (hk : fs.Open k) : fs'.Open k := by
  intro j hj
  have hne : j ≠ l := fun hl => h.notDirectory (hl ▸ hk j hj)
  rw [h.entryAt_of_ne hne]
  exact hk j hj

theorem Placed.linkFree (h : Placed fs l e fs') (hfree : fs.LinkFree)
    (he : ∀ target, e ≠ .link target) : fs'.LinkFree := by
  intro k target hk
  by_cases hkl : k = l
  · rw [hkl, h.entryAt_self] at hk
    exact he target (Option.some.inj hk)
  · rw [h.entryAt_of_ne hkl] at hk
    exact hfree k target hk

theorem Placed.isTree (h : Placed fs l e fs') (ht : fs.IsTree) : fs'.IsTree := by
  constructor
  · intro k e' hk
    by_cases hkl : k = l
    · exact hkl ▸ h.open_of_open h.isOpen
    · rw [h.entryAt_of_ne hkl] at hk
      exact h.open_of_open (ht.isOpen hk)
  · intro k e' hk
    by_cases hkl : k = l
    · exact hkl ▸ h.takes
    · rw [h.entryAt_of_ne hkl] at hk
      exact ht.takes hk

theorem Placed.again {e' : Entry} (h : Placed fs l e fs') (h' : Placed fs' l e' fs'') :
    Placed fs l e' fs'' := by
  refine ⟨h.isOpen, h.takes, h.notDirectory, fun k => ?_⟩
  by_cases hk : k = l
  · rw [if_pos hk, hk, h'.entryAt_self]
  · rw [if_neg hk, h'.entryAt_of_ne hk, h.entryAt_of_ne hk]

/-- A directory was made, with those above it that were missing, and nothing else. -/
structure Opened (fs : FileSystem) (l : Location) (fs' : FileSystem) : Prop where
  isOpen : fs'.Open l
  takes : ∀ name ∈ l, Takes name
  elsewhere : ∀ k, fs'.entryAt k = fs.entryAt k ∨
    fs.entryAt k = none ∧ fs'.entryAt k = some .directory ∧ k <+: l

theorem Opened.entryAt_of_some (h : Opened fs l fs') (hk : fs.entryAt k = some e) :
    fs'.entryAt k = some e := by
  rcases h.elsewhere k with h | ⟨hn, -, -⟩
  · rw [h, hk]
  · rw [hn] at hk
    cases hk

theorem Opened.entryAt_of_not_prefix (h : Opened fs l fs') (hk : ¬k <+: l) :
    fs'.entryAt k = fs.entryAt k :=
  (h.elsewhere k).resolve_right fun ⟨_, _, hp⟩ => hk hp

theorem Opened.open_of_open (h : Opened fs l fs') (hk : fs.Open k) : fs'.Open k :=
  fun j hj => h.entryAt_of_some (hk j hj)

theorem Opened.linkFree (h : Opened fs l fs') (hfree : fs.LinkFree) : fs'.LinkFree := by
  intro k target hk
  rcases h.elsewhere k with he | ⟨-, he, -⟩
  · exact hfree k target (he.symm.trans hk)
  · rw [he] at hk
    cases hk

theorem Opened.isTree (h : Opened fs l fs') (ht : fs.IsTree) : fs'.IsTree := by
  constructor
  · intro k e hk
    rcases h.elsewhere k with he | ⟨-, -, hp⟩
    · exact h.open_of_open (ht.isOpen (he.symm.trans hk))
    · exact fun j hj => h.isOpen j ((hj.trans (List.dropLast_prefix k)).trans hp)
  · intro k e hk
    rcases h.elsewhere k with he | ⟨-, -, hp⟩
    · exact ht.takes (he.symm.trans hk)
    · exact fun name hn => h.takes name (hp.subset hn)

theorem opened_of_open (hl : fs.Open l) (ht : ∀ name ∈ l, Takes name) : Opened fs l fs :=
  ⟨hl, ht, fun _ => .inl rfl⟩

theorem Placed.opened (h : Placed fs l .directory fs') (hn : fs.entryAt l = none) :
    Opened fs l fs' := by
  refine ⟨?_, h.takes, fun k => ?_⟩
  · intro k hk
    by_cases hkl : k = l
    · rw [hkl, h.entryAt_self]
    · exact h.open_of_open h.isOpen k (prefix_dropLast hk hkl)
  · by_cases hkl : k = l
    · exact .inr ⟨hkl ▸ hn, hkl ▸ h.entryAt_self, hkl ▸ List.prefix_rfl⟩
    · exact .inl (h.entryAt_of_ne hkl)

theorem Opened.trans (h : Opened fs l fs') (hk : l <+: k) (h' : Opened fs' k fs'') :
    Opened fs k fs'' := by
  refine ⟨h'.isOpen, h'.takes, fun j => ?_⟩
  rcases h.elsewhere j with he | ⟨hn, he, hp⟩ <;> rcases h'.elsewhere j with he' | ⟨hn', he', hp'⟩
  · exact .inl (he'.trans he)
  · exact .inr ⟨he.symm.trans hn', he', hp'⟩
  · exact .inr ⟨hn, he'.trans he, hp.trans hk⟩
  · exact .inr ⟨hn, he', hp'⟩

section Calls

variable {p : Path} {here : Location} {content : Bytes}

theorem placed_put (hfree : fs.LinkFree) (hp : p.IsPlain) (hc : Site.check p.toText = .ok ())
    {follow : Bool} (hl : fs.locate here p.toText follow = .ok l)
    (hd : fs.entryAt l ≠ some .directory) (e : Entry) : Placed fs p.parts e (fs.put l e) := by
  obtain ⟨rfl, -, hopen, hshort⟩ := (locate_eq_ok_iff hfree hp here l).1 hl
  have hne : p.parts ≠ [] := by
    intro h
    rw [h] at hd
    exact hd rfl
  exact ⟨hopen, takes_of_check hp hc hshort, hd, fun k => entryAt_put fs hne e k⟩

theorem placed_of_makeDirectory (hfree : fs.LinkFree) (hp : p.IsPlain)
    (hc : Site.check p.toText = .ok ()) (h : fs.makeDirectory here p.toText = .ok fs') :
    Placed fs p.parts .directory fs' ∧ fs.entryAt p.parts = none := by
  obtain ⟨l, hl, hn, rfl⟩ := makeDirectory_eq_ok_iff.1 h
  have hplaced := placed_put hfree hp hc hl (by rw [hn]; nofun) .directory
  obtain ⟨rfl, -⟩ := (locate_eq_ok_iff hfree hp here l).1 hl
  exact ⟨hplaced, hn⟩

/-- A file that is written is all that has changed, and it can be run if it could before. -/
theorem placed_of_write (hfree : fs.LinkFree) (hp : p.IsPlain) (hc : Site.check p.toText = .ok ())
    (h : fs.write here p.toText content = .ok fs') :
    Placed fs p.parts (.over (fs.entryAt p.parts) content (Entry.isExecutable (fs.entryAt p.parts)))
      fs' := by
  obtain ⟨l, hl, h⟩ := bind_eq_ok_iff.1 h
  have hput := fun e hd => placed_put hfree hp hc hl hd e
  obtain ⟨rfl, -, hopen, hshort⟩ := (locate_eq_ok_iff hfree hp here l).1 hl
  cases he : fs.entryAt p.parts with
  | none =>
    rw [he] at h
    simp only at h
    split at h
    · cases h
    · cases h
      exact hput _ (by rw [he]; nofun)
  | some e =>
    rw [he] at h
    cases e with
    | file old executable =>
      cases h
      exact hput _ (by rw [he]; nofun)
    | sink =>
      cases h
      refine ⟨hopen, takes_of_check hp hc hshort, by rw [he]; nofun, fun k => ?_⟩
      by_cases hk : k = p.parts
      · rw [if_pos hk, hk, he]
        rfl
      · rw [if_neg hk]
    | directory => cases h
    | link target => cases h

end Calls

end FileSystem

end DocPress
