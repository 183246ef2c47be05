import DocPress.Proofs.Settings.Sections
import DocPress.Proofs.Toml.Writable

namespace DocPress.Settings

open World
open Toml (Table Value AreWritable)

/-- A call that saves or drops sections, with values of any kind. -/
inductive Saving where
  | renderer (drawer background : Value) (seconds : Option Value)
  | pdf (browser : Value)
  | clear

namespace Saving

def run (file : Path) : Saving → Run Bool
  | renderer drawer background seconds => saveRenderer file drawer background seconds
  | pdf browser => savePdf file browser
  | clear => Settings.clear file

/-- The sections that are written where `t` has been read. -/
def apply (t : Table) : Saving → Table
  | renderer drawer background seconds =>
    t.put rendererKey (.table (rendererSection drawer background seconds))
  | pdf browser => t.put pdfKey (.table [(browserKey, browser)])
  | clear => (t.without rendererKey).without pdfKey

def values : Saving → List Value
  | renderer drawer background seconds => drawer :: background :: seconds.toList
  | pdf browser => [browser]
  | clear => []

theorem run_eq (file : Path) (saving : Saving) :
    saving.run file = readAll file >>= fun t => writeAll file (saving.apply t) := by
  cases saving <;> rfl

end Saving

variable {file : Path} {w w' : World} {t : Table} {saving : Saving}

theorem not_isUnwritable_of_mem {key : Text}
    (h : key ∈ [rendererKey, drawerKey, backgroundKey, secondsKey, pdfKey, browserKey]) :
    ¬Toml.IsUnwritable key := by
  have hall : ∀ key ∈ [rendererKey, drawerKey, backgroundKey, secondsKey, pdfKey, browserKey],
      ¬Toml.IsUnwritable key := by decide +kernel
  exact hall key h

theorem Saving.areWritable_apply (ht : AreWritable t) (hvalues : ∀ v ∈ saving.values, v.IsWritable) :
    AreWritable (saving.apply t) := by
  cases saving with
  | renderer drawer background seconds =>
    simp only [values, List.forall_mem_cons] at hvalues
    obtain ⟨hdrawer, hbackground, hseconds⟩ := hvalues
    refine Toml.areWritable_put ht (not_isUnwritable_of_mem (by simp)) ?_
    refine ⟨not_isUnwritable_of_mem (by simp), hdrawer, not_isUnwritable_of_mem (by simp),
      hbackground, ?_⟩
    refine Toml.areWritable_iff.2 (List.forall_mem_map.2 fun v hv => ?_)
    exact ⟨not_isUnwritable_of_mem (by simp), hseconds v hv⟩
  | pdf browser =>
    exact Toml.areWritable_put ht (not_isUnwritable_of_mem (by simp))
      ⟨not_isUnwritable_of_mem (by simp), hvalues browser (by simp [values]), trivial⟩
  | clear => exact Toml.areWritable_without (Toml.areWritable_without ht _) _

theorem not_isOfSystem_of_ofToml {α : Type} {r : Except Toml.Fault α} {fault : Fault}
    (h : (ofToml r : Run α).run.run w = (.error fault, w')) : ¬IsOfSystem fault := by
  cases r with
  | ok a => cases h
  | error cause => cases cause <;> cases h <;> exact id

/-- A file that is opened anew is empty, or it is a sink and nothing has changed but directories. -/
theorem run_openAnew_eq_ok (h : (openAnew file).run.run w = (.ok (), w')) :
    Grows w w' ∧ w'.toSite.IsSink file ∨ w'.toSite.Keeps file [] := by
  obtain ⟨⟨⟩, w₁, hmake, hempty⟩ := run_bind_eq_ok_iff.1 h
  rcases run_writeBytes_eq_ok hempty with ⟨hsink, rfl⟩ | ⟨-, hkeeps⟩
  · exact .inl ⟨grows_makeDirectories hmake, hsink⟩
  · exact .inr hkeeps

theorem run_openAnew_eq_error {fault : Fault} (h : (openAnew file).run.run w = (.error fault, w')) :
    Grows w w' := by
  rcases run_bind_eq_error_iff.1 h with hmake | ⟨⟨⟩, w₁, hmake, hempty⟩
  · exact grows_makeDirectories hmake
  · obtain rfl := run_change_eq_error hempty
    exact grows_makeDirectories hmake

/-- The words of the sections did not all get to the file: it has the beginning of them. -/
structure CutShort (file : Path) (t : Table) (w w' : World) (errno : Errno) : Prop where
  begun : ∃ written bytes opened count, Toml.write t = .ok written ∧
    Text.Utf8.encode? written = some bytes ∧ (openAnew file).run.run w = (.ok (), opened) ∧
    opened.refusal opened.toSite file.toText bytes = some ⟨errno, count⟩ ∧
    w'.toSite.Keeps file (bytes.take count)

/-- Where the sections are not stored only directories are new, or the file was emptied, and then the
sections could not be put into words or their words were cut short. -/
theorem run_store_eq_error {fault : Fault} (h : (store file t).run.run w = (.error fault, w')) :
    Grows w w' ∨
      ((ofToml (Toml.write t) : Run Text).run.run w' = (.error fault, w') ∧
        w'.toSite.Keeps file []) ∨
      ∃ errno, fault = .pathless errno ∧ CutShort file t w w' errno := by
  rcases run_bind_eq_error_iff.1 h with hopen | ⟨⟨⟩, opened, hopen, h⟩
  · exact .inl (run_openAnew_eq_error hopen)
  rcases run_bind_eq_error_iff.1 h with htoml | ⟨written, w₂, htoml, h⟩
  · obtain rfl := still_ofToml _ _ _ _ htoml fun _ _ => trivial
    exact (run_openAnew_eq_ok hopen).imp And.left fun hkeeps => .inl ⟨htoml, hkeeps⟩
  -- What is written can be encoded, and goes where the file has just been emptied.
  obtain ⟨hwritten, rfl⟩ := run_ofToml_eq_ok htoml
  obtain ⟨⟨⟩, _, -, hempty⟩ := run_bind_eq_ok_iff.1 hopen
  rcases run_writeText_cases h with ⟨hnone, -⟩ | ⟨bytes, hbytes, ⟨-, h⟩ | ⟨⟨errno, count⟩, hrefusal, h⟩⟩
  · cases hnone.symm.trans (if_pos (Toml.storable_of_write hwritten).isUnicode)
  · obtain ⟨_, hagain⟩ := exists_run_writeBytes_again hempty bytes
    cases hagain.symm.trans h
  · obtain ⟨w₃, hagain⟩ := exists_run_writeBytes_again hempty (bytes.take count)
    rw [run_bind_of_ok hagain] at h
    cases h
    rcases run_writeBytes_eq_ok hagain with ⟨hsink, rfl⟩ | ⟨-, hkeeps⟩
    · rcases run_openAnew_eq_ok hopen with ⟨hgrows, -⟩ | hempty
      · exact .inl hgrows
      · exact absurd hsink hempty.not_isSink
    · exact .inr (.inr ⟨errno, rfl, written, bytes, opened, count, hwritten, hbytes, hopen,
        hrefusal, hkeeps⟩)

/-- What has become of the settings file when a call has not saved. -/
inductive Unsaved (file : Path) (saving : Saving) (w : World) : Except Fault Bool → World → Prop where
  /-- No file is touched, and at most directories are new. -/
  | kept {r : Except Fault Bool} {w' : World} (hgrows : Grows w w')
      (hkeeps : ∀ content, w.toSite.Keeps file content → w'.toSite.Keeps file content) :
      Unsaved file saving w r w'
  /-- Something cannot be written, a value that was to be saved or one that was read from the file:
  the file is empty. -/
  | unwritable {t : Table} {fault : Fault} {w' : World}
      (hread : (readAll file).run.run w = (.ok t, w))
      (hvalues : ¬(AreWritable t ∧ ∀ v ∈ saving.values, v.IsWritable))
      (htoml : (ofToml (Toml.write (saving.apply t)) : Run Text).run.run w' = (.error fault, w'))
      (hempty : w'.toSite.Keeps file []) : Unsaved file saving w (.error fault) w'
  /-- The system has stopped taking what was written. -/
  | cutShort {t : Table} {errno : Errno} {w' : World} (hread : (readAll file).run.run w = (.ok t, w))
      (hcut : CutShort file (saving.apply t) w w' errno) : Unsaved file saving w (.ok false) w'

theorem Unsaved.of_grows {r : Except Fault Bool} (h : Grows w w') : Unsaved file saving w r w' :=
  .kept h fun _ => h.keeps

/-- A call that does not save leaves the settings file as it was; or empty, where something could not be
written; or with the beginning of what was to be written, where the system took no more. -/
theorem outcome_of_failed_saving {r : Except Fault Bool}
    (h : (saving.run file).run.run w = (r, w')) (hr : r ≠ .ok true) :
    Unsaved file saving w r w' := by
  rw [Saving.run_eq] at h
  rcases run_bind_cases h with ⟨fault, rfl, hread⟩ | ⟨t, w₁, hread, hwrite⟩
  · obtain rfl := eq_of_run_readAll hread
    exact .of_grows (grows_refl w)
  obtain rfl := eq_of_run_readAll hread
  rcases run_writeAll_cases hwrite with ⟨htrue, -⟩ | ⟨fault, hends, hstore⟩
  · exact absurd htrue hr
  rcases run_store_eq_error hstore with hgrows | ⟨htoml, hkeeps⟩ | ⟨errno, rfl, hcut⟩
  · exact .of_grows hgrows
  · obtain rfl : r = .error fault :=
      (hends.resolve_left fun hrefused => not_isOfSystem_of_ofToml htoml hrefused.1).2
    refine .unwritable hread (fun ⟨ht, hvalues⟩ => ?_) htoml hkeeps
    obtain ⟨written, hwritten⟩ := Toml.exists_write (Saving.areWritable_apply ht hvalues)
    rw [hwritten] at htoml
    cases htoml
  · obtain ⟨-, rfl⟩ := hends.resolve_right fun hescapes => hescapes.1 trivial
    exact .cutShort hread hcut

section Desk

def blockedDesk : World := desk .directory

/-- A settings file with a string that is nothing but a control character. -/
def controlText : Text := text "x = \x22\\u007f\x22\n"

def controlDesk : World := desk (.file (Text.Utf8.encodeLenient controlText) false)

def plainText : Text := text "x = 1\n"

def plainDesk : World := desk (.file (Text.Utf8.encodeLenient plainText) false)

def fullDesk : World := { plainDesk with refusal := fun _ _ _ => some ⟨.noSpace, 3⟩ }

/-- With a directory in its place the settings file is not written, and nothing is changed; with a
string in it that cannot be written, it is empty after a call that drops other sections; and where the
disk is full, it has the beginning of what was to be written. -/
theorem outcome_of_failed_saving_desk :
    (∃ w', (savePdf deskFile (.string (text "/b"))).run.run blockedDesk = (.ok false, w') ∧
      Grows blockedDesk w') ∧
    (∃ w', (clear deskFile).run.run controlDesk = (.error .noMember, w') ∧
      w'.toSite.Keeps deskFile []) ∧
    ∃ w', (savePdf deskFile (.string (text "/b"))).run.run fullDesk = (.ok false, w') ∧
      ∃ t errno, CutShort deskFile t fullDesk w' errno := by
  obtain ⟨w₁, hblocked⟩ : ∃ w', (Saving.run deskFile (.pdf (.string (text "/b")))).run.run
      blockedDesk = (.ok false, w') := exists_run_eq (by decide +kernel)
  obtain ⟨w₂, hcontrol⟩ : ∃ w', (Saving.run deskFile .clear).run.run controlDesk =
      (.error .noMember, w') := exists_run_eq (by decide +kernel)
  obtain ⟨w₃, hfull⟩ : ∃ w', (Saving.run deskFile (.pdf (.string (text "/b")))).run.run
      fullDesk = (.ok false, w') := exists_run_eq (by decide +kernel)
  refine ⟨⟨w₁, hblocked, ?_⟩, ⟨w₂, hcontrol, ?_⟩, w₃, hfull, ?_⟩
  · cases outcome_of_failed_saving hblocked (by decide) with
    | kept hgrows => exact hgrows
    | cutShort _ hcut =>
      obtain ⟨_, _, opened, _, -, -, hopen, -⟩ := hcut.begun
      have hno : ((openAnew deskFile).run.run blockedDesk).1.toOption = none := by decide +kernel
      rw [hopen] at hno
      cases hno
  · have hbefore : controlDesk.toSite.Keeps deskFile (Text.Utf8.encodeLenient controlText) := by
      decide +kernel
    have hlost : ¬((Saving.run deskFile .clear).run.run controlDesk).2.toSite.Keeps deskFile
        (Text.Utf8.encodeLenient controlText) := by decide +kernel
    rw [hcontrol] at hlost
    cases outcome_of_failed_saving hcontrol (by decide) with
    | kept _ hkept => exact absurd (hkept _ hbefore) hlost
    | unwritable _ _ _ hempty => exact hempty
  · have hbefore : fullDesk.toSite.Keeps deskFile (Text.Utf8.encodeLenient plainText) := by
      decide +kernel
    have hlost : ¬((Saving.run deskFile (.pdf (.string (text "/b")))).run.run
        fullDesk).2.toSite.Keeps deskFile (Text.Utf8.encodeLenient plainText) := by decide +kernel
    rw [hfull] at hlost
    cases outcome_of_failed_saving hfull (by decide) with
    | kept _ hkept => exact absurd (hkept _ hbefore) hlost
    | cutShort _ hcut => exact ⟨_, _, hcut⟩

/-- A control character by itself cannot be saved; that it was tried leaves the settings file empty. -/
theorem emptied_by_failed_saving :
    plainDesk.toSite.Keeps deskFile (Text.Utf8.encodeLenient plainText) ∧
      ∃ w', (savePdf deskFile (.string (text "\x7f"))).run.run plainDesk = (.error .noMember, w') ∧
        ¬w'.toSite.Keeps deskFile (Text.Utf8.encodeLenient plainText) ∧ w'.toSite.Keeps deskFile [] := by
  obtain ⟨w', hrun⟩ : ∃ w', (savePdf deskFile (.string (text "\x7f"))).run.run plainDesk =
      (.error .noMember, w') := exists_run_eq (by decide +kernel)
  have hlost : ¬((savePdf deskFile (.string (text "\x7f"))).run.run plainDesk).2.toSite.Keeps deskFile
      (Text.Utf8.encodeLenient plainText) := by decide +kernel
  have hempty : ((savePdf deskFile (.string (text "\x7f"))).run.run plainDesk).2.toSite.Keeps deskFile
      [] := by decide +kernel
  rw [hrun] at hlost hempty
  exact ⟨by decide +kernel, w', hrun, hlost, hempty⟩

end Desk

end DocPress.Settings
