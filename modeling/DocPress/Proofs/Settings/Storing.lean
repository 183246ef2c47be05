import DocPress.Proofs.FileSystem.Keeping
import DocPress.Proofs.Text.Utf8
import DocPress.Proofs.Toml.Writing
import DocPress.Settings

namespace DocPress.Settings

open World
open Toml (Table)

variable {file : Path} {w w' : World} {t : Table} {content : Bytes}

theorem still_ofToml {α : Type} (r : Except Toml.Fault α) :
    Within Eq (fun _ => True) (ofToml r : Run α) := by
  cases r with
  | ok a => exact within_pure (fun _ => rfl) a
  | error fault => cases fault <;> exact within_throw (fun _ => rfl) _

theorem still_readAll (file : Path) : Within Eq (fun _ => True) (readAll file) := by
  have hrefl : ∀ w : World, w = w := fun _ => rfl
  have htrans : ∀ a b c : World, a = b → b = c → a = c := fun _ _ _ => Eq.trans
  refine Within.bind htrans (within_ask hrefl _) fun b => ?_
  split
  · exact within_pure hrefl _
  · refine Within.bind htrans (Within.tryCatch htrans ?_ fun fault => ?_) fun bytes => ?_
    · rw [map_eq_pure_bind]
      exact Within.bind htrans (within_ask hrefl _) fun _ => within_pure hrefl _
    · split
      · exact within_pure hrefl _
      · exact within_pure hrefl _
      · exact within_throw hrefl _
    · split
      · exact within_pure hrefl _
      · exact within_throw hrefl _
      · split
        · exact within_pure hrefl _
        · exact within_pure hrefl _
        · exact still_ofToml _

theorem eq_of_run_readAll {r : Except Fault Table} (h : (readAll file).run.run w = (r, w')) :
    w = w' :=
  still_readAll file _ _ _ h fun _ _ => trivial

/-- What the bytes of a settings file say; a malformed file has no sections. -/
def readContent (content : Bytes) : Run Table :=
  match Text.Utf8.decode content with
  | .error _ => throw .notDecodable
  | .ok written =>
    match Toml.read (Text.unifyNewlines written) with
    | .ok t => pure t
    | .error .malformed => pure []
    | .error fault => ofToml (.error fault)

theorem run_readAll_eq (h : w.toSite.Keeps file content) :
    (readAll file).run.run w = (readContent content).run.run w := by
  have hexists : (World.ask (·.exists_ file)).run.run w = (.ok true, w) := by
    rw [run_ask, h.exists_eq]
  have hbytes : (World.ask (·.readBytes file.toText)).run.run w = (.ok content, w) := by
    rw [run_ask, h.readBytes_eq]
  have hsome : (some <$> World.ask (·.readBytes file.toText)).run.run w =
      (.ok (some content), w) := by
    rw [map_eq_pure_bind, run_bind_of_ok hbytes]
    rfl
  unfold readAll readContent
  rw [run_bind_of_ok hexists]
  refine (run_bind_of_ok (run_tryCatch_of_ok hsome _) _).trans ?_
  rw [Option.map_some]
  cases Text.Utf8.decode content with
  | error e => rfl
  | ok written =>
    cases Toml.read (Text.unifyNewlines written) with
    | ok t => rfl
    | error fault => cases fault <;> rfl

theorem run_readAll_of_keeps (h : w.toSite.Keeps file content) {written : Text}
    (hc : Text.Utf8.encode? written = some content)
    (ht : Toml.read (Text.unifyNewlines written) = .ok t) :
    (readAll file).run.run w = (.ok t, w) := by
  rw [run_readAll_eq h, readContent, Text.Utf8.decode_of_encode? hc]
  simp only [ht]
  rfl

/-- The file is there and empty, or a sink. -/
def openAnew (file : Path) : Run Unit := do
  World.makeDirectories file.parent
  World.writeBytes file []

/-- What is done to write all sections. -/
def store (file : Path) (t : Table) : Run Unit := do
  openAnew file
  World.writeText file (← ofToml (Toml.write t))

/-- The system has refused something, which is no fault of saving. -/
def IsOfSystem : Fault → Prop
  | .system _ | .pathless _ => True
  | _ => False

theorem run_store_cases {β : Type} {b : β} {r : Except Fault β}
    (h : (do
      World.makeDirectories file.parent
      World.writeBytes file []
      World.writeText file (← ofToml (Toml.write t))
      pure b : Run β).run.run w = (r, w')) :
    (r = .ok b ∧ (store file t).run.run w = (.ok (), w')) ∨
      ∃ fault, r = .error fault ∧ (store file t).run.run w = (.error fault, w') := by
  have hstore : (store file t >>= fun _ => pure b).run.run w = (r, w') := by
    simpa only [store, openAnew, bind_assoc] using h
  rcases run_bind_cases hstore with ⟨fault, rfl, hfail⟩ | ⟨_, w₁, hdone, hend⟩
  · exact .inr ⟨fault, rfl, hfail⟩
  · cases hend
    exact .inl ⟨rfl, hdone⟩

/-- Writing ends as what is done for it does, except that it is no fault when the system refuses. -/
theorem run_writeAll_cases {r : Except Fault Bool} (h : (writeAll file t).run.run w = (r, w')) :
    (r = .ok true ∧ (store file t).run.run w = (.ok (), w')) ∨
      ∃ fault, (IsOfSystem fault ∧ r = .ok false ∨ ¬IsOfSystem fault ∧ r = .error fault) ∧
        (store file t).run.run w = (.error fault, w') := by
  unfold writeAll at h
  rcases run_bind_cases h with ⟨fault, rfl, htry⟩ | ⟨e, w₁, htry, hend⟩
  · rcases run_tryCatch_eq_iff.1 htry with ⟨e', he, -⟩ | ⟨fault', w₁, hfail, hhandle⟩
    · cases he
    · rcases run_store_cases hfail with ⟨he, -⟩ | ⟨_, ⟨⟩, hstore⟩
      · cases he
      · cases fault' <;> cases hhandle <;> exact .inr ⟨_, .inr ⟨id, rfl⟩, hstore⟩
  · rcases run_tryCatch_eq_iff.1 htry with ⟨e', he, hrun⟩ | ⟨fault', w₁, hfail, hhandle⟩
    · rcases run_store_cases hrun with ⟨he', hstore⟩ | ⟨_, ⟨⟩, -⟩
      cases he
      cases he'
      cases hend
      exact .inl ⟨rfl, hstore⟩
    · rcases run_store_cases hfail with ⟨he, -⟩ | ⟨_, ⟨⟩, hstore⟩
      · cases he
      · cases fault' <;> cases hhandle <;> cases hend <;>
          exact .inr ⟨_, .inl ⟨by trivial, rfl⟩, hstore⟩

theorem run_store_of_writeAll (h : (writeAll file t).run.run w = (.ok true, w')) :
    (store file t).run.run w = (.ok (), w') := by
  rcases run_writeAll_cases h with ⟨-, hstore⟩ | ⟨fault, ⟨-, hr⟩ | ⟨-, hr⟩, -⟩
  · exact hstore
  · cases hr
  · cases hr

theorem run_ofToml_eq_ok {α : Type} {r : Except Toml.Fault α} {a : α}
    (h : (ofToml r : Run α).run.run w = (.ok a, w')) : r = .ok a ∧ w = w' := by
  cases r with
  | ok b =>
    obtain ⟨rfl, rfl⟩ := run_pure_eq_ok_iff.1 h
    exact ⟨rfl, rfl⟩
  | error fault => cases fault <;> cases h

/-- A file that is a sink stays one; what was written to any other is read again. -/
theorem run_store_eq_ok (h : (store file t).run.run w = (.ok (), w')) :
    (w.toSite.IsSink file → w'.toSite.IsSink file) ∧
      (w'.toSite.IsSink file ∨ ∃ written, Toml.write t = .ok written ∧
        ∀ t', Toml.read written = .ok t' → (readAll file).run.run w' = (.ok t', w')) := by
  obtain ⟨⟨⟩, w₂, hopen, h⟩ := run_bind_eq_ok_iff.1 h
  obtain ⟨⟨⟩, w₁, hmade, hempty⟩ := run_bind_eq_ok_iff.1 hopen
  obtain ⟨written, w₃, htoml, h⟩ := run_bind_eq_ok_iff.1 h
  obtain ⟨hwritten, rfl⟩ := run_ofToml_eq_ok htoml
  obtain ⟨content, hcontent, hwrite⟩ := run_writeText_eq_ok h
  have hgrows := grows_makeDirectories hmade
  -- That the file could be emptied decides where it leads; the sections go to the same place.
  rcases run_writeBytes_eq_ok hempty with ⟨hsink, rfl⟩ | ⟨hnot, hkeeps⟩
  · rcases run_writeBytes_eq_ok hwrite with ⟨-, rfl⟩ | ⟨hnot, -⟩
    · exact ⟨fun _ => hsink, .inl hsink⟩
    · exact absurd hsink hnot
  · refine ⟨fun hsink => absurd (hgrows.isSink hsink) hnot, ?_⟩
    rcases run_writeBytes_eq_ok hwrite with ⟨hsink, -⟩ | ⟨-, hkept⟩
    · exact absurd hsink hkeeps.not_isSink
    · refine .inr ⟨written, hwritten, fun t' ht' => run_readAll_of_keeps hkept hcontent ?_⟩
      rwa [Text.unifyNewlines_of_noReturn (Toml.storable_of_write hwritten).noReturn]

end DocPress.Settings
