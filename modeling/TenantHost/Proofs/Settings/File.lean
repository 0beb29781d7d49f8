import TenantHost.Settings.File
import TenantHost.Proofs.Settings.Check
/-!
# What loading settings comes to

A load asks whether there is a file, reads it and checks what it says. Its outcome depends on what
it finds and on the number of processors alone: a fault that is written to the journal on the way is
failed with all the same.
-/

namespace TenantHost

theorem World.of_ask {σ α : Type} {party : Action σ α} {outcome : Except Fault α}
    {w w' : World σ}
    (h : ask party w = (outcome, w')) : party w.outside = (outcome, w'.outside) := by
  obtain ⟨rfl, rfl⟩ := Prod.mk.inj h
  rfl

namespace Settings

variable {σ : Type} {host : Host σ} {path : Path} {w : World σ} {before after : σ}
  {contents : Option (List UInt8)}

/-- What a load finds at a place, and how it leaves the outside: no file, or a file that is still
there when it is read, and its bytes. -/
inductive Finds (host : Host σ) (path : Path) (before : σ) :
    Option (List UInt8) → σ → Prop where
  | absent {after : σ} (hexists : host.fileExists path before = (.ok false, after)) :
      Finds host path before none after
  | present {between still after : σ} {bytes : List UInt8}
      (hexists : host.fileExists path before = (.ok true, between))
      (hstill : host.fileExists path between = (.ok true, still))
      (hread : host.readFile path still = (.ok bytes, after)) :
      Finds host path before (some bytes) after

/-- The host's table of the document that the bytes of a file are. -/
def hostTableOf (bytes : List UInt8) : Except Fault Value := do
  tableOf (← documentOf bytes) "host"

/-- The settings that the contents of a place mean, for an answer about the processors; the defaults
if there is no file. -/
def ofContents (count : Except Fault (Option Int)) : Option (List UInt8) → Except Fault Settings
  | none => ofTable count (.table [])
  | some bytes => hostTableOf bytes >>= ofTable count

/-- The settings that a place holds for the outside in a state. -/
def HeldAt (host : Host σ) (path : Path) (before : σ) (settings : Settings) : Prop :=
  ∃ contents after, Finds host path before contents after ∧
    ofContents (host.cpuCount after).1 contents = .ok settings

/-! ## Reading a file -/

/-- Reading a document gives what the bytes are. The lines that are written on the way change
nothing else. -/
theorem exists_readDocument_apply {still : σ} {bytes : List UInt8} (description : String)
    (hstill : host.fileExists path w.outside = (.ok true, still))
    (hread : host.readFile path still = (.ok bytes, after)) :
    ∃ journal, readDocument host path description w
      = (documentOf bytes, { w with outside := after, journal }) := by
  simp only [readDocument, Action.bind_apply, World.note_apply, World.ask_apply, hstill, hread,
    Bool.not_true, Bool.false_eq_true, if_false]
  -- a document that cannot be parsed is written to the journal, and then it is still the fault
  cases documentOf bytes with
  | ok document => exact ⟨_, rfl⟩
  | error fault => cases fault <;> exact ⟨_, rfl⟩

theorem exists_readHostTable_apply {still : σ} {bytes : List UInt8}
    (hstill : host.fileExists path w.outside = (.ok true, still))
    (hread : host.readFile path still = (.ok bytes, after)) :
    ∃ journal, readHostTable host path w
      = (hostTableOf bytes, { w with outside := after, journal }) := by
  obtain ⟨journal, hdocument⟩ :=
    exists_readDocument_apply "host configuration file" hstill hread
  refine ⟨journal, ?_⟩
  cases hparsed : documentOf bytes <;>
    simp [readHostTable, hostTableOf, hdocument, hparsed]

theorem ofFile_outcome {still : σ} {bytes : List UInt8}
    (hstill : host.fileExists path w.outside = (.ok true, still))
    (hread : host.readFile path still = (.ok bytes, after)) :
    (ofFile host path w).1 = hostTableOf bytes >>= ofTable (host.cpuCount after).1 := by
  obtain ⟨journal, htable⟩ := exists_readHostTable_apply hstill hread
  unfold ofFile
  cases hhost : hostTableOf bytes with
  | error fault =>
    simp only [Action.bind_apply, htable, hhost]
    rfl
  | ok table =>
    rw [hhost] at htable
    rw [Action.bind_ok htable]
    have hcheck := check_outcome host.cpuCount table { w with outside := after, journal }
    rw [Action.outcome_bind (f := .ok) (fun settings t => rfl), hcheck]
    exact bind_pure (ofTable (host.cpuCount after).1 table)

/-! ## Loading -/

/-- A fault of a file that is there is the fault of the load. -/
theorem load_outcome_of_exists {between : σ}
    (hexists : host.fileExists path w.outside = (.ok true, between)) :
    (load host path w).1 = (ofFile host path { w with outside := between }).1 := by
  rcases hfile : ofFile host path { w with outside := between } with ⟨fault | settings, t⟩ <;>
    simp [load, hexists, hfile]

/-- **What a load comes to**: the settings that its place holds, or the fault that keeps it from
having any. -/
theorem load_outcome (h : Finds host path w.outside contents after) :
    (load host path w).1 = ofContents (host.cpuCount after).1 contents := by
  cases h with
  | absent hexists =>
    unfold load
    rw [Action.bind_ok (World.ask_of hexists), if_neg Bool.false_ne_true]
    exact check_outcome host.cpuCount (.table []) _
  | present hexists hstill hread =>
    rw [load_outcome_of_exists hexists]
    exact ofFile_outcome hstill hread

/-! ## Loads that succeed -/

theorem exists_read_of_readDocument_ok {description : String} {document : Value} {w' : World σ}
    (h : readDocument host path description w = (.ok document, w')) :
    ∃ still bytes after, host.fileExists path w.outside = (.ok true, still) ∧
      host.readFile path still = (.ok bytes, after) := by
  unfold readDocument at h
  obtain ⟨_, w₁, hline, h⟩ := Action.bind_eq_ok_iff.mp h
  obtain ⟨found, w₂, hasked, h⟩ := Action.bind_eq_ok_iff.mp h
  have houtside : w₁.outside = w.outside := by rw [← (Prod.mk.inj hline).2]
  cases found with
  | false =>
    obtain ⟨-, w₃, -, h⟩ := Action.bind_eq_ok_iff.mp h
    cases h
  | true =>
    obtain ⟨bytes, w₃, hgiven, -⟩ := Action.bind_eq_ok_iff.mp h
    exact ⟨_, bytes, _, houtside ▸ World.of_ask hasked, World.of_ask hgiven⟩

theorem exists_read_of_ofFile_ok {settings : Settings} (h : (ofFile host path w).1 = .ok settings) :
    ∃ still bytes after, host.fileExists path w.outside = (.ok true, still) ∧
      host.readFile path still = (.ok bytes, after) := by
  have hpair : ofFile host path w = (.ok settings, (ofFile host path w).2) := Prod.ext h rfl
  obtain ⟨table, w₁, htable, -⟩ := Action.bind_eq_ok_iff.mp hpair
  obtain ⟨document, w₂, hdocument, -⟩ := Action.bind_eq_ok_iff.mp htable
  exact exists_read_of_readDocument_ok hdocument

theorem exists_finds_of_load_ok {settings : Settings} (h : (load host path w).1 = .ok settings) :
    ∃ contents after, Finds host path w.outside contents after := by
  rcases hexists : host.fileExists path w.outside with ⟨fault | found, between⟩
  · unfold load at h
    rw [Action.bind_error (World.ask_of hexists)] at h
    cases h
  · cases found with
    | false => exact ⟨none, between, .absent hexists⟩
    | true =>
      rw [load_outcome_of_exists hexists] at h
      obtain ⟨still, bytes, after, hstill, hread⟩ := exists_read_of_ofFile_ok h
      exact ⟨some bytes, after, .present hexists hstill hread⟩

/-- **A load succeeds with the settings that its place holds, and with no others.** -/
theorem load_eq_ok_iff {settings : Settings} :
    (load host path w).1 = .ok settings ↔ HeldAt host path w.outside settings := by
  constructor
  · intro h
    obtain ⟨contents, after, hfinds⟩ := exists_finds_of_load_ok h
    exact ⟨contents, after, hfinds, load_outcome hfinds ▸ h⟩
  · rintro ⟨contents, after, hfinds, hcontents⟩
    rw [load_outcome hfinds, hcontents]

end Settings

end TenantHost
