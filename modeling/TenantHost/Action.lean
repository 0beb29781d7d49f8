import TenantHost.Fault
/-!
# Actions

An action takes a state to an outcome and a state. The state after a failure is the one that the
action had reached, so what was done before the failure stays done; `attempt` turns a failure into a
value to go on from.
-/

namespace TenantHost

/-! ## Outcomes -/

section Outcomes

variable {α β ε ε' : Type}

@[simp] theorem mapError_ok (f : ε → ε') (a : α) : (Except.ok a).mapError f = .ok a :=
  rfl

@[simp] theorem mapError_error (f : ε → ε') (fault : ε) :
    (Except.error fault : Except ε α).mapError f = .error (f fault) :=
  rfl

@[simp] theorem map_ok (f : α → β) (a : α) : (Except.ok a : Except ε α).map f = .ok (f a) :=
  rfl

@[simp] theorem map_error (f : α → β) (fault : ε) :
    (Except.error fault).map f = .error fault :=
  rfl

@[simp] theorem toOption_ok (a : α) : (Except.ok a : Except ε α).toOption = some a :=
  rfl

@[simp] theorem toOption_error (fault : ε) : (Except.error fault : Except ε α).toOption = none :=
  rfl

@[simp] theorem ok_bind (a : α) (next : α → Except Fault β) :
    (Except.ok a >>= next) = next a :=
  rfl

@[simp] theorem error_bind (fault : Fault) (next : α → Except Fault β) :
    (Except.error fault >>= next) = .error fault :=
  rfl

end Outcomes

/-! ## Actions -/

/-- From a state to an outcome and the state that is left, also by a failure. -/
def Action (S α : Type) : Type :=
  S → Except Fault α × S

namespace Action

variable {S T α β : Type}

/-- Does nothing. -/
def done (a : α) : Action S α :=
  fun s => (.ok a, s)

/-- Goes on with the value of an action, if it succeeded. -/
def andThen (act : Action S α) (next : α → Action S β) : Action S β :=
  fun s =>
    match act s with
    | (.ok a, s) => next a s
    | (.error fault, s) => (.error fault, s)

instance : Monad (Action S) where
  pure := done
  bind := andThen

/-- Fails. -/
def fail (fault : Fault) : Action S α :=
  fun s => (.error fault, s)

/-- The outcome of an action as a value; such an action does not fail. -/
def attempt (act : Action S α) : Action S (Except Fault α) :=
  fun s => (.ok (act s).1, (act s).2)

/-- The outcome that is already known. -/
def ofExcept (outcome : Except Fault α) : Action S α :=
  fun s => (outcome, s)

/-- The state. -/
def state : Action S S :=
  fun s => (.ok s, s)

/-- Changes the state. -/
def update (f : S → S) : Action S Unit :=
  fun s => (.ok (), f s)

/-- An action on a part of the state; the rest stays. -/
def onPart (part : S → T) (put : S → T → S) (act : Action T α) : Action S α :=
  fun s => ((act (part s)).1, put s (act (part s)).2)

/-- An action on the second half of a pair. -/
def onSecond (act : Action T α) : Action (S × T) α :=
  act.onPart Prod.snd fun s t => (s.1, t)

/-! ## Running actions

An action is run by `simp` from what is known of its parts. -/

@[simp] theorem pure_apply (a : α) (s : S) : (pure a : Action S α) s = (.ok a, s) :=
  rfl

@[simp] theorem bind_apply (act : Action S α) (next : α → Action S β) (s : S) :
    (act >>= next) s
      = match act s with
        | (.ok a, t) => next a t
        | (.error fault, t) => (.error fault, t) :=
  rfl

@[simp] theorem map_apply (f : α → β) (act : Action S α) (s : S) :
    (f <$> act) s
      = match act s with
        | (.ok a, t) => (.ok (f a), t)
        | (.error fault, t) => (.error fault, t) :=
  rfl

@[simp] theorem fail_apply (fault : Fault) (s : S) :
    (fail fault : Action S α) s = (.error fault, s) :=
  rfl

@[simp] theorem attempt_apply (act : Action S α) (s : S) :
    act.attempt s = (.ok (act s).1, (act s).2) :=
  rfl

@[simp] theorem ofExcept_apply (outcome : Except Fault α) (s : S) :
    (ofExcept outcome : Action S α) s = (outcome, s) :=
  rfl

@[simp] theorem state_apply (s : S) : (state : Action S S) s = (.ok s, s) :=
  rfl

@[simp] theorem update_apply (f : S → S) (s : S) : update f s = (.ok (), f s) :=
  rfl

@[simp] theorem onSecond_apply (act : Action T α) (s : S × T) :
    act.onSecond s = ((act s.2).1, (s.1, (act s.2).2)) :=
  rfl

/-! ## What actions do -/

theorem bind_ok {act : Action S α} {next : α → Action S β} {s t : S} {a : α}
    (h : act s = (.ok a, t)) : (act >>= next) s = next a t := by
  simp [h]

theorem bind_error {act : Action S α} {next : α → Action S β} {s t : S} {fault : Fault}
    (h : act s = (.error fault, t)) : (act >>= next) s = (.error fault, t) := by
  simp [h]

/-- An action that goes on succeeds just when both of its parts do. -/
theorem bind_eq_ok_iff {act : Action S α} {next : α → Action S β} {s u : S} {b : β} :
    (act >>= next) s = (.ok b, u) ↔ ∃ a t, act s = (.ok a, t) ∧ next a t = (.ok b, u) := by
  constructor
  · intro h
    rcases hact : act s with ⟨fault | a, t⟩
    · rw [bind_error hact] at h
      cases h
    · rw [bind_ok hact] at h
      exact ⟨a, t, rfl, h⟩
  · rintro ⟨a, t, hact, hnext⟩
    rw [bind_ok hact, hnext]

/-- The outcome of an action that goes on in a way that does not depend on the state. -/
theorem outcome_bind {act : Action S α} {next : α → Action S β} {f : α → Except Fault β}
    (h : ∀ a t, (next a t).1 = f a) (s : S) : ((act >>= next) s).1 = (act s).1 >>= f := by
  rcases hact : act s with ⟨fault | a, t⟩ <;> simp [hact, h]

/-- The outcome of an action that goes on from an outcome that is known. -/
theorem outcome_ofExcept_bind {outcome : Except Fault α} {next : α → Action S β}
    {f : α → Except Fault β} {s : S} (h : ∀ a, (next a s).1 = f a) :
    ((ofExcept outcome >>= next) s).1 = outcome >>= f := by
  cases outcome with
  | error fault => rfl
  | ok a => exact h a

theorem attempt_of {act : Action S α} {s t : S} {outcome : Except Fault α}
    (h : act s = (outcome, t)) : act.attempt s = (.ok outcome, t) := by
  simp [h]

theorem attempt_eq_iff {act : Action S α} {s t : S} {outcome : Except Fault α} :
    act.attempt s = (.ok outcome, t) ↔ act s = (outcome, t) := by
  constructor
  · intro h
    obtain ⟨houtcome, hstate⟩ := Prod.mk.inj h
    exact Prod.ext (Except.ok.inj houtcome) hstate
  · exact attempt_of

theorem onSecond_of {act : Action T α} {s : S × T} {t : T} {outcome : Except Fault α}
    (h : act s.2 = (outcome, t)) : act.onSecond s = (outcome, (s.1, t)) := by
  simp [h]

theorem onSecond_eq_iff {act : Action T α} {s t : S × T} {outcome : Except Fault α} :
    act.onSecond s = (outcome, t) ↔ act s.2 = (outcome, t.2) ∧ t.1 = s.1 := by
  constructor
  · intro h
    obtain ⟨houtcome, rfl⟩ := Prod.mk.inj h
    exact ⟨Prod.ext houtcome rfl, rfl⟩
  · rintro ⟨hact, hfirst⟩
    rw [onSecond_of hact, ← hfirst]

theorem andThen_done (act : Action S α) : andThen act done = act := by
  funext s
  rcases h : act s with ⟨_ | _, _⟩ <;> simp [andThen, done, h]

theorem andThen_assoc {γ : Type} (act : Action S α) (f : α → Action S β)
    (g : β → Action S γ) :
    andThen (andThen act f) g = andThen act fun a => andThen (f a) g := by
  funext s
  rcases h : act s with ⟨_ | _, _⟩ <;> simp [andThen, h]

instance : LawfulMonad (Action S) :=
  LawfulMonad.mk' (Action S) (fun act => andThen_done act) (fun _ _ => rfl)
    (fun act f g => andThen_assoc act f g)

end Action

end TenantHost
