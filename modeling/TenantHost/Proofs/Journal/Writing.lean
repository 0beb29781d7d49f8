import TenantHost.Proofs.Journal.Mirror
/-!
# What an action writes

What an action adds to the journal is told by its outcome: a relation between outcomes and the lines
on one channel. Work that is made of parts adds what its parts add, one behind the other, and a
failure that is attempted leaves the lines that were written before it.
-/

namespace TenantHost

variable {σ S α β : Type}

theorem linesOn_eq_nil {channel : Channel} {lines : List Line}
    (h : ∀ line ∈ lines, line.channel ≠ channel) : linesOn channel lines = [] := by
  simpa [linesOn, List.filter_eq_nil_iff] using h

/-! ## Texts of a level -/

/-- The texts of the lines of a level, in order. -/
def textsOf (level : Level) (lines : List Line) : List String :=
  (lines.filter fun line => line.level = level).map Line.text

@[simp] theorem textsOf_nil (level : Level) : textsOf level [] = [] := rfl

@[simp] theorem textsOf_append (level : Level) (lines more : List Line) :
    textsOf level (lines ++ more) = textsOf level lines ++ textsOf level more := by
  simp [textsOf]

@[simp] theorem textsOf_cons (level : Level) (line : Line) (lines : List Line) :
    textsOf level (line :: lines)
      = (if line.level = level then [line.text] else []) ++ textsOf level lines := by
  by_cases h : line.level = level <;> simp [textsOf, h]

theorem textsOf_eq_nil {level other : Level} {lines : List Line}
    (h : ∀ line ∈ lines, line.level = other) (hne : other ≠ level) :
    textsOf level lines = [] := by
  have hnone : ∀ line ∈ lines, line.level ≠ level := by
    intro line hline
    rw [h line hline]
    exact hne
  simpa [textsOf, List.filter_eq_nil_iff] using hnone

/-! ## What is added to the journal -/

namespace Action

/-- From every state an action extends the journal, and its outcome and the lines on a channel that
it adds are as they are told. -/
def Adds (journal : S → List Line) (channel : Channel) (act : Action S α)
    (told : Except Fault α → List Line → Prop) : Prop :=
  ∀ s, ∃ lines, journal (act s).2 = journal s ++ lines ∧
    told (act s).1 (linesOn channel lines)

variable {journal : S → List Line} {channel : Channel} {act : Action S α}
  {told : Except Fault α → List Line → Prop}

namespace Adds

theorem mono (h : Adds journal channel act told) {weaker : Except Fault α → List Line → Prop}
    (himp : ∀ outcome lines, told outcome lines → weaker outcome lines) :
    Adds journal channel act weaker := by
  intro s
  obtain ⟨lines, hjournal, htold⟩ := h s
  exact ⟨lines, hjournal, himp _ _ htold⟩

/-- An action that leaves the journal as it is. -/
theorem of_journal_eq (h : ∀ s, journal (act s).2 = journal s) :
    Adds journal channel act fun _ lines => lines = [] :=
  fun s => ⟨[], (h s).trans (List.append_nil _).symm, rfl⟩

theorem pure (a : α) :
    Adds journal channel (Pure.pure a) fun outcome lines => outcome = .ok a ∧ lines = [] :=
  fun s => ⟨[], (List.append_nil (journal s)).symm, rfl, rfl⟩

theorem fail (fault : Fault) :
    Adds journal channel (Action.fail fault : Action S α) fun outcome lines =>
      outcome = .error fault ∧ lines = [] :=
  fun s => ⟨[], (List.append_nil (journal s)).symm, rfl, rfl⟩

theorem attempt (h : Adds journal channel act told) :
    Adds journal channel act.attempt fun attempted lines =>
      ∃ outcome, attempted = .ok outcome ∧ told outcome lines := by
  intro s
  obtain ⟨lines, hjournal, htold⟩ := h s
  exact ⟨lines, hjournal, _, rfl, htold⟩

/-- **An action that goes on adds the lines of both of its parts**, or those of the first one if
that fails. -/
theorem bind (h : Adds journal channel act told) {next : α → Action S β}
    {toldNext : α → Except Fault β → List Line → Prop}
    (hnext : ∀ a, Adds journal channel (next a) (toldNext a)) :
    Adds journal channel (act >>= next) fun outcome lines =>
      (∃ fault, outcome = .error fault ∧ told (.error fault) lines) ∨
        ∃ a front rest, lines = front ++ rest ∧ told (.ok a) front ∧
          toldNext a outcome rest := by
  intro s
  obtain ⟨front, hjournal, htold⟩ := h s
  rcases hact : act s with ⟨fault | a, t⟩
  · rw [hact] at hjournal htold
    rw [bind_error hact]
    exact ⟨front, hjournal, .inl ⟨fault, rfl, htold⟩⟩
  · rw [hact] at hjournal htold
    obtain ⟨rest, hrest, htoldNext⟩ := hnext a t
    rw [bind_ok hact]
    refine ⟨front ++ rest, ?_, .inr ⟨a, _, _, linesOn_append channel front rest, htold,
      htoldNext⟩⟩
    rw [hrest, hjournal, List.append_assoc]

/-- A first part that neither fails nor writes makes no difference. -/
theorem bind_of_silent {next : α → Action S β}
    {toldNext : Except Fault β → List Line → Prop}
    (h : Adds journal channel act fun _ lines => lines = [])
    (hfault : ∀ fault, toldNext (.error fault) [])
    (hnext : ∀ a, Adds journal channel (next a) toldNext) :
    Adds journal channel (act >>= next) toldNext := by
  refine (h.bind hnext).mono fun outcome lines htold => ?_
  rcases htold with ⟨fault, rfl, rfl⟩ | ⟨a, front, rest, rfl, rfl, hrest⟩
  · exact hfault fault
  · exact hrest

/-- A first part that writes a line puts it in front. -/
theorem bind_of_line {act : Action S Unit} {line : Line}
    (h : Adds journal channel act fun outcome lines => outcome = .ok () ∧ lines = [line])
    {next : Unit → Action S β} {toldNext : Except Fault β → List Line → Prop}
    (hnext : ∀ u, Adds journal channel (next u) toldNext) :
    Adds journal channel (act >>= next) fun outcome lines =>
      ∃ rest, lines = line :: rest ∧ toldNext outcome rest := by
  refine (h.bind hnext).mono fun outcome lines htold => ?_
  rcases htold with ⟨fault, -, hok, -⟩ | ⟨_, front, rest, rfl, ⟨-, rfl⟩, hrest⟩
  · cases hok
  · exact ⟨rest, rfl, hrest⟩

/-- An action that goes on with what it makes of its value adds no more lines. -/
theorem bind_pure (h : Adds journal channel act told) (f : α → β) :
    Adds journal channel (act >>= fun a => Pure.pure (f a)) fun outcome lines =>
      ∃ first, told first lines ∧ outcome = first.map f := by
  refine (h.bind fun a => .pure (f a)).mono fun outcome lines htold => ?_
  rcases htold with ⟨fault, rfl, hfault⟩ | ⟨a, front, rest, rfl, hfront, rfl, rfl⟩
  · exact ⟨.error fault, hfault, rfl⟩
  · rw [List.append_nil]
    exact ⟨.ok a, hfront, rfl⟩

/-- An action that goes on from an outcome, be it a failure, adds the lines of both of its parts. -/
theorem attempt_bind (h : Adds journal channel act told) {next : Except Fault α → Action S β}
    (toldNext : Except Fault α → Except Fault β → List Line → Prop)
    (hnext : ∀ outcome, Adds journal channel (next outcome) (toldNext outcome)) :
    Adds journal channel (act.attempt >>= next) fun result lines =>
      ∃ outcome front rest, lines = front ++ rest ∧ told outcome front ∧
        toldNext outcome result rest := by
  refine (h.attempt.bind hnext).mono fun result lines htold => ?_
  rcases htold with ⟨fault, -, outcome, hok, -⟩ |
    ⟨a, front, rest, hlines, ⟨outcome, hok, hfront⟩, hrest⟩
  · cases hok
  · cases hok
    exact ⟨a, front, rest, hlines, hfront, hrest⟩

end Adds

/-- What is done in the second half of a state is written as it is there. -/
theorem Adds.onSecond {T : Type} {journal : T → List Line} {act : Action T α}
    (h : Adds journal channel act told) :
    Adds (fun s : S × T => journal s.2) channel act.onSecond told :=
  fun s => h s.2

/-- What pays no heed to the journal and writes elsewhere adds no lines. -/
theorem AddsElsewhere.adds {act : Action (World σ) α} (h : act.AddsElsewhere channel) :
    Adds World.journal channel act fun _ lines => lines = [] := by
  rintro ⟨outside, journal, calls⟩
  obtain ⟨outcome, after, lines, handed, helsewhere, hact⟩ := h outside calls
  rw [hact]
  exact ⟨lines, rfl, linesOn_eq_nil helsewhere⟩

end Action

/-- On behalf of no task, a line on the log's own channel is all that is added. -/
theorem TaskLog.write_adds (channel : Channel) (level : Level) (text : String)
    (about : Option Fault) :
    Action.Adds (World.journal (σ := σ)) channel
      ((⟨channel, none⟩ : TaskLog).write level text about)
      fun outcome lines => outcome = .ok () ∧ lines = [⟨channel, level, text, about⟩] := by
  intro w
  rw [TaskLog.write_apply _ accepting_none]
  exact ⟨[⟨channel, level, text, about⟩], rfl, rfl, linesOn_cons_of_eq rfl []⟩

end TenantHost
