import TenantHost.Journal.Handling
import TenantHost.Proofs.Journal.Task
/-!
# Runs in step

Two runs go in step where they come to the same outcome and leave states that correspond. Work that
is made of parts goes in step if its parts do. So a run on behalf of a task can be laid beside the
same run on behalf of none: its journal is that of the other run, with the task's copy right behind
each line that has one.
-/

namespace TenantHost

/-! ## Actions in step -/

namespace Action

variable {K S T α β : Type} {R : S → T → Prop}

/-- From corresponding states two actions come to the same outcome, and to corresponding states. -/
def InStep (R : S → T → Prop) (act : Action S α) (other : Action T α) : Prop :=
  ∀ s t, R s t → (act s).1 = (other t).1 ∧ R (act s).2 (other t).2

/-- Pairs of which the first halves are the same and the second halves correspond. -/
def Beside (R : S → T → Prop) (s : K × S) (t : K × T) : Prop :=
  s.1 = t.1 ∧ R s.2 t.2

namespace InStep

theorem pure (a : α) : InStep R (Pure.pure a) (Pure.pure a) :=
  fun _ _ h => ⟨rfl, h⟩

theorem fail (fault : Fault) : InStep R (Action.fail fault : Action S α) (Action.fail fault) :=
  fun _ _ h => ⟨rfl, h⟩

theorem ofExcept (outcome : Except Fault α) :
    InStep R (Action.ofExcept outcome) (.ofExcept outcome) :=
  fun _ _ h => ⟨rfl, h⟩

theorem attempt {act : Action S α} {other : Action T α} (h : InStep R act other) :
    InStep R act.attempt other.attempt := by
  intro s t hst
  obtain ⟨houtcome, hafter⟩ := h s t hst
  exact ⟨congrArg Except.ok houtcome, hafter⟩

/-- **Actions that go on in step are in step.** -/
theorem bind {act : Action S α} {other : Action T α} {next : α → Action S β}
    {next' : α → Action T β}
    (h : InStep R act other) (hnext : ∀ a, InStep R (next a) (next' a)) :
    InStep R (act >>= next) (other >>= next') := by
  intro s t hst
  obtain ⟨houtcome, hafter⟩ := h s t hst
  rcases hact : act s with ⟨outcome, s'⟩
  rcases hother : other t with ⟨outcome', t'⟩
  rw [hact, hother] at houtcome hafter
  subst houtcome
  -- both go on, from states that correspond, or neither does
  cases outcome with
  | error fault =>
    rw [bind_error hact, bind_error hother]
    exact ⟨rfl, hafter⟩
  | ok a =>
    rw [bind_ok hact, bind_ok hother]
    exact hnext a s' t' hafter

theorem onSecond {act : Action S α} {other : Action T α} (h : InStep R act other) :
    InStep (Beside (K := K) R) act.onSecond other.onSecond := by
  rintro ⟨k, s⟩ ⟨k', t⟩ ⟨hsame, hst⟩
  obtain ⟨houtcome, hafter⟩ := h s t hst
  exact ⟨houtcome, hsame, hafter⟩

/-- Going on by the half that is the same. -/
theorem state {next : K × S → Action (K × S) α} {next' : K × T → Action (K × T) α}
    (h : ∀ s t, s.1 = t.1 → InStep (Beside R) (next s) (next' t)) :
    InStep (Beside R) (Action.state >>= next) (Action.state >>= next') := by
  intro s t hst
  exact h s t hst.1 s t hst

/-- Replacing the half that is the same. -/
theorem update (k : K) :
    InStep (Beside R) (Action.update fun s : K × S => (k, s.2))
      (Action.update fun t => (k, t.2)) :=
  fun _ _ h => ⟨rfl, rfl, h.2⟩

end InStep

end Action

/-! ## Journals with copies -/

/-- The lines on a channel. -/
def linesOn (channel : Channel) (lines : List Line) : List Line :=
  lines.filter fun line => line.channel = channel

@[simp] theorem linesOn_nil (channel : Channel) : linesOn channel [] = [] := rfl

@[simp] theorem linesOn_append (channel : Channel) (lines more : List Line) :
    linesOn channel (lines ++ more) = linesOn channel lines ++ linesOn channel more :=
  List.filter_append lines more

@[simp] theorem linesOn_cons (channel : Channel) (line : Line) (lines : List Line) :
    linesOn channel (line :: lines)
      = (if line.channel = channel then [line] else []) ++ linesOn channel lines := by
  by_cases h : line.channel = channel <;> simp [linesOn, h]

theorem linesOn_cons_of_eq {channel : Channel} {line : Line} (h : line.channel = channel)
    (lines : List Line) : linesOn channel (line :: lines) = line :: linesOn channel lines :=
  List.filter_cons_of_pos (decide_eq_true h)

namespace TaskLog

/-- The copies that belong behind a line: those of the lines on the log's own channel. -/
def copiesOf (log : TaskLog) (line : Line) : List Line :=
  if line.channel = log.channel then log.copies line.level line.text line.about else []

/-- Lines with the copies of each right behind it. -/
def mirrored (log : TaskLog) (lines : List Line) : List Line :=
  lines.flatMap fun line => line :: log.copiesOf line

@[simp] theorem mirrored_cons (log : TaskLog) (line : Line) (lines : List Line) :
    log.mirrored (line :: lines) = line :: (log.copiesOf line ++ log.mirrored lines) :=
  List.flatMap_cons

@[simp] theorem mirrored_append (log : TaskLog) (lines more : List Line) :
    log.mirrored (lines ++ more) = log.mirrored lines ++ log.mirrored more :=
  List.flatMap_append

/-- Lines on other channels have no copies. -/
theorem mirrored_elsewhere (log : TaskLog) {lines : List Line}
    (h : ∀ line ∈ lines, line.channel ≠ log.channel) : log.mirrored lines = lines := by
  induction lines with
  | nil => rfl
  | cons line lines ih =>
    have hline : log.copiesOf line = [] := if_neg (h line List.mem_cons_self)
    simp [hline, ih fun l hl => h l (List.mem_cons_of_mem line hl)]

/-- The line as it is copied for a task. -/
def copiedFor (task : TaskJournal) (line : Line) : Line :=
  { line with channel := task.channel }

@[simp] theorem copiedFor_channel (task : TaskJournal) (line : Line) :
    (copiedFor task line).channel = task.channel := rfl

theorem copiesOf_task {own : Channel} {task : TaskJournal} (hown : task.channel ≠ own)
    {line : Line}
    (h : line.channel = own) : copiesOf ⟨own, some task⟩ line = [copiedFor task line] := by
  unfold copiesOf copies
  rw [if_pos h]
  exact if_neg hown

theorem mem_copiesOf {own : Channel} {task : TaskJournal} {line copy : Line}
    (h : copy ∈ copiesOf ⟨own, some task⟩ line) : copy = copiedFor task line := by
  unfold copiesOf copies at h
  split at h
  · simp only at h
    split at h
    · exact absurd h List.not_mem_nil
    · exact List.mem_singleton.mp h
  · exact absurd h List.not_mem_nil

/-- **The lines on every channel but the task's are the same.** -/
theorem linesOn_mirrored_of_ne (own : Channel) {task : TaskJournal} {channel : Channel}
    (h : channel ≠ task.channel) (lines : List Line) :
    linesOn channel (mirrored ⟨own, some task⟩ lines) = linesOn channel lines := by
  induction lines with
  | nil => rfl
  | cons line lines ih =>
    -- the copies behind the line are all on the task's channel
    have hcopies : linesOn channel (copiesOf ⟨own, some task⟩ line) = [] := by
      rw [linesOn, List.filter_eq_nil_iff]
      intro copy hcopy
      rw [mem_copiesOf hcopy, decide_eq_true_eq]
      exact Ne.symm h
    by_cases hline : line.channel = channel <;> simp [hline, hcopies, ih]

/-- **The lines on the task's channel are the copies**, where nothing else is written there. -/
theorem linesOn_mirrored_task {own : Channel} {task : TaskJournal} (hown : task.channel ≠ own)
    {lines : List Line} (h : ∀ line ∈ lines, line.channel ≠ task.channel) :
    linesOn task.channel (mirrored ⟨own, some task⟩ lines)
      = (linesOn own lines).map (copiedFor task) := by
  induction lines with
  | nil => rfl
  | cons line lines ih =>
    have hrest := ih fun l hl => h l (List.mem_cons_of_mem line hl)
    by_cases hline : line.channel = own
    · simp [hline, hown.symm, copiesOf_task hown hline, hrest]
    · have helsewhere : line.channel ≠ task.channel := h line List.mem_cons_self
      have hcopies : copiesOf ⟨own, some task⟩ line = [] := if_neg hline
      simp [helsewhere, hline, hcopies, hrest]

end TaskLog

/-! ## Worlds of two runs -/

section Worlds

variable {σ α : Type}

/-- The world of a run on behalf of a task, beside that of the run on behalf of none: the same but
for the copies among the lines since the start. -/
structure Mirrors (log : TaskLog) (start : List Line) (w plain : World σ) : Prop where
  outside : w.outside = plain.outside
  calls : w.calls = plain.calls
  journal : ∃ lines, plain.journal = start ++ lines ∧ w.journal = start ++ log.mirrored lines

theorem Mirrors.refl (log : TaskLog) (w : World σ) : Mirrors log w.journal w w :=
  ⟨rfl, rfl, [], (List.append_nil _).symm, (List.append_nil _).symm⟩

/-- An action that pays no heed to the journal, and adds lines to it that are on other channels than
one. -/
def Action.AddsElsewhere (channel : Channel) (act : Action (World σ) α) : Prop :=
  ∀ outside calls, ∃ outcome after lines handed,
    (∀ line ∈ lines, line.channel ≠ channel) ∧
    ∀ journal, act ⟨outside, journal, calls⟩ = (outcome,
      ⟨after, journal ++ lines, handed⟩)

theorem World.ask_addsElsewhere (channel : Channel) (party : Action σ α) :
    (World.ask party).AddsElsewhere channel := by
  intro outside calls
  refine ⟨(party outside).1, (party outside).2, [], calls, ?_, ?_⟩
  · intro line hline
    exact absurd hline List.not_mem_nil
  · intro journal
    rw [List.append_nil]
    rfl

theorem World.write_addsElsewhere {channel : Channel} {line : Line} (h : line.channel ≠ channel) :
    (World.write (σ := σ) line).AddsElsewhere channel := by
  intro outside calls
  refine ⟨.ok (), outside, [line], calls, ?_, fun journal => rfl⟩
  intro other hother
  rw [List.mem_singleton.mp hother]
  exact h

/-- An action that adds no lines on the log's channel does the same in both runs. -/
theorem Action.AddsElsewhere.inStep {log : TaskLog} {start : List Line} {act : Action (World σ) α}
    (h : act.AddsElsewhere log.channel) : InStep (Mirrors log start) act act := by
  rintro ⟨outside, journal, calls⟩ ⟨outside', journal', calls'⟩ ⟨houtside, hcalls, lines,
    hplain, hw⟩
  obtain rfl : outside = outside' := houtside
  obtain rfl : calls = calls' := hcalls
  obtain ⟨outcome, after, added, handed, helsewhere, hact⟩ := h outside calls
  rw [hact, hact]
  refine ⟨rfl, rfl, rfl, lines ++ added, ?_, ?_⟩
  · show journal' ++ added = start ++ (lines ++ added)
    rw [show journal' = start ++ lines from hplain, List.append_assoc]
  · show journal ++ added = start ++ log.mirrored (lines ++ added)
    rw [show journal = start ++ log.mirrored lines from hw, log.mirrored_append,
      log.mirrored_elsewhere helsewhere, List.append_assoc]

/-- **A line that is accepted is written in both runs**, with its copy in the one on behalf of the
task. -/
theorem TaskLog.write_inStep (log : TaskLog) (h : Accepting log.task) (start : List Line)
    (level : Level) (text : String) (about : Option Fault) :
    Action.InStep (Mirrors (σ := σ) log start) (log.write level text about)
      ((⟨log.channel, none⟩ : TaskLog).write level text about) := by
  rintro ⟨outside, journal, calls⟩ ⟨outside', journal', calls'⟩ ⟨houtside, hcalls, lines,
    hplain, hw⟩
  rw [log.write_apply h, TaskLog.write_apply _ accepting_none]
  refine ⟨rfl, houtside, hcalls, lines ++ [⟨log.channel, level, text, about⟩], ?_, ?_⟩
  · show journal' ++ [⟨log.channel, level, text, about⟩] = _
    rw [show journal' = start ++ lines from hplain, List.append_assoc]
  · have hcopies : log.mirrored [⟨log.channel, level, text, about⟩]
        = ⟨log.channel, level, text, about⟩ :: log.copies level text about := by
      have hown : log.copiesOf ⟨log.channel, level, text, about⟩
          = log.copies level text about :=
        if_pos rfl
      rw [log.mirrored_cons, hown]
      exact congrArg _ (List.append_nil _)
    rw [log.mirrored_append, hcopies, ← List.append_assoc, ← hw]

end Worlds

end TenantHost
