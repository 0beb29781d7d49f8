import TenantHost.Journal.Task
/-!
# Lines that are accepted

Where no task's journal refuses a line, writing one is an extension of the journal and nothing else.
-/

namespace TenantHost

/-- There is no task's journal, or it refuses no line. -/
def Accepting (task : Option TaskJournal) : Prop :=
  ∀ journal ∈ task, ∀ level, journal.refusal level = none

theorem accepting_none : Accepting none := by
  intro journal hjournal
  exact absurd hjournal (Option.not_mem_none journal)

theorem accepting_unrefusing (channel : Channel) :
    Accepting (some ⟨channel, fun _ => none⟩) := by
  intro journal hjournal level
  rw [← Option.some.inj hjournal]

namespace TaskLog

variable {σ : Type}

/-- The copies of a line in the task's journal: one, or none if the task has no channel of its
own. -/
def copies (log : TaskLog) (level : Level) (text : String) (about : Option Fault) : List Line :=
  match log.task with
  | none => []
  | some task => if task.channel = log.channel then [] else [⟨task.channel, level, text, about⟩]

/-- The fault with which the copies of a level are refused, if they are. A task without a channel of
its own gets no copies, so that none is refused. -/
def refusal (log : TaskLog) (level : Level) : Option Fault :=
  match log.task with
  | none => none
  | some task => if task.channel = log.channel then none else task.refusal level

theorem refusal_of_accepting {log : TaskLog} (h : Accepting log.task) (level : Level) :
    log.refusal level = none := by
  rcases log with ⟨channel, _ | task⟩
  · rfl
  · by_cases hsame : task.channel = channel
    · exact if_pos hsame
    · exact (if_neg hsame).trans (h task (Option.mem_some_self task) level)

/-- A line whose copy is accepted is added to the journal, and its copy behind it. -/
theorem write_of_accepted {log : TaskLog} {level : Level} (h : log.refusal level = none)
    (text : String) (about : Option Fault) (w : World σ) :
    log.write level text about w
      = (.ok (), { w with
          journal := w.journal ++ ⟨log.channel, level, text, about⟩
            :: log.copies level text about }) := by
  rcases log with ⟨channel, _ | task⟩
  · simp [write, copy, copies]
  · by_cases hsame : task.channel = channel
    · simp [write, copy, copies, hsame]
    · simp only [refusal, if_neg hsame] at h
      simp [write, copy, copies, hsame, h]

/-- A line whose copy is refused is added to the journal, and then the work that wrote it fails. -/
theorem write_of_refused {log : TaskLog} {level : Level} {fault : Fault}
    (h : log.refusal level = some fault) (text : String) (about : Option Fault) (w : World σ) :
    log.write level text about w
      = (.error fault, { w with journal := w.journal ++ [⟨log.channel, level, text,
        about⟩] }) := by
  rcases log with ⟨channel, _ | task⟩
  · cases h
  · by_cases hsame : task.channel = channel
    · simp only [refusal, if_pos hsame] at h
      cases h
    · simp only [refusal, if_neg hsame] at h
      simp [write, copy, hsame, h]

/-- Whether its copy is accepted or refused, a line changes nothing but the journal. -/
@[simp] theorem outside_write (log : TaskLog) (level : Level) (text : String) (about : Option Fault)
    (w : World σ) : (log.write level text about w).2.outside = w.outside := by
  cases hrefusal : log.refusal level with
  | none => rw [write_of_accepted hrefusal]
  | some fault => rw [write_of_refused hrefusal]

/-- A line is written only if its copy is accepted. -/
theorem refusal_of_write_ok {log : TaskLog} {level : Level} {text : String} {about : Option Fault}
    {w w' : World σ} (h : log.write level text about w = (.ok (), w')) :
    log.refusal level = none := by
  cases hrefusal : log.refusal level with
  | none => rfl
  | some fault =>
    rw [write_of_refused hrefusal] at h
    cases h

/-- **A line that is accepted is added to the journal, and its copy behind it.** -/
theorem write_apply (log : TaskLog) (h : Accepting log.task) (level : Level) (text : String)
    (about : Option Fault) (w : World σ) :
    log.write level text about w
      = (.ok (), { w with
          journal := w.journal ++ ⟨log.channel, level, text, about⟩
            :: log.copies level text about }) :=
  write_of_accepted (refusal_of_accepting h level) text about w

/-- Where the journal does not matter: a line that is accepted changes nothing else. -/
theorem exists_write_apply (log : TaskLog) (h : Accepting log.task) (level : Level) (text : String)
    (about : Option Fault) (w : World σ) :
    ∃ journal, log.write level text about w = (.ok (), { w with journal }) :=
  ⟨_, log.write_apply h level text about w⟩

end TaskLog

end TenantHost
