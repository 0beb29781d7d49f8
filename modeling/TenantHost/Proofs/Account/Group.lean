import TenantHost.Proofs.Account.NetTable
import TenantHost.Proofs.Account.Steps
import TenantHost.Proofs.Command.Line
/-!
# The group of new accounts

Finding the group asks for the name of the current user, and then for one command. What that
command's answer names is a word or nothing, so a group that is found is one argument wherever it
stands.
-/

namespace TenantHost

variable {σ : Type}

/-- A host that leaves its commands to a party; each one is recorded. -/
def Host.withParty (host : Host σ) (party : List String → Action σ String) : Host σ :=
  { host with execute := .ofParty party }

/-- A host that knows the name of its user and nothing else. -/
def Host.ofUser (user : String) : Host σ where
  execute := .ofParty fun _ => .fail silence
  systemName := .fail silence
  userName := pure user
  processId := .fail silence
  cpuCount := .fail silence
  fileExists _ := .fail silence
  readFile _ := .fail silence
  sensors := ⟨.fail silence, .fail silence, .fail silence, .fail silence, .fail silence⟩
where
  /-- The fault of asking for anything else. -/
  silence : Fault := .outside .other "RuntimeError" "no answer"

namespace Platform

/-- The group command as it is handed over. -/
def groupArgv (platform : Platform) (user : String) : List String :=
  Command.tokenize (platform.groupCommand user)

/-- The group that an answer to the group command names. -/
def groupNamed (platform : Platform) : Except Fault String → Option String
  | .error _ => none
  | .ok output => (platform.parseGroup output).toOption.filter fun group => !group.isEmpty

theorem groupArgv_windows (user : String) :
    windows.groupArgv user = ["net", "user"] ++ Command.tokenize user :=
  Command.tokenize_append_of_getLast (by decide) user

theorem groupArgv_of_ne_windows {platform : Platform} (h : platform ≠ windows) (user : String) :
    platform.groupArgv user = ["groups"] := by
  cases platform with
  | windows => exact absurd rfl h
  | linux | macos | other => exact (by decide : Command.tokenize "groups" = ["groups"])

theorem groupArgv_ne_nil (platform : Platform) (user : String) :
    platform.groupArgv user ≠ [] := by
  by_cases h : platform = windows
  · rw [h, groupArgv_windows]
    exact List.cons_ne_nil _ _
  · rw [groupArgv_of_ne_windows h]
    exact List.cons_ne_nil _ _

/-! ## Groups are words -/

/-- The characters of a group that can be read stand in a word of the output. -/
theorem exists_word_of_parseGroup {platform : Platform} {output group : String}
    (h : platform.parseGroup output = .ok group) (hne : group ≠ "") :
    ∃ line word, word ∈ Text.words line ∧ ∀ c ∈ group.toList, c ∈ word := by
  cases platform with
  | windows =>
    simp only [parseGroup] at h
    rcases hgroup : Account.tableGroup output.toList with _ | found
    · rw [hgroup] at h
      exact absurd h (by simp)
    · rw [hgroup] at h
      obtain ⟨row, word, -, hword, hstar⟩ := Account.tableGroup_eq_ok_iff.mp hgroup
      refine ⟨row, word, List.mem_of_getElem? hword, fun c hc => ?_⟩
      rw [← Except.ok.inj h, String.toList_ofList, ← hstar] at hc
      exact Account.mem_of_mem_dropStar hc
  | linux | macos | other =>
    have hfirst := Except.ok.inj h
    rcases hwords : Text.words output.toList with _ | ⟨word, rest⟩
    · rw [hwords] at hfirst
      exact absurd hfirst.symm hne
    · rw [hwords] at hfirst
      refine ⟨output.toList, word, ?_, fun c hc => ?_⟩
      · rw [hwords]
        exact List.mem_cons_self
      · rwa [← hfirst, String.toList_ofList] at hc

/-- A group that can be read is a word, unless it is empty. -/
theorem isWord_of_parseGroup {platform : Platform} {output group : String}
    (h : platform.parseGroup output = .ok group) (hne : group ≠ "") : Command.IsWord group := by
  obtain ⟨line, word, hword, hsub⟩ := exists_word_of_parseGroup h hne
  exact ⟨hne, fun c hc => (Text.word_of_mem_words hword).2 c (hsub c hc)⟩

/-- **A group that is named is a word.** -/
theorem isWord_of_groupNamed {platform : Platform} {answer : Except Fault String} {group : String}
    (h : platform.groupNamed answer = some group) : Command.IsWord group := by
  rcases answer with fault | output
  · exact absurd h (by simp [groupNamed])
  · obtain ⟨hparsed, hne⟩ := Option.filter_eq_some_iff.mp h
    rcases hgroup : platform.parseGroup output with fault | found
    · rw [hgroup] at hparsed
      exact absurd hparsed (by simp)
    · rw [hgroup] at hparsed
      have hfound : found = group := Option.some.inj hparsed
      rw [hfound] at hgroup
      exact isWord_of_parseGroup hgroup (by simpa using hne)

end Platform

namespace Directory

/-! ## Finding the group -/

/-- The name of the current user: the one that is known, or else what the host says. -/
def identify (host : Host σ) : Option String → Action σ String
  | some user => pure user
  | none => host.userName

theorem identify_withParty (host : Host σ) (party : List String → Action σ String) :
    identify (host.withParty party) = identify host := by
  funext known
  cases known <;> rfl

/-- What is known of the current user after asking for the name. -/
theorem currentUser_apply {host : Host σ} {s : Option String × World σ}
    {name : Except Fault String} {o : σ} (h : identify host s.1 s.2.outside = (name, o)) :
    currentUser host s = (name, (name.toOption, { s.2 with outside := o })) := by
  rcases s with ⟨_ | user, w⟩
  · have hname : host.userName w.outside = (name, o) := h
    cases name <;> simp [currentUser, hname]
  · obtain ⟨rfl, rfl⟩ := Prod.mk.inj h
    rfl

/-- A line about what the directory does, where no task's journal refuses it. -/
theorem exists_noteInfo_apply {task : Option TaskJournal} (htask : Accepting task) (text : String)
    (s : Option String × World σ) :
    ∃ journal, noteInfo task text s = (.ok (), (s.1, { s.2 with journal })) := by
  obtain ⟨journal, hwrite⟩ := (log task).exists_write_apply htask .info text none s.2
  exact ⟨journal, Action.onSecond_of hwrite⟩

/-- A line about what went wrong in the directory, where no task's journal refuses it. -/
theorem exists_noteError_apply {task : Option TaskJournal} (htask : Accepting task) (text : String)
    (about : Option Fault) (s : Option String × World σ) :
    ∃ journal, noteError task text about s = (.ok (), (s.1, { s.2 with journal })) := by
  obtain ⟨journal, hwrite⟩ := (log task).exists_write_apply htask .error text about s.2
  exact ⟨journal, Action.onSecond_of hwrite⟩

section Resolving

variable (directory : Directory) {host : Host σ} (party : List String → Action σ String)
  {task : Option TaskJournal} {s : Option String × World σ} {o : σ}

/-- Nothing is asked of the party if there is no name of the current user. -/
theorem requireGroup_of_unknown {fault : Fault}
    (h : identify host s.1 s.2.outside = (.error fault, o)) :
    directory.requireGroup (host.withParty party) task s
      = (.error fault, (none, { s.2 with outside := o })) := by
  rw [← identify_withParty host party] at h
  simp [requireGroup, resolveGroup, currentUser_apply h]

/-- An answer to the group command is read. -/
theorem resolveGroup_of_answer (task : Option TaskJournal) {user output : String} {after : σ}
    (h : identify host s.1 s.2.outside = (.ok user, o))
    (hanswer : party (directory.platform.groupArgv user) o = (.ok output, after)) :
    ∃ journal, directory.resolveGroup (host.withParty party) task s
      = (match directory.platform.parseGroup output with
          | .ok group => pure group
          | .error fault => do
            noteError task ("Cannot resolve group from '" ++ directory.platform.groupCommand user
              ++ "': " ++ fault.message) none
            return "" : DirectoryAction σ String)
        (some user, ⟨after, journal, s.2.calls ++ [directory.platform.groupArgv user]⟩) := by
  rw [← identify_withParty host party] at h
  obtain ⟨journal, hrun⟩ := Executor.exists_runLine_ofParty party
    (rfl : _ = directory.platform.groupArgv user) (directory.platform.groupArgv_ne_nil user)
    { s.2 with outside := o }
  rw [hanswer] at hrun
  refine ⟨journal, ?_⟩
  rw [resolveGroup, Action.bind_ok (currentUser_apply h)]
  exact Action.bind_ok (Action.onSecond_of hrun)

/-- Otherwise the party is asked for one command; a group comes out just if its answer names one,
maybe an empty one. -/
theorem resolveGroup_of_known (htask : Accepting task) {user : String}
    (h : identify host s.1 s.2.outside = (.ok user, o)) :
    ∃ outcome journal, directory.resolveGroup (host.withParty party) task s
        = (outcome, (some user, ⟨(party (directory.platform.groupArgv user) o).2, journal,
            s.2.calls ++ [directory.platform.groupArgv user]⟩)) ∧
      outcome.toOption.filter (fun group => !group.isEmpty)
        = directory.platform.groupNamed (party (directory.platform.groupArgv user) o).1 := by
  rcases hanswer : party (directory.platform.groupArgv user) o with ⟨fault | output, after⟩
  · rw [← identify_withParty host party] at h
    obtain ⟨journal, hrun⟩ := Executor.exists_runLine_ofParty party
      (rfl : _ = directory.platform.groupArgv user) (directory.platform.groupArgv_ne_nil user)
      { s.2 with outside := o }
    rw [hanswer] at hrun
    refine ⟨.error (Executor.surfaced (directory.platform.groupArgv user) fault),
      journal, ?_, rfl⟩
    have hask : (host.withParty party).execute = .ofParty party := rfl
    simp [resolveGroup, currentUser_apply h, hask, hrun]
  · obtain ⟨journal, hresolve⟩ := resolveGroup_of_answer directory party task h hanswer
    rcases hparsed : directory.platform.parseGroup output with fault | group
    · -- what cannot be read is noted, and counts as an empty group
      obtain ⟨noted, hnote⟩ := exists_noteError_apply htask
        ("Cannot resolve group from '" ++ directory.platform.groupCommand user ++ "': "
          ++ fault.message) none
        (some user, ⟨after, journal, s.2.calls ++ [directory.platform.groupArgv user]⟩)
      rw [hparsed] at hresolve
      refine ⟨.ok "", noted, by simp [hresolve, hnote], ?_⟩
      simp [Platform.groupNamed, hparsed]
    · rw [hparsed] at hresolve
      refine ⟨.ok group, journal, hresolve, ?_⟩
      simp [Platform.groupNamed, hparsed]

/-- **A group is required: it is the one that the answer to the group command names.** -/
theorem requireGroup_of_known (htask : Accepting task) {user : String}
    (h : identify host s.1 s.2.outside = (.ok user, o)) :
    ∃ outcome journal, directory.requireGroup (host.withParty party) task s
        = (outcome, (some user, ⟨(party (directory.platform.groupArgv user) o).2, journal,
            s.2.calls ++ [directory.platform.groupArgv user]⟩)) ∧
      outcome.toOption
        = directory.platform.groupNamed (party (directory.platform.groupArgv user) o).1 := by
  obtain ⟨outcome, journal, hresolve, hnamed⟩ :=
    resolveGroup_of_known directory party htask h
  rcases outcome with fault | group
  · exact ⟨.error fault, journal, by simp [requireGroup, hresolve], hnamed⟩
  · by_cases hempty : group = ""
    · refine ⟨.error (.noGroup user directory.platform), journal, ?_, ?_⟩
      · simp [requireGroup, hresolve, hempty]
      · simpa [hempty, Option.filter] using hnamed
    · refine ⟨.ok group, journal, ?_, ?_⟩
      · simp [requireGroup, hresolve, hempty]
      · simpa [hempty, Option.filter] using hnamed

end Resolving

end Directory

end TenantHost
