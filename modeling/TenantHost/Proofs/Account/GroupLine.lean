import TenantHost.Proofs.Account.Provisioning
import TenantHost.Proofs.Text.LineFeeds
/-!
# The group in an account's description

The group is read from one line of the description, whatever the line ends. Where that line has no
second word, or nothing but a star for one, there is no group, so no account is created and no
command is handed over for it.
-/

namespace TenantHost

open Text

variable {σ : Type}

/-! ## The line of the group -/

namespace Account

/-- The group that a description names: the second word of its twenty-third line, without one star
in front. -/
def NamesGroup (description group : List Char) : Prop :=
  ∃ line first second rest, (fields (· == '\n') description)[22]? = some line ∧
    words line = first :: second :: rest ∧
    (second = '*' :: group ∨ second.head? ≠ some '*' ∧ second = group)

theorem dropStar_eq_iff {word group : List Char} :
    dropStar word = group ↔ word = '*' :: group ∨ word.head? ≠ some '*' ∧ word = group := by
  unfold dropStar
  split
  · next rest => simp
  · next hstar =>
    have hhead : word.head? ≠ some '*' := by
      intro hhead
      obtain ⟨rest, rfl⟩ := List.head?_eq_some_iff.mp hhead
      exact hstar rest rfl
    constructor
    · exact fun h => .inr ⟨hhead, h⟩
    · rintro (rfl | ⟨-, h⟩)
      · exact absurd rfl hhead
      · exact h

/-- The empty lines at the end of a description do not matter: a line without words has no second
one. -/
theorem tableGroup_eq (description : List Char) :
    tableGroup description
      = match (words ((fields (· == '\n') description)[groupLine]?.getD []))[1]? with
        | none => .error (.unreadableGroup groupLine)
        | some word => .ok (dropStar word) := by
  rw [← getD_dropTrailingEmpty, ← outputLines, tableGroup]
  cases (outputLines description)[groupLine]? <;> rfl

/-- A group is read just if the description names it. -/
theorem tableGroup_eq_ok_iff_namesGroup {description group : List Char} :
    tableGroup description = .ok group ↔ NamesGroup description group := by
  rw [tableGroup_eq]
  constructor
  · intro h
    rcases hline : (fields (· == '\n') description)[groupLine]? with _ | line
    · rw [hline] at h
      cases h
    · rw [hline, Option.getD_some] at h
      rcases hwords : words line with _ | ⟨first, _ | ⟨second, rest⟩⟩
      · rw [hwords] at h
        cases h
      · rw [hwords] at h
        cases h
      · rw [hwords] at h
        exact ⟨line, first, second, rest, hline, hwords, dropStar_eq_iff.mp (Except.ok.inj h)⟩
  · rintro ⟨line, first, second, rest, hline, hwords, hgroup⟩
    have hplace : (fields (· == '\n') description)[groupLine]? = some line := hline
    rw [hplace, Option.getD_some, hwords, ← dropStar_eq_iff.mpr hgroup]
    rfl

/-- Otherwise the description is unreadable. -/
theorem tableGroup_of_not_namesGroup {description : List Char}
    (h : ¬∃ group, NamesGroup description group) :
    tableGroup description = .error (.unreadableGroup groupLine) := by
  have heq := tableGroup_eq description
  split at heq
  · exact heq
  · next word _ => exact absurd ⟨_, tableGroup_eq_ok_iff_namesGroup.mp heq⟩ h

/-- **The line ends do not matter.** -/
theorem tableGroup_lineFeeds (description : List Char) :
    tableGroup (lineFeeds description) = tableGroup description := by
  have hwords : ∀ ls : List (List Char),
      words (ls[groupLine]?.getD []) = (ls.map words)[groupLine]?.getD [] := by
    intro ls
    rw [List.getElem?_map]
    cases ls[groupLine]? <;> rfl
  rw [tableGroup_eq, tableGroup_eq, hwords, hwords, map_words_fields_lineFeeds]

end Account

namespace Platform

theorem parseGroup_windows (text : String) :
    windows.parseGroup text = (Account.tableGroup text.toList).map String.ofList :=
  rfl

theorem parseGroup_windows_eq_ok_iff {text group : String} :
    windows.parseGroup text = .ok group ↔ Account.NamesGroup text.toList group.toList := by
  rw [← Account.tableGroup_eq_ok_iff_namesGroup, parseGroup_windows]
  rcases Account.tableGroup text.toList with fault | found
  · simp
  · simp only [Except.map, Except.ok.injEq]
    constructor
    · rintro rfl
      rw [String.toList_ofList]
    · rintro rfl
      rw [String.ofList_toList]

end Platform

/-! ## Without a group -/

namespace Directory

section Nameless

variable (directory : Directory) {host : Host σ} (party : List String → Action σ String)
  (task : Option TaskJournal) {s : Option String × World σ} {o after : σ}

/-- A line about what went wrong changes nothing but the journal, also if the task's journal refuses
it. -/
theorem exists_noteError (text : String) (about : Option Fault) (s : Option String × World σ) :
    ∃ outcome journal, noteError task text about s = (outcome, (s.1, { s.2 with journal })) ∧
      (Accepting task → outcome = .ok ()) := by
  cases hrefusal : (log task).refusal .error with
  | none =>
    exact ⟨.ok (), _, Action.onSecond_of (TaskLog.write_of_accepted hrefusal text about s.2),
      fun _ => rfl⟩
  | some fault =>
    refine ⟨.error fault, _, Action.onSecond_of
      (TaskLog.write_of_refused hrefusal text about s.2),
      fun htask => ?_⟩
    rw [TaskLog.refusal_of_accepting htask] at hrefusal
    cases hrefusal

/-- An answer to the group command that names no group, or an empty one, gives an empty group. -/
theorem resolveGroup_of_nameless {user output : String}
    (h : identify host s.1 s.2.outside = (.ok user, o))
    (hanswer : party (directory.platform.groupArgv user) o = (.ok output, after))
    (hnameless : ∀ group, directory.platform.parseGroup output = .ok group → group = "") :
    ∃ outcome journal, directory.resolveGroup (host.withParty party) task s
        = (outcome, (some user,
            ⟨after, journal, s.2.calls ++ [directory.platform.groupArgv user]⟩)) ∧
      (∀ group, outcome = .ok group → group = "") ∧
        (Accepting task → outcome = .ok "") := by
  obtain ⟨journal, hresolve⟩ := directory.resolveGroup_of_answer party task h hanswer
  rcases hparsed : directory.platform.parseGroup output with fault | group
  · rw [hparsed] at hresolve
    obtain ⟨noted, journal', hnote, haccepting⟩ := exists_noteError task
      ("Cannot resolve group from '" ++ directory.platform.groupCommand user ++ "': "
        ++ fault.message) none
      (some user, ⟨after, journal, s.2.calls ++ [directory.platform.groupArgv user]⟩)
    cases noted with
    | ok _ =>
      exact ⟨.ok "", journal', by simp [hresolve, hnote], by simp, fun _ => rfl⟩
    | error refused =>
      refine ⟨.error refused, journal', by simp [hresolve, hnote], by simp, ?_⟩
      intro htask
      cases haccepting htask
  · obtain rfl := hnameless group hparsed
    rw [hparsed] at hresolve
    exact ⟨.ok "", journal, hresolve, by simp, fun _ => rfl⟩

/-- Then no group is found. -/
theorem requireGroup_of_nameless {user output : String}
    (h : identify host s.1 s.2.outside = (.ok user, o))
    (hanswer : party (directory.platform.groupArgv user) o = (.ok output, after))
    (hnameless : ∀ group, directory.platform.parseGroup output = .ok group → group = "") :
    ∃ fault journal, directory.requireGroup (host.withParty party) task s
        = (.error fault, (some user,
            ⟨after, journal, s.2.calls ++ [directory.platform.groupArgv user]⟩)) := by
  obtain ⟨outcome, journal, hresolve, hempty, -⟩ :=
    directory.resolveGroup_of_nameless party task h hanswer hnameless
  cases outcome with
  | error fault => exact ⟨fault, journal, by simp [requireGroup, hresolve]⟩
  | ok group =>
    obtain rfl := hempty group rfl
    exact ⟨.noGroup user directory.platform, journal, by simp [requireGroup, hresolve]⟩

/-- Without a group nothing more is handed over, and no account is created. -/
theorem createUser_of_groupless {host : Host σ} (name : String) {fault : Fault}
    {known : Option String}
    {w : World σ} (h : directory.requireGroup host task s = (.error fault, (known, w))) :
    ∃ outcome journal, directory.createUser host name task s = (outcome,
      (known, { w with journal })) ∧
      outcome ≠ .ok true ∧ (Accepting task → outcome = .ok false) := by
  obtain ⟨noted, journal, hnote, haccepting⟩ := exists_noteError task
    ("Cannot create user " ++ name ++ ": " ++ fault.summary) none (known, w)
  cases noted with
  | ok _ =>
    have hreport : directory.provision host name task s
        = (.ok ⟨name, directory.platform, "", some fault.summary, [], []⟩,
            (known, { w with journal })) := by
      simp [provision, h, hnote]
    exact ⟨.ok false, journal, createUser_of_provision hreport, by simp, fun _ => rfl⟩
  | error refused =>
    -- the fault of the refused line is noted in its turn
    have hfails : directory.provision host name task s
        = (.error refused, (known, { w with journal })) := by
      simp [provision, h, hnote]
    obtain ⟨again, journal', hagain, -⟩ := exists_noteError task
      ("Failed to create user " ++ name ++ ": " ++ refused.message) (some refused)
      (known, { w with journal })
    cases again with
    | ok _ =>
      exact ⟨.ok false, journal', by simp [createUser, hfails, hagain], by simp, fun _ => rfl⟩
    | error fault' =>
      refine ⟨.error fault', journal',
        by simp [createUser, hfails, hagain], by simp, fun htask => ?_⟩
      cases haccepting htask

end Nameless

/-- **The group of a Windows account is read off one line of its description.** How the lines end
does not matter. Without a second word on that line the description is unreadable, and with nothing
but a star for one the group is empty; either way the group shows as empty, no account is created,
and the only command that is handed over is the one that asked for the description. -/
theorem group_of_description (text : String) :
    Platform.windows.parseGroup (String.ofList (lineFeeds text.toList))
        = Platform.windows.parseGroup text ∧
    (ReturnsPaired text.toList →
      Platform.windows.parseGroup (String.ofList (unifyNewlines text.toList))
        = Platform.windows.parseGroup text) ∧
    (∀ group, Platform.windows.parseGroup text = .ok group ↔
      Account.NamesGroup text.toList group.toList) ∧
    ((¬∃ group, Account.NamesGroup text.toList group) →
      Platform.windows.parseGroup text = .error (.unreadableGroup 22)) ∧
    ∀ {σ : Type} (directory : Directory) (host : Host σ) (party : List String →
      Action σ String)
      (task : Option TaskJournal) (user name : String) (s : Option String × World σ)
      (o after : σ),
      directory.platform = .windows → identify host s.1 s.2.outside = (.ok user, o) →
      party (Platform.windows.groupArgv user) o = (.ok text, after) →
      (∀ group, Platform.windows.parseGroup text = .ok group → group = "") →
      ∃ group created journal journal',
        directory.resolveGroup (host.withParty party) task s
            = (group, (some user,
                ⟨after, journal, s.2.calls ++ [Platform.windows.groupArgv user]⟩)) ∧
          directory.createUser (host.withParty party) name task s
            = (created, (some user,
                ⟨after, journal', s.2.calls ++ [Platform.windows.groupArgv user]⟩)) ∧
          created ≠ .ok true ∧ (Accepting task → group = .ok "" ∧ created = .ok false) := by
  have hfeeds : Platform.windows.parseGroup (String.ofList (lineFeeds text.toList))
      = Platform.windows.parseGroup text := by
    rw [Platform.parseGroup_windows, String.toList_ofList, Account.tableGroup_lineFeeds]
    rfl
  refine ⟨hfeeds, ?_, fun group => Platform.parseGroup_windows_eq_ok_iff, ?_, ?_⟩
  · intro hpaired
    rw [unifyNewlines_of_returnsPaired hpaired, hfeeds]
  · intro hnone
    rw [Platform.parseGroup_windows, Account.tableGroup_of_not_namesGroup hnone]
    rfl
  · intro σ directory host party task user name s o after hplatform hname hanswer hnameless
    rw [← hplatform] at hanswer hnameless ⊢
    obtain ⟨group, journal, hresolve, -, hgroup⟩ :=
      directory.resolveGroup_of_nameless party task hname hanswer hnameless
    obtain ⟨fault, asked, hrequire⟩ :=
      directory.requireGroup_of_nameless party task hname hanswer hnameless
    obtain ⟨created, journal', hcreate, hnot, hfalse⟩ :=
      directory.createUser_of_groupless task name hrequire
    exact ⟨group, created, journal, journal', hresolve, hcreate, hnot,
      fun htask => ⟨hgroup htask, hfalse htask⟩⟩

/-- A description, with `\r\n` for line ends, whose line for the group has only a star behind its
heading. -/
def starOnly : List Char :=
  closed ['\r', '\n'] (List.replicate 22 [] ++ ["Memberships *".toList])

theorem group_of_description_starOnly :
    ReturnsPaired starOnly ∧ Platform.windows.parseGroup (String.ofList starOnly) = .ok "" ∧
      Platform.windows.parseGroup (String.ofList (unifyNewlines starOnly)) = .ok "" ∧
      ∃ journal, createUser ⟨.windows, true, ⟨.root, []⟩⟩
          ((Host.ofUser "root").withParty fun _ => pure (String.ofList starOnly)) "alice" none
          (none, .start ())
        = (.ok false, (some "root", ⟨(), journal, [["net", "user", "root"]]⟩)) := by
  have hpaired : ReturnsPaired starOnly := by
    have hall : ∀ place < starOnly.length,
        starOnly[place]? = some '\r' → starOnly[place + 1]? = some '\n' := by decide
    intro place hplace
    exact hall place (List.getElem?_eq_some_iff.mp hplace).1 hplace
  obtain ⟨-, hunified, hnames, -, hcreate⟩ := group_of_description (String.ofList starOnly)
  simp only [String.toList_ofList] at hunified hnames
  have hempty : Platform.windows.parseGroup (String.ofList starOnly) = .ok "" :=
    (hnames "").mpr ⟨"Memberships *\r".toList, "Memberships".toList, ['*'], [],
      by decide, by decide,
      by decide⟩
  obtain ⟨group, created, -, journal, -, hrun, -, haccepting⟩ :=
    hcreate ⟨.windows, true, ⟨.root, []⟩⟩ (Host.ofUser "root")
      (fun _ => pure (String.ofList starOnly))
      none "root" "alice" (none, .start ()) () () rfl rfl rfl fun group hgroup => by
        rw [hempty] at hgroup
        exact (Except.ok.inj hgroup).symm
  refine ⟨hpaired, hempty, by rw [hunified hpaired, hempty], journal, ?_⟩
  rw [hrun, (haccepting accepting_none).2]
  rfl

end Directory

end TenantHost
