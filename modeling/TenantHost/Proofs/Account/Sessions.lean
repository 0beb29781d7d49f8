import TenantHost.Proofs.Account.Arguments
import TenantHost.Proofs.Account.Ensuring
import TenantHost.Proofs.Account.Records
/-!
# Ensuring accounts on a Linux host

A Linux host reads its accounts from the database, and a command adds a record to it or fails.
Whatever names are ensured one after the other, and whichever of the additions succeed, no account
is added twice or over one that the database had, and the listing is at every moment the first one
with the added accounts behind it. So an account that was ensured once is there for good, and
nothing is run for it again.
-/

namespace TenantHost.Account

open Text

/-! ## Databases that are added to -/

/-- An account database as it stands: its bytes, and the accounts that were added to it, in
order. -/
structure Registry where
  bytes : List UInt8
  created : List String

/-- The database with the line of one more account. -/
def Registry.add (registry : Registry) (name : String) (rest : List Char) : Registry :=
  ⟨registry.bytes ++ Utf8.encode (recordLine name rest), registry.created ++ [name]⟩

/-- The accounts that the database lists. -/
def Registry.listing (registry : Registry) : List String :=
  namesInRecords registry.bytes

/-- The command that adds an account to a group. -/
def additionArgv (group name : String) : List String :=
  ["sudo", "useradd", "-g", group, name]

/-- A Linux host with an account database. The database can be read; an addition fails and leaves it
alone, or it succeeds and has appended a line of the account; the group command and asking for the
name of the current user leave it alone too. -/
structure Keeper (σ : Type) where
  host : Host σ
  party : List String → Action σ String
  database : Path
  registry : σ → Registry
  reads : ∀ o, ∃ o', host.readFile database o = (.ok (registry o).bytes, o') ∧
    registry o' = registry o
  names : ∀ o, registry (host.userName o).2 = registry o
  groups : ∀ o, registry (party ["groups"] o).2 = registry o
  adds : ∀ group name o,
    (∃ fault o', party (additionArgv group name) o = (.error fault, o') ∧
      registry o' = registry o) ∨
      ∃ output rest o', party (additionArgv group name) o = (.ok output, o') ∧
        (∀ c ∈ rest, ¬IsLineEnd c) ∧ registry o' = (registry o).add name rest

/-- What holds of the database in every session, `initial` being the listing it started with. -/
structure Registry.Kept (initial : List String) (registry : Registry) : Prop where
  ended : Ended registry.bytes
  listing : registry.listing = initial ++ registry.created
  once : registry.created.Nodup
  fresh : ∀ name ∈ registry.created, name ∉ initial

/-- What an answer to ensuring an account says: the account is listed now if the answer is yes, and
only then; and it was created by that call if it was not listed before. -/
structure Registry.Ensured (name : String) (made : Bool) (before after : Registry) : Prop where
  listed : made = true ↔ name ∈ after.listing
  created : after.created
    = if made = true ∧ name ∉ before.listing then before.created ++ [name] else before.created

namespace Registry

variable {initial : List String} {registry : Registry}

theorem listing_add (h : Ended registry.bytes) {name : String} (hname : IsAccountName name)
    {rest : List Char} (hrest : ∀ c ∈ rest, ¬IsLineEnd c) :
    (registry.add name rest).listing = registry.listing ++ [name] :=
  namesInRecords_add h hname hrest

/-- An untouched database is kept. -/
theorem kept_start (h : Ended registry.bytes) (hnone : registry.created = []) :
    Kept registry.listing registry := by
  refine ⟨h, ?_, ?_, ?_⟩
  · rw [hnone, List.append_nil]
  · rw [hnone]
    exact List.nodup_nil
  · intro name hname
    rw [hnone] at hname
    exact absurd hname List.not_mem_nil

/-- Adding an account that is not listed keeps the database. -/
theorem Kept.add (h : Kept initial registry) {name : String} (hname : IsAccountName name)
    {rest : List Char} (hrest : ∀ c ∈ rest, ¬IsLineEnd c) (hnew : name ∉ registry.listing) :
    Kept initial (registry.add name rest) := by
  rw [h.listing, List.mem_append, not_or] at hnew
  refine ⟨ended_add _ _ _, ?_, ?_, ?_⟩
  · rw [listing_add h.ended hname hrest, h.listing, List.append_assoc]
    rfl
  · refine List.nodup_append.mpr ⟨h.once,
      List.nodup_cons.mpr ⟨List.not_mem_nil, List.nodup_nil⟩, ?_⟩
    intro other hother same hsame heq
    rw [List.mem_singleton] at hsame
    rw [heq, hsame] at hother
    exact hnew.2 hother
  · intro other hother
    rcases List.mem_append.mp hother with hother | hother
    · exact h.fresh other hother
    · rw [List.mem_singleton.mp hother]
      exact hnew.1

theorem ensured_of_listed {name : String} (h : name ∈ registry.listing) :
    Ensured name true registry registry := by
  refine ⟨⟨fun _ => h, fun _ => rfl⟩, ?_⟩
  rw [if_neg fun hnew => hnew.2 h]

theorem ensured_of_unlisted {name : String} (h : name ∉ registry.listing) :
    Ensured name false registry registry := by
  refine ⟨⟨fun hmade => absurd hmade (by decide), fun hlisted => absurd hlisted h⟩, ?_⟩
  rw [if_neg fun hnew => absurd hnew.1 (by decide)]

theorem ensured_of_add (hended : Ended registry.bytes) {name : String} (hname : IsAccountName name)
    {rest : List Char} (hrest : ∀ c ∈ rest, ¬IsLineEnd c) (h : name ∉ registry.listing) :
    Ensured name true registry (registry.add name rest) := by
  refine ⟨⟨fun _ => ?_, fun _ => rfl⟩, ?_⟩
  · rw [listing_add hended hname hrest]
    exact List.mem_append_right _ (List.mem_singleton_self name)
  · rw [if_pos ⟨rfl, h⟩]
    rfl

end Registry

/-- What is planned on a Linux host is to add the account to the group. -/
theorem map_argv_planned {σ : Type} {attempt : Attempt σ}
    (hplatform : attempt.report.platform = .linux)
    (huser : Command.IsWord attempt.report.user) {argvs : List (List String)} {middle : σ}
    (h : attempt.Planned argvs middle) :
    attempt.report.planned.map Step.argv
      = [additionArgv attempt.report.group attempt.report.user] := by
  rw [h.map_argv, hplatform, Command.tokenize_eq_singleton huser]
  rfl

namespace Keeper

variable {σ : Type} (keeper : Keeper σ) (sudoEnable : Bool) (task : Option TaskJournal)

/-- The directory of the host. -/
def directory : Directory :=
  ⟨.linux, sudoEnable, keeper.database⟩

/-- Listing the accounts of the host. -/
def list : DirectoryAction σ (List String) :=
  (keeper.directory sudoEnable).listUsers (keeper.host.withParty keeper.party) task

/-- Ensuring an account of the host. -/
def ensure (name : String) : DirectoryAction σ Bool :=
  (keeper.directory sudoEnable).ensureUser (keeper.host.withParty keeper.party) name task

/-- The database as it stands in a state of the directory. -/
def current (s : Option String × World σ) : Registry :=
  keeper.registry s.2.outside

/-! ## What one call does -/

/-- Listing reads the database and does no more. -/
theorem list_apply (s : Option String × World σ) :
    ∃ o', keeper.list sudoEnable task s
        = (.ok (keeper.current s).listing, (s.1, { s.2 with outside := o' })) ∧
      keeper.registry o' = keeper.current s := by
  obtain ⟨o', hread, hsame⟩ := keeper.reads s.2.outside
  refine ⟨o', ?_, hsame⟩
  have hnames : (AccountStrategy.records keeper.database).listNames
      (keeper.host.withParty keeper.party).execute keeper.host.readFile s.2
        = (.ok (keeper.current s).listing, { s.2 with outside := o' }) :=
    Action.bind_ok (World.ask_of hread)
  exact Directory.listUsers_of_listing (Action.onSecond_of hnames)

/-- An account that is listed is not created again: no command is run. -/
theorem ensure_of_listed {s : Option String × World σ} {name : String}
    (h : name ∈ (keeper.current s).listing) :
    ∃ o', keeper.ensure sudoEnable task name s = (.ok true, (s.1, { s.2 with outside := o' })) ∧
      keeper.registry o' = keeper.current s := by
  obtain ⟨o', hlist, hsame⟩ := keeper.list_apply sudoEnable task s
  exact ⟨o', Directory.ensureUser_of_listed hlist h, hsame⟩

variable {task}

/-- The name of the current user is found out without touching the database. -/
theorem registry_identify {s : Option String × World σ} {name : Except Fault String} {o : σ}
    (h : Directory.identify keeper.host s.1 s.2.outside = (name, o)) :
    keeper.registry o = keeper.current s := by
  rcases s with ⟨_ | user, w⟩
  · have hname : keeper.host.userName w.outside = (name, o) := h
    have hsame := keeper.names w.outside
    rwa [hname] at hsame
  · rw [← (Prod.mk.inj h).2]
    rfl

/-- The group command does not touch the database. -/
theorem registry_asked {attempt : Attempt σ} (hparty : attempt.party = keeper.party)
    (hplatform : attempt.report.platform = .linux) {argv : List String}
    {answer : Except Fault String} {o : σ} (h : attempt.Asked argv answer o) :
    keeper.registry o = keeper.registry attempt.before := by
  obtain ⟨current, -, rfl, hanswer⟩ := h
  rw [hparty, hplatform, Platform.groupArgv_of_ne_windows (by decide)] at hanswer
  have hsame := keeper.groups attempt.before
  rwa [hanswer] at hsame

/-- The database as it was when an attempt came to its planned steps. -/
theorem registry_planned {attempt : Attempt σ} (hparty : attempt.party = keeper.party)
    (hplatform : attempt.report.platform = .linux) {argvs : List (List String)} {middle : σ}
    (h : attempt.Planned argvs middle) :
    keeper.registry middle = keeper.registry attempt.before := by
  obtain ⟨argv, answer, hasked, -, -⟩ := h.asked
  exact keeper.registry_asked hparty hplatform hasked

/-- Creating an account adds it to the database, or fails and leaves the database alone. -/
theorem create_apply (htask : Accepting task) {name : String} (hname : Command.IsWord name)
    (s : Option String × World σ) :
    ∃ made s', (keeper.directory sudoEnable).createUser (keeper.host.withParty keeper.party)
      name task s
        = (.ok made, s') ∧
      ((made = true ∧ ∃ rest, (∀ c ∈ rest, ¬IsLineEnd c) ∧
          keeper.current s' = (keeper.current s).add name rest) ∨
        made = false ∧ keeper.current s' = keeper.current s) := by
  obtain ⟨attempt, known, journal, ending, hrun, huser, hplatform, hparty, hidentify, hends⟩ :=
    Directory.provision_apply (keeper.directory sudoEnable) keeper.host keeper.party name htask s
  have hlinux : attempt.report.platform = .linux := hplatform
  have hbefore := keeper.registry_identify hidentify
  rw [← huser] at hname
  refine ⟨attempt.report.succeeded,
    (known, ⟨attempt.after, journal, s.2.calls ++ attempt.calls⟩), ?_, ?_⟩
  · exact Directory.createUser_of_provision hrun
  · have hafter : keeper.current (known, ⟨attempt.after, journal, s.2.calls ++ attempt.calls⟩)
        = keeper.registry attempt.after := rfl
    rw [hafter]
    cases ending with
    | groupless =>
      -- nothing but the group command was asked, if that
      refine .inr ⟨Attempt.Groupless.succeeded hends, ?_⟩
      rcases hends.asked with ⟨-, -, hsame⟩ | ⟨argv, answer, hasked, -, -⟩
      · rw [hsame, hbefore]
      · rw [keeper.registry_asked hparty hlinux hasked, hbefore]
    | complete =>
      have hsucceeded := Attempt.Complete.succeeded hends
      obtain ⟨argvs, middle, hplanned, hdone⟩ := hends
      -- the one planned command gave an output, so it was the addition that succeeded
      obtain ⟨output, hok⟩ := hdone.exists_output (map_argv_planned hlinux hname hplanned)
      have hmiddle := keeper.registry_planned hparty hlinux hplanned
      rw [hparty, huser] at hok
      rcases keeper.adds attempt.report.group name middle with
        ⟨fault, o', hadd, -⟩ | ⟨output', rest, o', hadd, hrest, hsame⟩
      · rw [hok] at hadd
        exact absurd (Prod.mk.inj hadd).1 (by simp)
      · rw [hok] at hadd
        rw [(Prod.mk.inj hadd).2, hsame, hmiddle, hbefore]
        exact .inl ⟨hsucceeded, rest, hrest, rfl⟩
    | stopped place =>
      refine .inr ⟨Attempt.Stopped.succeeded hends, ?_⟩
      obtain ⟨argvs, middle, hplanned, hstop⟩ := hends
      obtain ⟨fault, hfault⟩ := hstop.exists_fault (map_argv_planned hlinux hname hplanned)
      have hmiddle := keeper.registry_planned hparty hlinux hplanned
      rw [hparty, huser] at hfault
      rcases keeper.adds attempt.report.group name middle with
        ⟨fault', o', hadd, hsame⟩ | ⟨output, rest, o', hadd, -, -⟩
      · rw [hfault] at hadd
        rw [(Prod.mk.inj hadd).2, hsame, hmiddle, hbefore]
      · rw [hfault] at hadd
        exact absurd (Prod.mk.inj hadd).1 (by simp)

/-- An account that is not listed is created, or that fails and leaves the database alone. -/
theorem ensure_of_unlisted (htask : Accepting task) {s : Option String × World σ} {name : String}
    (hname : Command.IsWord name) (h : name ∉ (keeper.current s).listing) :
    ∃ made s', keeper.ensure sudoEnable task name s = (.ok made, s') ∧
      ((made = true ∧ ∃ rest, (∀ c ∈ rest, ¬IsLineEnd c) ∧
          keeper.current s' = (keeper.current s).add name rest) ∨
        made = false ∧ keeper.current s' = keeper.current s) := by
  obtain ⟨o', hlist, hsame⟩ := keeper.list_apply sudoEnable task s
  obtain ⟨made, s', hcreate, hmade⟩ :=
    keeper.create_apply sudoEnable htask hname (s.1, { s.2 with outside := o' })
  obtain ⟨journal, hnoted⟩ := Directory.exists_createNoted_apply htask hcreate
  refine ⟨made, (s'.1, { s'.2 with journal }),
    (Directory.ensureUser_of_unlisted hlist h).trans hnoted, ?_⟩
  rw [← hsame]
  exact hmade

/-! ## Sessions -/

/-- One call keeps the database, its answer says what became of the account, and what was listed
stays listed. -/
theorem ensure_kept (htask : Accepting task) {initial : List String} {s : Option String × World σ}
    (h : (keeper.current s).Kept initial) {name : String} (hname : IsAccountName name) :
    ∃ made s', keeper.ensure sudoEnable task name s = (.ok made, s') ∧
      (keeper.current s').Kept initial ∧
      Registry.Ensured name made (keeper.current s) (keeper.current s') ∧
      ∀ other ∈ (keeper.current s).listing, other ∈ (keeper.current s').listing := by
  by_cases hlisted : name ∈ (keeper.current s).listing
  · obtain ⟨o', hensure, hsame⟩ := keeper.ensure_of_listed sudoEnable task hlisted
    have hcurrent : keeper.current (s.1, { s.2 with outside := o' }) = keeper.current s := hsame
    refine ⟨true, (s.1, { s.2 with outside := o' }), hensure, ?_⟩
    rw [hcurrent]
    exact ⟨h, Registry.ensured_of_listed hlisted, fun _ hother => hother⟩
  · obtain ⟨made, s', hensure, hmade⟩ :=
      keeper.ensure_of_unlisted sudoEnable htask hname.1 hlisted
    refine ⟨made, s', hensure, ?_⟩
    rcases hmade with ⟨rfl, rest, hrest, hsame⟩ | ⟨rfl, hsame⟩
    · rw [hsame]
      refine
        ⟨h.add hname hrest hlisted, Registry.ensured_of_add h.ended hname hrest hlisted, ?_⟩
      -- the account is the last one of the listing from now on
      intro other hother
      rw [Registry.listing_add h.ended hname hrest]
      exact List.mem_append_left _ hother
    · rw [hsame]
      exact ⟨h, Registry.ensured_of_unlisted hlisted, fun _ hother => hother⟩

/-- Ensuring accounts one after the other keeps the database, and what was listed stays listed. -/
theorem ensure_all_kept (htask : Accepting task) {initial : List String} {names : List String}
    (hnames : ∀ name ∈ names, IsAccountName name) {s : Option String × World σ}
    (h : (keeper.current s).Kept initial) :
    ∃ answers s', names.mapM (keeper.ensure sudoEnable task) s = (.ok answers, s') ∧
      (keeper.current s').Kept initial ∧
      ∀ other ∈ (keeper.current s).listing, other ∈ (keeper.current s').listing := by
  -- each call leaves what the next one needs: a database that is kept
  induction names generalizing s with
  | nil => exact ⟨[], s, rfl, h, fun _ hother => hother⟩
  | cons name names ih =>
    obtain ⟨made, s', hensure, hkept, -, hstay⟩ :=
      keeper.ensure_kept sudoEnable htask h (hnames name List.mem_cons_self)
    obtain ⟨answers, s'', hrest, hkept', hstay'⟩ :=
      ih (fun other hother => hnames other (List.mem_cons_of_mem _ hother)) hkept
    refine ⟨made :: answers, s'', ?_, hkept', fun other hother =>
      hstay' other (hstay other hother)⟩
    simp [List.mapM_cons, hensure, hrest]

/-- **Ensuring accounts is idempotent over whole sessions.** Whatever names are ensured one after
the other, no account is created twice or over one that was listed at the start, the listing is the
one at the start with the created accounts behind it, in order, and the answer to one more call says
what becomes of the account. Once an account was ensured, ensuring it again says so and runs no
command, whatever was ensured in between. -/
theorem ensure_session (htask : Accepting task) {s : Option String × World σ}
    (hended : Ended (keeper.current s).bytes) (hnone : (keeper.current s).created = []) :
    (∀ names : List String, (∀ name ∈ names, IsAccountName name) →
      ∃ answers s', names.mapM (keeper.ensure sudoEnable task) s = (.ok answers, s') ∧
        (keeper.current s').created.Nodup ∧
        (∀ name ∈ (keeper.current s').created, name ∉ (keeper.current s).listing) ∧
        (∃ s'', keeper.list sudoEnable task s'
          = (.ok ((keeper.current s).listing ++ (keeper.current s').created), s'')) ∧
        ∀ name, IsAccountName name →
          ∃ made s'', keeper.ensure sudoEnable task name s' = (.ok made, s'') ∧
            Registry.Ensured name made (keeper.current s') (keeper.current s'')) ∧
      ∀ (before middle : List String) (name : String) (answers answers' : List Bool)
          (s₁ s₂ s₃ : Option String × World σ),
        (∀ other ∈ before ++ name :: middle, IsAccountName other) →
        before.mapM (keeper.ensure sudoEnable task) s = (.ok answers, s₁) →
        keeper.ensure sudoEnable task name s₁ = (.ok true, s₂) →
        middle.mapM (keeper.ensure sudoEnable task) s₂ = (.ok answers', s₃) →
        ∃ s₄, keeper.ensure sudoEnable task name s₃ = (.ok true, s₄) ∧
          s₄.2.calls = s₃.2.calls := by
  have hstart := Registry.kept_start hended hnone
  constructor
  · intro names hnames
    obtain ⟨answers, s', hrun, hkept, -⟩ :=
      keeper.ensure_all_kept sudoEnable htask hnames hstart
    obtain ⟨o', hlist, -⟩ := keeper.list_apply sudoEnable task s'
    rw [hkept.listing] at hlist
    refine ⟨answers, s', hrun, hkept.once, hkept.fresh, ⟨_, hlist⟩, fun name hname => ?_⟩
    obtain ⟨made, s'', hensure, -, hensured, -⟩ :=
      keeper.ensure_kept sudoEnable htask hkept hname
    exact ⟨made, s'', hensure, hensured⟩
  · intro before middle name answers answers' s₁ s₂ s₃ hnames hbefore hensure hmiddle
    have hname := hnames name (List.mem_append_right _ List.mem_cons_self)
    -- the three parts of the session, one after the other
    obtain ⟨_, t₁, hrun₁, hkept₁, -⟩ := keeper.ensure_all_kept sudoEnable htask
      (fun other hother => hnames other (List.mem_append_left _ hother)) hstart
    rw [hbefore] at hrun₁
    obtain ⟨-, rfl⟩ := Prod.mk.inj hrun₁
    obtain ⟨made, t₂, hrun₂, hkept₂, hensured, -⟩ :=
      keeper.ensure_kept sudoEnable htask hkept₁ hname
    rw [hensure] at hrun₂
    obtain ⟨hmade, rfl⟩ := Prod.mk.inj hrun₂
    obtain ⟨_, t₃, hrun₃, -, hstay⟩ := keeper.ensure_all_kept sudoEnable htask
      (fun other hother => hnames other (List.mem_append_right _ (List.mem_cons_of_mem _ hother)))
      hkept₂
    rw [hmiddle] at hrun₃
    obtain ⟨-, rfl⟩ := Prod.mk.inj hrun₃
    have hstill := hstay name (hensured.listed.mp (Except.ok.inj hmade).symm)
    obtain ⟨o', hagain, -⟩ := keeper.ensure_of_listed sudoEnable task hstill
    exact ⟨_, hagain, rfl⟩

/-- A host on which additions fail or succeed as a list says, and succeed when that is at its
end. -/
def ofChoices : Keeper (Registry × List Bool) where
  host := { Host.ofUser "root" with readFile := fun _ o => (.ok o.1.bytes, o) }
  party
    | ["groups"] => pure "staff\n"
    | ["sudo", "useradd", "-g", _, name] => fun o =>
      match o with
      | (registry, false :: choices) => (.error Host.ofUser.silence, (registry, choices))
      | (registry, choices) => (.ok "", (registry.add name [], choices.tail))
    | _ => .fail Host.ofUser.silence
  database := ⟨.root, ["etc", "passwd"]⟩
  registry := Prod.fst
  reads o := ⟨o, rfl, rfl⟩
  names _ := rfl
  groups _ := rfl
  adds group name o := by
    rcases o with ⟨registry, _ | ⟨choice, choices⟩⟩
    · exact .inr ⟨"", [], _, rfl, fun _ hc => absurd hc List.not_mem_nil, rfl⟩
    · cases choice with
      | false => exact .inl ⟨Host.ofUser.silence, _, rfl, rfl⟩
      | true => exact .inr ⟨"", [], _, rfl, fun _ hc => absurd hc List.not_mem_nil, rfl⟩

/-- A database with one account, of which the first addition fails. -/
def oneAccount : Option String × World (Registry × List Bool) :=
  (none, .start (⟨Utf8.encode "root:x:0:0\n".toList, []⟩, [false]))

/-- The second attempt at an account succeeds, and the third runs nothing. -/
theorem ensure_session_of_retry :
    Accepting none ∧ Ended (ofChoices.current oneAccount).bytes ∧
      (ofChoices.current oneAccount).created = [] ∧
      ∃ s₁ s₂ s₃ s₄,
        ["alice"].mapM (ofChoices.ensure false none) oneAccount = (.ok [false], s₁) ∧
        ofChoices.ensure false none "alice" s₁ = (.ok true, s₂) ∧
        ["root"].mapM (ofChoices.ensure false none) s₂ = (.ok [true], s₃) ∧
        ofChoices.ensure false none "alice" s₃ = (.ok true, s₄) ∧
        s₄.2.calls = s₃.2.calls := by
  have hended : Ended (ofChoices.current oneAccount).bytes := by
    intro b hb
    exact .inl (Option.some.inj hb).symm
  refine ⟨accepting_none, hended, rfl, ?_⟩
  obtain ⟨s₄, hagain, hcalls⟩ := (ofChoices.ensure_session false accepting_none hended rfl).2
    ["alice"] ["root"] "alice" [false] [true] _ _ _ (by decide) rfl rfl rfl
  exact ⟨_, _, _, s₄, rfl, rfl, rfl, hagain, hcalls⟩

end Keeper

end TenantHost.Account
