import TenantHost.Proofs.Account.Group
import TenantHost.Proofs.Agent.Events
/-!
# Faults of settings files

The fault of a document is that of the first field whose check fails. It is a refusal that names
the field, but for three holes: a host that is no table, an integer that is no double, and a value
that has to be shown and cannot be, for it has an integer with too many digits in it or is nested
too deep.
-/

namespace TenantHost

namespace Settings

/-! ## Faults of single checks -/

/-- The fault of an outcome, if it is one. -/
def faultOf {α : Type} : Except Fault α → Option Fault
  | .ok _ => none
  | .error fault => some fault

/-- The fault of having to show a value, given what is the problem with it. -/
def unshown? (problem : Option Value.ShowProblem) : Option Fault :=
  problem.map .ofShowProblem

/-- The fault of a value that should be a number, where that is no refusal. -/
def unnumbered? : Value → Option Fault
  | .int n => if (Number.int n).isUnconvertible then some (.overflow .conversion) else none
  | value => unshown? value.displayProblem?

/-- What a check of a field comes to: no fault, a refusal that names the field, or the fault that
escapes it. -/
inductive Checked (field : String) (escape : Option Fault) : Option Fault → Prop where
  | passed (hescape : escape = none) : Checked field escape none
  | refused (fault : ValidationFault) (hfield : fault.field = some field)
    (hescape : escape = none) :
      Checked field escape (some (.validation fault))
  | escaped (fault : Fault) (hescape : escape = some fault) : Checked field escape (some fault)

theorem checked_refusal (field : String) (value : Value) (requirement : Requirement) :
    Checked field (unshown? (ValidationFault.showProblem? ⟨requirement, some field, value⟩))
      (some (.refusal ⟨requirement, some field, value⟩)) := by
  unfold Fault.refusal
  cases ValidationFault.showProblem? ⟨requirement, some field, value⟩ with
  | none => exact .refused _ rfl rfl
  | some problem => exact .escaped _ rfl

/-- A double is accepted, or refused with the name of the field. -/
theorem checked_double (field : String) (value : Value) (least : Double) {d : Double}
    (hnumber : number? value = .ok (some d)) (hshown : d = .nan → value.displayProblem? = none) :
    Checked field none (faultOf (checkNumber field value (.real least) none)) := by
  rw [checkNumber_eq, hnumber]
  by_cases hnan : d = .nan
  · subst hnan
    have hrefusal := checked_refusal field value .number
    have hproblem : ValidationFault.showProblem? ⟨.number, some field, value⟩ = none :=
      hshown rfl
    rw [hproblem] at hrefusal
    exact hrefusal
  · simp only [filter_ne_nan hnan]
    split
    · exact .refused _ rfl rfl
    · exact .passed rfl

theorem number?_int (n : Int) :
    number? (.int n) = some <$> (Number.int n).toDouble.mapError .overflow :=
  rfl

/-- An integer is checked as its double if it has one; if not, it escapes. -/
theorem checked_checkNumber_int (field : String) (n : Int) (least : Double) :
    Checked field (unnumbered? (.int n))
      (faultOf (checkNumber field (.int n) (.real least) none)) := by
  have hdouble := Number.toDouble_int n
  by_cases hsmall : n.natAbs < Double.conversionLimit
  · have hconvertible : (Number.int n).isUnconvertible = false :=
      decide_eq_false (Nat.not_le.mpr hsmall)
    have hnumber : number? (.int n) = .ok (some (Double.ofInt n)) := by
      rw [number?_int, hdouble, if_pos hsmall]
      rfl
    rw [unnumbered?, hconvertible, if_neg Bool.false_ne_true]
    refine checked_double field _ least hnumber ?_
    -- what an integer is rounded to is never NaN, so nothing has to be shown
    intro hnan
    have hfinite := Double.isFinite_ofInt n
    rw [hnan, decide_eq_true hsmall] at hfinite
    cases hfinite
  · have hunconvertible : (Number.int n).isUnconvertible = true :=
      decide_eq_true (Nat.not_lt.mp hsmall)
    have hnumber : number? (.int n) = .error (.overflow .conversion) := by
      rw [number?_int, hdouble, if_neg hsmall]
      rfl
    rw [unnumbered?, hunconvertible, if_pos rfl, checkNumber_eq, hnumber]
    exact .escaped _ rfl

/-- **A check for a number.** -/
theorem checked_checkNumber (field : String) (value : Value) (least : Double) :
    Checked field (unnumbered? value) (faultOf (checkNumber field value (.real least) none)) := by
  cases value with
  | int n => exact checked_checkNumber_int field n least
  | real d => exact checked_double field _ least rfl fun _ => rfl
  | text s =>
    cases hread : Double.ofText? s.toList with
    | none =>
      have hnumber : number? (.text s) = .ok none := congrArg Except.ok hread
      rw [checkNumber_eq, hnumber]
      exact checked_refusal field _ .number
    | some d => exact checked_double field _ least (congrArg Except.ok hread) fun _ => rfl
  | null | bool | moment | list | table => exact checked_refusal field _ .number

theorem checked_checkBool (field : String) (value : Value) :
    Checked field (unshown? value.literalProblem?) (faultOf (checkBool field value)) := by
  cases value with
  | bool b => exact .passed rfl
  | null | int | real | text | moment | list | table => exact checked_refusal field _ .boolean

theorem checked_checkText (field : String) (value : Value) :
    Checked field none (faultOf (checkText field value)) := by
  cases value with
  | text s =>
    rw [checkText]
    cases (Text.trim s.toList).isEmpty with
    | true => exact .refused ⟨.nonEmptyText, some field, .text s⟩ rfl rfl
    | false => exact .passed rfl
  | null | bool | int | real | moment | list | table => exact .refused _ rfl rfl

theorem checked_checkTable (field : String) (value : Value) :
    Checked field none (faultOf (checkTable field value)) := by
  cases value with
  | table entries => exact .passed rfl
  | null | bool | int | real | text | moment | list => exact .refused _ rfl rfl

/-! ## Fields -/

/-- The fields of the settings that are checked. -/
inductive Field where
  | resources
  | maxLoad
  | reservedMemory
  | accounts
  | sudoEnable
  | database
  deriving DecidableEq, Repr

/-- The entries of an inner table; none if it is no table. -/
def entriesOf : Value → List (String × Value)
  | .table entries => entries
  | _ => []

namespace Field

/-- The name of a field. -/
def name : Field → String
  | resources => "host.resources"
  | maxLoad => "host.resources.max_cpu_load_avg"
  | reservedMemory => "host.resources.reserved_memory_gb"
  | accounts => "host.accounts"
  | sudoEnable => "host.accounts.sudo_enable"
  | database => "host.accounts.passwd_path"

/-- The fields in the order of their checks. -/
def inOrder : List Field :=
  [resources, maxLoad, reservedMemory, accounts, sudoEnable, database]

/-- The value of a field in the host's table, for a number of processors. -/
def value? (count : Option Int) (entries : List (String × Value)) : Field → Except Fault Value
  | resources => .ok (valueOf entries "resources" (.table []))
  | maxLoad => givenMaxLoad (.ok count) (entriesOf (valueOf entries "resources" (.table [])))
  | reservedMemory =>
    .ok (valueOf (entriesOf (valueOf entries "resources" (.table []))) "reserved_memory_gb"
      (.real defaultReservedMemory))
  | accounts => .ok (valueOf entries "accounts" (.table []))
  | sudoEnable =>
    .ok (valueOf (entriesOf (valueOf entries "accounts" (.table []))) "sudo_enable" (.bool true))
  | database =>
    .ok (valueOf (entriesOf (valueOf entries "accounts" (.table []))) "passwd_path"
      (.text defaultDatabase))

/-- The fault of a field by itself. -/
def fault? (field : Field) (value : Value) : Option Fault :=
  match field with
  | resources | accounts => faultOf (checkTable field.name value)
  | maxLoad => faultOf (checkNumber field.name value (.real leastMaxLoad) none)
  | reservedMemory => faultOf (checkNumber field.name value (.real Double.zero) none)
  | sudoEnable => faultOf (checkBool field.name value)
  | database => faultOf (checkText field.name value)

/-- The fault of a field by itself that is no refusal. -/
def escape? (field : Field) (value : Value) : Option Fault :=
  match field with
  | maxLoad | reservedMemory => unnumbered? value
  | sudoEnable => unshown? value.literalProblem?
  | resources | accounts | database => none

/-- **A check of a field passes, refuses the field by its name, or is escaped.** -/
theorem checked (field : Field) (value : Value) :
    Checked field.name (field.escape? value) (field.fault? value) := by
  cases field with
  | resources | accounts => exact checked_checkTable _ value
  | maxLoad | reservedMemory => exact checked_checkNumber _ value _
  | sudoEnable => exact checked_checkBool _ value
  | database => exact checked_checkText _ value

/-- The fault of a field in the host's table. -/
def faultIn? (count : Option Int) (entries : List (String × Value)) (field : Field) :
    Option Fault :=
  match field.value? count entries with
  | .error fault => some fault
  | .ok value => field.fault? value

/-- The fault of a field in the host's table that is no refusal. -/
def escapeIn? (count : Option Int) (entries : List (String × Value)) (field : Field) :
    Option Fault :=
  match field.value? count entries with
  | .error fault => some fault
  | .ok value => field.escape? value

theorem checkedIn (count : Option Int) (entries : List (String × Value)) (field : Field) :
    Checked field.name (field.escapeIn? count entries) (field.faultIn? count entries) := by
  unfold escapeIn? faultIn?
  cases field.value? count entries with
  | error fault => exact .escaped fault rfl
  | ok value => exact field.checked value

end Field

/-! ## The first fault -/

theorem faultOf_bind {α β : Type} {computed : Except Fault α} {next : α → Except Fault β}
    {rest : Option Fault} (h : ∀ a, computed = .ok a → faultOf (next a) = rest) :
    faultOf (computed >>= next) = (faultOf computed).or rest := by
  cases computed with
  | error fault => rfl
  | ok a => exact h a rfl

theorem faultOf_bind_pure {α β : Type} (computed : Except Fault α) (f : α → β) :
    faultOf (computed >>= fun a => pure (f a)) = faultOf computed := by
  cases computed <;> rfl

theorem findSome?_cons_or {α β : Type} (f : α → Option β) (a : α) (rest : List α) :
    (a :: rest).findSome? f = (f a).or (rest.findSome? f) := by
  rw [List.findSome?_cons]
  cases f a <;> rfl

theorem entriesOf_of_checkTable {field : String} {value : Value} {entries : List (String × Value)}
    (h : checkTable field value = .ok entries) : entriesOf value = entries := by
  cases value with
  | table inner => exact Except.ok.inj h
  | null | bool | int | real | text | moment | list => cases h

theorem faultOf_thresholdsOf (count : Option Int) (entries : List (String × Value)) :
    faultOf (thresholdsOf (.ok count) (valueOf entries "resources" (.table [])))
      = (Field.resources.faultIn? count entries).or
          ((Field.maxLoad.faultIn? count entries).or
            (Field.reservedMemory.faultIn? count entries)) := by
  unfold thresholdsOf
  apply faultOf_bind
  intro inner hinner
  have hentries := entriesOf_of_checkTable hinner
  have hvalue : Field.maxLoad.value? count entries = givenMaxLoad (.ok count) inner := by
    rw [Field.value?, hentries]
  have hreserved : Field.reservedMemory.faultIn? count entries
      = faultOf (checkNumber "host.resources.reserved_memory_gb"
          (valueOf inner "reserved_memory_gb" (.real defaultReservedMemory))
          (.real Double.zero) none) := by
    rw [← hentries]
    rfl
  rw [Field.faultIn?, hvalue, hreserved]
  cases givenMaxLoad (.ok count) inner with
  | error fault => rfl
  | ok given =>
    show faultOf (checkNumber _ given _ none >>= _) = (Field.maxLoad.fault? given).or _
    apply faultOf_bind
    intro maxLoad _
    exact faultOf_bind_pure _ _

theorem faultOf_checkAccounts (count : Option Int) (entries : List (String × Value)) :
    faultOf (checkAccounts (valueOf entries "accounts" (.table [])))
      = (Field.accounts.faultIn? count entries).or
          ((Field.sudoEnable.faultIn? count entries).or
            (Field.database.faultIn? count entries)) := by
  unfold checkAccounts
  apply faultOf_bind
  intro inner hinner
  have hentries := entriesOf_of_checkTable hinner
  have hsudo : Field.sudoEnable.faultIn? count entries
      = faultOf (checkBool "host.accounts.sudo_enable"
        (valueOf inner "sudo_enable" (.bool true))) := by
    rw [← hentries]
    rfl
  have hdatabase : Field.database.faultIn? count entries
      = faultOf (checkText "host.accounts.passwd_path"
          (valueOf inner "passwd_path" (.text defaultDatabase))) := by
    rw [← hentries]
    rfl
  rw [hsudo, hdatabase]
  apply faultOf_bind
  intro sudoEnable _
  exact faultOf_bind_pure _ _

/-- **The fault of a table is that of the first of its fields that has one.** -/
theorem faultOf_ofTable (count : Option Int) (entries : List (String × Value)) :
    faultOf (ofTable (.ok count) (.table entries))
      = Field.inOrder.findSome? (Field.faultIn? count entries) := by
  rw [ofTable_table, faultOf_bind fun thresholds _ => faultOf_bind_pure _ _, faultOf_thresholdsOf,
    faultOf_checkAccounts count]
  simp only [Field.inOrder, findSome?_cons_or, List.findSome?_nil, Option.or_none, Option.or_assoc]

/-! ## Verdicts -/

/-- The first field with a fault. -/
def firstFaulty? (count : Option Int) (entries : List (String × Value)) : Option Field :=
  Field.inOrder.find? fun field => (field.faultIn? count entries).isSome

theorem findSome?_eq_bind_find? {α β : Type} (f : α → Option β) (items : List α) :
    items.findSome? f = (items.find? fun a => (f a).isSome).bind f := by
  induction items with
  | nil => rfl
  | cons a rest ih =>
    rw [List.findSome?_cons, List.find?_cons]
    cases h : f a with
    | none => exact ih
    | some b => exact h.symm

/-- What becomes of the value for the host: settings if no field has a fault, else a refusal that
names the first field that has one, or the fault that escapes its check. What is no table is not
checked at all. -/
inductive Judged (count : Option Int) : Value → Except Fault Settings → Prop where
  | accepted {entries : List (String × Value)} (settings : Settings)
      (hfirst : firstFaulty? count entries = none) : Judged count (.table entries) (.ok settings)
  | refused {entries : List (String × Value)} {field : Field} (fault : ValidationFault)
      (hfirst : firstFaulty? count entries = some field)
      (hfault : field.faultIn? count entries = some (.validation fault))
      (hname : fault.field = some field.name) (hescape : field.escapeIn? count entries = none) :
      Judged count (.table entries) (.error (.validation fault))
  | escaped {entries : List (String × Value)} {field : Field} (fault : Fault)
      (hfirst : firstFaulty? count entries = some field)
      (hescape : field.escapeIn? count entries = some fault) :
      Judged count (.table entries) (.error fault)
  | tableless {value : Value} (htable : ∀ entries, value ≠ .table entries) :
      Judged count value (.error (.notATable value.typeName))

theorem judged_ofTable_table (count : Option Int) (entries : List (String × Value)) :
    Judged count (.table entries) (ofTable (.ok count) (.table entries)) := by
  have hfault := faultOf_ofTable count entries
  rw [findSome?_eq_bind_find?] at hfault
  have hfirst : firstFaulty? count entries
      = Field.inOrder.find? fun field => (field.faultIn? count entries).isSome := rfl
  rw [← hfirst] at hfault
  cases houtcome : ofTable (.ok count) (.table entries) with
  | ok settings =>
    rw [houtcome] at hfault
    cases hfield : firstFaulty? count entries with
    | none => exact .accepted settings hfield
    | some field =>
      have hsome := List.find?_some hfield
      rw [hfield] at hfault
      rw [show field.faultIn? count entries = none from hfault.symm] at hsome
      cases hsome
  | error fault =>
    rw [houtcome] at hfault
    cases hfield : firstFaulty? count entries with
    | none =>
      rw [hfield] at hfault
      cases hfault
    | some field =>
      rw [hfield] at hfault
      have hfound : field.faultIn? count entries = some fault := hfault.symm
      have hchecked := field.checkedIn count entries
      rw [hfound] at hchecked
      cases hchecked with
      | refused refusal hname hescape => exact .refused refusal hfield hfound hname hescape
      | escaped _ hescape => exact .escaped fault hfield hescape

/-- **The verdict on a value for the host.** -/
theorem judged_ofTable (count : Option Int) (value : Value) :
    Judged count value (ofTable (.ok count) value) := by
  cases value with
  | table entries => exact judged_ofTable_table count entries
  | null | bool | int | real | text | moment | list =>
    exact .tableless fun entries h => by cases h

/-! ## Declared outcomes -/

/-- Whether an outcome is one that is declared: settings, or a refusal that names a field. -/
def isDeclared : Except Fault Settings → Bool
  | .ok _ => true
  | .error (.validation fault) => fault.field.isSome
  | .error _ => false

theorem isDeclared_of_forall_ne {fault : Fault} (h : ∀ refusal, fault ≠ .validation refusal) :
    isDeclared (.error fault) = false := by
  cases fault with
  | validation refusal => exact absurd rfl (h refusal)
  | _ => rfl

/-! What escapes a check is no refusal. -/

theorem ne_validation_of_unshown {problem : Option Value.ShowProblem} {fault : Fault}
    (h : unshown? problem = some fault) (refusal : ValidationFault) :
    fault ≠ .validation refusal := by
  obtain ⟨found, -, rfl⟩ := Option.map_eq_some_iff.mp h
  cases found <;> exact fun hfault => by cases hfault

theorem ne_validation_of_unnumbered {value : Value} {fault : Fault}
    (h : unnumbered? value = some fault) (refusal : ValidationFault) :
    fault ≠ .validation refusal := by
  cases value with
  | int n =>
    rw [unnumbered?] at h
    split at h
    · obtain rfl := Option.some.inj h
      exact fun hfault => by cases hfault
    · cases h
  | null | bool | real | text | moment | list | table => exact ne_validation_of_unshown h refusal

theorem ne_validation_of_mapError {converted : Except Overflow Double} {fault : Fault}
    (h : converted.mapError .overflow = .error fault) (refusal : ValidationFault) :
    fault ≠ .validation refusal := by
  cases converted with
  | ok d => cases h
  | error limit =>
    obtain rfl := Except.error.inj h
    exact fun hfault => by cases hfault

theorem error_of_real {computed : Except Fault Double} {fault : Fault}
    (h : (do return Value.real (← computed)) = Except.error fault) : computed = .error fault := by
  cases computed with
  | ok d => cases h
  | error other => exact congrArg Except.error (Except.error.inj h)

/-- Of the thresholds for the load, only the default can fail to be there. -/
theorem defaultMaxLoad_of_givenMaxLoad {count : Option Int} {entries : List (String × Value)}
    {fault : Fault} (h : givenMaxLoad (.ok count) entries = .error fault) :
    defaultMaxLoad count = .error fault := by
  unfold givenMaxLoad at h
  split at h
  · rw [ok_bind] at h
    exact error_of_real h
  · cases h

theorem ne_validation_of_value {count : Option Int} {entries : List (String × Value)}
    {field : Field}
    {fault : Fault} (h : field.value? count entries = .error fault) (refusal : ValidationFault) :
    fault ≠ .validation refusal := by
  cases field with
  | resources | reservedMemory | accounts | sudoEnable | database => cases h
  | maxLoad => exact ne_validation_of_mapError (defaultMaxLoad_of_givenMaxLoad h) refusal

theorem ne_validation_of_escapeIn {count : Option Int} {entries : List (String × Value)}
    {field : Field} {fault : Fault} (h : field.escapeIn? count entries = some fault)
    (refusal : ValidationFault) : fault ≠ .validation refusal := by
  unfold Field.escapeIn? at h
  cases hvalue : field.value? count entries with
  | error other =>
    rw [hvalue] at h
    obtain rfl := Option.some.inj h
    exact ne_validation_of_value hvalue refusal
  | ok value =>
    rw [hvalue] at h
    cases field with
    | maxLoad | reservedMemory => exact ne_validation_of_unnumbered h refusal
    | sudoEnable => exact ne_validation_of_unshown h refusal
    | resources | accounts | database => cases h

/-- **An outcome is declared** unless there is no table or the check of the first field with a fault
is escaped. -/
theorem Judged.isDeclared_iff {count : Option Int} {value : Value} {outcome : Except Fault Settings}
    (h : Judged count value outcome) :
    isDeclared outcome = true ↔ ∃ entries, value = .table entries ∧
      ∀ field, firstFaulty? count entries = some field →
        field.escapeIn? count entries = none := by
  cases h with
  | @accepted entries settings hfirst =>
    refine iff_of_true rfl ⟨entries, rfl, ?_⟩
    intro field hfield
    rw [hfirst] at hfield
    cases hfield
  | @refused entries field fault hfirst hfault hname hescape =>
    refine iff_of_true ?_ ⟨entries, rfl, ?_⟩
    · exact Option.isSome_iff_exists.mpr ⟨field.name, hname⟩
    · intro other hother
      rw [hfirst] at hother
      obtain rfl := Option.some.inj hother
      exact hescape
  | @escaped entries field fault hfirst hescape =>
    have hundeclared := isDeclared_of_forall_ne (ne_validation_of_escapeIn hescape)
    refine iff_of_false (by rw [hundeclared]; exact Bool.false_ne_true) ?_
    rintro ⟨same, hsame, hnone⟩
    obtain rfl := Value.table.inj hsame
    rw [hnone field hfirst] at hescape
    cases hescape
  | tableless htable =>
    refine iff_of_false Bool.false_ne_true ?_
    rintro ⟨entries, hentries, -⟩
    exact htable entries hentries

/-! ## Documents -/

theorem exists_table_of_documentOf {bytes : List UInt8} {document : Value}
    (h : documentOf bytes = .ok document) : ∃ entries, document = .table entries := by
  unfold documentOf at h
  cases hdecoded : Text.Utf8.decodeStrict bytes with
  | error error =>
    rw [hdecoded] at h
    cases h
  | ok text =>
    rw [hdecoded] at h
    obtain ⟨progress, -, hprogress⟩ := exists_of_bind_ok h
    exact ⟨_, (Except.ok.inj hprogress).symm⟩

end Settings

namespace Agent

open Settings

variable {σ : Type}

/-- Settings that are not known are those that the value for the host means. -/
theorem outcome_getSettings_of_document {host : Host σ} {s : Agent × World σ}
    {bytes : List UInt8} {after : σ} {entries : List (String × Value)} {count : Option Int}
    (hunknown : s.1.settings = none)
    (hfinds : Finds host s.1.settingsPath s.2.outside (some bytes) after)
    (hdocument : documentOf bytes = .ok (.table entries))
    (hcount : (host.cpuCount after).1 = .ok count) :
    (getSettings host s).1 = ofTable (.ok count) (valueOf entries "host" (.table [])) := by
  have htable : hostTableOf bytes = .ok (valueOf entries "host" (.table [])) := by
    rw [hostTableOf, hdocument]
    rfl
  have hload := load_outcome hfinds
  rw [ofContents, htable, hcount] at hload
  exact (outcome_getSettings_of_none host hunknown).trans hload

/-- **What becomes of a document**: settings that are not known are judged by the value for the
host. The outcome is declared unless that is no table or the check of the first field with a fault
is escaped. -/
theorem getSettings_of_document {host : Host σ} {s : Agent × World σ} {bytes : List UInt8}
    {after : σ} {document : Value} {count : Option Int} (hunknown : s.1.settings = none)
    (hfinds : Finds host s.1.settingsPath s.2.outside (some bytes) after)
    (hdocument : documentOf bytes = .ok document) (hcount : (host.cpuCount after).1 = .ok count) :
    ∃ entries, document = .table entries ∧
      Judged count (valueOf entries "host" (.table [])) (getSettings host s).1 ∧
      (isDeclared (getSettings host s).1 = true ↔
        ∃ fields, valueOf entries "host" (.table []) = .table fields ∧
          ∀ field, firstFaulty? count fields = some field →
            field.escapeIn? count fields = none) := by
  obtain ⟨entries, rfl⟩ := exists_table_of_documentOf hdocument
  have hjudged := judged_ofTable count (valueOf entries "host" (.table []))
  rw [← outcome_getSettings_of_document hunknown hfinds hdocument hcount] at hjudged
  exact ⟨entries, rfl, hjudged, hjudged.isDeclared_iff⟩

/-- The bytes of `host = 5`: a number in the place of the host's table. -/
def misplacedNumber : List UInt8 :=
  [0x68, 0x6f, 0x73, 0x74, 0x20, 0x3d, 0x20, 0x35, 0x0a]

theorem documentOf_misplacedNumber : documentOf misplacedNumber = .ok (.table [("host", .int 5)]) :=
  rfl

/-- A host that has nothing but a settings file. -/
def hostOfFile (bytes : List UInt8) : Host Unit :=
  { Host.ofUser "builder" with
    cpuCount := pure (some 4)
    fileExists := fun _ => pure true
    readFile := fun _ => pure bytes }

/-- A number in the place of the host's table is not checked at all. -/
theorem getSettings_of_misplacedNumber :
    (getSettings (hostOfFile misplacedNumber) (fresh (Path.ofText "config.toml"), World.start ())).1
      = .error (.notATable "int") := by
  have hfinds : Finds (hostOfFile misplacedNumber) (Path.ofText "config.toml") ()
      (some misplacedNumber) () := .present rfl rfl rfl
  have hunknown : (fresh (Path.ofText "config.toml")).settings = none := rfl
  obtain ⟨entries, hentries, hjudged, -⟩ := @getSettings_of_document Unit _
    (fresh (Path.ofText "config.toml"), World.start ()) _ _ _ _ hunknown hfinds
    documentOf_misplacedNumber rfl
  obtain rfl := Value.table.inj hentries
  have hvalue : valueOf [("host", Value.int 5)] "host" (.table []) = .int 5 := rfl
  rw [hvalue] at hjudged
  generalize (getSettings _ _).1 = outcome at hjudged ⊢
  cases hjudged with
  | tableless htable => rfl

/-- So it brings about a fault that is not declared. -/
theorem isDeclared_of_misplacedNumber :
    isDeclared (getSettings (hostOfFile misplacedNumber)
        (fresh (Path.ofText "config.toml"), World.start ())).1 = false := by
  have hfinds : Finds (hostOfFile misplacedNumber) (Path.ofText "config.toml") ()
      (some misplacedNumber) () := .present rfl rfl rfl
  have hunknown : (fresh (Path.ofText "config.toml")).settings = none := rfl
  have houtcome := @outcome_getSettings_of_document Unit _
    (fresh (Path.ofText "config.toml"), World.start ()) _ _ _ _ hunknown hfinds
    documentOf_misplacedNumber rfl
  rw [houtcome]
  rfl

end Agent

end TenantHost
