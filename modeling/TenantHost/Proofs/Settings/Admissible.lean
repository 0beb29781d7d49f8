import Mathlib.Data.List.TakeWhile
import TenantHost.Proofs.Settings.Faults
import TenantHost.Proofs.Settings.Frame
/-!
# What settings are made of

The settings that a check returns hold what the host's table gives for four keys, converted, and a
default for what it leaves out; each of them is admissible for its field. A refusal names the first
field whose value is not.
-/

namespace TenantHost.Settings

open Text

variable {σ : Type}

/-! ## Admissible values -/

/-- A number, or a text that writes one, that is not NaN and at least a bound. -/
def IsNumberFrom (least : Double) (value : Value) : Prop :=
  ∃ d, number? value = .ok (some d) ∧ d ≠ .nan ∧
    Number.atMost (.real least) (.real d) = true

/-- The values that a field admits: tables, numbers from a bound on, truth values, and texts with
something else in them than blanks. -/
def Field.Admits (field : Field) (value : Value) : Prop :=
  match field with
  | resources | accounts => ∃ entries, value = .table entries
  | maxLoad => IsNumberFrom leastMaxLoad value
  | reservedMemory => IsNumberFrom .zero value
  | sudoEnable => ∃ b, value = .bool b
  | database => ∃ s, value = .text s ∧ ∃ c ∈ s.toList, isBlank c = false

/-- The value of a field in the host's table, given or default, is admissible. -/
def Field.IsAdmissible (count : Option Int) (entries : List (String × Value)) (field : Field) :
    Prop :=
  ∃ value, field.value? count entries = .ok value ∧ field.Admits value

theorem leastMaxLoad_ne_nan : leastMaxLoad ≠ .nan := by
  unfold leastMaxLoad Double.ofRatio Double.ofRank
  split <;> exact Double.noConfusion

theorem zero_ne_nan : Double.zero ≠ .nan :=
  Double.noConfusion

/-- What is accepted as a number. -/
theorem checkNumber_eq_ok_iff {field : String} {value : Value} {least d : Double}
    (hleast : least ≠ .nan) :
    checkNumber field value (.real least) none = .ok d ↔
      number? value = .ok (some d) ∧ d ≠ .nan ∧ Number.atMost (.real least) (.real d)
        = true := by
  constructor
  · intro h
    obtain ⟨hnumber, hnan, hless⟩ := of_checkNumber_ok h
    rw [Number.less_eq_not_atMost hnan hleast, Bool.not_eq_false'] at hless
    exact ⟨hnumber, hnan, hless⟩
  · rintro ⟨hnumber, hnan, hatMost⟩
    have hless : Number.less (.real d) (.real least) = false := by
      rw [Number.less_eq_not_atMost hnan hleast, hatMost]
      rfl
    rw [checkNumber_eq, hnumber]
    simp only [filter_ne_nan hnan]
    rw [hless, if_neg Bool.false_ne_true]

/-- A text is trimmed to nothing just if it is blank. -/
theorem trim_eq_nil_iff {text : List Char} :
    trim text = [] ↔ ∀ c ∈ text, isBlank c = true := by
  rw [trim, List.reverse_eq_nil_iff, List.dropWhile_eq_nil_iff]
  simp only [List.mem_reverse]
  constructor
  · intro h
    rw [← List.dropWhile_eq_nil_iff]
    -- what is left over would begin with a character that is not blank
    by_contra hne
    have hhead := List.head_dropWhile_not isBlank hne
    rw [h _ (List.head_mem hne)] at hhead
    cases hhead
  · intro h c hc
    exact h c ((List.dropWhile_suffix isBlank).mem hc)

/-- What is accepted as a text. -/
theorem checkText_eq_ok_iff {field s : String} {value : Value} :
    checkText field value = .ok s ↔
      value = .text s ∧ ∃ c ∈ s.toList, isBlank c = false := by
  cases value with
  | text found =>
    rw [checkText]
    by_cases hblank : ∀ c ∈ found.toList, isBlank c = true
    · rw [if_pos (List.isEmpty_iff.mpr (trim_eq_nil_iff.mpr hblank))]
      constructor
      · intro h
        cases h
      · rintro ⟨hfound, c, hc, hnot⟩
        obtain rfl := Value.text.inj hfound
        rw [hblank c hc] at hnot
        cases hnot
    · have hsome : ∃ c ∈ found.toList, isBlank c = false := by
        simpa using hblank
      rw [if_neg fun hempty => hblank (trim_eq_nil_iff.mp (List.isEmpty_iff.mp hempty))]
      constructor
      · intro h
        obtain rfl := Except.ok.inj h
        exact ⟨rfl, hsome⟩
      · rintro ⟨hfound, -⟩
        rw [Value.text.inj hfound]
  | null | bool | int | real | moment | list | table => simp [checkText]

theorem checkBool_eq_ok_iff {field : String} {value : Value} {b : Bool} :
    checkBool field value = .ok b ↔ value = .bool b := by
  cases value with
  | bool found => simp [checkBool]
  | null | int | real | text | moment | list | table => simp [checkBool]

theorem checkTable_eq_ok_iff {field : String} {value : Value} {entries : List (String × Value)} :
    checkTable field value = .ok entries ↔ value = .table entries := by
  cases value with
  | table found => simp [checkTable]
  | null | bool | int | real | text | moment | list => simp [checkTable]

theorem faultOf_eq_none_iff {α : Type} {outcome : Except Fault α} :
    faultOf outcome = none ↔ ∃ a, outcome = .ok a := by
  cases outcome <;> simp [faultOf]

/-- **The check of a field by itself accepts what the field admits.** -/
theorem Field.fault?_eq_none_iff (field : Field) (value : Value) :
    field.fault? value = none ↔ field.Admits value := by
  cases field with
  | resources | accounts => simp only [fault?, Admits, faultOf_eq_none_iff, checkTable_eq_ok_iff]
  | maxLoad =>
    simp only [fault?, Admits, IsNumberFrom, faultOf_eq_none_iff,
      checkNumber_eq_ok_iff leastMaxLoad_ne_nan]
  | reservedMemory =>
    simp only [fault?, Admits, IsNumberFrom, faultOf_eq_none_iff, checkNumber_eq_ok_iff zero_ne_nan]
  | sudoEnable => simp only [fault?, Admits, faultOf_eq_none_iff, checkBool_eq_ok_iff]
  | database => simp only [fault?, Admits, faultOf_eq_none_iff, checkText_eq_ok_iff]

theorem Field.faultIn?_eq_none_iff {count : Option Int} {entries : List (String × Value)}
    {field : Field} :
    field.faultIn? count entries = none ↔ field.IsAdmissible count entries := by
  unfold faultIn? IsAdmissible
  cases field.value? count entries with
  | error fault => simp
  | ok value => simp [fault?_eq_none_iff]

/-! ## The first field that is refused -/

/-- A refusal in the host's table names its field. -/
theorem Field.field_of_faultIn {field : Field} {count : Option Int}
    {entries : List (String × Value)}
    {refusal : ValidationFault} (h : field.faultIn? count entries = some (.validation refusal)) :
    refusal.field = some field.name := by
  have hchecked := field.checkedIn count entries
  rw [h] at hchecked
  cases hchecked with
  | refused _ hfield _ => exact hfield
  | escaped _ hescape => exact absurd rfl (ne_validation_of_escapeIn hescape refusal)

/-- **A refusal names the first field whose value is not admissible.** -/
theorem exists_first_of_refused {count : Option Int} {entries : List (String × Value)}
    {refusal : ValidationFault}
    (h : ofTable (.ok count) (.table entries) = .error (.validation refusal)) :
    ∃ before field after, Field.inOrder = before ++ field :: after ∧
      refusal.field = some field.name ∧
      (∀ earlier ∈ before, earlier.IsAdmissible count entries) ∧
        ¬field.IsAdmissible count entries := by
  have hfault := faultOf_ofTable count entries
  rw [h] at hfault
  obtain ⟨before, field, after, horder, hfield, hbefore⟩ :=
    List.findSome?_eq_some_iff.mp hfault.symm
  refine ⟨before, field, after, horder, Field.field_of_faultIn hfield, ?_, ?_⟩
  · intro earlier hearlier
    exact Field.faultIn?_eq_none_iff.mp (hbefore earlier hearlier)
  · intro hadmissible
    rw [Field.faultIn?_eq_none_iff.mpr hadmissible] at hfield
    cases hfield

/-- **Settings come of a table just if all its values are admissible.** -/
theorem exists_ofTable_iff {count : Option Int} {entries : List (String × Value)} :
    (∃ settings, ofTable (.ok count) (.table entries) = .ok settings) ↔
      ∀ field ∈ Field.inOrder, field.IsAdmissible count entries := by
  rw [← faultOf_eq_none_iff, faultOf_ofTable, List.findSome?_eq_none_iff]
  simp only [Field.faultIn?_eq_none_iff]

/-! ## Settings and what they are read from -/

/-- What thresholds hold, for an answer about the processors and the table of thresholds: each value
that is given, converted, and the default for each that is not. -/
structure ThresholdsFrom (count : Except Fault (Option Int)) (resources : List (String × Value))
    (thresholds : Thresholds) : Prop where
  maxLoad : ∀ value, resources.lookup "max_cpu_load_avg" = some value → value ≠ .null →
    number? value = .ok (some thresholds.maxLoad)
  maxLoad_default : (resources.lookup "max_cpu_load_avg").getD .null = .null →
    ∃ processors, count = .ok processors ∧ defaultMaxLoad processors = .ok thresholds.maxLoad
  maxLoad_least : thresholds.maxLoad ≠ .nan ∧
    Number.atMost (.real leastMaxLoad) (.real thresholds.maxLoad) = true
  reservedMemory : ∀ value, resources.lookup "reserved_memory_gb" = some value →
    number? value = .ok (some thresholds.reservedMemory)
  reservedMemory_default : resources.lookup "reserved_memory_gb" = none →
    thresholds.reservedMemory = defaultReservedMemory
  reservedMemory_least : thresholds.reservedMemory ≠ .nan ∧
    Number.atMost (.real .zero) (.real thresholds.reservedMemory) = true

/-- What an account policy holds, for its table. -/
structure PolicyFrom (accounts : List (String × Value)) (policy : AccountPolicy) : Prop where
  sudoEnable : ∀ value, accounts.lookup "sudo_enable" = some value →
    value = .bool policy.sudoEnable
  sudoEnable_default : accounts.lookup "sudo_enable" = none → policy.sudoEnable = true
  database : ∀ value, accounts.lookup "passwd_path" = some value →
    ∃ s, value = .text s ∧ (∃ c ∈ s.toList, isBlank c = false) ∧
      policy.database = Path.ofText s
  database_default : accounts.lookup "passwd_path" = none →
    policy.database = Path.ofText "/etc/passwd"

theorem valueOf_of_missing {entries : List (String × Value)} {key : String}
    (h : entries.lookup key = none) (default : Value) : valueOf entries key default = default := by
  rw [valueOf, h, Option.getD_none]

/-- Where the threshold for the load comes from. -/
theorem of_givenMaxLoad_ok {count : Except Fault (Option Int)} {entries : List (String × Value)}
    {given : Value} (h : givenMaxLoad count entries = .ok given) :
    (valueOf entries "max_cpu_load_avg" .null = .null ∧
      ∃ processors d, count = .ok processors ∧
        defaultMaxLoad processors = .ok d ∧ given = .real d) ∨
      valueOf entries "max_cpu_load_avg" .null ≠ .null ∧
        given = valueOf entries "max_cpu_load_avg" .null := by
  unfold givenMaxLoad at h
  split at h
  · next hnull =>
    obtain ⟨processors, hcount, hrest⟩ := exists_of_bind_ok h
    obtain ⟨d, hdefault, hgiven⟩ := exists_of_bind_ok hrest
    exact .inl ⟨hnull, processors, d, hcount, hdefault, (Except.ok.inj hgiven).symm⟩
  · next hgiven => exact .inr ⟨hgiven, (Except.ok.inj h).symm⟩

/-- **Thresholds hold what is given, converted, and defaults for the rest.** -/
theorem exists_thresholdsFrom {count : Except Fault (Option Int)} {value : Value}
    {thresholds : Thresholds} (h : thresholdsOf count value = .ok thresholds) :
    ∃ resources, value = .table resources ∧ ThresholdsFrom count resources thresholds := by
  unfold thresholdsOf at h
  obtain ⟨resources, hresources, h⟩ := exists_of_bind_ok h
  obtain ⟨given, hgiven, h⟩ := exists_of_bind_ok h
  obtain ⟨maxLoad, hmaxLoad, h⟩ := exists_of_bind_ok h
  obtain ⟨reservedMemory, hreserved, h⟩ := exists_of_bind_ok h
  obtain rfl := Except.ok.inj h
  obtain ⟨hmaxNumber, hmaxLeast⟩ := (checkNumber_eq_ok_iff leastMaxLoad_ne_nan).mp hmaxLoad
  obtain ⟨hreservedNumber, hreservedLeast⟩ := (checkNumber_eq_ok_iff zero_ne_nan).mp hreserved
  refine ⟨resources, checkTable_eq_ok_iff.mp hresources, ?_⟩
  constructor
  case maxLoad =>
    intro value hvalue hne
    have hvalueOf := valueOf_of_lookup hvalue .null
    rcases of_givenMaxLoad_ok hgiven with ⟨hnull, -⟩ | ⟨-, rfl⟩
    · exact absurd (hvalueOf.symm.trans hnull) hne
    · rw [← hvalueOf]
      exact hmaxNumber
  case maxLoad_default =>
    intro hnull
    rcases of_givenMaxLoad_ok hgiven with ⟨-, processors, d, hcount, hdefault, rfl⟩ |
      ⟨hne, -⟩
    · obtain rfl : d = maxLoad := Option.some.inj (Except.ok.inj hmaxNumber)
      exact ⟨processors, hcount, hdefault⟩
    · exact absurd hnull hne
  case maxLoad_least => exact hmaxLeast
  case reservedMemory =>
    intro value hvalue
    rwa [valueOf_of_lookup hvalue] at hreservedNumber
  case reservedMemory_default =>
    intro hmissing
    rw [valueOf_of_missing hmissing] at hreservedNumber
    exact (Option.some.inj (Except.ok.inj hreservedNumber)).symm
  case reservedMemory_least => exact hreservedLeast

/-- **So does an account policy.** -/
theorem exists_policyFrom {value : Value} {policy : AccountPolicy}
    (h : checkAccounts value = .ok policy) :
    ∃ accounts, value = .table accounts ∧ PolicyFrom accounts policy := by
  unfold checkAccounts at h
  obtain ⟨accounts, haccounts, h⟩ := exists_of_bind_ok h
  obtain ⟨sudoEnable, hsudo, h⟩ := exists_of_bind_ok h
  obtain ⟨database, hdatabase, h⟩ := exists_of_bind_ok h
  obtain rfl := Except.ok.inj h
  rw [checkBool_eq_ok_iff] at hsudo
  obtain ⟨htext, hsome⟩ := checkText_eq_ok_iff.mp hdatabase
  refine ⟨accounts, checkTable_eq_ok_iff.mp haccounts, ?_⟩
  constructor
  case sudoEnable =>
    intro value hvalue
    rwa [valueOf_of_lookup hvalue] at hsudo
  case sudoEnable_default =>
    intro hmissing
    rw [valueOf_of_missing hmissing] at hsudo
    exact (Value.bool.inj hsudo).symm
  case database =>
    intro value hvalue
    rw [valueOf_of_lookup hvalue] at htext
    exact ⟨database, htext, hsome, rfl⟩
  case database_default =>
    intro hmissing
    rw [valueOf_of_missing hmissing] at htext
    rw [← Value.text.inj htext]
    rfl

/-- **A check reads four values.** Settings that it returns hold them, converted, or defaults for
what is left out; edits of anything else change nothing; and for a host that knows its processors,
or knows that it does not, it returns just if the values are admissible, and a refusal names the
first field whose value is not. -/
theorem check_reads_four_values (cpuCount : Action σ (Option Int))
    (entries : List (String × Value)) (w : World σ) :
    (∀ settings w', check cpuCount (.table entries) w = (.ok settings, w') →
      ∃ resources accounts, valueOf entries "resources" (.table []) = .table resources ∧
        valueOf entries "accounts" (.table []) = .table accounts ∧
        ThresholdsFrom (cpuCount w.outside).1 resources settings.thresholds ∧
        PolicyFrom accounts settings.accounts) ∧
    (∀ other, SameValues entries other →
      check cpuCount (.table other) = check cpuCount (.table entries)) ∧
    (∀ other, Edits entries other →
      check cpuCount (.table other) = check cpuCount (.table entries)) ∧
    ∀ count, (cpuCount w.outside).1 = .ok count →
      ((∃ settings w', check cpuCount (.table entries) w = (.ok settings, w')) ↔
        ∀ field ∈ Field.inOrder, field.IsAdmissible count entries) ∧
      ∀ refusal w', check cpuCount (.table entries) w = (.error (.validation refusal), w') →
        ∃ before field after, Field.inOrder = before ++ field :: after ∧
          refusal.field = some field.name ∧
          (∀ earlier ∈ before, earlier.IsAdmissible count entries) ∧
          ¬field.IsAdmissible count entries := by
  have houtcome := check_outcome cpuCount (.table entries) w
  refine ⟨?_, ?_, ?_, ?_⟩
  · intro settings w' h
    rw [h, ofTable_table] at houtcome
    obtain ⟨thresholds, hthresholds, hrest⟩ := exists_of_bind_ok houtcome.symm
    obtain ⟨policy, hpolicy, hsettings⟩ := exists_of_bind_ok hrest
    obtain rfl := Except.ok.inj hsettings
    obtain ⟨resources, hresources, hfrom⟩ := exists_thresholdsFrom hthresholds
    obtain ⟨accounts, haccounts, hpolicyFrom⟩ := exists_policyFrom hpolicy
    exact ⟨resources, accounts, hresources, haccounts, hfrom, hpolicyFrom⟩
  · intro other hsame
    exact (check_eq_of_sameValues cpuCount hsame).symm
  · intro other hedits
    exact (check_eq_of_sameValues cpuCount hedits.sameValues).symm
  · intro count hcount
    rw [hcount] at houtcome
    constructor
    · rw [← exists_ofTable_iff, ← houtcome]
      constructor
      · rintro ⟨settings, w', h⟩
        exact ⟨settings, by rw [h]⟩
      · rintro ⟨settings, h⟩
        exact ⟨settings, _, Prod.ext h rfl⟩
    · intro refusal w' h
      rw [h] at houtcome
      exact exists_first_of_refused houtcome.symm

/-- A table for the host that leaves out the database and no other of the four values. -/
def threeValues : List (String × Value) :=
  [("resources", .table [("max_cpu_load_avg", .real (.infinity false)),
    ("reserved_memory_gb", .real .zero)]),
    ("accounts", .table [("sudo_enable", .bool false)])]

/-- The same values in another order, behind a key that nothing asks for. -/
def threeValuesEdited : List (String × Value) :=
  (Table.insert threeValues "color" (.text "red")).reverse

theorem check_reads_four_values_threeValues :
    ∃ settings w', check (pure (some 4)) (.table threeValuesEdited) (World.start ())
      = (.ok settings, w') ∧
      settings.accounts = ⟨false, Path.ofText "/etc/passwd"⟩ := by
  obtain ⟨hreads, -, hedits, hcount⟩ := check_reads_four_values (pure (some 4)) threeValues
      (World.start ())
  have hedited : Edits threeValues threeValuesEdited :=
    .ofHost (.elsewhere threeValues (.text "red") (by decide : "color" ∉ tableKeys))
      (.ofHost (.reordered (List.reverse_perm _).symm (by decide)) (.done _))
  have hbounded : Number.atMost (.real leastMaxLoad) (.real (.infinity false)) = true := by
    have hless := Number.less_eq_not_atMost (d := .infinity false)
        Double.noConfusion leastMaxLoad_ne_nan
    rw [Number.less_infinity] at hless
    simpa using hless
  have hadmissible : ∀ field ∈ Field.inOrder, field.IsAdmissible (some 4) threeValues := by
    intro field _
    cases field with
    | resources | accounts => exact ⟨_, rfl, _, rfl⟩
    | maxLoad => exact ⟨_, rfl, .infinity false, rfl, Double.noConfusion, hbounded⟩
    | reservedMemory => exact ⟨_, rfl, .zero, rfl, zero_ne_nan, by decide⟩
    | sudoEnable => exact ⟨_, rfl, false, rfl⟩
    | database => exact ⟨_, rfl, "/etc/passwd", rfl, '/', by decide, by decide⟩
  obtain ⟨settings, w', hrun⟩ := (hcount (some 4) rfl).1.mpr hadmissible
  refine ⟨settings, w', by rw [hedits _ hedited, hrun], ?_⟩
  obtain ⟨resources, accounts, -, haccounts, -, hpolicy⟩ := hreads settings w' hrun
  obtain rfl : [("sudo_enable", Value.bool false)] = accounts := Value.table.inj haccounts
  have hsudo := Value.bool.inj (hpolicy.sudoEnable _ rfl)
  have hdatabase := hpolicy.database_default rfl
  generalize settings.accounts = policy at hsudo hdatabase ⊢
  rcases policy with ⟨sudoEnable, database⟩
  rw [show sudoEnable = false from hsudo.symm, show database = _ from hdatabase]

end TenantHost.Settings
