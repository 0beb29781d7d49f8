import TenantHost.Settings.Check
/-!
# The keys that matter

A check of the host's table asks for the tables of two keys, and each of these for the values of two
keys. Tables that agree there are checked alike, whatever the order of their entries and whatever
else they hold. In particular a table may be edited everywhere else.
-/

namespace TenantHost

namespace Table

variable {α : Type}

/-- Tables with the same values for some keys. -/
def AgreeOn (keys : List String) (a b : List (String × α)) : Prop :=
  ∀ key ∈ keys, a.lookup key = b.lookup key

theorem AgreeOn.trans {keys : List String} {a b c : List (String × α)} (h : AgreeOn keys a b)
    (hrest : AgreeOn keys b c) : AgreeOn keys a c :=
  fun key hkey => (h key hkey).trans (hrest key hkey)

/-- Where each key stands once, the order of the entries does not matter. -/
theorem lookup_of_perm {a b : List (String × α)} (h : a.Perm b) (hkeys : (a.map Prod.fst).Nodup)
    (key : String) : a.lookup key = b.lookup key := by
  induction h with
  | nil => rfl
  | cons entry _ ih =>
    rw [List.map_cons, List.nodup_cons] at hkeys
    rw [List.lookup_cons, List.lookup_cons, ih hkeys.2]
  | swap first second rest =>
    obtain ⟨first, u⟩ := first
    obtain ⟨second, v⟩ := second
    have hne : second ≠ first := by
      rintro rfl
      simp at hkeys
    -- a key that is both of the first two would stand twice
    by_cases hfirst : key = first
    · have hsecond : (key == second) = false := by
        rw [hfirst]
        exact beq_eq_false_iff_ne.mpr hne.symm
      simp [List.lookup_cons, hsecond]
    · have hnot : (key == first) = false := beq_eq_false_iff_ne.mpr hfirst
      simp [List.lookup_cons, hnot]
  | trans hfirst _ ih ihrest =>
    rw [ih hkeys, ihrest ((hfirst.map Prod.fst).nodup hkeys)]

/-- Changes to a table that leave the values of some keys alone: another order of its entries, and
any value for any other key, be it there or not. -/
inductive Edited (keys : List String) : List (String × α) → List (String × α) → Prop where
  | reordered {a b : List (String × α)} (hperm : a.Perm b) (hkeys : (a.map Prod.fst).Nodup) :
      Edited keys a b
  | elsewhere (a : List (String × α)) {key : String} (value : α) (hkey : key ∉ keys) :
      Edited keys a (insert a key value)

theorem Edited.agreeOn {keys : List String} {a b : List (String × α)} (h : Edited keys a b) :
    AgreeOn keys a b := by
  intro key hkey
  cases h with
  | reordered hperm hkeys => exact lookup_of_perm hperm hkeys key
  | @elsewhere other value hother =>
    have hne : key ≠ other := by
      rintro rfl
      exact hother hkey
    rw [lookup_insert, if_neg hne]

end Table

namespace Settings

open Table

variable {σ : Type}

/-! ## Tables that are checked alike -/

/-- The keys of the host's table that are asked for. -/
def tableKeys : List String := ["resources", "accounts"]

/-- The keys of the table of thresholds that are asked for. -/
def thresholdKeys : List String := ["max_cpu_load_avg", "reserved_memory_gb"]

/-- The keys of the table of the account policy that are asked for. -/
def accountKeys : List String := ["sudo_enable", "passwd_path"]

/-- Values that are the same, or tables that agree on some keys. -/
inductive AlikeOn (keys : List String) : Value → Value → Prop where
  | same (value : Value) : AlikeOn keys value value
  | tables {a b : List (String × Value)} (h : AgreeOn keys a b) :
    AlikeOn keys (.table a) (.table b)

theorem AlikeOn.trans {keys : List String} {u v w : Value} (h : AlikeOn keys u v)
    (hrest : AlikeOn keys v w) : AlikeOn keys u w := by
  cases h with
  | same => exact hrest
  | tables hab =>
    cases hrest with
    | same => exact .tables hab
    | tables hbc => exact .tables (hab.trans hbc)

/-- Tables for the host with the same four values: those of the keys that are asked for in the two
inner tables. An inner table that is left out is as good as an empty one. -/
structure SameValues (a b : List (String × Value)) : Prop where
  resources : AlikeOn thresholdKeys (valueOf a "resources" (.table []))
    (valueOf b "resources" (.table []))
  accounts : AlikeOn accountKeys (valueOf a "accounts" (.table []))
    (valueOf b "accounts" (.table []))

theorem SameValues.refl (a : List (String × Value)) : SameValues a a :=
  ⟨.same _, .same _⟩

theorem SameValues.trans {a b c : List (String × Value)} (h : SameValues a b)
    (hrest : SameValues b c) :
    SameValues a c :=
  ⟨h.resources.trans hrest.resources, h.accounts.trans hrest.accounts⟩

theorem valueOf_eq_of_agreeOn {keys : List String} {a b : List (String × Value)}
    (h : AgreeOn keys a b) {key : String} (hkey : key ∈ keys) (default : Value) :
    valueOf a key default = valueOf b key default := by
  rw [valueOf, valueOf, h key hkey]

theorem checkThresholds_eq_of_alikeOn (cpuCount : Action σ (Option Int)) {u v : Value}
    (h : AlikeOn thresholdKeys u v) : checkThresholds cpuCount u = checkThresholds cpuCount v := by
  cases h with
  | same => rfl
  | @tables a b hab =>
    have hmaxLoad : maxLoadValue cpuCount a = maxLoadValue cpuCount b := by
      rw [maxLoadValue, maxLoadValue, valueOf_eq_of_agreeOn hab (by decide)]
    have hreserved := valueOf_eq_of_agreeOn hab (by decide : "reserved_memory_gb" ∈ thresholdKeys)
    have htable : ∀ entries, checkTable "host.resources" (.table entries) = .ok entries :=
      fun _ => rfl
    funext w
    rw [checkThresholds, checkThresholds, htable, htable]
    show Action.andThen (maxLoadValue cpuCount a) _ w = Action.andThen (maxLoadValue cpuCount b) _ w
    simp only [hmaxLoad, hreserved]

theorem checkAccounts_eq_of_alikeOn {u v : Value} (h : AlikeOn accountKeys u v) :
    checkAccounts u = checkAccounts v := by
  cases h with
  | same => rfl
  | @tables a b hab =>
    have hsudo := valueOf_eq_of_agreeOn hab (by decide : "sudo_enable" ∈ accountKeys)
    have hdatabase := valueOf_eq_of_agreeOn hab (by decide : "passwd_path" ∈ accountKeys)
    have htable : ∀ entries, checkTable "host.accounts" (.table entries) = .ok entries :=
      fun _ => rfl
    simp only [checkAccounts, htable]
    show (checkBool _ (valueOf a _ _) >>= _) = (checkBool _ (valueOf b _ _) >>= _)
    simp only [hsudo, hdatabase]

/-- **A check depends on four values only.** -/
theorem check_eq_of_sameValues (cpuCount : Action σ (Option Int)) {a b : List (String × Value)}
    (h : SameValues a b) : check cpuCount (.table a) = check cpuCount (.table b) := by
  have htable : ∀ entries key, tableOf (.table entries) key
      = .ok (valueOf entries key (.table [])) :=
    fun _ _ => rfl
  have haccounts : ∀ value, (.ok value >>= checkAccounts) = checkAccounts value := fun _ => rfl
  simp only [check, htable, haccounts, checkAccounts_eq_of_alikeOn h.accounts]
  funext w
  show Action.andThen (checkThresholds cpuCount (valueOf a _ _)) _ w
    = Action.andThen (checkThresholds cpuCount (valueOf b _ _)) _ w
  rw [checkThresholds_eq_of_alikeOn cpuCount h.resources]

/-! ## Edits -/

/-- Edits of the host's table that leave the four values alone: of the table itself, and of the
inner ones. -/
inductive Edits : List (String × Value) → List (String × Value) → Prop where
  | done (a : List (String × Value)) : Edits a a
  | ofHost {a b c : List (String × Value)} (h : Edited tableKeys a b) (rest : Edits b c) :
      Edits a c
  | ofResources {a c inner inner' : List (String × Value)}
      (hinner : a.lookup "resources" = some (.table inner)) (h : Edited thresholdKeys inner inner')
      (rest : Edits (insert a "resources" (.table inner')) c) : Edits a c
  | ofAccounts {a c inner inner' : List (String × Value)}
      (hinner : a.lookup "accounts" = some (.table inner)) (h : Edited accountKeys inner inner')
      (rest : Edits (insert a "accounts" (.table inner')) c) : Edits a c

theorem valueOf_of_lookup {entries : List (String × Value)} {key : String} {value : Value}
    (h : entries.lookup key = some value) (default : Value) :
    valueOf entries key default = value := by
  rw [valueOf, h, Option.getD_some]

theorem valueOf_insert (entries : List (String × Value)) (key k : String) (value default : Value) :
    valueOf (insert entries key value) k default
      = if k = key then value else valueOf entries k default := by
  rw [valueOf, lookup_insert]
  split <;> rfl

/-- Edits leave the four values alone. -/
theorem Edits.sameValues {a b : List (String × Value)} (h : Edits a b) : SameValues a b := by
  induction h with
  | done a => exact .refl a
  | ofHost hedited _ ih =>
    have hagree := hedited.agreeOn
    refine SameValues.trans ⟨?_, ?_⟩ ih
    · rw [valueOf_eq_of_agreeOn hagree (by decide)]
      exact .same _
    · rw [valueOf_eq_of_agreeOn hagree (by decide)]
      exact .same _
  | ofResources hinner hedited _ ih =>
    refine SameValues.trans ⟨?_, ?_⟩ ih
    · rw [valueOf_of_lookup hinner, valueOf_insert, if_pos rfl]
      exact .tables hedited.agreeOn
    · rw [valueOf_insert, if_neg (by decide)]
      exact .same _
  | ofAccounts hinner hedited _ ih =>
    refine SameValues.trans ⟨?_, ?_⟩ ih
    · rw [valueOf_insert, if_neg (by decide)]
      exact .same _
    · rw [valueOf_of_lookup hinner, valueOf_insert, if_pos rfl]
      exact .tables hedited.agreeOn

end Settings

end TenantHost
