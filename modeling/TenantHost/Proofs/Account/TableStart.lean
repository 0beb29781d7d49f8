import Mathlib.Data.List.Forall2
import TenantHost.Account.NetTable
/-!
# Where the table of a listing begins

The scan for the row of dashes counts dashes at one place of a row, once for each character of the
row. That comes to a look at two characters: the first one, and the one at the row's own place in
the listing. So the first row that begins with a dash, and has a dash at its own place or ends
before it, settles where the table begins, and what stands in rows that do not begin with a dash
makes no difference.
-/

namespace TenantHost.Account

/-- A row that begins with a dash. -/
def IsDashed (row : List Char) : Prop :=
  row[0]? = some '-'

/-- A row that settles the scan where it stands: it begins with a dash, and it has a dash at its own
place or ends before it. -/
def Decides (place : Nat) (row : List Char) : Prop :=
  IsDashed row ∧ (row[place]? = some '-' ∨ row.length ≤ place)

instance (row : List Char) : Decidable (IsDashed row) :=
  inferInstanceAs (Decidable (_ = _))

instance (place : Nat) (row : List Char) : Decidable (Decides place row) :=
  inferInstanceAs (Decidable (_ ∧ _))

/-- The first row of a listing that settles the scan, and its place. -/
structure FirstToDecide (rows : List (List Char)) (place : Nat) (row : List Char) : Prop where
  stands : rows[place]? = some row
  decides : Decides place row
  undecided : ∀ earlier < place, ∀ other, rows[earlier]? = some other →
    ¬ Decides earlier other

/-! ## One row -/

/-- Counting dashes at one place, once for each character of a row. -/
theorem foldlM_count (c : Char) (row : List Char) (start : Nat) :
    row.foldlM
        (fun count _ => (.ok (if c = '-' then count + 1 else count) : Except Fault Nat)) start
      = .ok (if c = '-' then start + row.length else start) := by
  induction row generalizing start with
  | nil => split <;> rfl
  | cons d row ih =>
    rw [List.foldlM_cons]
    show row.foldlM _ (if c = '-' then start + 1 else start) = _
    rw [ih]
    split
    · rw [List.length_cons, Nat.add_assoc, Nat.add_comm 1]
    · rfl

theorem dashCount_of_undashed {row : List Char} (h : row.head? ≠ some '-') (place : Nat) :
    dashCount place row = .ok 0 := by
  rw [dashCount, if_neg h]

/-- A dashed row counts all its characters or none, as the one at the place is a dash or not. -/
theorem dashCount_of_dashed {row : List Char} (h : row.head? = some '-') {place : Nat} {c : Char}
    (hc : row[place]? = some c) :
    dashCount place row = .ok (if c = '-' then row.length else 0) := by
  simp only [dashCount, if_pos h, hc]
  rw [foldlM_count, Nat.zero_add]

theorem isDashed_iff_head (row : List Char) : IsDashed row ↔ row.head? = some '-' := by
  rw [IsDashed, List.head?_eq_getElem?]

theorem IsDashed.ne_nil {row : List Char} (h : IsDashed row) : row ≠ [] := by
  rintro rfl
  cases h

/-- In a dashed row that ends before the place, not even one comparison can be made. -/
theorem dashCount_of_short {row : List Char} (h : IsDashed row) {place : Nat}
    (hshort : row.length ≤ place) :
    dashCount place row = .error .beyondLine := by
  have hnone : row[place]? = none := List.getElem?_eq_none hshort
  simp only [dashCount, if_pos ((isDashed_iff_head row).mp h), hnone]
  cases row with
  | nil => cases h
  | cons c row => rfl

/-- A comparison fails just if the row begins with a dash and ends before its place. -/
theorem dashCount_eq_error_iff (place : Nat) (row : List Char) (fault : Fault) :
    dashCount place row = .error fault ↔ IsDashed row ∧ row.length ≤ place ∧
      fault = .beyondLine := by
  constructor
  · intro h
    by_cases hdashed : IsDashed row
    · rcases hplace : row[place]? with _ | c
      · have hshort := List.getElem?_eq_none_iff.mp hplace
        rw [dashCount_of_short hdashed hshort] at h
        exact ⟨hdashed, hshort, (Except.error.inj h).symm⟩
      · rw [dashCount_of_dashed ((isDashed_iff_head row).mp hdashed) hplace] at h
        cases h
    · rw [dashCount_of_undashed (mt (isDashed_iff_head row).mpr hdashed)] at h
      cases h
  · rintro ⟨hdashed, hshort, rfl⟩
    exact dashCount_of_short hdashed hshort

/-- **Counting is looking at two characters**: all characters of a row are counted just if the first
one and the one at the place are dashes. -/
theorem dashCount_eq_length_iff (place : Nat) {row : List Char} (hne : row ≠ []) :
    dashCount place row = .ok row.length ↔ IsDashed row ∧ row[place]? = some '-' := by
  have hlength : ¬ 0 = row.length := fun h => hne (List.length_eq_zero_iff.mp h.symm)
  by_cases hdashed : IsDashed row
  · rcases hplace : row[place]? with _ | c
    · rw [dashCount_of_short hdashed (List.getElem?_eq_none_iff.mp hplace)]
      simp
    · rw [dashCount_of_dashed ((isDashed_iff_head row).mp hdashed) hplace, Except.ok.injEq]
      by_cases hc : c = '-'
      · simp [hc, hdashed]
      · simp [hc, hlength]
  · rw [dashCount_of_undashed (mt (isDashed_iff_head row).mpr hdashed), Except.ok.injEq]
    simp [hdashed, hlength]

/-! ## The scan, row by row -/

/-- A row that decides ends the scan: the table starts behind it, or it has no such place. -/
theorem tableStartFrom_of_decides {place : Nat} {row : List Char} (h : Decides place row)
    (rest : List (List Char)) :
    tableStartFrom place (row :: rest)
      = if row.length ≤ place then .error .beyondLine else .ok (place + 1) := by
  have hne := h.1.ne_nil
  rw [tableStartFrom, if_neg hne]
  by_cases hshort : row.length ≤ place
  · rw [dashCount_of_short h.1 hshort, if_pos hshort]
  · have hcount := (dashCount_eq_length_iff place hne).mpr ⟨h.1, h.2.resolve_right hshort⟩
    rw [hcount, if_neg hshort]
    exact if_pos rfl

/-- A row that does not decide is passed over. -/
theorem tableStartFrom_of_not_decides {place : Nat} {row : List Char} (h : ¬ Decides place row)
    (rest : List (List Char)) :
    tableStartFrom place (row :: rest) = tableStartFrom (place + 1) rest := by
  rw [tableStartFrom]
  split
  · rfl
  · next hne =>
    -- a comparison that fails, or a full count, would make the row decide
    rcases hcount : dashCount place row with fault | count
    · obtain ⟨hdashed, hshort, -⟩ := (dashCount_eq_error_iff place row fault).mp hcount
      exact absurd ⟨hdashed, .inr hshort⟩ h
    · refine if_neg ?_
      rintro rfl
      obtain ⟨hdashed, hplace⟩ := (dashCount_eq_length_iff place hne).mp hcount
      exact h ⟨hdashed, .inl hplace⟩

/-- Rows that do not decide are passed over. -/
theorem tableStartFrom_append_of_undecided {front : List (List Char)} {place : Nat}
    (h : ∀ i row, front[i]? = some row → ¬ Decides (place + i) row) (rest : List (List Char)) :
    tableStartFrom place (front ++ rest) = tableStartFrom (place + front.length) rest := by
  induction front generalizing place with
  | nil => rfl
  | cons row front ih =>
    have hrow : ¬ Decides place row := h 0 row rfl
    have hfront : ∀ i other, front[i]? = some other → ¬ Decides (place + 1 + i) other := by
      intro i other hother
      rw [Nat.add_right_comm]
      exact h (i + 1) other hother
    rw [List.cons_append, tableStartFrom_of_not_decides hrow, ih hfront, List.length_cons,
      Nat.add_right_comm, Nat.add_assoc]

/-! ## The whole scan -/

/-- A listing has a first row that decides, or none that does. -/
theorem exists_firstToDecide_or (rows : List (List Char)) :
    (∃ place row, FirstToDecide rows place row) ∨
      ∀ place row, rows[place]? = some row → ¬ Decides place row := by
  by_cases hfirst : ∃ place row, FirstToDecide rows place row
  · exact .inl hfirst
  · right
    -- a row that decides, and none before it does, would be the first one
    intro place
    induction place using Nat.strongRecOn with
    | ind place ih =>
      intro row hrow hdecides
      exact hfirst ⟨place, row, hrow, hdecides, ih⟩

theorem tableStart_of_first {rows : List (List Char)} {place : Nat} {row : List Char}
    (h : FirstToDecide rows place row) :
    tableStart rows = if row.length ≤ place then .error .beyondLine else .ok (place + 1) := by
  obtain ⟨hplace, hrow⟩ := List.getElem?_eq_some_iff.mp h.stands
  have hfront : ∀ i other, (rows.take place)[i]? = some other → ¬ Decides (0 + i) other := by
    intro i other hother
    rw [List.getElem?_take] at hother
    split at hother
    · next hi =>
      rw [Nat.zero_add]
      exact h.undecided i hi other hother
    · cases hother
  have hlength : (rows.take place).length = place := List.length_take_of_le (Nat.le_of_lt hplace)
  -- the rows in front are passed over, so the scan meets this row with the row's own place
  rw [tableStart, ← List.take_append_drop place rows, tableStartFrom_append_of_undecided hfront,
    List.drop_eq_getElem_cons hplace, hrow, hlength, Nat.zero_add,
      tableStartFrom_of_decides h.decides]

theorem tableStart_of_undecided {rows : List (List Char)}
    (h : ∀ place row, rows[place]? = some row → ¬ Decides place row) :
    tableStart rows = .ok 0 := by
  have hrows : ∀ i row, rows[i]? = some row → ¬ Decides (0 + i) row := by
    intro i row hrow
    rw [Nat.zero_add]
    exact h i row hrow
  have hpass := tableStartFrom_append_of_undecided hrows []
  rw [List.append_nil] at hpass
  rw [tableStart, hpass]
  rfl

/-- The table starts behind a row of the listing, if anywhere. -/
theorem tableStart_le_length {rows : List (List Char)} {n : Nat} (h : tableStart rows = .ok n) :
    n ≤ rows.length := by
  rcases exists_firstToDecide_or rows with ⟨place, row, hfirst⟩ | hnone
  · rw [tableStart_of_first hfirst] at h
    split at h
    · cases h
    · cases h
      exact (List.getElem?_eq_some_iff.mp hfirst.stands).1
  · rw [tableStart_of_undecided hnone] at h
    cases h
    exact Nat.zero_le _

/-- The table starts at place 0 just if no row decides. -/
theorem tableStart_eq_zero_iff (rows : List (List Char)) :
    tableStart rows = .ok 0 ↔ ∀ place row, rows[place]? = some row →
      ¬ Decides place row := by
  refine ⟨fun h => ?_, tableStart_of_undecided⟩
  rcases exists_firstToDecide_or rows with ⟨place, row, hfirst⟩ | hnone
  · rw [tableStart_of_first hfirst] at h
    split at h
    · cases h
    · cases h
  · exact hnone

/-! ## Rows that make no difference -/

/-- Two rows that stand for each other in a scan: the same one, or two that do not begin with a
dash. -/
def SameIfDashed (row other : List Char) : Prop :=
  IsDashed row ∨ IsDashed other → row = other

/-- Rows that do not begin with a dash may be others of that kind. -/
theorem tableStartFrom_eq_of_sameIfDashed {rows others : List (List Char)}
    (h : List.Forall₂ SameIfDashed rows others) (place : Nat) :
    tableStartFrom place others = tableStartFrom place rows := by
  induction h generalizing place with
  | nil => rfl
  | @cons row other rows others hrow hrows ih =>
    by_cases hdashed : IsDashed row ∨ IsDashed other
    · rw [hrow hdashed, tableStartFrom, tableStartFrom, ih]
    · obtain ⟨hundashed, hundashed'⟩ := not_or.mp hdashed
      rw [tableStartFrom_of_not_decides fun h => hundashed' h.1,
        tableStartFrom_of_not_decides fun h => hundashed h.1, ih]

/-- **The scan is a look at two characters of each row.** It is settled by the first row that begins
with a dash and has a dash at its own place or ends before it; without such a row the table starts
at place 0. Rows that do not begin with a dash never matter. -/
theorem tableStart_settled (rows : List (List Char)) :
    (∀ place row, FirstToDecide rows place row →
      tableStart rows = if row.length ≤ place then .error .beyondLine else .ok (place + 1)) ∧
    (tableStart rows = .ok 0 ↔ ∀ place row, rows[place]? = some row →
      ¬ Decides place row) ∧
    (∀ place row, row ≠ [] →
      (dashCount place row = .ok row.length ↔ row[0]? = some '-' ∧ row[place]? = some '-')) ∧
    (∀ others, List.Forall₂ SameIfDashed rows others →
      tableStart others = tableStart rows) ∧
    ∀ n, tableStart rows = .ok n → 0 < n → 1 ≤ n ∧ n ≤ rows.length := by
  refine ⟨fun place row => tableStart_of_first, tableStart_eq_zero_iff rows, ?_, ?_, ?_⟩
  · intro place row hne
    exact dashCount_eq_length_iff place hne
  · intro others hothers
    exact tableStartFrom_eq_of_sameIfDashed hothers 0
  · intro n hstart hn
    exact ⟨hn, tableStart_le_length hstart⟩

/-- A listing whose dashed row at place 1 has another character there, and whose next one is too
short. -/
def shortDashes : List (List Char) :=
  ["Users".toList, "-x-----".toList, "--".toList, "-------".toList]

theorem tableStart_settled_of_shortDashes :
    FirstToDecide shortDashes 2 "--".toList ∧ tableStart shortDashes = .error .beyondLine ∧
      tableStart (shortDashes.set 0 []) = .error .beyondLine := by
  have hfirst : FirstToDecide shortDashes 2 "--".toList := by
    refine ⟨rfl, by decide, fun earlier hearlier other hother => ?_⟩
    match earlier, hearlier, hother with
    | 0, _, rfl => decide
    | 1, _, rfl => decide
  have hothers : List.Forall₂ SameIfDashed shortDashes (shortDashes.set 0 []) := by
    refine .cons ?_ (List.forall₂_same.mpr fun row _ _ => rfl)
    rintro (hdashed | hdashed)
    · exact absurd hdashed (by decide)
    · exact absurd hdashed (by decide)
  obtain ⟨hsettled, -, -, halike, -⟩ := tableStart_settled shortDashes
  have hstart : tableStart shortDashes = .error .beyondLine := hsettled 2 _ hfirst
  exact ⟨hfirst, hstart, by rw [halike _ hothers, hstart]⟩

end TenantHost.Account
