import TenantHost.Number
/-!
# The order of numbers

Numbers other than NaN are ordered by where they stand, so that of two of them either one is less or
the other is at most it. With NaN every comparison is false.
-/

namespace TenantHost

/-! ## Places -/

namespace Double.Place

/-- What comes before a place comes before every place that is not before it. -/
theorem before_of_before_of_le {p q r : Place} (h : p.before q = true) (hle : r.before q = false) :
    p.before r = true := by
  cases p <;> cases q <;> cases r <;> simp only [before, decide_eq_true_eq, decide_eq_false_iff_not,
    Bool.true_eq_false, Bool.false_eq_true] at h hle ⊢
  omega

/-- A place that is not after one comes before all that the other comes before. -/
theorem before_of_le_of_before {p q r : Place} (hle : q.before p = false) (h : q.before r = true) :
    p.before r = true := by
  cases p <;> cases q <;> cases r <;> simp only [before, decide_eq_true_eq, decide_eq_false_iff_not,
    Bool.true_eq_false, Bool.false_eq_true] at h hle ⊢
  omega

theorem le_trans {p q r : Place} (hpq : q.before p = false) (hqr : r.before q = false) :
    r.before p = false := by
  cases hrp : r.before p with
  | false => rfl
  | true =>
    rw [before_of_before_of_le hrp hpq] at hqr
    exact hqr

/-- Between two amounts there are only amounts. -/
theorem exists_units_of_between {p : Place} {m n : Int} (hleast : p.before (.units m) = false)
    (hmost : p.before (.units n) = true) : ∃ k, p = .units k ∧ m ≤ k ∧ k < n := by
  cases p with
  | bottom => exact absurd hleast Bool.false_ne_true.symm
  | units k =>
    exact ⟨k, rfl, Int.not_lt.mp (of_decide_eq_false hleast), of_decide_eq_true hmost⟩
  | top => exact absurd hmost Bool.false_ne_true

/-- Of two places at most one comes before the other. -/
theorem before_asymm {p q : Place} (h : p.before q = true) : q.before p = false := by
  cases p <;> cases q <;> simp only [before, decide_eq_true_eq, decide_eq_false_iff_not,
    Bool.false_eq_true] at h ⊢
  omega

end Double.Place

/-! ## Numbers -/

namespace Number

theorem exists_place {d : Double} (h : d ≠ .nan) : ∃ p, (Number.real d).place? = some p := by
  cases d with
  | nan => exact absurd rfl h
  | infinity negative => exact ⟨_, rfl⟩
  | finite negative rank => exact ⟨_, rfl⟩

theorem less_of_places {a b : Number} {p q : Double.Place} (ha : a.place? = some p)
    (hb : b.place? = some q) : less a b = p.before q := by
  unfold less
  rw [ha, hb]

theorem atMost_of_places {a b : Number} {p q : Double.Place} (ha : a.place? = some p)
    (hb : b.place? = some q) : atMost a b = !q.before p := by
  unfold atMost
  rw [ha, hb]

/-- **A comparison of doubles other than NaN decides.** -/
theorem less_eq_not_atMost {d e : Double} (hd : d ≠ .nan) (he : e ≠ .nan) :
    less (.real d) (.real e) = !atMost (.real e) (.real d) := by
  obtain ⟨p, hp⟩ := exists_place hd
  obtain ⟨q, hq⟩ := exists_place he
  rw [less_of_places hp hq, atMost_of_places hq hp, Bool.not_not]

/-- What is less than a double is less than every one that is not below it. -/
theorem less_of_less_of_not_less {a b d : Double} (hd : d ≠ .nan)
    (h : less (.real a) (.real b) = true) (hle : less (.real d) (.real b) = false) :
    less (.real a) (.real d) = true := by
  obtain ⟨r, hr⟩ := exists_place hd
  unfold less at h
  split at h
  · rename_i p q hp hq
    rw [less_of_places hr hq] at hle
    rw [less_of_places hp hr]
    exact Double.Place.before_of_before_of_le h hle
  · exact absurd h Bool.false_ne_true

theorem exists_places_of_less {a b : Number} (h : less a b = true) :
    ∃ p q, a.place? = some p ∧ b.place? = some q ∧ p.before q = true := by
  unfold less at h
  split at h
  · rename_i p q hp hq
    exact ⟨p, q, hp, hq, h⟩
  · exact absurd h Bool.false_ne_true

theorem exists_places_of_atMost {a b : Number} (h : atMost a b = true) :
    ∃ p q, a.place? = some p ∧ b.place? = some q ∧ q.before p = false := by
  unfold atMost at h
  split at h
  · rename_i p q hp hq
    rw [Bool.not_eq_true'] at h
    exact ⟨p, q, hp, hq, h⟩
  · exact absurd h Bool.false_ne_true

theorem atMost_trans {a b c : Number} (hab : atMost a b = true) (hbc : atMost b c = true) :
    atMost a c = true := by
  obtain ⟨p, q, hp, hq, hqp⟩ := exists_places_of_atMost hab
  obtain ⟨q', r, hq', hr, hrq⟩ := exists_places_of_atMost hbc
  obtain rfl : q = q' := Option.some.inj (hq.symm.trans hq')
  rw [atMost_of_places hp hr, Double.Place.le_trans hqp hrq]
  rfl

theorem less_of_less_of_atMost {a b c : Number} (h : less a b = true) (hle : atMost b c = true) :
    less a c = true := by
  obtain ⟨p, q, hp, hq, hbefore⟩ := exists_places_of_less h
  obtain ⟨q', r, hq', hr, hnot⟩ := exists_places_of_atMost hle
  obtain rfl : q = q' := Option.some.inj (hq.symm.trans hq')
  rw [less_of_places hp hr]
  exact Double.Place.before_of_before_of_le hbefore hnot

theorem less_of_atMost_of_less {a b c : Number} (hle : atMost a b = true) (h : less b c = true) :
    less a c = true := by
  obtain ⟨p, q, hp, hq, hnot⟩ := exists_places_of_atMost hle
  obtain ⟨q', r, hq', hr, hbefore⟩ := exists_places_of_less h
  obtain rfl : q = q' := Option.some.inj (hq.symm.trans hq')
  rw [less_of_places hp hr]
  exact Double.Place.before_of_le_of_before hnot hbefore

/-- What is not less than a number is not less than one that is at most it. -/
theorem not_less_of_atMost_right {a b c : Number} (h : less a c = false) (hle : atMost b c = true) :
    less a b = false := by
  cases hless : less a b with
  | false => rfl
  | true =>
    rw [less_of_less_of_atMost hless hle] at h
    exact h

/-- A number that is not less than one leaves those that are at least it not less either. -/
theorem not_less_of_atMost_left {a b c : Number} (h : less a c = false) (hle : atMost a b = true) :
    less b c = false := by
  cases hless : less b c with
  | false => rfl
  | true =>
    rw [less_of_atMost_of_less hle hless] at h
    exact h

theorem less_asymm {a b : Number} (h : less a b = true) : less b a = false := by
  unfold less at h
  split at h
  · rename_i p q hp hq
    rw [less_of_places hq hp]
    exact Double.Place.before_asymm h
  · exact absurd h Bool.false_ne_true

theorem less_infinity (b : Double) : less (.real (.infinity false)) (.real b) = false := by
  cases b <;> rfl

end Number

end TenantHost
