import TenantHost.Number
import TenantHost.Proofs.Double.Hundredths
/-!
# The size of a number

An amount is a number that is neither NaN nor infinite. Rounding to hundredths is refused for
amounts from `10 ^ 26` on, integers and doubles alike. An integer becomes a double unless it lies at
least halfway between the greatest double and the next power of two.
-/

namespace TenantHost

/-! ## Integers that are no doubles -/

namespace Double

/-- The least magnitude of an integer that is rounded beyond the finite doubles: `2 ^ 1024 - 2 ^
970`. -/
@[irreducible] def conversionLimit : Nat := twoTo 1024 - twoTo 970

/-- The integer below the limit is rounded to the greatest finite double, the limit itself, a half,
beyond. It is far greater than the amounts from which rounding to hundredths is refused. -/
theorem conversionLimit_values :
    nearestRank ((conversionLimit - 1) * twoTo 1074) 1 < rankLimit ∧
      rankLimit ≤ nearestRank (conversionLimit * twoTo 1074) 1 ∧
        tenTo 26 ≤ conversionLimit := by
  decide +kernel

theorem nearestRank_lt_rankLimit_iff {n : Nat} :
    nearestRank (n * twoTo 1074) 1 < rankLimit ↔ n < conversionLimit := by
  obtain ⟨hbelow, hlimit, -⟩ := conversionLimit_values
  have hmono : ∀ {m n : Nat}, m ≤ n →
      nearestRank (m * twoTo 1074) 1 ≤ nearestRank (n * twoTo 1074) 1 := by
    intro m n h
    exact nearestRank_mono Nat.one_pos Nat.one_pos
      (Nat.mul_le_mul_right 1 (Nat.mul_le_mul_right _ h))
  constructor
  · intro h
    rcases Nat.lt_or_ge n conversionLimit with hlt | hge
    · exact hlt
    · exact absurd (Nat.le_trans hlimit (hmono hge)) (Nat.not_le.mpr h)
  · intro h
    have hle : n ≤ conversionLimit - 1 := Nat.le_pred_of_lt h
    exact Nat.lt_of_le_of_lt (hmono hle) hbelow

theorem isFinite_ofRank (negative : Bool) (rank : Nat) :
    (ofRank negative rank).isFinite = decide (rank < rankLimit) := by
  unfold ofRank
  by_cases h : rank < rankLimit
  · rw [dif_pos h, decide_eq_true h]
    rfl
  · rw [dif_neg h, decide_eq_false h]
    rfl

/-- **Which integers become finite doubles.** -/
theorem isFinite_ofInt (n : Int) : (ofInt n).isFinite = decide (n.natAbs < conversionLimit) := by
  unfold ofInt ofRatio
  rw [isFinite_ofRank]
  exact decide_eq_decide.mpr nearestRank_lt_rankLimit_iff

end Double

/-! ## Amounts -/

namespace Number

/-- Whether a number is neither NaN nor infinite. -/
def isAmount (a : Number) : Bool :=
  match a.place? with
  | some (.units _) => true
  | _ => false

/-- Whether a number is an amount of magnitude `10 ^ 26` or more. -/
def isTooLarge (a : Number) : Bool :=
  match a.place? with
  | some (.units n) => Double.refusedFrom ≤ n.natAbs
  | _ => false

/-- Whether a number is an integer that no finite double is nearest to. -/
def isUnconvertible : Number → Bool
  | .int n => Double.conversionLimit ≤ n.natAbs
  | .real _ => false

theorem place?_int (n : Int) : (Number.int n).place? = some (.units (n * twoTo 1074)) :=
  rfl

theorem place?_finite (negative : Bool) (rank : Fin Double.rankLimit) :
    (Number.real (.finite negative rank)).place?
      = some (.units (Double.signed negative (Double.magnitude rank))) :=
  rfl

theorem isTooLarge_of_units {a : Number} {n : Int} (h : a.place? = some (.units n)) :
    a.isTooLarge = decide (Double.refusedFrom ≤ n.natAbs) := by
  unfold isTooLarge
  rw [h]

theorem isTooLarge_of_lt {a : Number} {n : Int} (h : a.place? = some (.units n))
    (hsmall : n.natAbs < Double.refusedFrom) : a.isTooLarge = false := by
  rw [isTooLarge_of_units h]
  exact decide_eq_false (Nat.not_le.mpr hsmall)

theorem isAmount_of_units {a : Number} {n : Int} (h : a.place? = some (.units n)) :
    a.isAmount = true := by
  unfold isAmount
  rw [h]

theorem isAmount_of_isTooLarge {a : Number} (h : a.isTooLarge = true) : a.isAmount = true := by
  unfold isTooLarge at h
  split at h
  · rename_i hplace
    exact isAmount_of_units hplace
  · exact absurd h Bool.false_ne_true

theorem le_natAbs_mul_iff {k unit : Nat} {n : Int} (h : 0 < unit) :
    k * unit ≤ (n * (unit : Int)).natAbs ↔ k ≤ n.natAbs := by
  rw [Int.natAbs_mul, Int.natAbs_natCast]
  exact Nat.mul_le_mul_right_iff h

theorem isTooLarge_int (n : Int) : (Number.int n).isTooLarge = decide (tenTo 26 ≤ n.natAbs) := by
  have hunits := isTooLarge_of_units (place?_int n)
  have hpos := twoTo_pos 1074
  unfold Double.refusedFrom at hunits
  generalize twoTo 1074 = unit at hunits hpos
  rw [hunits]
  exact decide_eq_decide.mpr (le_natAbs_mul_iff hpos)

theorem natAbs_signed (negative : Bool) (amount : Nat) :
    (Double.signed negative amount).natAbs = amount := by
  cases negative
  · exact Int.natAbs_natCast amount
  · exact (Int.natAbs_neg _).trans (Int.natAbs_natCast amount)

theorem isTooLarge_finite (negative : Bool) (rank : Fin Double.rankLimit) :
    (Number.real (.finite negative rank)).isTooLarge
      = decide (Double.refusedFrom ≤ Double.magnitude rank) := by
  rw [isTooLarge_of_units (place?_finite negative rank), natAbs_signed]

theorem isAmount_real (d : Double) : (Number.real d).isAmount = d.isFinite := by
  cases d with
  | nan => rfl
  | infinity negative => cases negative <;> rfl
  | finite negative rank => rfl

/-! ## As doubles -/

theorem toDouble_int (n : Int) :
    (Number.int n).toDouble
      = if n.natAbs < Double.conversionLimit then .ok (Double.ofInt n) else .error .conversion := by
  show within .conversion (Double.ofInt n) = _
  simp only [within, Double.isFinite_ofInt, decide_eq_true_eq]

/-- A double is divided by the double of the other number. -/
theorem div_real (d : Double) (b : Number) : Number.div (.real d) b = d.div <$> b.toDouble := by
  unfold Number.div
  cases b with
  | int n =>
    show (Except.ok d >>= fun x => (Number.int n).toDouble >>= fun y => pure (x.div y)) = _
    generalize (Number.int n).toDouble = unit
    cases unit <;> rfl
  | real e => rfl

/-- A number is asked whether it is finite by way of its double. -/
theorem isFinite_eq (a : Number) :
    a.isFinite = if a.isUnconvertible then .error .conversion else .ok a.isAmount := by
  cases a with
  | int n =>
    show ((Number.int n).toDouble >>= fun d => pure d.isFinite) = _
    rw [toDouble_int]
    by_cases h : n.natAbs < Double.conversionLimit
    · have hconvertible : (Number.int n).isUnconvertible = false := by
        exact decide_eq_false (Nat.not_le.mpr h)
      rw [if_pos h, hconvertible]
      show Except.ok (Double.ofInt n).isFinite = _
      rw [Double.isFinite_ofInt, decide_eq_true h]
      rfl
    · have hunconvertible : (Number.int n).isUnconvertible = true := by
        exact decide_eq_true (Nat.not_lt.mp h)
      rw [if_neg h, hunconvertible]
      rfl
  | real d =>
    show Except.ok d.isFinite = Except.ok (Number.real d).isAmount
    rw [isAmount_real]

theorem tenTo_le_conversionLimit : tenTo 26 ≤ Double.conversionLimit :=
  Double.conversionLimit_values.2.2

theorem isTooLarge_of_isUnconvertible {a : Number} (h : a.isUnconvertible = true) :
    a.isTooLarge = true := by
  cases a with
  | int n =>
    rw [isTooLarge_int]
    exact decide_eq_true (Nat.le_trans tenTo_le_conversionLimit (of_decide_eq_true h))
  | real d => exact absurd h Bool.false_ne_true

theorem isUnconvertible_of_not_isTooLarge {a : Number} (h : a.isTooLarge = false) :
    a.isUnconvertible = false := by
  cases hlarge : a.isUnconvertible with
  | false => rfl
  | true =>
    rw [isTooLarge_of_isUnconvertible hlarge] at h
    exact h

/-! ## Rounded to hundredths -/

/-- What lies below `10 ^ 26` is rounded to a finite double. -/
theorem isFinite_of_ofHundredths {negative : Bool} {count : Nat} {d : Double}
    (h : Double.ofHundredths? negative count = some d) : d.isFinite = true := by
  unfold Double.ofHundredths? at h
  split at h
  · rename_i hcount
    have hdecimal : count * tenTo 1072 ≤ Double.refusedDecimal + 5 * tenTo 1071 := by
      rw [Double.refusedDecimal_add]
      exact Nat.mul_le_mul_right _ (Nat.le_of_lt hcount)
    rw [← Option.some.inj h, Double.isFinite_ofRank]
    apply decide_eq_true
    exact Nat.lt_of_le_of_lt (Double.rankOfDecimal_mono hdecimal) Double.rankOfDecimal_lt_rankLimit
  · exact absurd h (Option.some_ne_none d).symm

/-- **An amount is rounded to hundredths just when it is not too large.** -/
theorem roundHundredths?_isSome {a : Number} (h : a.isAmount = true) :
    a.roundHundredths?.isSome = !a.isTooLarge := by
  have hround : ∀ negative count, (Double.ofHundredths? negative count).isSome
      = decide (count < Double.hundredthsLimit) := by
    intro negative count
    unfold Double.ofHundredths?
    by_cases hcount : count < Double.hundredthsLimit
    · rw [if_pos hcount, decide_eq_true hcount]
      rfl
    · rw [if_neg hcount, decide_eq_false hcount]
      rfl
  cases a with
  | int n =>
    rw [isTooLarge_int, roundHundredths?, hround, ← decide_not]
    apply decide_eq_decide.mpr
    have hlimit : Double.hundredthsLimit = 100 * tenTo 26 := by
      rw [Double.hundredthsLimit, tenTo_succ 27, tenTo_succ 26]
      omega
    rw [hlimit]
    omega
  | real d =>
    cases d with
    | nan => exact absurd h Bool.false_ne_true
    | infinity negative => cases negative <;> exact absurd h Bool.false_ne_true
    | finite negative rank =>
      rw [isTooLarge_finite, roundHundredths?, Double.roundHundredths?, hround, ← decide_not]
      apply decide_eq_decide.mpr
      rw [Double.hundredths_shortest_lt_limit_iff]
      exact Nat.not_le.symm

/-- An amount below `10 ^ 26` is rounded. -/
theorem exists_roundHundredths {a : Number} (h : a.isAmount = true)
    (hsmall : a.isTooLarge = false) :
    ∃ d, a.roundHundredths? = some d := by
  apply Option.isSome_iff_exists.mp
  rw [roundHundredths?_isSome h, hsmall]
  rfl

/-- An amount is rounded to a finite double. -/
theorem isFinite_of_roundHundredths {a : Number} {d : Double} (h : a.isAmount = true)
    (hround : a.roundHundredths? = some d) : d.isFinite = true := by
  cases a with
  | int n => exact isFinite_of_ofHundredths hround
  | real e =>
    cases e with
    | nan => exact absurd h Bool.false_ne_true
    | infinity negative => cases negative <;> exact absurd h Bool.false_ne_true
    | finite negative rank => exact isFinite_of_ofHundredths hround

end Number

end TenantHost
