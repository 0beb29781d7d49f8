import TenantHost.Resource.Monitor
import TenantHost.Proofs.Number.Size
/-!
# Figures and what becomes of them

The readings of a query make a figure, or none, or the arithmetic on them fails. A finite figure is
rounded to hundredths unless it is too large for that, and a figure that is NaN or infinite is as
good as none.
-/

namespace TenantHost.Monitor

/-- What readings make: a figure, none, or a fault of the arithmetic on them. -/
abbrev Figure : Type := Except Fault (Option Number)

/-- What becomes of a figure: the answer that nothing is available where there is none or it is not
finite, the figure rounded to hundredths, or a fault where the arithmetic failed or the figure is
too large. -/
inductive Settles : Figure → Except Fault Double → Prop
  | missing : Settles (.ok none) (.ok unavailable)
  | unbounded {a : Number} : a.isAmount = false → Settles (.ok (some a)) (.ok unavailable)
  | rounded {a : Number} {d : Double} : a.isAmount = true → a.isTooLarge = false →
      a.roundHundredths? = some d → d.isFinite = true → Settles (.ok (some a)) (.ok d)
  | tooLarge {a : Number} {fault : Fault} :
    a.isTooLarge = true → Settles (.ok (some a)) (.error fault)
  | failed (fault : Fault) : Settles (.error fault) (.error fault)

/-- A figure that is none, or is not too large. -/
def Figure.isManageable : Figure → Bool
  | .ok none => true
  | .ok (some a) => !a.isTooLarge
  | .error _ => false

/-- **A query returns just when its figure is manageable.** -/
theorem Settles.isOk_eq {figure : Figure} {outcome : Except Fault Double}
    (h : Settles figure outcome) :
    outcome.isOk = figure.isManageable := by
  cases h with
  | missing => rfl
  | unbounded hamount =>
    rename_i a
    have hsmall : a.isTooLarge = false := by
      cases hlarge : a.isTooLarge with
      | false => rfl
      | true =>
        rw [Number.isAmount_of_isTooLarge hlarge] at hamount
        exact hamount
    rw [Figure.isManageable, hsmall]
    rfl
  | rounded hamount hsmall hround hfinite =>
    rw [Figure.isManageable, hsmall]
    rfl
  | tooLarge hlarge =>
    rw [Figure.isManageable, hlarge]
    rfl
  | failed fault => rfl

theorem isFinite_unavailable : unavailable.isFinite = true := by
  have hlimit : 1 < Double.conversionLimit :=
    Nat.lt_of_lt_of_le (by decide) Number.tenTo_le_conversionLimit
  rw [unavailable, Double.minusOne, Double.isFinite_ofInt]
  exact decide_eq_true hlimit

/-- A query that returns answers with a finite double. -/
theorem Settles.isFinite_of_ok {figure : Figure} {outcome : Except Fault Double} {d : Double}
    (h : Settles figure outcome) (hok : outcome = .ok d) : d.isFinite = true := by
  cases h with
  | missing =>
    rw [← Except.ok.inj hok]
    exact isFinite_unavailable
  | unbounded hamount =>
    rw [← Except.ok.inj hok]
    exact isFinite_unavailable
  | rounded hamount hsmall hround hfinite =>
    rw [← Except.ok.inj hok]
    exact hfinite
  | tooLarge hlarge => cases hok
  | failed fault => cases hok

/-! ## Rounding -/

theorem finite_eq (a : Number) :
    finite a = if a.isUnconvertible then .error (.overflow .conversion) else .ok a.isAmount := by
  unfold finite
  rw [Number.isFinite_eq]
  cases a.isUnconvertible <;> rfl

/-- An amount is rounded, or it is too large. -/
theorem rounded_settles {a : Number} (h : a.isAmount = true) :
    Settles (.ok (some a)) (rounded a) := by
  have hsome := Number.roundHundredths?_isSome h
  unfold rounded
  cases hround : a.roundHundredths? with
  | none =>
    rw [hround] at hsome
    exact .tooLarge (by simpa using hsome.symm)
  | some d =>
    rw [hround] at hsome
    refine .rounded h (by simpa using hsome.symm) hround ?_
    exact Number.isFinite_of_roundHundredths h hround

/-- **What is made of a figure settles it.** -/
theorem figure_settles (a : Number) : Settles (.ok (some a)) (figure a) := by
  unfold figure
  rw [finite_eq]
  cases hlarge : a.isUnconvertible with
  | true => exact .tooLarge (Number.isTooLarge_of_isUnconvertible hlarge)
  | false =>
    cases hamount : a.isAmount with
    | true => exact rounded_settles hamount
    | false => exact .unbounded hamount

/-- A figure that is computed first. -/
theorem bind_figure_settles (computed : Except Fault Number) :
    Settles (some <$> computed) (computed >>= figure) := by
  cases computed with
  | error fault => exact .failed fault
  | ok a => exact figure_settles a

/-! ## The figures of the queries -/

/-- The part of the memory that is in use, by the total and the available memory. There is none of a
total that is not positive, if that can be shown. -/
def usageFigure (memory : Number × Number) : Figure :=
  if memory.1.atMost (.int 0) then (shown memory.1).map fun _ => none
  else some <$> (difference memory.1 memory.2 >>= fun used => quotient used memory.1)

/-- A number of bytes in gigabytes. -/
def gigabytesFigure (bytes : Number) : Figure :=
  some <$> quotient bytes gigabyte

/-- A load; there is none that is negative. -/
def loadFigure (load : Number) : Figure :=
  (isLoad load).map fun valid => if valid then some load else none

/-- The part of the processors' time that is in use. -/
def processorsFigure (usage : Number) : Figure :=
  .ok (some usage)

/-- The part of the memory that is in use is made of the quotient of what is used. -/
theorem usedPart_eq (total available : Number) :
    usedPart total available
      = (difference total available >>= fun used => quotient used total) >>= figure := by
  rw [usedPart, bind_assoc]

theorem usedPart_settles {total available : Number} (h : total.atMost (.int 0) = false) :
    Settles (usageFigure (total, available)) (usedPart total available) := by
  rw [usedPart_eq, usageFigure, h]
  exact bind_figure_settles _

theorem inGigabytes_settles (bytes : Number) :
    Settles (gigabytesFigure bytes) (inGigabytes bytes) :=
  bind_figure_settles _

/-- A load is finite, so it is an amount. -/
theorem isAmount_of_isLoad {load : Number} (h : isLoad load = .ok true) : load.isAmount = true := by
  unfold isLoad at h
  rw [finite_eq] at h
  cases hlarge : load.isUnconvertible with
  | true =>
    rw [hlarge] at h
    cases h
  | false =>
    rw [hlarge] at h
    have hboth : (load.isAmount && Number.atMost (.int 0) load) = true := Except.ok.inj h
    exact (Bool.and_eq_true_iff.mp hboth).1

end TenantHost.Monitor
