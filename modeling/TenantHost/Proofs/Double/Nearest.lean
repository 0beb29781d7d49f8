import TenantHost.Proofs.Double.Gaps
/-!
# The nearest double

What it is to be the double nearest to a quotient, said without rounding anything: every other
double is further away from the quotient, or as far away while the rank of this one is even. There
is one such double at most, since between two even ranks there is an odd one, and rounding finds it.
-/

namespace TenantHost.Double

/-- How far a magnitude is from a quotient, in parts of `2 ^ -1074` that the denominator cuts it
into. -/
def distance (num den rank : Nat) : Nat :=
  ((magnitude rank * den : Nat) - (num * twoTo 1074 : Nat) : Int).natAbs

/-- The double nearest to a quotient with a sign: any other one with that sign is further away, or
as far away and the rank of this one is even. -/
inductive IsNearest (negative : Bool) (num den : Nat) : Double → Prop where
  | intro (rank : Fin rankLimit)
      (nearest : ∀ other : Fin rankLimit, other ≠ rank →
        distance num den rank < distance num den other ∨
          distance num den rank = distance num den other ∧ rank.val % 2 = 0) :
      IsNearest negative num den (.finite negative rank)

section Ties

variable {num den : Nat}

/-- Magnitudes of different ranks lie on both sides of a quotient that is as far from the one as
from the other. -/
theorem enclosed_of_distance_eq {j k : Nat} (hden : 0 < den) (hlt : j < k)
    (h : distance num den j = distance num den k) :
    magnitude j * den < num * twoTo 1074 ∧ num * twoTo 1074 < magnitude k * den ∧
      2 * (num * twoTo 1074) = magnitude j * den + magnitude k * den := by
  have hmagnitude : magnitude j * den < magnitude k * den :=
    Nat.mul_lt_mul_of_pos_right (magnitude_lt_magnitude_iff.mpr hlt) hden
  unfold distance at h
  generalize num * twoTo 1074 = amount at h ⊢
  omega

/-- What a quotient is rounded to has an even rank if another rank is as near. -/
theorem even_nearestRank_of_tie {rank : Nat} (hden : 0 < den)
    (hne : rank ≠ nearestRank (num * twoTo 1074) den)
    (h : distance num den (nearestRank (num * twoTo 1074) den) = distance num den rank) :
    nearestRank (num * twoTo 1074) den % 2 = 0 := by
  obtain ⟨hlow, hhigh⟩ := @magnitude_nearestRank_near (num * twoTo 1074) den hden
  have hsteps := @magnitude_nearestRank_mul (num * twoTo 1074) den hden
  have hbelow := @step_below_nearestRank (num * twoTo 1074) den rank hden
  have habove := @step_above_nearestRank (num * twoTo 1074) den rank hden
  have hstep : 0 < den * twoTo (doublingsAt (num * twoTo 1074) den) :=
    Nat.mul_pos hden (twoTo_pos _)
  have hhalf := fun k => @roundQuotient_of_half (num * twoTo 1074) _ k hstep
  -- the rank and the number of steps are both even or both odd
  have hparity : nearestRank (num * twoTo 1074) den % 2
      = roundQuotient (num * twoTo 1074)
        (den * twoTo (doublingsAt (num * twoTo 1074) den)) % 2 := by
    rw [nearestRank_eq, twoTo_stretch]
    omega
  rw [hparity]
  generalize den * twoTo (doublingsAt (num * twoTo 1074) den) = step at *
  generalize roundQuotient (num * twoTo 1074) step = count at *
  have hdouble : (2 * count + 1) * step = 2 * (count * step) + step := by
    rw [Nat.succ_mul, Nat.mul_assoc]
  rcases Nat.lt_or_gt_of_ne hne with hlt | hgt
  · obtain ⟨hrank, hresult, hmiddle⟩ := enclosed_of_distance_eq hden hlt h.symm
    have hapart := hbelow hresult hlt
    cases count with
    | zero => rfl
    | succ count =>
      have hsucc : (count + 1) * step = count * step + step := Nat.succ_mul _ _
      have hbefore : (2 * count + 1) * step = 2 * (count * step) + step := by
        rw [Nat.succ_mul, Nat.mul_assoc]
      have hodd := hhalf count (by omega)
      omega
  · obtain ⟨hresult, hrank, hmiddle⟩ := enclosed_of_distance_eq hden hgt h
    have hapart := habove hresult hgt
    have heven := hhalf count (by omega)
    omega

/-- A rank between two that are as far from a quotient is nearer to it. -/
theorem distance_between_lt {j k : Nat} (hden : 0 < den) (hlt : j + 1 < k)
    (h : distance num den j = distance num den k) :
    distance num den (j + 1) < distance num den j := by
  obtain ⟨-, -, hmiddle⟩ := enclosed_of_distance_eq hden (Nat.lt_of_succ_lt hlt) h
  have hlow : magnitude j * den < magnitude (j + 1) * den :=
    Nat.mul_lt_mul_of_pos_right (magnitude_lt_magnitude_iff.mpr (Nat.lt_succ_self j)) hden
  have hhigh : magnitude (j + 1) * den < magnitude k * den :=
    Nat.mul_lt_mul_of_pos_right (magnitude_lt_magnitude_iff.mpr hlt) hden
  unfold distance
  generalize num * twoTo 1074 = amount at hmiddle ⊢
  omega

end Ties

/-- There is one nearest double at most. -/
theorem IsNearest.unique {negative : Bool} {num den : Nat} {d e : Double} (hden : 0 < den)
    (hd : IsNearest negative num den d) (he : IsNearest negative num den e) : d = e := by
  obtain ⟨j, hd⟩ := hd
  obtain ⟨k, he⟩ := he
  by_cases hsame : j = k
  · rw [hsame]
  · exfalso
    have hj := hd k (Ne.symm hsame)
    have hk := he j hsame
    have hne : j.val ≠ k.val := fun h => hsame (Fin.ext h)
    -- the two are as near, so both ranks are even and there is one between them
    have htie : distance num den j = distance num den k := by omega
    rcases Nat.lt_or_gt_of_ne hne with hlt | hgt
    · have hbetween := distance_between_lt hden (by omega : j.val + 1 < k.val) htie
      have hnearest := hd ⟨j.val + 1, by omega⟩ (by simp [Fin.ext_iff])
      simp only at hnearest
      omega
    · have hbetween := distance_between_lt hden (by omega : k.val + 1 < j.val) htie.symm
      have hnearest := he ⟨k.val + 1, by omega⟩ (by simp [Fin.ext_iff])
      simp only at hnearest
      omega

/-- **Rounding finds the nearest double**, if that is finite. -/
theorem isNearest_ofRatio {negative : Bool} {num den : Nat} (hden : 0 < den)
    (hfinite : nearestRank (num * twoTo 1074) den < rankLimit) :
    IsNearest negative num den (ofRatio negative num den) := by
  rw [ofRatio, ofRank, dif_pos hfinite]
  refine .intro _ ?_
  intro other hother
  have hne : other.val ≠ nearestRank (num * twoTo 1074) den := fun h => hother (Fin.ext h)
  have hnearest : distance num den (nearestRank (num * twoTo 1074) den)
      ≤ distance num den other :=
    nearestRank_nearest hden other
  rcases Nat.lt_or_eq_of_le hnearest with hlt | htie
  · exact .inl hlt
  · exact .inr ⟨htie, even_nearestRank_of_tie hden hne htie⟩

theorem isNearest_iff {negative : Bool} {num den : Nat} (hden : 0 < den)
    (hfinite : nearestRank (num * twoTo 1074) den < rankLimit) (d : Double) :
    IsNearest negative num den d ↔ d = ofRatio negative num den := by
  constructor
  · intro h
    exact h.unique hden (isNearest_ofRatio hden hfinite)
  · rintro rfl
    exact isNearest_ofRatio hden hfinite

end TenantHost.Double
