import TenantHost.Rehearsal.Shell.Pattern
/-!
# What patterns match

A pattern is matched part by part, and a star gives back what the rest of the pattern needs. Which
texts it matches can be said without that search; and a word in quotes matches itself alone.
-/

namespace TenantHost.Rehearsal.Shell

namespace Pattern

/-- That a pattern matches a text: a star matches any stretch of it, every other part one
character. -/
inductive Matches : Pattern → List Char → Prop where
  | nil : Matches [] []
  | stretch (front : List Char) {rest : Pattern} {text : List Char} (h : Matches rest text) :
      Matches (.anyText :: rest) (front ++ text)
  | single {part : Matcher} {c : Char} {rest : Pattern} {text : List Char}
      (hpart : part ≠ .anyText) (hc : part.accepts c = true) (h : Matches rest text) :
      Matches (part :: rest) (c :: text)

/-- A star may take one more character. -/
theorem Matches.cons_stretch {rest : Pattern} {text : List Char}
    (h : Matches (.anyText :: rest) text) (c : Char) : Matches (.anyText :: rest) (c :: text) := by
  cases h with
  | stretch front hrest => exact .stretch (c :: front) hrest
  | single hpart => exact absurd rfl hpart

theorem matches_of_covers {pattern : Pattern} {text : List Char} (h : pattern.covers text = true) :
    Matches pattern text := by
  induction pattern, text using covers.induct with
  | case1 text =>
    rw [covers, List.isEmpty_iff] at h
    rw [h]
    exact .nil
  | case2 rest ih =>
    rw [covers] at h
    exact .stretch [] (ih h)
  | case3 rest c text ihrest ihmore =>
    rw [covers, Bool.or_eq_true] at h
    rcases h with hrest | hmore
    · exact .stretch [] (ihrest hrest)
    · exact (ihmore hmore).cons_stretch c
  | case4 part rest hpart =>
    rw [covers] at h
    · cases h
    · exact hpart
  | case5 part rest c text hpart ih =>
    rw [covers, Bool.and_eq_true] at h
    · exact .single hpart h.1 (ih h.2)
    · exact hpart

theorem covers_stretch {rest : Pattern} {text : List Char} (h : rest.covers text = true)
    (front : List Char) : covers (.anyText :: rest) (front ++ text) = true := by
  induction front with
  | nil =>
    cases text with
    | nil => rwa [List.nil_append, covers]
    | cons c text => rw [List.nil_append, covers, h, Bool.true_or]
  | cons c front ih => rw [List.cons_append, covers, ih, Bool.or_true]

/-- **A pattern is found to match just the texts that it matches.** -/
theorem covers_iff {pattern : Pattern} {text : List Char} :
    pattern.covers text = true ↔ Matches pattern text := by
  refine ⟨matches_of_covers, fun h => ?_⟩
  induction h with
  | nil => rw [covers, List.isEmpty_nil]
  | stretch front _ ih => exact covers_stretch ih front
  | single hpart hc _ ih =>
    rw [covers, hc, ih]
    · rfl
    · exact hpart

/-! ## Words in quotes -/

/-- The pattern of a word all of whose letters stood in quotes. -/
theorem ofLetters_quoted (text : List Char) :
    ofLetters (text.map fun c => (c, true)) = text.map Matcher.char := by
  rw [ofLetters, List.length_map]
  induction text with
  | nil => rfl
  | cons c rest ih => exact congrArg (Matcher.char c :: ·) ih

theorem matches_chars_iff {word text : List Char} :
    Matches (word.map Matcher.char) text ↔ text = word := by
  induction word generalizing text with
  | nil =>
    constructor
    · intro h
      cases h
      rfl
    · rintro rfl
      exact .nil
  | cons c rest ih =>
    constructor
    · intro h
      cases h with
      | single _ hc hrest =>
        have hsame := ih.mp hrest
        simp only [Matcher.accepts, beq_iff_eq] at hc
        rw [hc, hsame]
    · rintro rfl
      exact .single (fun h => by cases h) (beq_self_eq_true c) (ih.mpr rfl)

/-- **A word in quotes matches itself alone**, whatever characters it has. -/
theorem covers_quoted_iff {word text : List Char} :
    (ofLetters (word.map fun c => (c, true))).covers text = true ↔ text = word := by
  rw [covers_iff, ofLetters_quoted, matches_chars_iff]

/-! ## Cutting off what matches -/

/-- What is found first in an ordered list comes before everything else that would do. -/
theorem find?_first {α : Type} {R : α → α → Prop} {items : List α}
    {p : α → Bool} {a : α} (hordered : items.Pairwise R) (h : items.find? p = some a) :
    p a = true ∧ ∀ b ∈ items, p b = true → b = a ∨ R a b := by
  obtain ⟨ha, before, behind, rfl, hbefore⟩ := List.find?_eq_some_iff_append.mp h
  refine ⟨ha, fun b hb hpb => ?_⟩
  rcases List.mem_append.mp hb with hfront | hback
  · have hnot := hbefore b hfront
    rw [hpb] at hnot
    cases hnot
  · rcases List.mem_cons.mp hback with rfl | hbehind
    · exact .inl rfl
    · exact .inr ((List.pairwise_cons.mp (List.pairwise_append.mp hordered).2.1).1 b hbehind)

/-- **The longest or the shortest front that matches is cut off**, and nothing if none does. -/
theorem cutFront_spec (pattern : Pattern) (longest : Bool) (text : List Char) :
    (∃ n, pattern.cutFront longest text = text.drop n ∧ Matches pattern (text.take n) ∧
        ∀ m ≤ text.length, Matches pattern (text.take m) →
          if longest then m ≤ n else n ≤ m) ∨
      pattern.cutFront longest text = text ∧
        ∀ m ≤ text.length, ¬ Matches pattern (text.take m) := by
  have hordered : (lengths text).Pairwise (· < ·) := List.pairwise_lt_range
  have hmem : ∀ {m}, m ≤ text.length → m ∈ lengths text := fun hm =>
    List.mem_range.mpr (Nat.lt_succ_of_le hm)
  unfold cutFront
  cases longest with
  | true =>
    simp only [if_true]
    cases hfound : (lengths text).reverse.find? fun n => pattern.covers (text.take n) with
    | none =>
      refine .inr ⟨rfl, fun m hm hmatches => ?_⟩
      have hnot := List.find?_eq_none.mp hfound m (List.mem_reverse.mpr (hmem hm))
      exact hnot (covers_iff.mpr hmatches)
    | some n =>
      obtain ⟨hn, hfirst⟩ := find?_first (List.pairwise_reverse.mpr hordered) hfound
      refine .inl ⟨n, rfl, covers_iff.mp hn, fun m hm hmatches => ?_⟩
      rcases hfirst m (List.mem_reverse.mpr (hmem hm)) (covers_iff.mpr hmatches) with rfl | hless
      · exact Nat.le_refl _
      · exact Nat.le_of_lt hless
  | false =>
    simp only [Bool.false_eq_true, if_false]
    cases hfound : (lengths text).find? fun n => pattern.covers (text.take n) with
    | none =>
      refine .inr ⟨rfl, fun m hm hmatches => ?_⟩
      exact List.find?_eq_none.mp hfound m (hmem hm) (covers_iff.mpr hmatches)
    | some n =>
      obtain ⟨hn, hfirst⟩ := find?_first hordered hfound
      refine .inl ⟨n, rfl, covers_iff.mp hn, fun m hm hmatches => ?_⟩
      rcases hfirst m (hmem hm) (covers_iff.mpr hmatches) with rfl | hless
      · exact Nat.le_refl _
      · exact Nat.le_of_lt hless

end Pattern

end TenantHost.Rehearsal.Shell
