import TenantHost.Text.Lines
/-!
# Writing lines and cutting them again

A text of lines, each with its line end behind it, is cut into just these lines, and the empty ones
at its end are dropped. Lines with one line end between two of them come back too. Bringing the line
ends `\r\n` of such a text to `\n` changes nothing inside the lines.
-/

namespace TenantHost.Text

/-- Lines one after the other, each with the line end behind it. -/
def closed (lineEnd : List Char) (ls : List (List Char)) : List Char :=
  ls.flatMap (· ++ lineEnd)

@[simp] theorem closed_nil (lineEnd : List Char) : closed lineEnd [] = [] := rfl

@[simp] theorem closed_cons (lineEnd l : List Char) (ls : List (List Char)) :
    closed lineEnd (l :: ls) = l ++ lineEnd ++ closed lineEnd ls := rfl

/-- A line end of two characters leaves the first one at the end of the line. -/
theorem closed_crlf (ls : List (List Char)) :
    closed ['\r', '\n'] ls = closed ['\n'] (ls.map (· ++ ['\r'])) := by
  induction ls with
  | nil => rfl
  | cons l ls ih =>
    simp [ih]

/-! ## Cutting -/

/-- A text without line ends is its own only line. -/
theorem fields_of_unbroken {l : List Char} (h : '\n' ∉ l) : fields (· == '\n') l = [l] := by
  apply fields_eq_singleton
  rintro c hc
  refine beq_eq_false_iff_ne.mpr ?_
  rintro rfl
  exact h hc

/-- Cutting a closed text gives its lines and the empty rest behind the last line end. -/
theorem fields_closed {ls : List (List Char)} (h : ∀ l ∈ ls, '\n' ∉ l) :
    fields (· == '\n') (closed ['\n'] ls) = ls ++ [[]] := by
  induction ls with
  | nil => rfl
  | cons l ls ih =>
    have hrest := ih fun k hk => h k (List.mem_cons_of_mem _ hk)
    simp [fields_of_unbroken (h l List.mem_cons_self), hrest]

/-- Cutting undoes joining, if there is a line at all: the empty text has one. -/
theorem fields_intercalate {ls : List (List Char)} (hne : ls ≠ [])
    (h : ∀ l ∈ ls, '\n' ∉ l) :
    fields (· == '\n') (List.intercalate ['\n'] ls) = ls := by
  induction ls with
  | nil => exact absurd rfl hne
  | cons l ls ih =>
    have hl := fields_of_unbroken (h l List.mem_cons_self)
    cases ls with
    | nil => simpa using hl
    | cons next ls =>
      have hrest := ih (List.cons_ne_nil _ _) fun k hk => h k (List.mem_cons_of_mem _ hk)
      simp [List.intercalate_cons_cons, hl, hrest]

/-- A last line that is not empty stays. -/
@[simp] theorem dropTrailingEmpty_append_ne (ls : List (List Char)) {l : List Char} (h : l ≠ []) :
    dropTrailingEmpty (ls ++ [l]) = ls ++ [l] := by
  simp [dropTrailingEmpty, h]

/-- An empty last line is dropped. -/
@[simp] theorem dropTrailingEmpty_append_nil (ls : List (List Char)) :
    dropTrailingEmpty (ls ++ [[]]) = dropTrailingEmpty ls := by
  simp [dropTrailingEmpty]

/-- What is dropped are empty lines. -/
theorem exists_dropTrailingEmpty (ls : List (List Char)) :
    ∃ k, ls = dropTrailingEmpty ls ++ List.replicate k [] := by
  have hempty : ∀ l ∈ ls.reverse.takeWhile List.isEmpty, l = [] := by
    intro l hl
    simpa using List.all_eq_true.mp List.all_takeWhile l hl
  refine ⟨(ls.reverse.takeWhile List.isEmpty).length, ?_⟩
  have hsplit := congrArg List.reverse
    (List.takeWhile_append_dropWhile (p := List.isEmpty) (l := ls.reverse))
  rw [List.reverse_append, List.reverse_reverse, List.eq_replicate_of_mem hempty,
    List.reverse_replicate, ← dropTrailingEmpty] at hsplit
  exact hsplit.symm

/-- A dropped line counts as empty, so that the line at a place is the same. -/
theorem getD_dropTrailingEmpty (ls : List (List Char)) (place : Nat) :
    (dropTrailingEmpty ls)[place]?.getD [] = ls[place]?.getD [] := by
  obtain ⟨k, hk⟩ := exists_dropTrailingEmpty ls
  conv => rhs; rw [hk]
  by_cases hplace : place < (dropTrailingEmpty ls).length
  · rw [List.getElem?_append_left hplace]
  · rw [List.getElem?_append_right (by omega), List.getElem?_eq_none (by omega),
      List.getElem?_replicate]
    split <;> rfl

/-- The lines of a closed text, without the empty ones at its end. -/
theorem outputLines_closed {ls : List (List Char)} (h : ∀ l ∈ ls, '\n' ∉ l) :
    outputLines (closed ['\n'] ls) = dropTrailingEmpty ls := by
  simp [outputLines, fields_closed h]

/-- Line ends behind a text add no line. -/
theorem outputLines_append_lineEnds (text : List Char) (k : Nat) :
    outputLines (text ++ List.replicate k '\n') = outputLines text := by
  induction k with
  | zero => simp
  | succ k ih =>
    rw [List.replicate_succ', ← List.append_assoc, outputLines, fields_append_cut (by rfl)]
    show dropTrailingEmpty (fields _ (text ++ List.replicate k '\n') ++ [[]]) = _
    rw [dropTrailingEmpty_append_nil, ← outputLines, ih]

/-- **Lines that are joined come back**, if the last one is not empty. -/
theorem outputLines_intercalate {ls : List (List Char)} {last : List Char}
    (h : ∀ l ∈ ls ++ [last], '\n' ∉ l) (hlast : last ≠ []) (k : Nat) :
    outputLines (List.intercalate ['\n'] (ls ++ [last]) ++ List.replicate k '\n')
      = ls ++ [last] := by
  rw [outputLines_append_lineEnds, outputLines, fields_intercalate (by simp) h,
    dropTrailingEmpty_append_ne ls hlast]

/-! ## One kind of line end -/

/-- A carriage return at the end of a line is no part of its words. -/
theorem words_append_return (line : List Char) : words (line ++ ['\r']) = words line := by
  rw [words_append_blank (by decide), words_nil, List.append_nil]

/-- A stretch without carriage returns stays as it is. -/
theorem unifyNewlines_append {l : List Char} (h : '\r' ∉ l) (rest : List Char) :
    unifyNewlines (l ++ rest) = l ++ unifyNewlines rest := by
  induction l with
  | nil => rfl
  | cons c l ih =>
    have hc : c ≠ '\r' := fun hc => h (hc ▸ List.mem_cons_self)
    have hl : '\r' ∉ l := fun hl => h (List.mem_cons_of_mem _ hl)
    simp [unifyNewlines, hc, ih hl]

/-- In a text closed by `\r\n` every line end becomes `\n`, and nothing else changes. -/
theorem unifyNewlines_closed {ls : List (List Char)} (h : ∀ l ∈ ls, '\r' ∉ l) :
    unifyNewlines (closed ['\r', '\n'] ls) = closed ['\n'] ls := by
  induction ls with
  | nil => rfl
  | cons l ls ih =>
    have hrest := ih fun k hk => h k (List.mem_cons_of_mem _ hk)
    simp [unifyNewlines_append (h l List.mem_cons_self), unifyNewlines, hrest]

/-- Two texts keep their line ends apart, unless a `\r\n` arises where they meet. -/
theorem unifyNewlines_append_of_apart (a : List Char) {b : List Char}
    (h : ¬(a.getLast? = some '\r' ∧ b.head? = some '\n')) :
    unifyNewlines (a ++ b) = unifyNewlines a ++ unifyNewlines b := by
  fun_induction unifyNewlines a with
  | case1 => rfl
  | case2 rest ih =>
    have hrest : ¬(rest.getLast? = some '\r' ∧ b.head? = some '\n') := by
      rintro ⟨hlast, hhead⟩
      exact h ⟨by rw [List.getLast?_cons, List.getLast?_cons, hlast]; rfl, hhead⟩
    rw [List.cons_append, List.cons_append, unifyNewlines, ih hrest, List.cons_append]
  | case3 c rest hsplit ih =>
    have hrest : ¬(rest.getLast? = some '\r' ∧ b.head? = some '\n') := by
      rintro ⟨hlast, hhead⟩
      exact h ⟨by rw [List.getLast?_cons, hlast]; rfl, hhead⟩
    rw [List.cons_append, unifyNewlines, ih hrest, List.cons_append]
    intro behind hc hbehind
    cases rest with
    | nil =>
      rw [List.nil_append] at hbehind
      rw [hc, hbehind] at h
      exact h ⟨rfl, rfl⟩
    | cons d rest =>
      rw [List.cons_append] at hbehind
      exact hsplit rest hc (by rw [(List.cons.inj hbehind).1])

/-- A line end at the end of a text becomes `\n`. -/
theorem exists_unifyNewlines_append_lineEnd (a : List Char) {c : Char} (h : c = '\n' ∨ c = '\r') :
    ∃ front, unifyNewlines (a ++ [c]) = front ++ ['\n'] := by
  fun_induction unifyNewlines a with
  | case1 =>
    refine ⟨[], ?_⟩
    rcases h with rfl | rfl <;> rfl
  | case2 rest ih =>
    obtain ⟨front, hfront⟩ := ih
    refine ⟨'\n' :: front, ?_⟩
    rw [List.cons_append, List.cons_append, unifyNewlines, hfront, List.cons_append]
  | case3 d rest hsplit ih =>
    obtain ⟨front, hfront⟩ := ih
    by_cases hpair : d = '\r' ∧ rest ++ [c] = ['\n']
    · refine ⟨[], ?_⟩
      rw [List.cons_append, hpair.1, hpair.2]
      rfl
    · refine ⟨(if d = '\r' then '\n' else d) :: front, ?_⟩
      rw [List.cons_append, unifyNewlines, hfront, List.cons_append]
      intro behind hd hbehind
      cases rest with
      | nil =>
        rw [List.nil_append] at hbehind
        exact hpair ⟨hd, by rw [(List.cons.inj hbehind).1]; rfl⟩
      | cons e rest =>
        rw [List.cons_append] at hbehind
        exact hsplit rest hd (by rw [(List.cons.inj hbehind).1])

end TenantHost.Text
