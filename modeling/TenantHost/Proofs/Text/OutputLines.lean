import Mathlib.Data.List.DropRight
import TenantHost.Proofs.Text.Lines
/-!
# The lines of an output, exactly

Joining the fields of a text gives the text back, and an empty line at the end of joined lines is
one more line end behind them. So an output is its lines joined by `\n`, with line ends behind them.
No other list of lines has that output, if lines hold no line end and the last one is not empty.
-/

namespace TenantHost.Text

/-! ## Joining again -/

/-- A character in front of the first field is one in front of the joined fields. -/
theorem intercalate_consFirst (c : Char) (separator : List Char) {ls : List (List Char)}
    (h : ls ≠ []) :
    List.intercalate separator (consFirst c ls) = c :: List.intercalate separator ls := by
  cases ls with
  | nil => exact absurd rfl h
  | cons l ls => rw [consFirst, List.intercalate_cons_cons_left]

/-- Joining undoes cutting, whatever the text. -/
theorem intercalate_fields (text : List Char) :
    List.intercalate ['\n'] (fields (· == '\n') text) = text := by
  induction text with
  | nil => rfl
  | cons c rest ih =>
    have hne := fields_ne_nil (· == '\n') rest
    rw [fields]
    split
    · next hc =>
      rw [List.intercalate_cons_of_ne_nil hne, ih, eq_of_beq hc]
      rfl
    · rw [intercalate_consFirst c ['\n'] hne, ih]

/-- An empty line behind others is a line end. -/
theorem intercalate_append_empty {ls : List (List Char)} (h : ls ≠ []) :
    List.intercalate ['\n'] (ls ++ [[]]) = List.intercalate ['\n'] ls ++ ['\n'] := by
  induction ls with
  | nil => exact absurd rfl h
  | cons l ls ih =>
    by_cases hls : ls = []
    · rw [hls, List.singleton_append, List.intercalate_cons_cons, List.intercalate_singleton,
        List.intercalate_singleton, List.append_nil]
    · rw [List.cons_append, List.intercalate_cons_of_ne_nil
        (List.append_ne_nil_of_left_ne_nil hls [[]]),
        ih hls, List.intercalate_cons_of_ne_nil hls, List.append_assoc, List.append_assoc,
        List.append_assoc]

/-- Empty lines behind others are line ends. Where there are no others, the first empty one adds
nothing. -/
theorem exists_intercalate_append_empties (ls : List (List Char)) (k : Nat) :
    ∃ m, List.intercalate ['\n'] (ls ++ List.replicate k [])
      = List.intercalate ['\n'] ls ++ List.replicate m '\n' := by
  induction k with
  | zero => exact ⟨0, by simp⟩
  | succ k ih =>
    obtain ⟨m, hm⟩ := ih
    rw [List.replicate_succ', ← List.append_assoc]
    by_cases hnone : ls ++ List.replicate k [] = []
    -- one empty line alone is the empty text, like no line at all
    · have hls : ls = [] := (List.append_eq_nil_iff.mp hnone).1
      exact ⟨0, by rw [hnone, hls]; rfl⟩
    · refine ⟨m + 1, ?_⟩
      rw [intercalate_append_empty hnone, hm, List.append_assoc, List.replicate_succ']

/-! ## The lines -/

/-- A line of an output holds no line end. -/
theorem not_mem_of_mem_outputLines {text l : List Char} (h : l ∈ outputLines text) :
    '\n' ∉ l := by
  obtain ⟨k, hk⟩ := exists_dropTrailingEmpty (fields (· == '\n') text)
  have hfield : l ∈ fields (· == '\n') text := by
    rw [hk]
    exact List.mem_append_left _ h
  intro hend
  exact absurd (not_cut_of_mem_fields hfield '\n' hend) (by decide)

/-- What is left has no empty line at its end. -/
theorem getLast?_dropTrailingEmpty_ne (ls : List (List Char)) :
    (dropTrailingEmpty ls).getLast? ≠ some [] := by
  intro hlast
  have hkept : dropTrailingEmpty ls = ls.rdropWhile List.isEmpty := rfl
  rw [hkept] at hlast
  obtain ⟨hne, hempty⟩ := List.mem_getLast?_eq_getLast hlast
  have hnot := List.rdropWhile_last_not List.isEmpty ls hne
  rw [← hempty] at hnot
  exact hnot rfl

/-- An output is its lines, joined, and line ends behind them. -/
theorem exists_written (text : List Char) :
    ∃ k, text = List.intercalate ['\n'] (outputLines text) ++ List.replicate k '\n' := by
  obtain ⟨dropped, hdropped⟩ := exists_dropTrailingEmpty (fields (· == '\n') text)
  obtain ⟨k, hk⟩ := exists_intercalate_append_empties (outputLines text) dropped
  refine ⟨k, ?_⟩
  rw [← hk, outputLines, ← hdropped, intercalate_fields]

/-- Lines come back from an output that is written from them, if the last one, where there is one,
is not empty. -/
theorem outputLines_written {ls : List (List Char)} (hunbroken : ∀ l ∈ ls, '\n' ∉ l)
    (hlast : ls.getLast? ≠ some []) (k : Nat) :
    outputLines (List.intercalate ['\n'] ls ++ List.replicate k '\n') = ls := by
  rcases List.eq_nil_or_concat ls with rfl | ⟨init, last, rfl⟩
  · rw [outputLines_append_lineEnds]
    rfl
  · rw [List.concat_eq_append] at hunbroken hlast ⊢
    rw [List.getLast?_concat] at hlast
    exact outputLines_intercalate hunbroken (fun hempty => hlast (congrArg some hempty)) k

/-- **The lines of an output are the one list that it can be written from**: without line ends in
them, and without an empty line at its end. -/
theorem outputLines_eq_iff {text : List Char} {ls : List (List Char)} :
    outputLines text = ls ↔
      (∀ l ∈ ls, '\n' ∉ l) ∧ ls.getLast? ≠ some [] ∧
        ∃ k, text = List.intercalate ['\n'] ls ++ List.replicate k '\n' := by
  constructor
  · rintro rfl
    exact ⟨fun _ => not_mem_of_mem_outputLines, getLast?_dropTrailingEmpty_ne _,
      exists_written text⟩
  · rintro ⟨hunbroken, hlast, k, rfl⟩
    exact outputLines_written hunbroken hlast k

/-! ## Lines after their ends are translated -/

/-- Joined lines hold what the lines hold, and line ends. -/
theorem mem_intercalate_iff {c : Char} (hc : c ≠ '\n') (ls : List (List Char)) :
    c ∈ List.intercalate ['\n'] ls ↔ ∃ l ∈ ls, c ∈ l := by
  induction ls with
  | nil => simp
  | cons l ls ih =>
    by_cases hls : ls = []
    · simp [hls]
    · rw [List.intercalate_cons_of_ne_nil hls, List.mem_append, List.mem_append,
        List.mem_singleton, ih,
        List.exists_mem_cons_iff, or_iff_left hc]

/-- An output holds what its lines hold, and line ends. -/
theorem mem_iff_of_outputLines {c : Char} (hc : c ≠ '\n') (text : List Char) :
    c ∈ text ↔ ∃ l ∈ outputLines text, c ∈ l := by
  obtain ⟨k, hk⟩ := exists_written text
  have hbehind : c ∉ List.replicate k '\n' := fun h => hc (List.eq_of_mem_replicate h)
  conv => lhs; rw [hk]
  rw [List.mem_append, or_iff_left hbehind, mem_intercalate_iff hc]

/-- No carriage return is left. -/
theorem not_mem_unifyNewlines (text : List Char) : '\r' ∉ unifyNewlines text := by
  fun_induction unifyNewlines text with
  | case1 => exact List.not_mem_nil
  | case2 rest ih => exact List.not_mem_cons_of_ne_of_not_mem (by decide) ih
  | case3 c rest _ ih =>
    refine List.not_mem_cons_of_ne_of_not_mem ?_ ih
    split
    · decide
    · next hc => exact Ne.symm hc

/-- **The lines survive the translation of line ends just if they hold no carriage return.** -/
theorem outputLines_unifyNewlines_eq_iff (text : List Char) :
    outputLines (unifyNewlines text) = outputLines text ↔
      ∀ l ∈ outputLines text, '\r' ∉ l := by
  have hreturn : '\r' ≠ '\n' := by decide
  constructor
  · intro hsame l hl hmem
    rw [← hsame] at hl
    exact not_mem_unifyNewlines text ((mem_iff_of_outputLines hreturn _).mpr ⟨l, hl, hmem⟩)
  · intro hclean
    have htext : '\r' ∉ text := by
      rw [mem_iff_of_outputLines hreturn]
      rintro ⟨l, hl, hmem⟩
      exact hclean l hl hmem
    have hkept := unifyNewlines_append htext []
    rw [List.append_nil, unifyNewlines, List.append_nil] at hkept
    rw [hkept]

end TenantHost.Text
