import Mathlib.Data.List.Forall2
import TenantHost.Proofs.Text.Lines
/-!
# Line ends of two characters

Writing `\n` for each `\r\n` takes a carriage return from the end of some lines and does nothing
else. It is no part of a word, so all lines keep their words.
-/

namespace TenantHost.Text

/-- Writes `\n` for each `\r\n`. Any other `\r` stays. -/
def lineFeeds : List Char → List Char
  | [] => []
  | '\r' :: '\n' :: rest => '\n' :: lineFeeds rest
  | c :: rest => c :: lineFeeds rest

/-- Every carriage return is directly followed by `\n`. -/
def ReturnsPaired (text : List Char) : Prop :=
  ∀ place, text[place]? = some '\r' → text[place + 1]? = some '\n'

theorem ReturnsPaired.tail {c : Char} {rest : List Char} (h : ReturnsPaired (c :: rest)) :
    ReturnsPaired rest := by
  intro place hplace
  have hnext := h (place + 1) (by simpa using hplace)
  simpa using hnext

/-- Where carriage returns are paired, bringing the line ends to `\n` does no more than that. -/
theorem unifyNewlines_of_returnsPaired {text : List Char} (h : ReturnsPaired text) :
    unifyNewlines text = lineFeeds text := by
  fun_induction unifyNewlines text with
  | case1 => rfl
  | case2 rest ih => rw [lineFeeds, ih h.tail.tail]
  | case3 c rest hsplit ih =>
    have hc : c ≠ '\r' := by
      rintro rfl
      have hnext : rest[0]? = some '\n' := h 0 rfl
      cases rest with
      | nil => simp at hnext
      | cons d after => exact hsplit after rfl (by simpa using hnext)
    rw [if_neg hc, ih h.tail, lineFeeds]
    exact fun after hreturn _ => hc hreturn

/-- A line that may have lost a carriage return at its end. -/
def MayLoseReturn (line short : List Char) : Prop :=
  line = short ∨ line = short ++ ['\r']

theorem MayLoseReturn.cons {line short : List Char} (h : MayLoseReturn line short) (c : Char) :
    MayLoseReturn (c :: line) (c :: short) := by
  rcases h with rfl | rfl
  · exact .inl rfl
  · exact .inr rfl

/-- A line that loses a carriage return keeps its words. -/
theorem MayLoseReturn.words_eq {line short : List Char} (h : MayLoseReturn line short) :
    words line = words short := by
  rcases h with rfl | rfl
  · rfl
  · exact words_append_return short

/-- A character in front of both texts stands in the first line of both. -/
theorem forall₂_consFirst {ls short : List (List Char)}
    (h : List.Forall₂ MayLoseReturn ls short)
    (c : Char) : List.Forall₂ MayLoseReturn (consFirst c ls) (consFirst c short) := by
  cases h with
  | nil => exact .cons (.inl rfl) .nil
  | cons hfirst hrest => exact .cons (hfirst.cons c) hrest

/-- **Line by line, no more than a carriage return is lost.** -/
theorem fields_lineFeeds (text : List Char) :
    List.Forall₂ MayLoseReturn (fields (· == '\n') text)
      (fields (· == '\n') (lineFeeds text)) := by
  fun_induction lineFeeds text with
  | case1 => exact .cons (.inl rfl) .nil
  | case2 rest ih => exact .cons (.inr rfl) ih
  | case3 c rest hsplit ih =>
    simp only [fields]
    by_cases hc : (c == '\n') = true
    · rw [if_pos hc, if_pos hc]
      exact .cons (.inl rfl) ih
    · rw [if_neg hc, if_neg hc]
      exact forall₂_consFirst ih c

/-- All lines keep their words. -/
theorem map_words_fields_lineFeeds (text : List Char) :
    (fields (· == '\n') (lineFeeds text)).map words = (fields (· == '\n') text).map words := by
  have hlines := fields_lineFeeds text
  generalize fields (· == '\n') text = ls at hlines ⊢
  generalize fields (· == '\n') (lineFeeds text) = short at hlines ⊢
  induction hlines with
  | nil => rfl
  | cons hfirst _ ih => rw [List.map_cons, List.map_cons, ih, hfirst.words_eq]

end TenantHost.Text
