import TenantHost.Command.Line
/-!
# Arguments of a command line

Where one of two texts meets the other with a blank, their arguments are those of the one and then
those of the other. A text is an argument of its own, unchanged, just if it is a word. So a line
that arguments are joined to has the arguments of each of them, and gives back just the lists that
are made of words.
-/

namespace TenantHost.Text

/-- The numbers of the blank characters. -/
def blankNumbers : List Nat :=
  [0x09, 0x0A, 0x0B, 0x0C, 0x0D, 0x1C, 0x1D, 0x1E, 0x1F, 0x20, 0x85, 0xA0, 0x1680, 0x2000,
    0x2001, 0x2002,
    0x2003, 0x2004, 0x2005, 0x2006, 0x2007, 0x2008, 0x2009, 0x200A, 0x2028, 0x2029, 0x202F,
      0x205F, 0x3000]

theorem isBlank_iff_mem_blankNumbers (c : Char) :
    isBlank c = true ↔ c.toNat ∈ blankNumbers := by
  generalize hn : c.toNat = n
  have hcontrols : 0x09 ≤ n ∧ n ≤ 0x0D ↔ n = 0x09 ∨ n = 0x0A ∨ n = 0x0B ∨ n = 0x0C ∨
      n = 0x0D := by
    omega
  have hseparators : 0x1C ≤ n ∧ n ≤ 0x20 ↔
      n = 0x1C ∨ n = 0x1D ∨ n = 0x1E ∨ n = 0x1F ∨ n = 0x20 := by
    omega
  have hspaces : 0x2000 ≤ n ∧ n ≤ 0x200A ↔ n = 0x2000 ∨ n = 0x2001 ∨ n = 0x2002 ∨
      n = 0x2003 ∨
      n = 0x2004 ∨ n = 0x2005 ∨ n = 0x2006 ∨ n = 0x2007 ∨ n = 0x2008 ∨ n = 0x2009 ∨
        n = 0x200A := by
    omega
  simp only [isBlank, blankNumbers, hn, Bool.or_eq_true, Bool.and_eq_true, decide_eq_true_eq,
    beq_iff_eq,
    List.mem_cons, List.not_mem_nil, or_false, hcontrols, hseparators, hspaces, or_assoc]

end TenantHost.Text

namespace TenantHost.Command

open Text

/-- A text that is one argument: there is something in it, and no blank. -/
def IsWord (text : String) : Prop :=
  text ≠ "" ∧ ∀ c ∈ text.toList, isBlank c = false

instance (text : String) : Decidable (IsWord text) :=
  have : Decidable (∀ c ∈ text.toList, isBlank c = false) := List.decidableBAll _ _
  inferInstanceAs (Decidable (_ ∧ _))

/-! ## Cutting where two texts meet -/

theorem tokenize_empty : tokenize "" = [] :=
  rfl

/-- A blank between two texts keeps their arguments apart. -/
theorem tokenize_append_blank (a : String) {w : Char} (hw : isBlank w = true) (b : String) :
    tokenize (a ++ String.singleton w ++ b) = tokenize a ++ tokenize b := by
  have hjoined : (a ++ String.singleton w ++ b).toList = a.toList ++ w :: b.toList := by
    rw [String.toList_append, String.toList_append, String.toList_singleton, List.append_assoc,
      List.singleton_append]
  rw [tokenize, hjoined, words_append_blank hw, List.map_append]
  rfl

/-- A text that ends in a blank keeps its arguments apart from those behind it. -/
theorem tokenize_append_of_getLast {a : String} (h : a.toList.getLast?.any isBlank = true)
    (b : String) : tokenize (a ++ b) = tokenize a ++ tokenize b := by
  obtain ⟨w, hlast, hw⟩ := (Option.any_eq_true _ _).mp h
  obtain ⟨front, hfront⟩ := List.getLast?_eq_some_iff.mp hlast
  have ha : a = String.ofList front ++ String.singleton w := by
    rw [← String.toList_inj, hfront, String.toList_append, String.toList_ofList,
      String.toList_singleton]
  have hsame : tokenize a = tokenize (String.ofList front) := by
    have hcut := tokenize_append_blank (String.ofList front) hw ""
    rwa [String.append_empty, ← ha, tokenize_empty, List.append_nil] at hcut
  rw [hsame, ← tokenize_append_blank _ hw, ← ha]

/-- A text that begins with a blank keeps its arguments apart from those before it. -/
theorem tokenize_append_of_head (a : String) {b : String} (h : b.toList.head?.any isBlank = true) :
    tokenize (a ++ b) = tokenize a ++ tokenize b := by
  obtain ⟨w, hhead, hw⟩ := (Option.any_eq_true _ _).mp h
  obtain ⟨back, hback⟩ := List.head?_eq_some_iff.mp hhead
  have hb : b = String.singleton w ++ String.ofList back := by
    rw [← String.toList_inj, hback, String.toList_append, String.toList_ofList,
      String.toList_singleton,
      List.singleton_append]
  have hsame : tokenize b = tokenize (String.ofList back) := by
    have hcut := tokenize_append_blank "" hw (String.ofList back)
    rwa [String.empty_append, ← hb, tokenize_empty, List.nil_append] at hcut
  rw [hsame, ← tokenize_append_blank a hw, String.append_assoc, ← hb]

/-! ## Words -/

/-- An argument of a command line is a word. -/
theorem isWord_of_mem_tokenize {line argument : String} (h : argument ∈ tokenize line) :
    IsWord argument := by
  obtain ⟨word, hword, rfl⟩ := List.mem_map.mp h
  obtain ⟨hne, hblank⟩ := word_of_mem_words hword
  refine ⟨fun hempty => hne ?_, ?_⟩
  · rw [← String.toList_ofList (l := word), hempty]
    rfl
  · rwa [String.toList_ofList]

theorem tokenize_eq_singleton {text : String} (h : IsWord text) : tokenize text = [text] := by
  have hne : text.toList ≠ [] := fun hnil => h.1 (String.toList_eq_nil_iff.mp hnil)
  rw [tokenize, words_eq_singleton hne h.2, List.map_singleton, String.ofList_toList]

/-- A text is its own only argument just if it is a word. -/
theorem tokenize_eq_singleton_iff {text : String} : tokenize text = [text] ↔ IsWord text := by
  refine ⟨fun h => ?_, tokenize_eq_singleton⟩
  have hmem : text ∈ tokenize text := by
    rw [h]
    exact List.mem_singleton_self text
  exact isWord_of_mem_tokenize hmem

/-! ## Joining arguments and cutting the line again -/

/-- **A joined line has the arguments of each of its parts**, whatever these are. -/
theorem tokenize_line (argv : List String) : tokenize (line argv) = argv.flatMap tokenize := by
  induction argv with
  | nil => rfl
  | cons first rest ih =>
    cases rest with
    | nil => rw [line, String.intercalate_singleton, List.flatMap_singleton]
    | cons second rest =>
      have hspace : line (first :: second :: rest)
          = first ++ String.singleton ' ' ++ line (second :: rest) :=
        String.intercalate_cons_cons
      rw [hspace, tokenize_append_blank first (by decide), ih, ← List.flatMap_cons]

/-- Words come back from the line that they are joined to. -/
theorem tokenize_line_of_isWord {argv : List String} (h : ∀ argument ∈ argv, IsWord argument) :
    tokenize (line argv) = argv := by
  have hsingle : argv.map tokenize = argv.map fun argument => [argument] :=
    List.map_congr_left fun argument hargument => tokenize_eq_singleton (h argument hargument)
  rw [tokenize_line, List.flatMap_def, hsingle, ← List.flatMap_def, List.flatMap_singleton']

/-- Arguments come back from the line that they are joined to just if they are words. -/
theorem tokenize_line_eq_iff {argv : List String} :
    tokenize (line argv) = argv ↔ ∀ argument ∈ argv, IsWord argument := by
  refine ⟨fun h argument hargument => ?_, tokenize_line_of_isWord⟩
  rw [← h] at hargument
  exact isWord_of_mem_tokenize hargument

/-- **Cutting a line and joining arguments undo each other where they can.** The arguments of a line
are words, and the line that they are joined to has the same ones; other lists than those of words
do not come back. A blank anywhere parts the arguments before it from those behind it, and the
blanks are those twenty-nine characters. -/
theorem tokenize_line_laws :
    (∀ text : String, (∀ argument ∈ tokenize text, IsWord argument) ∧
      tokenize (line (tokenize text)) = tokenize text) ∧
    (∀ argv : List String, tokenize (line argv) = argv ↔
      ∀ argument ∈ argv, IsWord argument) ∧
    (∀ (a b : String) (w : Char), isBlank w = true →
      tokenize (a ++ String.singleton w ++ b) = tokenize a ++ tokenize b) ∧
    ∀ c : Char, isBlank c = true ↔ c.toNat ∈ blankNumbers := by
  refine ⟨fun text => ?_, fun argv => tokenize_line_eq_iff, ?_, isBlank_iff_mem_blankNumbers⟩
  · have hwords : ∀ argument ∈ tokenize text, IsWord argument :=
      fun _ => isWord_of_mem_tokenize
    exact ⟨hwords, tokenize_line_of_isWord hwords⟩
  · intro a b w hw
    exact tokenize_append_blank a hw b

/-- A line with runs of blanks of three kinds at its ends and between its arguments. -/
theorem tokenize_line_laws_of_mixedBlanks :
    isBlank '\u3000' = true ∧
      tokenize (" \tsudo  -u" ++ String.singleton '\u3000' ++ "alice\n ls \u3000")
        = ["sudo", "-u", "alice", "ls"] :=
  ⟨by decide, tokenize_line_laws.2.2.1 " \tsudo  -u" "alice\n ls \u3000" '\u3000' (by decide)⟩

/-! ## A tenant's command -/

/-- The arguments of a tenant's command: the tenant's, then the command's. -/
theorem tokenize_asTenant (tenant command : String) :
    tokenize (asTenant tenant command) = ["sudo", "-u"] ++ tokenize tenant ++ tokenize command := by
  have hspace : ("sudo -u " ++ tenant ++ " ").toList.getLast?.any isBlank = true := by
    rw [String.toList_append, List.getLast?_append]
    rfl
  have hempty : tokenize " " = [] := rfl
  rw [asTenant, tokenize_append_of_getLast hspace, tokenize_append_of_head _ (by decide), hempty,
    List.append_nil, tokenize_append_of_getLast (by decide)]
  rfl

end TenantHost.Command
