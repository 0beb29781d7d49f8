/-!
# Blanks, fields and words

Text is cut at characters: at newlines into lines, at blanks into words. Both cuts are `fields`,
which keeps every field, also the empty ones; words are the fields that are not empty. A cut loses
nothing but the characters it is made at, so cutting a text with a separator in it is cutting the
two sides.
-/

namespace TenantHost.Text

/-- The twenty-nine blank characters: they separate words and are trimmed from the ends of a
text. -/
def isBlank (c : Char) : Bool :=
  let n := c.toNat
  (0x09 ≤ n && n ≤ 0x0D) || (0x1C ≤ n && n ≤ 0x20) || n == 0x85 || n == 0xA0 ||
    n == 0x1680 ||
    (0x2000 ≤ n && n ≤ 0x200A) || n == 0x2028 || n == 0x2029 || n == 0x202F || n == 0x205F ||
    n == 0x3000

/-- Puts a character in front of the first field. -/
def consFirst (c : Char) : List (List Char) → List (List Char)
  | [] => [[c]]
  | w :: ws => (c :: w) :: ws

/-- Cuts a text at every character of a class, and keeps the empty fields: one field more than
cuts. -/
def fields (cut : Char → Bool) : List Char → List (List Char)
  | [] => [[]]
  | c :: rest => if cut c then [] :: fields cut rest else consFirst c (fields cut rest)

/-- The words of a text: what stands between runs of blanks. -/
def words (text : List Char) : List (List Char) :=
  (fields isBlank text).filter (fun w => !w.isEmpty)

/-- Drops the blanks at both ends. -/
def trim (text : List Char) : List Char :=
  ((text.dropWhile isBlank).reverse.dropWhile isBlank).reverse

/-! ## Fields -/

theorem fields_ne_nil (cut : Char → Bool) (text : List Char) : fields cut text ≠ [] := by
  induction text with
  | nil => simp [fields]
  | cons c rest ih =>
    rw [fields]
    split
    · simp
    · cases h : fields cut rest <;> simp [consFirst]

/-- No field holds a character it was cut at. -/
theorem not_cut_of_mem_fields {cut : Char → Bool} {text field : List Char}
    (h : field ∈ fields cut text) : ∀ c ∈ field, cut c = false := by
  induction text generalizing field with
  | nil => simp [fields] at h; simp [h]
  | cons d rest ih =>
    rw [fields] at h
    split at h
    · rcases List.mem_cons.1 h with rfl | h
      · simp
      · exact ih h
    · next hd =>
      cases hf : fields cut rest with
      | nil => exact absurd hf (fields_ne_nil cut rest)
      | cons w ws =>
        rw [hf] at h ih
        rcases List.mem_cons.1 h with rfl | h
        · intro c hc
          rcases List.mem_cons.1 hc with rfl | hc
          · simpa using hd
          · exact ih List.mem_cons_self c hc
        · exact ih (List.mem_cons_of_mem _ h)

/-- A cut in the middle separates the fields of the two sides. -/
@[simp] theorem fields_append_cut {cut : Char → Bool} {c : Char} (hc : cut c = true)
    (a b : List Char) :
    fields cut (a ++ c :: b) = fields cut a ++ fields cut b := by
  induction a with
  | nil => simp [fields, hc]
  | cons d rest ih =>
    simp only [List.cons_append, fields, ih]
    split
    · rfl
    · cases h : fields cut rest with
      | nil => exact absurd h (fields_ne_nil cut rest)
      | cons w ws => simp [consFirst]

/-- A text without cuts is its own only field. -/
theorem fields_eq_singleton {cut : Char → Bool} {text : List Char}
    (h : ∀ c ∈ text, cut c = false) :
    fields cut text = [text] := by
  induction text with
  | nil => rfl
  | cons c rest ih =>
    rw [fields, if_neg (by simp [h c]), ih fun d hd => h d (List.mem_cons_of_mem _ hd)]
    rfl

/-! ## Words -/

@[simp] theorem words_nil : words [] = [] := rfl

/-- A word is not empty and holds no blank. -/
theorem word_of_mem_words {text word : List Char} (h : word ∈ words text) :
    word ≠ [] ∧ ∀ c ∈ word, isBlank c = false := by
  obtain ⟨hf, hne⟩ := List.mem_filter.1 h
  exact ⟨by simpa using hne, not_cut_of_mem_fields hf⟩

/-- A blank in the middle separates the words of the two sides. -/
@[simp] theorem words_append_blank {w : Char} (hw : isBlank w = true) (a b : List Char) :
    words (a ++ w :: b) = words a ++ words b := by
  simp [words, fields_append_cut hw]

/-- A text that is one word is its own only word. -/
theorem words_eq_singleton {text : List Char} (hne : text ≠ [])
    (h : ∀ c ∈ text, isBlank c = false) :
    words text = [text] := by
  simp [words, fields_eq_singleton h, hne]

end TenantHost.Text
