import TenantHost.Text.Utf8
/-!
# Reading back what is written

The machine takes the bytes of a character back to that character, whatever follows them. So a
lenient reading of a written text is the text, and a text written in front of other bytes is read in
front of them.
-/

namespace TenantHost.Text.Utf8

/-! ## The first byte of a character -/

/-- A first byte that gives out nothing leaves the machine inside a character. -/
theorem scan_cons_of_first {b : UInt8} {s : State} (h : first b = ([], s)) (rest : List UInt8) :
    scan (b :: rest) = scanFrom s rest := by
  have hstep : step .ready b = ([], s) := h
  rw [scan, scanFrom, hstep, List.nil_append]

/-- A byte below `0x80` is a character by itself. -/
theorem scan_cons_of_ascii {b : UInt8} (h : b.toNat < 0x80) (rest : List UInt8) :
    scan (b :: rest) = .char (Char.ofNat b.toNat) :: scan rest := by
  have hstep : step .ready b = ([.char (Char.ofNat b.toNat)], .ready) := by
    simp only [step, first, UInt8.lt_iff_toNat_lt, UInt8.reduceToNat]
    rw [if_pos h]
  rw [scan, scanFrom, hstep, List.singleton_append, scan]

theorem first_of_two {b : UInt8} (hlow : 0xC2 ≤ b.toNat) (hhigh : b.toNat < 0xE0) :
    first b = ([], .inside [b] (b.toNat - 0xC0) 1 0x80 0xBF) := by
  simp only [first, UInt8.lt_iff_toNat_lt, UInt8.reduceToNat]
  rw [if_neg (by omega), if_neg (by omega), if_pos (by omega)]

theorem first_of_three {b : UInt8} (hlow : 0xE0 ≤ b.toNat) (hhigh : b.toNat < 0xF0) :
    first b = ([], .inside [b] (b.toNat - 0xE0) 2 (if b.toNat = 0xE0 then 0xA0 else 0x80)
      (if b.toNat = 0xED then 0x9F else 0xBF)) := by
  simp only [first, UInt8.lt_iff_toNat_lt, UInt8.reduceToNat, ← UInt8.toNat_inj]
  rw [if_neg (by omega), if_neg (by omega), if_neg (by omega), if_pos (by omega)]

theorem first_of_four {b : UInt8} (hlow : 0xF0 ≤ b.toNat) (hhigh : b.toNat < 0xF5) :
    first b = ([], .inside [b] (b.toNat - 0xF0) 3 (if b.toNat = 0xF0 then 0x90 else 0x80)
      (if b.toNat = 0xF4 then 0x8F else 0xBF)) := by
  simp only [first, UInt8.lt_iff_toNat_lt, UInt8.reduceToNat, ← UInt8.toNat_inj]
  rw [if_neg (by omega), if_neg (by omega), if_neg (by omega), if_neg (by omega),
    if_pos (by omega)]

/-! ## The bytes after the first -/

/-- A byte that is asked for, with more bytes owed behind it. -/
theorem scanFrom_inside (low high : UInt8) {b : UInt8} (hlow : low.toNat ≤ b.toNat)
    (hhigh : b.toNat ≤ high.toNat) (held : List UInt8) (code owed : Nat) (rest : List UInt8) :
    scanFrom (.inside held code (owed + 2) low high) (b :: rest)
      = scanFrom (.inside (held ++ [b]) (code * 64 + (b.toNat - 0x80)) (owed + 1) 0x80 0xBF)
          rest := by
  have hrange : low ≤ b ∧ b ≤ high :=
    ⟨UInt8.le_iff_toNat_le.mpr hlow, UInt8.le_iff_toNat_le.mpr hhigh⟩
  have hstep : step (.inside held code (owed + 2) low high) b
      = ([], .inside (held ++ [b]) (code * 64 + (b.toNat - 0x80)) (owed + 1) 0x80 0xBF) := by
    rw [step, if_pos hrange, if_neg (by omega)]
    rfl
  rw [scanFrom, hstep, List.nil_append]

/-- The last byte that is owed. -/
theorem scanFrom_inside_last (low high : UInt8) {b : UInt8} (hlow : low.toNat ≤ b.toNat)
    (hhigh : b.toNat ≤ high.toNat) (held : List UInt8) (code : Nat) (rest : List UInt8) :
    scanFrom (.inside held code 1 low high) (b :: rest)
      = .char (Char.ofNat (code * 64 + (b.toNat - 0x80))) :: scan rest := by
  have hrange : low ≤ b ∧ b ≤ high :=
    ⟨UInt8.le_iff_toNat_le.mpr hlow, UInt8.le_iff_toNat_le.mpr hhigh⟩
  have hstep : step (.inside held code 1 low high) b
      = ([.char (Char.ofNat (code * 64 + (b.toNat - 0x80)))], .ready) := by
    rw [step, if_pos hrange, if_pos (Nat.le_refl 1)]
  rw [scanFrom, hstep, List.singleton_append, scan]

/-! ## Whole characters -/

/-- The last byte of a character carries its last six bits. -/
theorem scanFrom_tail {n : Nat} (hn : n < 64) (held : List UInt8) (code : Nat) (rest : List UInt8) :
    scanFrom (.inside held code 1 0x80 0xBF) (UInt8.ofNat (n + 0x80) :: rest)
      = .char (Char.ofNat (code * 64 + n)) :: scan rest := by
  have hb := UInt8.toNat_ofNat_of_lt' (by omega : n + 0x80 < 256)
  have hlow : (0x80 : UInt8).toNat ≤ n + 0x80 := Nat.le_add_left _ _
  have hhigh : n + 0x80 ≤ (0xBF : UInt8).toNat := by
    simp only [UInt8.reduceToNat]
    omega
  rw [scanFrom_inside_last 0x80 0xBF (hb.symm ▸ hlow) (hb.symm ▸ hhigh), hb, Nat.add_sub_cancel]

theorem scan_two {m n : Nat} (hm : 2 ≤ m) (hm' : m < 32) (hn : n < 64) (rest : List UInt8) :
    scan (UInt8.ofNat (m + 0xC0) :: UInt8.ofNat (n + 0x80) :: rest)
      = .char (Char.ofNat (m * 64 + n)) :: scan rest := by
  have ha := UInt8.toNat_ofNat_of_lt' (by omega : m + 0xC0 < 256)
  rw [scan_cons_of_first (first_of_two (by omega) (by omega)), scanFrom_tail hn, ha,
    Nat.add_sub_cancel]

/-- The second of three bytes is in the range that the first one asks for: no character has a
shorter form, and none is a surrogate. -/
theorem scan_three {l m n : Nat} (hl : l < 16) (hm : m < 64) (hn : n < 64)
    (hshort : l = 0 → 0x20 ≤ m) (hsurrogate : l = 13 → m < 0x20) (rest : List UInt8) :
    scan (UInt8.ofNat (l + 0xE0) :: UInt8.ofNat (m + 0x80) :: UInt8.ofNat (n + 0x80) :: rest)
      = .char (Char.ofNat ((l * 64 + m) * 64 + n)) :: scan rest := by
  have ha := UInt8.toNat_ofNat_of_lt' (by omega : l + 0xE0 < 256)
  have hb := UInt8.toNat_ofNat_of_lt' (by omega : m + 0x80 < 256)
  have hlow : (if l + 0xE0 = 0xE0 then (0xA0 : UInt8) else 0x80).toNat
      ≤ (UInt8.ofNat (m + 0x80)).toNat := by
    rw [hb]
    split <;> simp only [UInt8.reduceToNat] <;> omega
  have hhigh : (UInt8.ofNat (m + 0x80)).toNat
      ≤ (if l + 0xE0 = 0xED then (0x9F : UInt8) else 0xBF).toNat := by
    rw [hb]
    split <;> simp only [UInt8.reduceToNat] <;> omega
  rw [scan_cons_of_first (first_of_three (by omega) (by omega)), ha,
    scanFrom_inside _ _ hlow hhigh, scanFrom_tail hn, hb, Nat.add_sub_cancel, Nat.add_sub_cancel]

/-- The second of four bytes is in the range that the first one asks for: no character has a shorter
form, and none is beyond the last one. -/
theorem scan_four {k l m n : Nat} (hk : k < 5) (hl : l < 64) (hm : m < 64) (hn : n < 64)
    (hshort : k = 0 → 0x10 ≤ l) (hlast : k = 4 → l < 0x10) (rest : List UInt8) :
    scan (UInt8.ofNat (k + 0xF0) :: UInt8.ofNat (l + 0x80) :: UInt8.ofNat (m + 0x80)
        :: UInt8.ofNat (n + 0x80) :: rest)
      = .char (Char.ofNat (((k * 64 + l) * 64 + m) * 64 + n)) :: scan rest := by
  have ha := UInt8.toNat_ofNat_of_lt' (by omega : k + 0xF0 < 256)
  have hb := UInt8.toNat_ofNat_of_lt' (by omega : l + 0x80 < 256)
  have hc := UInt8.toNat_ofNat_of_lt' (by omega : m + 0x80 < 256)
  have hlow : (if k + 0xF0 = 0xF0 then (0x90 : UInt8) else 0x80).toNat
      ≤ (UInt8.ofNat (l + 0x80)).toNat := by
    rw [hb]
    split <;> simp only [UInt8.reduceToNat] <;> omega
  have hhigh : (UInt8.ofNat (l + 0x80)).toNat
      ≤ (if k + 0xF0 = 0xF4 then (0x8F : UInt8) else 0xBF).toNat := by
    rw [hb]
    split <;> simp only [UInt8.reduceToNat] <;> omega
  have hlow' : (0x80 : UInt8).toNat ≤ (UInt8.ofNat (m + 0x80)).toNat := by
    rw [hc]
    exact Nat.le_add_left _ _
  have hhigh' : (UInt8.ofNat (m + 0x80)).toNat ≤ (0xBF : UInt8).toNat := by
    rw [hc]
    simp only [UInt8.reduceToNat]
    omega
  rw [scan_cons_of_first (first_of_four (by omega) (by omega)), ha,
    scanFrom_inside _ _ hlow hhigh, hb, scanFrom_inside _ _ hlow' hhigh', scanFrom_tail hn, hc,
    Nat.add_sub_cancel, Nat.add_sub_cancel, Nat.add_sub_cancel]

/-- The bytes of a character are read as that character, whatever follows them. -/
theorem scan_utf8EncodeChar (c : Char) (rest : List UInt8) :
    scan (String.utf8EncodeChar c ++ rest) = .char c :: scan rest := by
  have hvalid : c.toNat < 0xD800 ∨ 0xDFFF < c.toNat ∧ c.toNat < 0x110000 := c.valid
  have hc : ∀ v, v = c.toNat → Char.ofNat v = c := fun v hv => hv ▸ Char.ofNat_toNat c
  unfold String.utf8EncodeChar
  simp only [show c.val.toNat = c.toNat from rfl]
  -- one case for each number of bytes
  split
  · have hb := UInt8.toNat_ofNat_of_lt' (by omega : c.toNat < 256)
    rw [List.singleton_append, scan_cons_of_ascii (by omega), hc _ hb]
  split
  · rw [List.cons_append, List.singleton_append, scan_two (by omega) (by omega) (by omega),
      hc _ (by omega)]
  split
  · rw [List.cons_append, List.cons_append, List.singleton_append,
      scan_three (by omega) (by omega) (by omega) (by omega) (by omega), hc _ (by omega)]
  · rw [List.cons_append, List.cons_append, List.cons_append, List.singleton_append,
      scan_four (by omega) (by omega) (by omega) (by omega) (by omega) (by omega),
      hc _ (by omega)]

/-! ## Whole texts -/

@[simp] theorem decodeLenient_nil : decodeLenient [] = [] := rfl

/-- A text written in front of other bytes is read in front of them. -/
@[simp] theorem decodeLenient_encode_append (text : List Char) (rest : List UInt8) :
    decodeLenient (encode text ++ rest) = text ++ decodeLenient rest := by
  induction text with
  | nil => rfl
  | cons c text ih =>
    have hbytes : encode (c :: text) ++ rest = String.utf8EncodeChar c
        ++ (encode text ++ rest) := by
      rw [encode, List.flatMap_cons, ← encode, List.append_assoc]
    rw [hbytes, decodeLenient, scan_utf8EncodeChar, List.map_cons, ← decodeLenient, ih]
    rfl

/-- **A written text is read back.** -/
@[simp] theorem decodeLenient_encode (text : List Char) : decodeLenient (encode text) = text := by
  have h := decodeLenient_encode_append text []
  rwa [List.append_nil, decodeLenient_nil, List.append_nil] at h

/-! ## Characters of one byte -/

/-- That the character at hand is none of one byte: its code, whatever bytes are still owed, is at
least `0x80`. -/
def State.IsLong : State → Prop
  | .ready => True
  | .inside _ code owed low _ =>
    0x80 ≤ low.toNat ∧ 2 ≤ code * 64 + (low.toNat - 0x80) ∧
      (owed ≤ 1 → 0x80 ≤ code * 64 + (low.toNat - 0x80))

theorem State.isLong_first (b : UInt8) : (first b).2.IsLong := by
  simp only [first, UInt8.lt_iff_toNat_lt, UInt8.reduceToNat, ← UInt8.toNat_inj]
  -- one case for each length that a first byte announces
  split
  · exact trivial
  split
  · exact trivial
  split
  · simp only [State.IsLong, UInt8.reduceToNat]
    omega
  split
  · simp only [State.IsLong]
    split <;> simp only [UInt8.reduceToNat] <;> omega
  split
  · simp only [State.IsLong]
    split <;> simp only [UInt8.reduceToNat] <;> omega
  · exact trivial

theorem State.isLong_step {s : State} (h : s.IsLong) (b : UInt8) : (step s b).2.IsLong := by
  cases s with
  | ready => exact State.isLong_first b
  | inside held code owed low high =>
    obtain ⟨hlow, hcode, -⟩ := h
    by_cases hin : low ≤ b ∧ b ≤ high
    · have hb := UInt8.le_iff_toNat_le.mp hin.1
      rw [step, if_pos hin]
      by_cases howed : owed ≤ 1
      · rw [if_pos howed]
        exact trivial
      · rw [if_neg howed]
        simp only [State.IsLong, UInt8.reduceToNat]
        omega
    · rw [step, if_neg hin]
      exact State.isLong_first b

theorem scanFrom_cons (s : State) (b : UInt8) (rest : List UInt8) :
    scanFrom s (b :: rest) = (step s b).1 ++ scanFrom (step s b).2 rest := by
  cases s <;> rfl

/-- A byte below `0x80` ends what stands before it as the end of the bytes would, and is a character
by itself. -/
theorem lenient_scanFrom_ascii {s : State} (h : s.IsLong) {b : UInt8} (hb : b < 0x80)
    (rest : List UInt8) :
    (scanFrom s (b :: rest)).map Piece.lenient
      = (scanFrom s []).map Piece.lenient ++ Char.ofNat b.toNat :: decodeLenient rest := by
  have hfirst : first b = ([.char (Char.ofNat b.toNat)], .ready) := by
    rw [first, if_pos hb]
  cases s with
  | ready =>
    have hstep : step .ready b = ([.char (Char.ofNat b.toNat)], .ready) := hfirst
    rw [scanFrom_cons, hstep]
    rfl
  | inside held code owed low high =>
    -- the byte cannot go on with the character at hand, and neither could the end of the bytes
    have hlow : (0x80 : UInt8) ≤ low := UInt8.le_iff_toNat_le.mpr h.1
    have hout : ¬(low ≤ b ∧ b ≤ high) := by
      intro hin
      exact UInt8.not_lt.mpr (UInt8.le_trans hlow hin.1) hb
    have hstep : step (.inside held code owed low high) b
        = ([.malformed held .badContinuation, .char (Char.ofNat b.toNat)], .ready) := by
      rw [step, if_neg hout, hfirst]
    rw [scanFrom_cons, hstep]
    rfl

theorem lenient_scanFrom_append_ascii (bytes : List UInt8) {s : State} (h : s.IsLong) {b : UInt8}
    (hb : b < 0x80) (rest : List UInt8) :
    (scanFrom s (bytes ++ b :: rest)).map Piece.lenient
      = (scanFrom s bytes).map Piece.lenient ++ Char.ofNat b.toNat :: decodeLenient rest := by
  induction bytes generalizing s with
  | nil => exact lenient_scanFrom_ascii h hb rest
  | cons x bytes ih =>
    rw [List.cons_append, scanFrom_cons, scanFrom_cons, List.map_append, List.map_append,
      ih (State.isLong_step h x), List.append_assoc]

/-- **A character of one byte parts a reading**: the bytes before it and those behind it are read by
themselves, whatever they are. -/
theorem decodeLenient_append_ascii (bytes : List UInt8) {b : UInt8} (hb : b < 0x80)
    (rest : List UInt8) :
    decodeLenient (bytes ++ b :: rest)
      = decodeLenient bytes ++ Char.ofNat b.toNat :: decodeLenient rest :=
  lenient_scanFrom_append_ascii (s := .ready) bytes trivial hb rest

theorem toNat_ofNat_of_valid {n : Nat} (h : n.isValidChar) : (Char.ofNat n).toNat = n := by
  rw [Char.ofNat, dif_pos h]
  rfl

theorem toNat_charOfByte {b : UInt8} (h : b < 0x80) : (Char.ofNat b.toNat).toNat = b.toNat := by
  have hsmall : b.toNat < 0x80 := UInt8.lt_iff_toNat_lt.mp h
  exact toNat_ofNat_of_valid (.inl (by omega))

/-- The character of a code from `0x80` on is none of one byte, but for the character zero, which
stands for a code that is none. -/
theorem charOfByte_ne {b : UInt8} (h : b < 0x80) (hne : b ≠ 0) {n : Nat} (hn : 0x80 ≤ n) :
    Char.ofNat n ≠ Char.ofNat b.toNat := by
  have hsmall : b.toNat < 0x80 := UInt8.lt_iff_toNat_lt.mp h
  have hpos : b.toNat ≠ 0 := fun hzero => hne (UInt8.toNat_inj.mp hzero)
  intro heq
  have hcode := congrArg Char.toNat heq
  rw [toNat_charOfByte h] at hcode
  by_cases hvalid : n.isValidChar
  · rw [toNat_ofNat_of_valid hvalid] at hcode
    omega
  · rw [Char.ofNat, dif_neg hvalid] at hcode
    exact hpos hcode.symm

theorem charOfByte_ne_replacement {b : UInt8} (h : b < 0x80) :
    Char.ofNat b.toNat ≠ Char.ofNat 0xFFFD := by
  intro heq
  have hcode := congrArg Char.toNat heq
  have hsmall : b.toNat < 0x80 := UInt8.lt_iff_toNat_lt.mp h
  rw [toNat_charOfByte h, toNat_ofNat_of_valid (by decide)] at hcode
  omega

/-- What a byte gives out is a character of one byte only if that is the byte. -/
theorem eq_of_mem_lenient_first {b x : UInt8} (hb : b < 0x80)
    (h : Char.ofNat b.toNat ∈ (first x).1.map Piece.lenient) : x = b := by
  have hlone : ∀ reason, Char.ofNat b.toNat ∉ [Piece.malformed [x] reason].map Piece.lenient :=
    fun _ hmem => charOfByte_ne_replacement hb (List.mem_singleton.mp hmem)
  unfold first at h
  split at h
  · rename_i hx
    have hcode := congrArg Char.toNat (List.mem_singleton.mp h)
    have hshown : (Piece.char (Char.ofNat x.toNat)).lenient = Char.ofNat x.toNat := rfl
    rw [toNat_charOfByte hb, hshown, toNat_charOfByte hx] at hcode
    exact UInt8.toNat_inj.mp hcode.symm
  split at h
  · exact absurd h (hlone _)
  split at h
  · exact absurd h List.not_mem_nil
  split at h
  · exact absurd h List.not_mem_nil
  split at h
  · exact absurd h List.not_mem_nil
  · exact absurd h (hlone _)

/-- What is given out for a byte holds a character of one byte only if that is the byte. -/
theorem eq_of_mem_lenient_step {s : State} (hs : s.IsLong) {b x : UInt8} (hb : b < 0x80)
    (hne : b ≠ 0) (h : Char.ofNat b.toNat ∈ (step s x).1.map Piece.lenient) : x = b := by
  cases s with
  | ready => exact eq_of_mem_lenient_first hb h
  | inside held code owed low high =>
    obtain ⟨hlow, -, hlast⟩ := hs
    by_cases hin : low ≤ x ∧ x ≤ high
    · rw [step, if_pos hin] at h
      by_cases howed : owed ≤ 1
      · rw [if_pos howed] at h
        have hx := UInt8.le_iff_toNat_le.mp hin.1
        have hcode := hlast howed
        exact absurd (List.mem_singleton.mp h).symm (charOfByte_ne hb hne (by omega))
      · rw [if_neg howed] at h
        exact absurd h List.not_mem_nil
    · rw [step, if_neg hin] at h
      rcases List.mem_cons.mp h with hreplacement | hfirst
      · exact absurd hreplacement (charOfByte_ne_replacement hb)
      · exact eq_of_mem_lenient_first hb hfirst

theorem mem_of_mem_lenient_scanFrom {b : UInt8} (hb : b < 0x80) (hne : b ≠ 0) (bytes : List UInt8)
    {s : State} (hs : s.IsLong) (h : Char.ofNat b.toNat ∈ (scanFrom s bytes).map Piece.lenient) :
    b ∈ bytes := by
  induction bytes generalizing s with
  | nil =>
    cases s with
    | ready => exact absurd h List.not_mem_nil
    | inside held code owed low high =>
      exact absurd (List.mem_singleton.mp h) (charOfByte_ne_replacement hb)
  | cons x bytes ih =>
    rw [scanFrom_cons, List.map_append] at h
    rcases List.mem_append.mp h with hstep | hrest
    · rw [eq_of_mem_lenient_step hs hb hne hstep]
      exact List.mem_cons_self
    · exact List.mem_cons_of_mem _ (ih (State.isLong_step hs x) hrest)

/-- **A character of one byte is read just where its byte stands**, however malformed the bytes
around it are. -/
theorem mem_decodeLenient_iff {b : UInt8} (hb : b < 0x80) (hne : b ≠ 0) (bytes : List UInt8) :
    Char.ofNat b.toNat ∈ decodeLenient bytes ↔ b ∈ bytes := by
  constructor
  · exact mem_of_mem_lenient_scanFrom hb hne bytes (s := .ready) trivial
  · intro h
    obtain ⟨front, rest, rfl⟩ := List.append_of_mem h
    rw [decodeLenient_append_ascii front hb]
    exact List.mem_append_right _ List.mem_cons_self

end TenantHost.Text.Utf8
