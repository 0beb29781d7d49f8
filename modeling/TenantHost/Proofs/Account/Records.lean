import TenantHost.Account.Records
import TenantHost.Proofs.Command.Line
import TenantHost.Proofs.Text.Lines
import TenantHost.Proofs.Text.Utf8
/-!
# Adding a record to a database

A database that is empty or ends with a line end can be added to: what is written behind it is read
by itself, whatever the bytes before it are, also if they are malformed. A record that is added
names one account.
-/

namespace TenantHost.Account

open Text

/-- The end of a line, as the database is read. -/
def IsLineEnd (c : Char) : Prop :=
  c = '\n' ∨ c = '\r'

instance (c : Char) : Decidable (IsLineEnd c) :=
  inferInstanceAs (Decidable (_ ∨ _))

/-- A database that is empty or ends with a line end. -/
def Ended (bytes : List UInt8) : Prop :=
  ∀ b ∈ bytes.getLast?, b = 0x0A ∨ b = 0x0D

/-- A name that an account can have: a word without a colon. -/
def IsAccountName (name : String) : Prop :=
  Command.IsWord name ∧ ':' ∉ name.toList

instance (name : String) : Decidable (IsAccountName name) :=
  inferInstanceAs (Decidable (_ ∧ _))

/-- The line of an account, with the rest of its record behind the first colon. -/
def recordLine (name : String) (rest : List Char) : List Char :=
  name.toList ++ ':' :: rest ++ ['\n']

/-! ## What stands before the addition -/

/-- Such bytes are read apart from those behind them, and what is read ends with a line end. -/
theorem decodeLenient_append {bytes : List UInt8} (h : Ended bytes) (hne : bytes ≠ [])
    (added : List UInt8) :
    ∃ front c, IsLineEnd c ∧ Utf8.decodeLenient bytes = front ++ [c] ∧
      Utf8.decodeLenient (bytes ++ added) = front ++ c :: Utf8.decodeLenient added := by
  -- the last byte is a character of its own, whatever malformed bytes stand before it
  obtain ⟨before, hbytes⟩ := List.getLast?_eq_some_iff.mp (List.getLast?_eq_some_getLast hne)
  have hlast := h _ (List.getLast?_eq_some_getLast hne)
  rw [hbytes]
  generalize bytes.getLast hne = b at hlast
  have hascii : b < 0x80 := by
    rcases hlast with rfl | rfl <;> decide
  refine ⟨Utf8.decodeLenient before, Char.ofNat b.toNat, ?_,
    Utf8.decodeLenient_append_ascii before hascii [], ?_⟩
  · rcases hlast with rfl | rfl
    · exact .inl rfl
    · exact .inr rfl
  · rw [List.append_assoc, List.singleton_append]
    exact Utf8.decodeLenient_append_ascii before hascii added

@[simp] theorem recordNames_nil : recordNames [] = [] := rfl

/-- A line end keeps the records before it apart from those behind it. -/
@[simp] theorem recordNames_append_newline (a b : List Char) :
    recordNames (a ++ '\n' :: b) = recordNames a ++ recordNames b := by
  rw [recordNames, fields_append_cut (by rfl), List.filterMap_append]
  rfl

/-- A line end at the start is a blank line, which is no record. -/
@[simp] theorem recordNames_newline_cons (b : List Char) :
    recordNames ('\n' :: b) = recordNames b :=
  recordNames_append_newline [] b

/-- The records of two texts that meet at a line end of any kind. If that is a `\r\n`, a blank line
is lost, which is no record. -/
theorem recordNames_unifyNewlines_append (front : List Char) {c : Char} (hc : IsLineEnd c)
    (added : List Char) :
    recordNames (unifyNewlines (front ++ c :: added))
      = recordNames (unifyNewlines (front ++ [c])) ++ recordNames (unifyNewlines added) := by
  obtain ⟨before, hbefore⟩ := exists_unifyNewlines_append_lineEnd front hc
  by_cases hmeet : c = '\r' ∧ added.head? = some '\n'
  · obtain ⟨rfl, hhead⟩ := hmeet
    obtain ⟨rest, rfl⟩ := List.head?_eq_some_iff.mp hhead
    have hfront : ∀ text, unifyNewlines (front ++ '\r' :: text)
        = unifyNewlines front ++ unifyNewlines ('\r' :: text) := by
      intro text
      exact unifyNewlines_append_of_apart front fun h => absurd h.2 (by simp)
    have hpair : unifyNewlines ('\r' :: '\n' :: rest) = '\n' :: unifyNewlines rest := by
      rw [unifyNewlines]
    have hblank : unifyNewlines ('\n' :: rest) = '\n' :: unifyNewlines rest := by
      rw [unifyNewlines]
      · rfl
      · intro _ h
        exact absurd h (by decide)
    have hlone : unifyNewlines ['\r'] = ['\n'] := rfl
    rw [hfront, hfront, hpair, hblank, hlone]
    simp
  · have hcut : front ++ c :: added = front ++ [c] ++ added := by
      rw [List.append_assoc, List.singleton_append]
    have hapart : ¬((front ++ [c]).getLast? = some '\r' ∧ added.head? = some '\n') := by
      rw [List.getLast?_concat]
      rintro ⟨hlast, hhead⟩
      exact hmeet ⟨Option.some.inj hlast, hhead⟩
    rw [hcut, unifyNewlines_append_of_apart _ hapart, hbefore]
    simp

/-- **What is written behind a database that is empty or ends with a line end is read by
itself.** -/
theorem namesInRecords_append {bytes : List UInt8} (h : Ended bytes) (added : List UInt8) :
    namesInRecords (bytes ++ added) = namesInRecords bytes ++ namesInRecords added := by
  by_cases hne : bytes = []
  · -- nothing stands before the addition
    rw [hne, List.nil_append]
    rfl
  · obtain ⟨front, c, hc, hbytes, hall⟩ := decodeLenient_append h hne added
    rw [namesInRecords, hall, recordNames_unifyNewlines_append front hc, ← hbytes,
      List.map_append]
    rfl

/-! ## The added record -/

theorem IsAccountName.not_mem_lineEnd {name : String} (h : IsAccountName name) {c : Char}
    (hc : IsLineEnd c) : c ∉ name.toList := by
  intro hmem
  have hblank := h.1.2 c hmem
  rcases hc with rfl | rfl
  · exact absurd hblank (by decide)
  · exact absurd hblank (by decide)

/-- What stands before the first of its kind. -/
theorem takeWhile_ne_append_cons {α : Type} [DecidableEq α] {a : α} {front : List α}
    (h : a ∉ front)
    (rest : List α) : (front ++ a :: rest).takeWhile (fun x => decide (x ≠ a)) = front := by
  have hfront : ∀ x ∈ front, decide (x ≠ a) = true := by
    intro x hx
    refine decide_eq_true ?_
    rintro rfl
    exact h hx
  have hlast : (a :: rest).takeWhile (fun x => decide (x ≠ a)) = [] := by
    apply List.takeWhile_cons_of_neg
    rw [decide_eq_true_eq]
    exact fun hne => hne rfl
  rw [List.takeWhile_append_of_pos hfront, hlast, List.append_nil]

/-- A line that begins with a name and a colon is a record of that name. -/
theorem recordName?_line {name : List Char} (h : ':' ∉ name) (rest : List Char) :
    recordName? (name ++ ':' :: rest) = some name := by
  have hcolon : ':' ∈ name ++ ':' :: rest :=
    List.mem_append_right _ List.mem_cons_self
  rw [recordName?, if_pos hcolon, takeWhile_ne_append_cons h]

/-- **The line of an account is read back as a record of that account, and of no other.** -/
theorem namesInRecords_recordLine {name : String} (h : IsAccountName name) {rest : List Char}
    (hrest : ∀ c ∈ rest, ¬IsLineEnd c) :
    namesInRecords (Utf8.encode (recordLine name rest)) = [name] := by
  have hline : ∀ c, IsLineEnd c → c ∉ name.toList ++ ':' :: rest := by
    intro c hc hmem
    rcases List.mem_append.mp hmem with hmem | hmem
    · exact h.not_mem_lineEnd hc hmem
    · rcases List.mem_cons.mp hmem with rfl | hmem
      · exact absurd hc (by decide)
      · exact hrest c hmem hc
  have hunified : unifyNewlines (recordLine name rest) = name.toList ++ ':' :: rest ++ ['\n'] := by
    rw [recordLine, unifyNewlines_append (hline '\r' (.inr rfl))]
    simp [unifyNewlines]
  have hfields : fields (· == '\n') (name.toList ++ ':' :: rest)
      = [name.toList ++ ':' :: rest] := by
    apply fields_eq_singleton
    intro c hc
    rw [beq_eq_false_iff_ne]
    rintro rfl
    exact hline '\n' (.inl rfl) hc
  rw [namesInRecords, Utf8.decodeLenient_encode, hunified, recordNames_append_newline,
    recordNames_nil, List.append_nil, recordNames, hfields,
    List.filterMap_cons_some (recordName?_line h.2 rest), List.filterMap_nil, List.map_singleton,
    String.ofList_toList]

/-- **Adding the line of an account adds that account to the end of the listing**, and leaves a
database that can be added to again. -/
theorem namesInRecords_add {bytes : List UInt8} (h : Ended bytes) {name : String}
    (hname : IsAccountName name) {rest : List Char} (hrest : ∀ c ∈ rest, ¬IsLineEnd c) :
    namesInRecords (bytes ++ Utf8.encode (recordLine name rest)) = namesInRecords bytes
      ++ [name] := by
  rw [namesInRecords_append h, namesInRecords_recordLine hname hrest]

theorem ended_add (bytes : List UInt8) (name : String) (rest : List Char) :
    Ended (bytes ++ Utf8.encode (recordLine name rest)) := by
  have hend : Utf8.encode ['\n'] = [0x0A] := by decide
  have hlast : (bytes ++ Utf8.encode (recordLine name rest)).getLast? = some 0x0A := by
    rw [recordLine, Utf8.encode, List.flatMap_append, ← Utf8.encode, ← Utf8.encode, hend,
      ← List.append_assoc, List.getLast?_concat]
  intro b hb
  rw [hlast] at hb
  exact .inl (Option.some.inj hb).symm

end TenantHost.Account
