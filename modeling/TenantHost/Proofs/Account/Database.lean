import TenantHost.Account.Strategy
import TenantHost.Proofs.Account.Records
/-!
# The account database, line by line

A database is read line by line, whatever its bytes are: what stands behind a line end is read by
itself, and a line gives the name before its first colon, or none. Malformed bytes beside a colon or
a line end neither hide it nor make one up. So the names of a database are those of its records, in
its order.
-/

namespace TenantHost.Account

open Text

/-! ## One line -/

/-- The bytes of a line: none of them ends it. -/
def IsLine (bytes : List UInt8) : Prop :=
  0x0A ∉ bytes ∧ 0x0D ∉ bytes

instance (bytes : List UInt8) : Decidable (IsLine bytes) :=
  inferInstanceAs (Decidable (_ ∧ _))

/-- What stands at the end of a line. -/
inductive LineEnd where
  | lineFeed
  | returnLineFeed
  | carriageReturn
  deriving DecidableEq, Repr

/-- The bytes of a line end. -/
def LineEnd.bytes : LineEnd → List UInt8
  | .lineFeed => [0x0A]
  | .returnLineFeed => [0x0D, 0x0A]
  | .carriageReturn => [0x0D]

/-- The name that a line gives: what the bytes before its first colon are read as. -/
def nameInLine? (line : List UInt8) : Option String :=
  if 0x3A ∈ line then some (String.ofList (Utf8.decodeLenient (line.takeWhile (· ≠ 0x3A))))
  else none

theorem mem_decodeLenient_colon (bytes : List UInt8) :
    ':' ∈ Utf8.decodeLenient bytes ↔ 0x3A ∈ bytes :=
  Utf8.mem_decodeLenient_iff (b := 0x3A) (by decide) (by decide) bytes

/-- A line is read as a text without line ends. -/
theorem IsLine.not_mem_lineEnd {line : List UInt8} (h : IsLine line) :
    '\n' ∉ Utf8.decodeLenient line ∧ '\r' ∉ Utf8.decodeLenient line := by
  constructor
  · intro hmem
    exact h.1 ((Utf8.mem_decodeLenient_iff (b := 0x0A) (by decide) (by decide) line).mp hmem)
  · intro hmem
    exact h.2 ((Utf8.mem_decodeLenient_iff (b := 0x0D) (by decide) (by decide) line).mp hmem)

/-- What stands before the first colon of a line is read by itself. -/
theorem nameInLine?_of_first {front : List UInt8} (h : 0x3A ∉ front) (rest : List UInt8) :
    nameInLine? (front ++ 0x3A :: rest) = some (String.ofList (Utf8.decodeLenient front)) := by
  have hcolon : 0x3A ∈ front ++ 0x3A :: rest :=
    List.mem_append_right _ List.mem_cons_self
  rw [nameInLine?, if_pos hcolon, takeWhile_ne_append_cons h]

/-- **The first colon of a line is the first one of its text**, whatever malformed bytes are beside
it. -/
theorem recordName?_decodeLenient (line : List UInt8) :
    (recordName? (Utf8.decodeLenient line)).map String.ofList = nameInLine? line := by
  by_cases hcolon : 0x3A ∈ line
  · obtain ⟨front, rest, rfl, hfront⟩ := List.eq_append_cons_of_mem hcolon
    have htext : ':' ∉ Utf8.decodeLenient front :=
      fun h => hfront ((mem_decodeLenient_colon front).mp h)
    have hread : Utf8.decodeLenient (front ++ 0x3A :: rest)
        = Utf8.decodeLenient front ++ ':' :: Utf8.decodeLenient rest :=
      Utf8.decodeLenient_append_ascii front (by decide) rest
    rw [nameInLine?_of_first hfront, hread, recordName?_line htext]
    rfl
  · have htext : ':' ∉ Utf8.decodeLenient line :=
      fun h => hcolon ((mem_decodeLenient_colon line).mp h)
    rw [nameInLine?, if_neg hcolon, recordName?, if_neg htext]
    rfl

/-- The text of one line holds one record, or none. -/
theorem recordNames_of_line {text : List Char} (h : '\n' ∉ text) :
    recordNames text = (recordName? text).toList := by
  have hfields : fields (· == '\n') text = [text] := by
    apply fields_eq_singleton
    intro c hc
    rw [beq_eq_false_iff_ne]
    rintro rfl
    exact h hc
  rw [recordNames, hfields, List.filterMap_cons]
  cases recordName? text <;> rfl

/-- The text of a line with its end. -/
theorem decodeLenient_append_lineEnd (line : List UInt8) (lineEnd : LineEnd) :
    Utf8.decodeLenient (line ++ lineEnd.bytes)
      = Utf8.decodeLenient line ++ Utf8.decodeLenient lineEnd.bytes := by
  cases lineEnd <;> exact Utf8.decodeLenient_append_ascii line (by decide) _

/-- Every line end comes to the same. -/
theorem unifyNewlines_lineEnd (lineEnd : LineEnd) :
    unifyNewlines (Utf8.decodeLenient lineEnd.bytes) = ['\n'] := by
  cases lineEnd <;> decide

/-- **A line gives one name or none**, whatever ends it. -/
theorem namesInRecords_line {line : List UInt8} (h : IsLine line) (lineEnd : Option LineEnd) :
    namesInRecords (line ++ (lineEnd.map LineEnd.bytes).getD []) = (nameInLine? line).toList := by
  obtain ⟨hfeed, hreturn⟩ := h.not_mem_lineEnd
  have hnames : (recordNames (Utf8.decodeLenient line)).map String.ofList
      = (nameInLine? line).toList := by
    rw [recordNames_of_line hfeed, ← recordName?_decodeLenient]
    cases recordName? (Utf8.decodeLenient line) <;> rfl
  cases lineEnd with
  | none =>
    have hunified := unifyNewlines_append hreturn []
    rw [List.append_nil, unifyNewlines, List.append_nil] at hunified
    rw [Option.map_none, Option.getD_none, List.append_nil, namesInRecords, hunified, hnames]
  | some lineEnd =>
    rw [Option.map_some, Option.getD_some, namesInRecords, decodeLenient_append_lineEnd,
      unifyNewlines_append hreturn, unifyNewlines_lineEnd, recordNames_append_newline,
        recordNames_nil,
      List.append_nil, hnames]

/-! ## Whole databases -/

/-- A line of a database: the record of an account, or a line that names none. -/
inductive Entry where
  | record (name : String) (rest : List UInt8)
  | remark (bytes : List UInt8)

namespace Entry

/-- The bytes of a line. -/
def bytes : Entry → List UInt8
  | record name rest => Utf8.encode name.toList ++ 0x3A :: rest
  | remark bytes => bytes

/-- The account that a line is the record of. -/
def name? : Entry → Option String
  | record name _ => some name
  | remark _ => none

/-- That a line is one, and is read as what it is meant to be: a name has neither a colon nor a line
end, and a line that names no account has no colon. -/
def IsClean : Entry → Prop
  | record name rest =>
    ':' ∉ name.toList ∧ (∀ c ∈ name.toList, ¬IsLineEnd c) ∧ IsLine rest
  | remark bytes => 0x3A ∉ bytes ∧ IsLine bytes

instance (entry : Entry) : Decidable entry.IsClean :=
  match entry with
  | record name _ =>
    -- the characters of the name are gone through, not all that there are
    haveI : Decidable (∀ c ∈ name.toList, ¬IsLineEnd c) := List.decidableBAll _ _
    inferInstanceAs (Decidable (_ ∧ _ ∧ _))
  | remark _ => inferInstanceAs (Decidable (_ ∧ _))

theorem mem_encode_iff {b : UInt8} (hb : b < 0x80) (hne : b ≠ 0) (text : List Char) :
    b ∈ Utf8.encode text ↔ Char.ofNat b.toNat ∈ text := by
  rw [← Utf8.mem_decodeLenient_iff hb hne, Utf8.decodeLenient_encode]

theorem IsClean.isLine {entry : Entry} (h : entry.IsClean) : IsLine entry.bytes := by
  cases entry with
  | record name rest =>
    obtain ⟨-, hname, hrest⟩ := h
    constructor
    · intro hmem
      rcases List.mem_append.mp hmem with hmem | hmem
      · exact hname '\n' ((mem_encode_iff (by decide) (by decide) _).mp hmem) (.inl rfl)
      · rcases List.mem_cons.mp hmem with hcolon | hmem
        · exact absurd hcolon (by decide)
        · exact hrest.1 hmem
    · intro hmem
      rcases List.mem_append.mp hmem with hmem | hmem
      · exact hname '\r' ((mem_encode_iff (by decide) (by decide) _).mp hmem) (.inr rfl)
      · rcases List.mem_cons.mp hmem with hcolon | hmem
        · exact absurd hcolon (by decide)
        · exact hrest.2 hmem
  | remark bytes => exact h.2

/-- A record gives its own name, and another line none. -/
theorem IsClean.nameInLine {entry : Entry} (h : entry.IsClean) :
    nameInLine? entry.bytes = entry.name? := by
  cases entry with
  | record name rest =>
    have hcolon : 0x3A ∉ Utf8.encode name.toList := by
      intro hmem
      exact h.1 ((mem_encode_iff (by decide) (by decide) _).mp hmem)
    rw [bytes, nameInLine?_of_first hcolon, Utf8.decodeLenient_encode, String.ofList_toList]
    rfl
  | remark bytes =>
    rw [Entry.bytes, nameInLine?, if_neg h.1]
    rfl

end Entry

/-- Lines one after the other, each with its own end. -/
def written (lines : List (Entry × LineEnd)) : List UInt8 :=
  lines.flatMap fun line => line.1.bytes ++ line.2.bytes

theorem ended_append_lineEnd (line : List UInt8) (lineEnd : LineEnd) :
    Ended (line ++ lineEnd.bytes) := by
  intro b hb
  rw [List.getLast?_append] at hb
  cases lineEnd with
  | lineFeed => exact .inl (Option.some.inj hb).symm
  | returnLineFeed => exact .inl (Option.some.inj hb).symm
  | carriageReturn => exact .inr (Option.some.inj hb).symm

/-- What is written line by line is read in front of what stands behind it. -/
theorem namesInRecords_written_append {lines : List (Entry × LineEnd)}
    (h : ∀ line ∈ lines, line.1.IsClean) (more : List UInt8) :
    namesInRecords (written lines ++ more)
      = (lines.filterMap fun line => line.1.name?) ++ namesInRecords more := by
  induction lines with
  | nil => rfl
  | cons line lines ih =>
    have hline := h line List.mem_cons_self
    have hrest := ih fun other hmem => h other (List.mem_cons_of_mem line hmem)
    have hname := namesInRecords_line hline.isLine (some line.2)
    rw [hline.nameInLine, Option.map_some, Option.getD_some] at hname
    have hcut : written (line :: lines) ++ more
        = line.1.bytes ++ line.2.bytes ++ (written lines ++ more) := by
      rw [written, List.flatMap_cons, ← written, List.append_assoc]
    rw [hcut, namesInRecords_append (ended_append_lineEnd _ _), hname, hrest, ← List.append_assoc,
      List.filterMap_cons]
    cases line.1.name? <;> rfl

/-! ## Listings -/

/-- What a host with an account database lists, by the bytes that the database holds. -/
def namesListed {σ : Type} (execute : Executor σ) (database : Path) (w : World σ)
    (bytes : List UInt8) : Except Fault (List String) :=
  ((AccountStrategy.records database).listNames execute (fun _ => pure bytes) w).1

theorem namesListed_eq {σ : Type} (execute : Executor σ) (database : Path) (w : World σ)
    (bytes : List UInt8) : namesListed execute database w bytes = .ok (namesInRecords bytes) :=
  rfl

/-- **A database is listed line by line.** What stands behind a line end is listed behind what
stands before it; a line gives the name before its first colon, whatever ends it, or none; and so
the names of all records come back in order, however lines without a colon stand between them and
the lines end. -/
theorem namesListed_lines {σ : Type} (execute : Executor σ) (database : Path) (w : World σ) :
    (∀ bytes more, Ended bytes →
      namesListed execute database w (bytes ++ more)
        = do return (← namesListed execute database w bytes)
          ++ (← namesListed execute database w more)) ∧
    (∀ line (lineEnd : Option LineEnd), IsLine line →
      namesListed execute database w (line ++ (lineEnd.map LineEnd.bytes).getD [])
        = .ok (nameInLine? line).toList) ∧
    (∀ (lines : List (Entry × LineEnd)) (last : Entry), (∀ line ∈ lines, line.1.IsClean) →
      last.IsClean →
      namesListed execute database w (written lines ++ last.bytes)
        = .ok ((lines.filterMap fun line => line.1.name?) ++ last.name?.toList)) := by
  refine ⟨fun bytes more h => ?_, fun line lineEnd h => ?_, fun lines last h hlast => ?_⟩
  · rw [namesListed_eq, namesListed_eq, namesListed_eq, namesInRecords_append h]
    rfl
  · rw [namesListed_eq, namesInRecords_line h]
  · have hend := namesInRecords_line hlast.isLine none
    rw [Option.map_none, Option.getD_none, List.append_nil, hlast.nameInLine] at hend
    rw [namesListed_eq, namesInRecords_written_append h, hend]

/-- What a host lists that runs no commands. -/
def listedAlone (bytes : List UInt8) : Except Fault (List String) :=
  namesListed (σ := Unit) (.ofParty fun _ => .fail .embeddedNull) ⟨.root, ["etc", "passwd"]⟩
    (World.start ()) bytes

/-- A name that breaks off inside a character keeps its colon, a `\r\n` may arise where two parts
meet, and a byte that begins no character stands for itself. -/
theorem listedAlone_of_malformed :
    listedAlone ([0xE2, 0x82, 0x3A, 0x0D] ++ [0x0A, 0xFF, 0x62, 0x3A])
      = .ok ["\uFFFD", "\uFFFDb"] ∧
      listedAlone ([0xC3, 0x3A, 0x3A] ++ LineEnd.returnLineFeed.bytes) = .ok ["\uFFFD"] ∧
      listedAlone (written [(.record "zoë" [0x3A, 0xFF], .carriageReturn), (.remark [], .lineFeed),
          (.remark [0xC3], .returnLineFeed)] ++ (Entry.record "bob" []).bytes)
        = .ok ["zoë", "bob"] := by
  obtain ⟨happend, hline, hall⟩ :=
    namesListed_lines (σ := Unit) (.ofParty fun _ => .fail .embeddedNull)
    ⟨.root, ["etc", "passwd"]⟩ (World.start ())
  refine ⟨?_, ?_, ?_⟩
  · have hended : Ended [0xE2, 0x82, 0x3A, 0x0D] := by
      intro b hb
      exact .inr (Option.some.inj hb).symm
    have hnames : namesInRecords [0xE2, 0x82, 0x3A, 0x0D] ++ namesInRecords [0x0A, 0xFF, 0x62, 0x3A]
        = ["\uFFFD", "\uFFFDb"] := by decide
    rw [listedAlone, happend _ _ hended]
    exact congrArg Except.ok hnames
  · exact hline [0xC3, 0x3A, 0x3A] (some .returnLineFeed) (by decide)
  · refine hall _ (.record "bob" []) ?_ (by decide)
    decide

end TenantHost.Account
