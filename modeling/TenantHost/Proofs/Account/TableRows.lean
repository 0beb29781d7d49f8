import TenantHost.Proofs.Account.NetListing
import TenantHost.Proofs.Command.Line
/-!
# Reading a table of accounts back

A listing that has its parts in order (header, row of dashes, table, two lines of summary) gives the
names in its table, whatever the size of the parts and however many line ends follow. Any other
output is unreadable, or its names stand in a block of lines that ends right before the last two.
-/

namespace TenantHost.Account

open Text

/-- A listing in order: its parts, and the number of line ends behind it. Only the first and one
other character of the row of dashes have to be dashes. -/
structure OrderlyTable where
  header : List (List Char)
  separator : List Char
  rows : List (List Char)
  summary : List Char
  lastLine : List Char
  lineEnds : Nat
  undashed : ∀ line ∈ header, line.head? ≠ some '-'
  dashedFirst : separator[0]? = some '-'
  dashedInPlace : separator[header.length]? = some '-'
  lastLine_ne_nil : lastLine ≠ []
  unbroken : ∀ line ∈ header ++ separator :: (rows ++ [summary, lastLine]), '\n' ∉ line

namespace OrderlyTable

/-- The lines of a listing. -/
def lines (table : OrderlyTable) : List (List Char) :=
  table.header ++ table.separator :: (table.rows ++ [table.summary, table.lastLine])

/-- The text of a listing: its lines joined by `\n`, and the line ends behind it. -/
def text (table : OrderlyTable) : List Char :=
  List.intercalate ['\n'] table.lines ++ List.replicate table.lineEnds '\n'

theorem outputLines_text (table : OrderlyTable) : outputLines table.text = table.lines := by
  have hlast : table.lines
      = (table.header ++ table.separator :: (table.rows ++ [table.summary]))
        ++ [table.lastLine] := by
    simp [lines]
  have hunbroken := table.unbroken
  rw [← lines, hlast] at hunbroken
  rw [text, hlast, outputLines_intercalate hunbroken table.lastLine_ne_nil]

/-- **The table is read in full**: its rows, and neither header nor summary. -/
theorem tableNames_text (table : OrderlyTable) :
    tableNames table.text = .ok (table.rows.flatMap words) := by
  have hfirst : table.separator.head? = some '-' := by
    rw [List.head?_eq_getElem?, table.dashedFirst]
  have hrows : (table.rows ++ [table.summary, table.lastLine]).take
      ((table.rows ++ [table.summary, table.lastLine]).length - summaryRows) = table.rows := by
    simp [summaryRows]
  rw [tableNames_of_lines table.outputLines_text table.undashed hfirst table.dashedInPlace, hrows]

end OrderlyTable

/-- **Whatever the output, a block of its lines is read**, if any is: the one that ends right before
the last two lines. Of one line or none, no block but the empty one does. -/
theorem tableNames_block (output : List Char) :
    tableNames output = .error (.unreadableTable "net user") ∨
      ∃ before block after, outputLines output = before ++ block ++ after ∧
        after.length = min summaryRows (outputLines output).length ∧
        tableNames output = .ok (block.flatMap words) := by
  rcases hstart : tableStart (outputLines output) with fault | start
  · exact .inl (by simp only [tableNames, hstart])
  · right
    let kept := (outputLines output).length - summaryRows
    refine ⟨((outputLines output).take kept).take start,
      ((outputLines output).take kept).drop start,
      (outputLines output).drop kept, ?_, ?_, by simp only [tableNames, hstart, kept]⟩
    · rw [List.take_append_drop, List.take_append_drop]
    · rw [List.length_drop]
      omega

/-- The names in rows of a listing are words. -/
theorem NetListing.isWord_of_mem_namesIn {rows : List (List Char)} {name : String}
    (h : name ∈ NetListing.namesIn rows) : Command.IsWord name := by
  obtain ⟨word, hword, rfl⟩ := List.mem_map.mp h
  obtain ⟨row, -, hrow⟩ := List.mem_flatMap.mp hword
  have htoken : String.ofList word ∈ Command.tokenize (String.ofList row) :=
    List.mem_map.mpr ⟨word, by rwa [String.toList_ofList], rfl⟩
  exact Command.isWord_of_mem_tokenize htoken

/-- **The accounts of a Windows host are those in the table of its listing.** Where the answer to
the listing command is no listing in order, it cannot be read, or what is read are words from a
block of lines right before the last two. -/
theorem listNames_of_table {σ : Type} {execute : Executor σ}
    (read : Path → Action σ (List UInt8))
    {w w' : World σ} {output : String} (h : execute ["net", "user"] w = (.ok output, w')) :
    (∀ table : OrderlyTable, output.toList = table.text →
      AccountStrategy.netTable.listNames execute read w
        = (.ok ((table.rows.flatMap words).map String.ofList), w')) ∧
    (AccountStrategy.netTable.listNames execute read w
        = (.error (.unreadableTable "net user"), w') ∨
      ∃ before block after, outputLines output.toList = before ++ block ++ after ∧
        after.length = min summaryRows (outputLines output.toList).length ∧
        AccountStrategy.netTable.listNames execute read w
          = (.ok ((block.flatMap words).map String.ofList), w') ∧
        ∀ name ∈ (block.flatMap words).map String.ofList, Command.IsWord name) := by
  have hnames := NetListing.listNames_netTable read h
  constructor
  · intro table htext
    rw [hnames, htext, table.tableNames_text]
    rfl
  · rcases tableNames_block output.toList with hfault | ⟨before, block, after, hlines,
      hafter, hblock⟩
    · left
      rw [hnames, hfault]
      rfl
    · right
      refine ⟨before, block, after, hlines, hafter, ?_, fun name hname =>
        NetListing.isWord_of_mem_namesIn hname⟩
      rw [hnames, hblock]
      rfl

/-- A listing with an empty line in its header and one in its table. Its row of dashes is as short
as it may be, and a blank line stands in front of the last one. -/
def OrderlyTable.ofThreeNames : OrderlyTable where
  header := ["User accounts for \\\\BUILD-HOST".toList, []]
  separator := "- -".toList
  rows := ["Guest   alice".toList, [], "bob".toList]
  summary := []
  lastLine := "The command completed successfully.".toList
  lineEnds := 2
  undashed := by decide
  dashedFirst := rfl
  dashedInPlace := rfl
  lastLine_ne_nil := by decide
  unbroken := by decide

theorem listNames_of_table_ofThreeNames :
    let execute : Executor Unit :=
      .ofParty fun _ => pure (String.ofList OrderlyTable.ofThreeNames.text)
    execute ["net", "user"] (World.start ())
        = (.ok (String.ofList OrderlyTable.ofThreeNames.text), ⟨(), [], [["net", "user"]]⟩) ∧
      AccountStrategy.netTable.listNames execute (fun _ => pure []) (World.start ())
        = (.ok ["Guest", "alice", "bob"], ⟨(), [], [["net", "user"]]⟩) := by
  have hnames : (OrderlyTable.ofThreeNames.rows.flatMap words).map String.ofList
      = ["Guest", "alice", "bob"] := by decide
  refine ⟨rfl, ?_⟩
  rw [← hnames]
  exact (listNames_of_table (fun _ => pure []) rfl).1 _ (String.toList_ofList)

end TenantHost.Account
