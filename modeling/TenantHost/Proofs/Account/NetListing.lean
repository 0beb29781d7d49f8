import TenantHost.Account.Strategy
import TenantHost.Proofs.Account.NetTable
import TenantHost.Proofs.Command.Launch
import TenantHost.Proofs.Command.Runner
import TenantHost.Proofs.Text.Lines
/-!
# The listing that `net user` prints

A listing as it is printed has `\r\n` for line ends, and its blank last line is a line of its own,
the second one behind the table. The output of a launched program has `\n` for line ends. Its last
line is then empty and is dropped, so the last row of the table stands where the summary is expected
and is lost with it.
-/

namespace TenantHost.Account

open Text

/-- A listing of accounts: a header, a row of dashes long enough to be found, and rows of names. -/
structure NetListing where
  header : List (List Char)
  dashes : Nat
  rows : List (List Char)
  undashed : ∀ line ∈ header, line.head? ≠ some '-'
  reaches : header.length < dashes
  clean : ∀ line ∈ header ++ rows, '\n' ∉ line ∧ '\r' ∉ line

namespace NetListing

/-- The line below the table. -/
def summary : List Char := "The command completed successfully.".toList

/-- The row of dashes. -/
def separator (listing : NetListing) : List Char :=
  List.replicate listing.dashes '-'

/-- The lines of a listing; behind the summary there is a blank one. -/
def lines (listing : NetListing) : List (List Char) :=
  listing.header ++ listing.separator :: (listing.rows ++ [summary, []])

/-- A listing as it is printed. -/
def printed (listing : NetListing) : List Char :=
  closed ['\r', '\n'] listing.lines

/-- The names in some rows. -/
def namesIn (rows : List (List Char)) : List String :=
  (rows.flatMap words).map String.ofList

/-! ## Its lines -/

theorem head_separator (listing : NetListing) : listing.separator.head? = some '-' := by
  have h := listing.reaches
  rw [separator, List.head?_replicate, if_neg (by omega)]

theorem getElem_separator (listing : NetListing) :
    listing.separator[listing.header.length]? = some '-' := by
  rw [separator, List.getElem?_replicate, if_pos listing.reaches]

theorem clean_lines (listing : NetListing) :
    ∀ line ∈ listing.lines, '\n' ∉ line ∧ '\r' ∉ line := by
  intro line hline
  simp only [lines, List.mem_append, List.mem_cons, List.not_mem_nil, or_false] at hline
  rcases hline with h | rfl | h | rfl | rfl
  · exact listing.clean line (List.mem_append_left _ h)
  · constructor <;>
    · intro hmem
      exact absurd (List.eq_of_mem_replicate hmem) (by decide)
  · exact listing.clean line (List.mem_append_right _ h)
  · decide
  · exact ⟨List.not_mem_nil, List.not_mem_nil⟩

/-! ## Its table -/

/-- **A printed listing is read in full.** -/
theorem tableNames_printed (listing : NetListing) :
    tableNames listing.printed = .ok (listing.rows.flatMap words) := by
  have hclean : ∀ line ∈ listing.lines.map (· ++ ['\r']), '\n' ∉ line := by
    intro line hline
    obtain ⟨l, hl, rfl⟩ := List.mem_map.mp hline
    rw [List.mem_append, not_or]
    exact ⟨(listing.clean_lines l hl).1, by decide⟩
  -- the blank line still holds its carriage return, so it is not dropped
  have hlines : outputLines listing.printed
      = listing.header.map (· ++ ['\r']) ++ (listing.separator ++ ['\r'])
        :: (listing.rows.map (· ++ ['\r']) ++ [summary ++ ['\r'], ['\r']]) := by
    have hlast : listing.lines.map (· ++ ['\r'])
        = (listing.header ++ listing.separator :: (listing.rows ++ [summary])).map (· ++ ['\r'])
          ++ [['\r']] := by
      simp [lines]
    rw [printed, closed_crlf, outputLines_closed hclean, hlast,
      dropTrailingEmpty_append_ne _ (List.cons_ne_nil _ _)]
    simp
  have hundashed : ∀ row ∈ listing.header.map (· ++ ['\r']), row.head? ≠ some '-' := by
    intro row hrow
    obtain ⟨l, hl, rfl⟩ := List.mem_map.mp hrow
    cases l with
    | nil => decide
    | cons c l => exact listing.undashed (c :: l) hl
  have hfirst : (listing.separator ++ ['\r']).head? = some '-' := by
    rw [List.head?_append, head_separator]
    rfl
  have hplace : (listing.separator ++ ['\r'])[(listing.header.map (· ++ ['\r'])).length]?
      = some '-' := by
    have hlen : listing.header.length < listing.separator.length := by
      rw [separator, List.length_replicate]
      exact listing.reaches
    rw [List.length_map, List.getElem?_append_left hlen, getElem_separator]
  rw [tableNames_of_lines hlines hundashed hfirst hplace, List.length_append,
    show [summary ++ ['\r'], ['\r']].length = summaryRows from rfl, Nat.add_sub_cancel,
    List.take_left' rfl, List.flatMap_map]
  simp only [words_append_return]

/-- **With `\n` for line ends the last row of the table is lost.** -/
theorem tableNames_unified (listing : NetListing) :
    tableNames (unifyNewlines listing.printed) = .ok (listing.rows.dropLast.flatMap words) := by
  have hlines : outputLines (unifyNewlines listing.printed)
      = listing.header ++ listing.separator :: (listing.rows ++ [summary]) := by
    have hlast : listing.lines
        = (listing.header ++ listing.separator :: (listing.rows ++ [summary])) ++ [[]] := by
      simp [lines]
    have hsummary : dropTrailingEmpty
        ((listing.header ++ listing.separator :: listing.rows) ++ [summary])
        = (listing.header ++ listing.separator :: listing.rows) ++ [summary] :=
      dropTrailingEmpty_append_ne _ (by decide)
    rw [printed, unifyNewlines_closed fun l hl => (listing.clean_lines l hl).2,
      outputLines_closed fun l hl => (listing.clean_lines l hl).1, hlast,
      dropTrailingEmpty_append_nil]
    simpa using hsummary
  have htake : (listing.rows ++ [summary]).take ((listing.rows ++ [summary]).length - summaryRows)
      = listing.rows.dropLast := by
    rw [List.length_append, List.length_singleton, summaryRows, Nat.add_sub_add_right,
      List.take_append_of_le_length (Nat.sub_le _ _), List.dropLast_eq_take]
  rw [tableNames_of_lines hlines listing.undashed listing.head_separator listing.getElem_separator,
    htake]

/-! ## Listing before and after the line ends are translated -/

theorem namesIn_dropLast_eq_iff (rows : List (List Char)) :
    namesIn rows.dropLast = namesIn rows ↔ ∀ row ∈ rows.getLast?, words row = [] := by
  rcases List.eq_nil_or_concat rows with rfl | ⟨init, last, rfl⟩
  · simp
  · have hnames : namesIn (init ++ [last]) = namesIn init ++ namesIn [last] := by
      simp [namesIn]
    rw [List.concat_eq_append, List.dropLast_concat, hnames, List.self_eq_append_right,
      List.getLast?_concat]
    simp [namesIn]

/-- The names that an executor's answer to the listing command holds. -/
theorem listNames_netTable {σ : Type} {execute : Executor σ}
    (read : Path → Action σ (List UInt8))
    {w w' : World σ} {output : String} (h : execute ["net", "user"] w = (.ok output, w')) :
    AccountStrategy.netTable.listNames execute read w
      = ((tableNames output.toList).map fun names => names.map String.ofList, w') := by
  have hrun : execute.runLine "net user" w = (.ok output, w') :=
    Executor.runLine_of_ok (List.cons_ne_nil _ _) h rfl
  exact Action.bind_ok hrun

section Reading

variable {σ : Type} (listing : NetListing) (read : Path → Action σ (List UInt8))

/-- An executor that answers with the listing as it is printed. -/
theorem listNames_printed {execute : Executor σ} {w w' : World σ}
    (h : execute ["net", "user"] w = (.ok (String.ofList listing.printed), w')) :
    (AccountStrategy.netTable.listNames execute read w).1 = .ok (namesIn listing.rows) := by
  rw [listNames_netTable read h, String.toList_ofList, tableNames_printed]
  rfl

/-- A launched program that writes the listing. -/
theorem listNames_launched {launch : List String → Action σ Finished} {w : World σ} {o : σ}
    {stderr : List UInt8}
    (h : launch ["net", "user"] w.outside = (.ok ⟨0, Utf8.encode listing.printed, stderr⟩, o)) :
    (AccountStrategy.netTable.listNames (.ofLauncher launch) read w).1
      = .ok (namesIn listing.rows.dropLast) := by
  have hout := Executor.ofLauncher_of_text (List.cons_ne_nil "net" ["user"]) h
  rw [listNames_netTable read hout, String.toList_ofList, tableNames_unified]
  rfl

/-- **A listing is read in full as it is printed, and without its last row as the output of a
launched program.** The two readings agree just when the last row holds no name. -/
theorem listNames_printed_launched (execute : Executor σ)
    (launch : List String → Action σ Finished) {w w' v : World σ} {o : σ} {stderr : List UInt8}
    (hprinted : execute ["net", "user"] w = (.ok (String.ofList listing.printed), w'))
    (hlaunched : launch ["net", "user"] v.outside
      = (.ok ⟨0, Utf8.encode listing.printed, stderr⟩, o)) :
    (AccountStrategy.netTable.listNames execute read w).1 = .ok (namesIn listing.rows) ∧
      (AccountStrategy.netTable.listNames (.ofLauncher launch) read v).1
        = .ok (namesIn listing.rows.dropLast) ∧
      ((AccountStrategy.netTable.listNames (.ofLauncher launch) read v).1
          = (AccountStrategy.netTable.listNames execute read w).1
        ↔ ∀ row ∈ listing.rows.getLast?, words row = []) := by
  have hfull := listNames_printed listing read hprinted
  have hlost := listNames_launched listing read hlaunched
  refine ⟨hfull, hlost, ?_⟩
  rw [hfull, hlost, Except.ok.injEq, namesIn_dropLast_eq_iff]

end Reading

/-- A listing with two rows of names. -/
def ofTwoRows : NetListing where
  header := ["".toList, "User accounts for \\\\BUILD-HOST".toList, "".toList]
  dashes := 79
  rows := ["Administrator            DefaultAccount           Guest                    ".toList,
    "WDAGUtilityAccount       alice".toList]
  undashed := by decide
  reaches := by decide
  clean := by decide

/-- An executor that answers every command with the listing as it is printed. -/
def answerTwoRows : Executor Unit :=
  Executor.ofParty fun _ => pure (String.ofList ofTwoRows.printed)

/-- A host on which every program writes the listing. -/
def launchTwoRows : List String → Action Unit Finished :=
  fun _ => pure ⟨0, Utf8.encode ofTwoRows.printed, []⟩

theorem listNames_ofTwoRows :
    answerTwoRows ["net", "user"] (World.start ())
        = (.ok (String.ofList ofTwoRows.printed), ⟨(), [], [["net", "user"]]⟩) ∧
      launchTwoRows ["net", "user"] () = (.ok ⟨0, Utf8.encode ofTwoRows.printed, []⟩, ()) ∧
      (AccountStrategy.netTable.listNames (.ofLauncher launchTwoRows) (fun _ => pure [])
          (World.start ())).1 = .ok (namesIn ofTwoRows.rows.dropLast) :=
  ⟨rfl, rfl, (listNames_printed_launched ofTwoRows (fun _ => pure []) answerTwoRows launchTwoRows
    (w := World.start ()) (v := World.start ()) rfl rfl).2.1⟩

/-- The row that is lost: of the five accounts that the listing names, a launched program's output
leaves three. -/
theorem listNames_ofTwoRows_loses :
    (AccountStrategy.netTable.listNames answerTwoRows (fun _ => pure []) (World.start ())).1
        = .ok ["Administrator", "DefaultAccount", "Guest", "WDAGUtilityAccount", "alice"] ∧
      (AccountStrategy.netTable.listNames (.ofLauncher launchTwoRows) (fun _ => pure [])
          (World.start ())).1
        = .ok ["Administrator", "DefaultAccount", "Guest"] := by
  have hfull : namesIn ofTwoRows.rows
      = ["Administrator", "DefaultAccount", "Guest", "WDAGUtilityAccount", "alice"] := by decide
  have hlost : namesIn ofTwoRows.rows.dropLast
      = ["Administrator", "DefaultAccount", "Guest"] := by decide
  constructor
  · rw [listNames_printed ofTwoRows (fun _ => pure []) (w := World.start ()) rfl, hfull]
  · rw [listNames_launched ofTwoRows (fun _ => pure []) (w := World.start ()) rfl, hlost]

end NetListing

end TenantHost.Account
