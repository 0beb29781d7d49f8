import TenantHost.Proofs.Account.Refusals
import TenantHost.Proofs.Command.Launch
import TenantHost.Proofs.Text.OutputLines
/-!
# A listing with one name a line

What `dscl . list /users` prints holds one name a line. Names without line ends come back from it in
order, none lost and none added, however many line ends follow. Where a launched program prints it,
they do just if none of them holds a carriage return: that is a line end too in the output of a
program.
-/

namespace TenantHost

/-- The names in an output are the texts of its lines. An output without any needs no case of its
own. -/
theorem AccountStrategy.namesInLines_eq_iff {output : String} {names : List String} :
    namesInLines output = names ↔ Text.outputLines output.toList = names.map String.toList := by
  have hnames : namesInLines output = (Text.outputLines output.toList).map String.ofList := by
    unfold namesInLines
    split
    · next hnone =>
      rw [hnone]
      rfl
    · rfl
  rw [hnames]
  constructor
  · rintro rfl
    simp
  · intro hlines
    simp [hlines]

namespace Account

open Text

/-- A listing with one name a line: the names, and the number of line ends behind the last one. -/
structure NameListing where
  names : List String
  lineEnds : Nat
  named : ∀ name ∈ names, name ≠ ""
  unbroken : ∀ name ∈ names, '\n' ∉ name.toList

namespace NameListing

/-- The command that asks for the listing. -/
def command : List String := ["dscl", ".", "list", "/users"]

/-- A listing as it is printed. -/
def printed (listing : NameListing) : String :=
  joined "\n" listing.names ++ String.ofList (List.replicate listing.lineEnds '\n')

theorem toList_printed (listing : NameListing) :
    listing.printed.toList
      = List.intercalate ['\n'] (listing.names.map String.toList)
        ++ List.replicate listing.lineEnds '\n' := by
  rw [printed, String.toList_append, String.toList_ofList, joined, String.toList_intercalate]
  rfl

/-- The lines of a listing are its names. -/
theorem outputLines_printed (listing : NameListing) :
    outputLines listing.printed.toList = listing.names.map String.toList := by
  rw [toList_printed]
  apply outputLines_written
  · intro l hl
    obtain ⟨name, hname, rfl⟩ := List.mem_map.mp hl
    exact listing.unbroken name hname
  · intro hlast
    obtain ⟨name, hname, hempty⟩ := List.mem_map.mp (List.mem_of_mem_getLast? hlast)
    exact listing.named name hname (String.toList_eq_nil_iff.mp hempty)

theorem namesInLines_printed (listing : NameListing) :
    AccountStrategy.namesInLines listing.printed = listing.names :=
  AccountStrategy.namesInLines_eq_iff.mpr listing.outputLines_printed

/-- With one kind of line end the names come back just if none holds a carriage return. -/
theorem namesInLines_unified_eq_iff (listing : NameListing) :
    AccountStrategy.namesInLines (String.ofList (unifyNewlines listing.printed.toList))
      = listing.names
      ↔ ∀ name ∈ listing.names, '\r' ∉ name.toList := by
  rw [AccountStrategy.namesInLines_eq_iff, String.toList_ofList, ← outputLines_printed,
    outputLines_unifyNewlines_eq_iff, outputLines_printed, List.forall_mem_map]

/-! ## Listing the accounts of a host -/

section Listing

variable {σ : Type} {directory : Directory} {host : Host σ} {s : Option String × World σ}

/-- The accounts of a macOS host are the lines of what the listing command answers. -/
theorem listUsers_of_answer (hplatform : directory.platform = .macos) (task : Option TaskJournal)
    {output : String} {w' : World σ} (h : host.execute command s.2 = (.ok output, w')) :
    directory.listUsers host task s = (.ok (AccountStrategy.namesInLines output), (s.1, w')) := by
  have hrun : host.execute.runLine "dscl . list /users" s.2 = (.ok output, w') :=
    Executor.runLine_of_ok (List.cons_ne_nil _ _) h rfl
  apply Directory.listUsers_of_listing
  apply Action.onSecond_of
  rw [hplatform]
  exact Action.bind_ok hrun

/-- The accounts of a macOS host on which a launched program prints the listing. -/
theorem listUsers_of_launch (hplatform : directory.platform = .macos) (task : Option TaskJournal)
    {launch : List String → Action σ Finished} (hlauncher : host.execute = .ofLauncher launch)
    {text : List Char} {stderr : List UInt8} {o : σ}
    (h : launch command s.2.outside = (.ok ⟨0, Utf8.encode text, stderr⟩, o)) :
    (directory.listUsers host task s).1
      = .ok (AccountStrategy.namesInLines (String.ofList (unifyNewlines text))) := by
  have hout := Executor.ofLauncher_of_text (List.cons_ne_nil "dscl" [".", "list", "/users"]) h
  rw [← hlauncher] at hout
  rw [listUsers_of_answer hplatform task hout]

end Listing

/-- **Cutting an output into lines and writing lines undo each other, and a listing of names comes
back as it was.** The lines of an output are the one list of lines without line ends, the last one
not empty, that it is written from. So names that are printed one a line are the accounts of a macOS
host, in order; where a launched program prints them, just if no carriage return stands in one. -/
theorem lines_and_names_exact :
    (∀ (text : List Char) (ls : List (List Char)), outputLines text = ls ↔
      (∀ l ∈ ls, '\n' ∉ l) ∧ ls.getLast? ≠ some [] ∧
        ∃ k, text = List.intercalate ['\n'] ls ++ List.replicate k '\n') ∧
    ∀ {σ : Type} (listing : NameListing) (directory : Directory) (host : Host σ)
      (task : Option TaskJournal) (s : Option String × World σ), directory.platform = .macos →
      (∀ w', host.execute command s.2 = (.ok listing.printed, w') →
        directory.listUsers host task s = (.ok listing.names, (s.1, w'))) ∧
      ∀ launch stderr o, host.execute = .ofLauncher launch →
        launch command s.2.outside
          = (.ok ⟨0, Utf8.encode listing.printed.toList, stderr⟩, o) →
        ((directory.listUsers host task s).1 = .ok listing.names ↔
          ∀ name ∈ listing.names, '\r' ∉ name.toList) := by
  refine ⟨fun text ls => outputLines_eq_iff, ?_⟩
  intro σ listing directory host task s hplatform
  constructor
  · intro w' hanswer
    rw [listUsers_of_answer hplatform task hanswer, namesInLines_printed]
  · intro launch stderr o hlauncher hlaunch
    rw [listUsers_of_launch hplatform task hlauncher hlaunch, Except.ok.injEq,
      namesInLines_unified_eq_iff]

/-- A listing with two line ends behind it. One of its names holds a carriage return. -/
def ofThreeNames : NameListing where
  names := ["root", "daemon\r", "alice"]
  lineEnds := 2
  named := by decide
  unbroken := by decide

/-- A host that answers every command with the listing. -/
def answerThreeNames : Host Unit :=
  (Host.ofUser "builder").withParty fun _ => pure ofThreeNames.printed

/-- A program that prints the listing, whatever it is called. -/
def printThreeNames : List String → Action Unit Finished :=
  fun _ => pure ⟨0, Utf8.encode ofThreeNames.printed.toList, []⟩

/-- Empty lines in front of others and between them stay. Of the three names all are listed, but not
where a program is launched for them. -/
theorem lines_and_names_exact_ofThreeNames :
    let directory : Directory := ⟨.macos, false, ⟨.here, ["passwd"]⟩⟩
    let launching : Host Unit := { Host.ofUser "builder" with
      execute := .ofLauncher printThreeNames }
    outputLines "\n\nroot\n\nalice\n\n\n".toList
        = ["".toList, "".toList, "root".toList, "".toList, "alice".toList] ∧
      directory.listUsers answerThreeNames none (none, .start ())
        = (.ok ["root", "daemon\r", "alice"], (none, ⟨(), [], [command]⟩)) ∧
      (directory.listUsers launching none (none, .start ())).1 ≠ .ok ["root", "daemon\r",
        "alice"] := by
  intro directory launching
  obtain ⟨hlines, hnames⟩ := lines_and_names_exact
  refine ⟨?_, ?_, ?_⟩
  · exact (hlines _ _).mpr ⟨by decide, by decide, 3, by decide⟩
  · exact (hnames ofThreeNames directory answerThreeNames none (none, .start ()) rfl).1 _ rfl
  · intro hlisted
    have hclean := ((hnames ofThreeNames directory launching none (none, .start ()) rfl).2
      printThreeNames [] () rfl rfl).mp hlisted
    exact hclean "daemon\r" (by decide) (by decide)

end NameListing

end Account

end TenantHost
