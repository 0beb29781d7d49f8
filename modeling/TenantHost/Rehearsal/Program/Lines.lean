import TenantHost.Rehearsal.Printing.Number
import TenantHost.Rehearsal.Program.Basic
/-!
# Programs about lines

The programs that take texts apart into lines and put lines together: their fronts and ends, their
order, their number, and their fields.
-/

namespace TenantHost.Rehearsal.Program

/-- The lines of a text, each with its end if it has one. -/
def wholeLines (text : Raw) : List Raw :=
  let lines := Raw.lines text
  if text.endsWith "\n" || text = "" then lines.map (· ++ "\n")
  else (lines.dropLast.map (· ++ "\n")) ++ lines.getLast?.toList

/-- A text with blanks in front to a width. -/
def padded (width : Nat) (text : Raw) : Raw :=
  String.ofList (List.replicate (width - text.length) ' ') ++ text

/-! ## Whole texts -/

/-- Writes lines with the marks that were asked for, from a line number on. -/
def markLines (options : Options) (number : Nat) : List Raw → List Raw × Nat
  | [] => ([], number)
  | line :: rest =>
    let isNumbered : Bool := options.has 'n' && !(options.has 'b' && line == "\n") ||
        (options.has 'b' && line != "\n")
    let shown := if options.has 'T' || options.has 'A' then line.replace "\t" "^I" else line
    let shown := if options.has 'E' || options.has 'A' then shown.replace "\n" "$\n" else shown
    let shown := if isNumbered then padded 6 (toString number) ++ "\t" ++ shown else shown
    let (more, last) := markLines options (if isNumbered then number + 1 else number) rest
    (shown :: more, last)

/-- Empty lines behind empty lines are dropped. -/
def squeezed : List Raw → List Raw
  | [] => []
  | line :: rest =>
    match line, squeezed rest with
    | "\n", "\n" :: more => "\n" :: more
    | line, more => line :: more

/-- Writes texts one after the other. -/
def cat : Job Nat :=
  Job.withOptions "nbsETAuvet" "" [("number", 'n'), ("show-ends", 'E'), ("show-all", 'A')] 1
    fun options => do
    let paths := if options.others.isEmpty then ["-"] else options.others
    let isPlain := options.chosen.isEmpty
    let mut number := 1
    let mut status := 0
    for path in paths do
      match ← Job.fileText path with
      | .error problem => status := ← Job.fail (path ++ ": " ++ problem.wording) 1
      | .ok text =>
        if isPlain then Job.put text
        else
          let lines := if options.has 's' then squeezed (wholeLines text) else wholeLines text
          let (shown, next) := markLines options number lines
          number := next
          Job.put (String.join shown)
    return status

/-- Writes its input to files, too. -/
def tee : Job Nat :=
  Job.withOptions "ai" "" [("append", 'a')] 1 fun options => do
    let text ← Job.input
    let status ← Job.forEach options.others fun path => do
      match ← Job.locate true path with
      | .error problem => Job.fail (path ++ ": " ++ problem.wording) 1
      | .ok place =>
        if ((← Job.files).entryAt? place).any Entry.isDirectory then
          Job.fail (path ++ ": " ++ FileProblem.isDirectory.wording) 1
        else
          Job.mapFiles fun files => if options.has 'a' then files.append place text
            else files.write place text
          return 0
    Job.put text
    return status

/-- Writes the lines of texts from the last to the first. -/
def tac : Job Nat :=
  Job.withOptions "" "" [] 1 fun options => do
    let paths := if options.others.isEmpty then ["-"] else options.others
    Job.forEach paths fun path => do
      match ← Job.fileText path with
      | .error problem =>
        Job.fail ("failed to open " ++ shellQuoted path ++ " for reading: " ++ problem.wording) 1
      | .ok text =>
        Job.put (String.join (wholeLines text).reverse)
        return 0

/-- Writes the characters of each line from the last to the first. -/
def rev : Job Nat := do
  let (texts, status) ← Job.texts (← read).arguments 1
  for (_, text) in texts do
    for line in wholeLines text do
      let body := if line.endsWith "\n" then (line.dropEnd 1).toString else line
      let turned := Raw.ofText (String.ofList (Raw.toText body).toList.reverse)
      Job.put (if line.endsWith "\n" then turned ++ "\n" else turned)
  return status

/-! ## Fronts and ends -/

/-- How much of a text is asked for: so many lines or bytes, counted from the one end or from the
other. -/
structure Amount where
  isBytes : Bool
  count : Nat
  sign : Option Char

/-- The amount that an argument writes; some letters stand for greater units. -/
def amount? (isBytes : Bool) (text : Raw) : Option Amount :=
  let (sign, digits) :=
    match text.toList with
    | '-' :: rest => (some '-', rest)
    | '+' :: rest => (some '+', rest)
    | rest => (none, rest)
  match takeDigits 10 digits.length digits with
  | ([], _) => none
  | (values, rest) =>
    let unit? := [("", 1), ("b", 512), ("k", 1024), ("K", 1024), ("kB", 1000),
      ("M", 1048576)].lookup
      (String.ofList rest)
    unit?.map fun unit => ⟨isBytes, numberOf 10 values * unit, sign⟩

/-- The front of a text, or all but its end. -/
def Amount.front (amount : Amount) (text : Raw) : Raw :=
  if amount.isBytes then
    (text.take (if amount.sign = some '-' then text.length - amount.count
      else amount.count)).toString
  else
    let lines := wholeLines text
    String.join (lines.take (if amount.sign = some '-' then lines.length - amount.count
      else amount.count))

/-- The end of a text, or all from some place on. -/
def Amount.back (amount : Amount) (text : Raw) : Raw :=
  if amount.isBytes then
    (text.drop (if amount.sign = some '+' then amount.count - 1
      else text.length - amount.count)).toString
  else
    let lines := wholeLines text
    String.join (lines.drop (if amount.sign = some '+' then amount.count - 1
      else lines.length - amount.count))

/-- Writes a part of each of some texts, under titles if there are several. -/
def parts (names : List (String × Char)) (cut : Amount → Raw → Raw) : Job Nat := do
  let given := (← read).arguments
  let arguments :=
    match given.head?.map String.toList with
    | some ('-' :: d :: rest) =>
      if d.isDigit && rest.all Char.isDigit then ("-n" ++ String.ofList (d :: rest)) :: given.drop 1
      else given
    | _ => given
  match Options.read ⟨"qvzfF", "nc", names, true⟩ arguments with
  | .error complaint => Job.misuse complaint 1
  | .ok options =>
    let isBytes := (options.value? 'c').isSome
    let written := ((options.value? 'c').or (options.value? 'n')).getD "10"
    match amount? isBytes written with
    | none =>
      Job.fail ("invalid number of " ++ (if isBytes then "bytes" else "lines") ++ ": "
        ++ curlyQuoted written) 1
    | some amount =>
      let paths := if options.others.isEmpty then ["-"] else options.others
      let isTitled := (paths.length > 1 && !options.has 'q') || options.has 'v'
      let mut isFirst := true
      let mut status := 0
      for path in paths do
        let title (isFirst : Bool) : Job Unit := do
          let name : Raw := if path = "-" then "standard input" else path
          if isTitled then Job.put ((if isFirst then "" else "\n") ++ "==> " ++ name ++ " <==\n")
        match ← Job.fileText path with
        | .ok text =>
          title isFirst
          isFirst := false
          Job.put (cut amount text)
        | .error .isDirectory =>
          title isFirst
          isFirst := false
          status := ← Job.fail ("error reading " ++ shellQuoted path ++ ": Is a directory") 1
        | .error problem =>
          status := ← Job.fail ("cannot open " ++ shellQuoted path ++ " for reading: "
            ++ problem.wording) 1
      return status

/-- Writes the fronts of texts. -/
def head : Job Nat :=
  parts [("lines", 'n'), ("bytes", 'c'), ("quiet", 'q'), ("silent", 'q'), ("verbose", 'v')]
    Amount.front

/-- Writes the ends of texts. -/
def tail : Job Nat :=
  parts [("lines", 'n'), ("bytes", 'c'), ("quiet", 'q'), ("silent", 'q'), ("verbose", 'v'),
    ("follow", 'f')] Amount.back

/-! ## Counting -/

/-- The words of a text. -/
def wordCount (text : Raw) : Nat :=
  (Text.words ((Raw.toText text).toList.map fun c => if isSpace c then ' '
    else if c.toNat < 33 then '!' else c)).length

/-- The counts of a text that are asked for, in their order. -/
def countsOf (options : Options) (text : Raw) : List Nat :=
  let all := !(['l', 'w', 'c', 'm', 'L'].any options.has)
  let count (option : Char) (isUsual : Bool) (n : Nat) : List Nat :=
    if options.has option || (all && isUsual) then [n] else []
  count 'l' true (text.toList.countP (· == '\n')) ++ count 'w' true (wordCount text) ++
    count 'm' false (Raw.toText text).length ++ count 'c' true text.length ++
    count 'L' false ((Raw.lines text).foldl (fun n line => max n (Raw.toText line).length) 0)

/-- Counts the lines, words and bytes of texts. -/
def wc : Job Nat :=
  Job.withOptions "lwcmL" "" [("lines", 'l'), ("words", 'w'), ("bytes", 'c'), ("chars", 'm')] 1
    fun options => do
    let paths := if options.others.isEmpty then ["-"] else options.others
    let sizes ← paths.mapM fun path => do
      if path = "-" then
        match (← read).descriptors.lookup 0 with
        | some number =>
          match ← Job.onSystem (System.stream? number) with
          | some (.file _ _ _) => return some (← Job.onSystem (System.unread number)).length
          | _ => return none
        | none => return none
      else
        match ← Job.find path with
        | .ok (.file content _) => return some content.length
        | .ok _ => return none
        | .error _ => return some 0
    let isOnly := (countsOf options "").length = 1 && paths.length = 1
    let total := (sizes.filterMap id).foldl (· + ·) 0
    let least := if sizes.any Option.isNone then 7 else 1
    let width := if isOnly then 1 else max least (toString total).length
    let line (counts : List Nat) (name : Raw) : Raw :=
      let columns := " ".intercalate (counts.map fun n => padded width (toString n))
      columns ++ (if name = "" then "" else " " ++ name) ++ "\n"
    let mut totals : List Nat := []
    let mut status := 0
    for path in paths do
      let name := if options.others.isEmpty then "" else path
      match ← Job.fileText path with
      | .ok text =>
        let counts := countsOf options text
        totals := if totals.isEmpty then counts else (totals.zip counts).map fun (a, b) => a + b
        Job.put (line counts name)
      | .error problem =>
        status := ← Job.fail (path ++ ": " ++ problem.wording) 1
        if problem = .isDirectory then Job.put (line (countsOf options "") name)
    if paths.length > 1 then
      Job.put (line (if totals.isEmpty then countsOf options "" else totals) "total")
    return status

/-! ## Order -/

/-- How many digits behind a point count. -/
def countedDigits : Nat := 12

/-- The number at the front of a text, scaled so that the digits behind its point count. -/
def leadingNumber (text : Raw) : Int :=
  let text := text.toList.dropWhile fun c => c == ' ' || c == '\t'
  let (negative, text) :=
    match text with
    | '-' :: rest => (true, rest)
    | rest => (false, rest)
  let (digits, behind, _) := takePointed 10 text
  let whole := digits.take (digits.length - behind)
  let part := (digits.drop whole.length ++ List.replicate countedDigits 0).take countedDigits
  let size : Int := (numberOf 10 (whole ++ part) : Nat)
  if negative then -size else size

/-- What lines are put in order by. -/
structure SortKey where
  firstField : Nat
  firstChar : Nat
  lastField : Option Nat
  lastChar : Nat
  options : List Char

/-- The position that a part of a key writes: a field, a character in it, and options. -/
def sortPosition (text : List Char) : Option (Nat × Nat × List Char) :=
  match takeDigits 10 text.length text with
  | ([], _) => none
  | (field, '.' :: rest) =>
    let (char, options) := takeDigits 10 rest.length rest
    some (numberOf 10 field, numberOf 10 char, options)
  | (field, options) => some (numberOf 10 field, 0, options)

/-- Reads a key. -/
def sortKey? (text : Raw) : Option SortKey :=
  let first := text.toList.takeWhile (· != ',')
  match sortPosition first, (text.toList.drop first.length).tail? with
  | some (field, char, options), none => some ⟨field, max char 1, none, 0, options⟩
  | some (field, char, options), some last =>
    (sortPosition last).map fun (lastField, lastChar, more) =>
      ⟨field, max char 1, some lastField, lastChar, options ++ more⟩
  | none, _ => none

/-- The fields of a line with what separates them in front: a character, or the blanks before each
of them. -/
def sortFields (separator : Option Char) (line : List Char) : List (List Char) :=
  match separator with
  | some c => Text.fields (· == c) line
  | none =>
    let rec go : Nat → List Char → List (List Char)
      | 0, _ => []
      | _, [] => []
      | size + 1, text =>
        let blanks := text.takeWhile fun c => c == ' ' || c == '\t'
        let field := (text.drop blanks.length).takeWhile fun c => c != ' ' && c != '\t'
        (blanks ++ field) :: go size (text.drop (blanks.length + field.length))
    go line.length line

/-- The part of a line that a key is about. -/
def SortKey.part (key : SortKey) (separator : Option Char) (line : Raw) : Raw :=
  let fields := sortFields separator line.toList
  let glue := separator.toList
  let trim (text : List Char) : List Char :=
    if key.options.contains 'b' then text.dropWhile fun c => c == ' ' || c == '\t' else text
  let count := match key.lastField with
    | some last => last - (key.firstField - 1)
    | none => fields.length
  let chosen := (fields.drop (key.firstField - 1)).take count
  let chosen := (chosen.mapIdx fun i field => if i = 0 then (trim field).drop (key.firstChar - 1)
    else field)
  let chosen :=
    if key.lastChar = 0 then chosen
    else
      chosen.mapIdx fun i field =>
        if i + 1 = count then
          field.take (key.lastChar - (if i = 0 then key.firstChar - 1 else 0))
        else field
  String.ofList ((chosen.intersperse glue).flatten)

/-- Texts compared in the way that options ask for, but for a turn around. -/
def compareBy (options : List Char) (a b : Raw) : Ordering :=
  let blankless (text : Raw) : Raw :=
    if options.contains 'b' then (text.dropWhile fun c => c == ' ' || c == '\t').toString else text
  let folded (text : Raw) : Raw := if options.contains 'f' then text.map Char.toUpper else text
  let kept (text : Raw) : Raw :=
    if options.contains 'd' then
      String.ofList (text.toList.filter fun c => c.isAlphanum || c == ' ' || c == '\t')
    else text
  if options.contains 'n' || options.contains 'g' || options.contains 'h' then
    compare (leadingNumber a) (leadingNumber b)
  else compareOfLessAndEq (kept (folded (blankless a))) (kept (folded (blankless b)))

/-- Lines compared by the first of some keys in which they differ. -/
def compareByKeys (separator : Option Char) (usual : List Char) :
    List SortKey → Raw → Raw → Ordering
  | [], _, _ => .eq
  | key :: rest, a, b =>
    let options := if key.options.all (· == 'b') then usual ++ key.options else key.options
    let order := compareBy options (key.part separator a) (key.part separator b)
    let order := if options.contains 'r' then order.swap else order
    if order = .eq then compareByKeys separator usual rest a b else order

/-- Lines without those that are equal to the one before them. -/
def withoutEqual (isEqual : Raw → Raw → Bool) : List Raw → List Raw
  | [] => []
  | [line] => [line]
  | first :: second :: rest =>
    if isEqual first second then withoutEqual isEqual (first :: rest)
    else first :: withoutEqual isEqual (second :: rest)
termination_by lines => lines.length

/-- Writes the lines of texts in order. -/
def sort : Job Nat :=
  Job.withOptions "rnufbdcszghiMVm" "ktoS" [("reverse", 'r'), ("numeric-sort", 'n'),
    ("unique", 'u'), ("key", 'k'),
      ("field-separator", 't'), ("output", 'o'), ("ignore-case", 'f'), ("stable", 's'),
        ("check", 'c')] 2
    fun options => do
      let usual := (options.chosen.map Prod.fst).filter "rnfbdgh".toList.contains
      let written := (options.chosen.filter (·.1 == 'k')).map Prod.snd
      match written.find? fun text => (sortKey? text).isNone with
      | some text =>
        Job.fail ("invalid number at field start: invalid count at start of " ++ curlyQuoted text) 2
      | none =>
        let keys := written.filterMap sortKey?
        let separator := (options.value? 't').bind fun text =>
          if text = "\\0" then some '\x00' else text.toList.head?
        let mut lines : List Raw := []
        let mut status := 0
        for path in (if options.others.isEmpty then ["-"] else options.others) do
          match ← Job.fileText path with
          | .ok text => lines := lines ++ Raw.lines text
          | .error .isDirectory =>
            status := ← Job.fail ("read failed: " ++ path ++ ": Is a directory") 2
          | .error problem =>
            status := ← Job.fail ("cannot read: " ++ path ++ ": " ++ problem.wording) 2
        if status ≠ 0 then return status
        else
          let order (a b : Raw) : Ordering :=
            if keys.isEmpty then
              let order := compareBy usual a b
              if usual.contains 'r' then order.swap else order
            else compareByKeys separator usual keys a b
          let isStable := options.has 's' || options.has 'u'
          let full (a b : Raw) : Ordering :=
            match order a b with
            | .eq =>
              if isStable then .eq
              else if usual.contains 'r' then compareOfLessAndEq b a
              else compareOfLessAndEq a b
            | other => other
          if options.has 'c' then
            match (lines.zip (lines.drop 1)).zipIdx.find? fun ((a, b), _) => full b a == .lt with
            | some ((_, b), i) =>
              Job.fail ((options.others.head?.getD "-") ++ ":" ++ toString (i + 2)
                ++ ": disorder: " ++ b) 1
            | none => return 0
          else
            let sorted := lines.mergeSort fun a b => full a b != .gt
            let shown := if options.has 'u' then withoutEqual (fun a b => order a b == .eq) sorted
                else sorted
            match options.value? 'o' with
            | none => Job.put (Raw.ofLines shown)
            | some path =>
              if let .ok place := ← Job.locate true path then
                Job.mapFiles fun files => files.write place (Raw.ofLines shown)
            return 0

/-- Runs of equal lines, with their lengths. -/
def runs (isEqual : Raw → Raw → Bool) : List Raw → List (Raw × Nat)
  | [] => []
  | line :: rest =>
    match runs isEqual rest with
    | (next, count) :: more =>
      if isEqual line next then (line, count + 1) :: more else (line, 1) :: (next, count) :: more
    | [] => [(line, 1)]

/-- Writes one of each run of equal lines. -/
def uniq : Job Nat :=
  Job.withOptions "cduiz" "fsw" [("count", 'c'), ("repeated", 'd'), ("unique", 'u'),
    ("ignore-case", 'i')] 1
    fun options => do
      match ← Job.fileText (options.others.head?.getD "-") with
      | .error problem => Job.fail ((options.others.head?.getD "-") ++ ": " ++ problem.wording) 1
      | .ok text =>
        let skipped := ((options.value? 'f').bind String.toNat?).getD 0
        let key (line : Raw) : Raw :=
          let line := if options.has 'i' then line.map Char.toLower else line
          let fields := sortFields none line.toList
          if skipped = 0 then line else String.ofList (fields.drop skipped).flatten
        let found := runs (fun a b => key a == key b) (Raw.lines text)
        let chosen := found.filter fun (_, count) =>
          (!options.has 'd' || count > 1) && (!options.has 'u' || count = 1)
        Job.put (Raw.ofLines (chosen.map fun (line, count) =>
          if options.has 'c' then padded 7 (toString count) ++ " " ++ line else line))
        return 0

/-! ## Fields -/

/-- The ranges of a list such as `1,3-5`. -/
def rangesOf (text : Raw) : Option (List (Nat × Option Nat)) :=
  (Text.fields (fun c => c == ',' || c == ' ') text.toList).mapM fun piece =>
    let first := piece.takeWhile Char.isDigit
    let number (digits : List Char) : Nat := (String.ofList digits).toNat?.getD 0
    match piece.drop first.length with
    | [] => if first.isEmpty then none else some (number first, some (number first))
    | '-' :: last =>
      if !last.all Char.isDigit || (first.isEmpty && last.isEmpty) then none
      else
        some (if first.isEmpty then 1 else number first, if last.isEmpty then none
          else some (number last))
    | _ => none

/-- Whether a position lies in one of some ranges. -/
def inRanges (ranges : List (Nat × Option Nat)) (position : Nat) : Bool :=
  ranges.any fun (first, last) => first ≤ position && last.all (position ≤ ·)

/-- Writes some fields or characters of each line. -/
def cut : Job Nat :=
  Job.withOptions "sn" "dfbc" [("delimiter", 'd'), ("fields", 'f'), ("bytes", 'b'),
    ("characters", 'c'),
      ("only-delimited", 's')] 1 fun options => do
    let written := ((options.value? 'f').or (options.value? 'b')).or (options.value? 'c')
    match written, written.bind rangesOf with
    | none, _ => Job.misuse "you must specify a list of bytes, characters, or fields" 1
    | some text, none =>
      if (options.value? 'f').isSome then Job.misuse ("invalid field value " ++ curlyQuoted text) 1
      else Job.misuse ("invalid byte or character range " ++ curlyQuoted text) 1
    | some _, some ranges =>
      let delimiter := ((options.value? 'd').getD "\t").toList
      if delimiter.length > 1 && (options.value? 'f').isSome then
        Job.misuse "the delimiter must be a single character" 1
      else
        let c := delimiter.head?.getD '\x00'
        let choose {α : Type} (items : List α) : List α :=
          (items.zipIdx.filter fun (_, i) => inRanges ranges (i + 1)).map Prod.fst
        let (texts, status) ← Job.texts options.others 1
        for (_, text) in texts do
          for line in Raw.lines text do
            if (options.value? 'f').isSome then
              if line.toList.contains c then
                let fields := (Text.fields (· == c) line.toList).map String.ofList
                Job.put ((String.singleton c).intercalate (choose fields) ++ "\n")
              else if !options.has 's' then Job.put (line ++ "\n")
            else Job.put (String.ofList (choose line.toList) ++ "\n")
        return status

/-- The delimiters that an argument writes. -/
def delimitersOf : List Char → List Raw
  | [] => []
  | '\\' :: 'n' :: rest => "\n" :: delimitersOf rest
  | '\\' :: 't' :: rest => "\t" :: delimitersOf rest
  | '\\' :: '0' :: rest => "" :: delimitersOf rest
  | '\\' :: c :: rest => String.singleton c :: delimitersOf rest
  | c :: rest => String.singleton c :: delimitersOf rest

/-- Texts joined with delimiters that are used in turn. -/
def joinInTurn (delimiters : List Raw) (texts : List Raw) : Raw :=
  match texts with
  | [] => ""
  | first :: rest =>
    (rest.zipIdx.foldl (fun text (next, i) =>
      text ++ (delimiters[i % (max delimiters.length 1)]?).getD "" ++ next) first)

/-- Puts lines of texts side by side, or all lines of each text. -/
def paste : Job Nat :=
  Job.withOptions "sz" "d" [("serial", 's'), ("delimiters", 'd')] 1 fun options => do
    let delimiters := delimitersOf ((options.value? 'd').getD "\t").toList
    let stream ← (read : Job Call)
    let paths := if options.others.isEmpty then ["-"] else options.others
    let dashes := paths.countP (· == "-")
    if dashes > 1 && !options.has 's' && stream.descriptors.length > 0 then
      let lines := Raw.lines (← Job.input)
      let rows := (lines.length + dashes - 1) / dashes
      for i in List.range rows do
        let row := (List.range dashes).map fun j => (lines[i * dashes + j]?).getD ""
        Job.put (joinInTurn delimiters row ++ "\n")
      return 0
    else
      let (texts, status) ← Job.texts paths 1
      let columns := texts.map fun (_, text) => Raw.lines text
      if options.has 's' then
        Job.put (Raw.ofLines (columns.map (joinInTurn delimiters)))
      else
        let rows := columns.foldl (fun n column => max n column.length) 0
        for i in List.range rows do
          Job.put (joinInTurn delimiters (columns.map fun column => (column[i]?).getD "") ++ "\n")
      return status

/-- Numbers the lines that are not empty. -/
def nl : Job Nat :=
  Job.withOptions "p" "bnswv" [] 1 fun options => do
    let (texts, status) ← Job.texts options.others 1
    let all := options.value? 'b' = some "a"
    let width := ((options.value? 'w').bind String.toNat?).getD 6
    let gap := (options.value? 's').getD "\t"
    let mut number := 1
    for (_, text) in texts do
      for line in Raw.lines text do
        if all || line != "" then
          Job.put (padded width (toString number) ++ gap ++ line ++ "\n")
          number := number + 1
        else Job.put (String.ofList (List.replicate (width + gap.length) ' ') ++ line ++ "\n")
    return status

/-- Breaks lines that are too long. -/
def fold : Job Nat :=
  Job.withOptions "bs" "w" [("width", 'w')] 1 fun options => do
    let width := max (((options.value? 'w').bind String.toNat?).getD 80) 1
    let rec pieces : Nat → List Char → List (List Char)
      | 0, text => [text]
      | size + 1, text =>
        if text.length ≤ width then [text] else text.take width :: pieces size (text.drop width)
    let (texts, status) ← Job.texts options.others 1
    for (_, text) in texts do
      for line in wholeLines text do
        let body := if line.endsWith "\n" then (line.dropEnd 1).toString else line
        let broken := (pieces body.length body.toList).map String.ofList
        Job.put ("\n".intercalate broken ++ (if line.endsWith "\n" then "\n" else ""))
    return status

end TenantHost.Rehearsal.Program
