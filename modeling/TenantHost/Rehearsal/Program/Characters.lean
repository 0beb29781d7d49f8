import TenantHost.Rehearsal.Printing.Escape
import TenantHost.Rehearsal.Program.Basic
import TenantHost.Rehearsal.Shell.Pattern
/-!
# Programs about characters

The programs that put characters in the place of others, and that show bytes by their numbers.
-/

namespace TenantHost.Rehearsal.Program

/-- A part of a written set of characters: some characters, or one as often as it takes. -/
inductive SetPart where
  | chars (chars : List Char)
  | filling (c : Char)

/-- All raw characters. -/
def allBytes : List Char :=
  (List.range 256).map Char.ofNat

/-- A character at the front of a written set, and the rest. -/
def takeSetChar : List Char → Option (Char × List Char)
  | [] => none
  | '\\' :: rest =>
    match takeDigits 8 3 rest with
    | (d :: digits, rest) => some (rawOf 8 (d :: digits), rest)
    | ([], c :: rest) => some ((letterEscape? c).getD c, rest)
    | ([], []) => some ('\\', [])
  | c :: rest => some (c, rest)

/-- The parts of a written set; the first number bounds its length. -/
def setParts : Nat → List Char → Except Raw (List SetPart)
  | 0, _ => .ok []
  | _, [] => .ok []
  | size + 1, '[' :: ':' :: rest =>
    let name := rest.takeWhile Char.isAlpha
    match rest.drop name.length with
    | ':' :: ']' :: rest =>
      (setParts size rest).map fun more =>
        .chars (allBytes.filter (Shell.classOf (String.ofList name))) :: more
    | _ => (setParts size (':' :: rest)).map fun more => .chars ['['] :: more
  | size + 1, '[' :: c :: '*' :: rest =>
    let count := rest.takeWhile Char.isDigit
    match rest.drop count.length with
    | ']' :: rest =>
      let n := (String.ofList count).toNat?.getD 0
      (setParts size rest).map fun more =>
        (if n = 0 then SetPart.filling c else .chars (List.replicate n c)) :: more
    | _ => (setParts size (c :: '*' :: rest)).map fun more => .chars ['['] :: more
  | size + 1, text =>
    match takeSetChar text with
    | none => .ok []
    | some (first, '-' :: last :: rest) =>
      match takeSetChar (last :: rest) with
      | none => .ok [.chars [first]]
      | some (last, rest) =>
        if last < first then
          .error ("range-endpoints of '" ++ String.ofList [first, '-', last] ++
            "' are in reverse collating sequence order")
        else
          (setParts size rest).map fun more =>
            .chars (allBytes.filter fun c => first ≤ c && c ≤ last) :: more
    | some (c, rest) => (setParts size rest).map fun more => .chars [c] :: more

/-- The characters of a set that is to have so many; one that takes what is left fills it. -/
def setChars (length : Nat) (parts : List SetPart) : List Char :=
  let known := (parts.flatMap fun
    | .chars chars => chars
    | .filling _ => []).length
  parts.flatMap fun
    | .chars chars => chars
    | .filling c => List.replicate (length - known) c

/-- A text in which runs of the same character of a class are one character. -/
def squeezeRuns (isMember : Char → Bool) : List Char → List Char
  | [] => []
  | c :: rest =>
    match squeezeRuns isMember rest with
    | d :: more => if c = d ∧ isMember c then d :: more else c :: d :: more
    | [] => [c]

/-- Puts characters in the place of others, or takes them away. -/
def tr : Job Nat :=
  Job.withOptions "cCdst" "" [("complement", 'c'), ("delete", 'd'), ("squeeze-repeats", 's'),
    ("truncate-set1", 't')] 1
    fun options => do
      let complement := options.has 'c' || options.has 'C'
      let parts (text : Raw) : Except Raw (List SetPart) := setParts (text.length + 1) text.toList
      match options.others with
      | [] => Job.misuse "missing operand" 1
      | first :: rest =>
        if rest.isEmpty && !options.has 'd' && !options.has 's' then
          Job.misuse ("missing operand after " ++ curlyQuoted first ++
            "\nTwo strings must be given when translating.") 1
        else if rest.length > 1 then
          Job.misuse ("extra operand " ++ curlyQuoted (rest[1]?.getD "")) 1
        else
          match parts first, parts (rest.head?.getD "") with
          | .error complaint, _ => Job.fail complaint 1
          | _, .error complaint => Job.fail complaint 1
          | .ok one, .ok two =>
            let named := setChars 0 one
            let source := if complement then allBytes.filter fun c => !named.contains c else named
            let aims := setChars source.length two
            let text := (← Job.input).toList
            let isFrom (c : Char) : Bool := source.contains c
            if options.has 'd' then
              let kept := text.filter fun c => !isFrom c
              Job.put (String.ofList (if options.has 's' then squeezeRuns aims.contains kept
                else kept))
              return 0
            else if rest.isEmpty then
              Job.put (String.ofList (squeezeRuns isFrom text))
              return 0
            else
              match aims.getLast? with
              | none => Job.fail "when not truncating set1, string2 must be non-empty" 1
              | some last =>
                let pairs := (source.zip (aims ++ List.replicate (source.length - aims.length)
                  last)).reverse
                let turned := text.map fun c => (pairs.lookup c).getD c
                Job.put (String.ofList (if options.has 's' then squeezeRuns aims.contains turned
                  else turned))
                return 0

/-! ## Bytes by their numbers -/

/-- A number in digits of a base, with zeros in front to a width. -/
def digitsTo (base width n : Nat) : Raw :=
  let digits := Nat.toDigits base n
  String.ofList (List.replicate (width - digits.length) '0' ++ digits)

/-- A text with blanks in front to a width. -/
def toWidth (width : Nat) (text : Raw) : Raw :=
  String.ofList (List.replicate (width - text.length) ' ') ++ text

/-- A byte as a character that can be seen. -/
def visible (c : Char) : Raw :=
  match [('\x00', "\\0"), ('\x07', "\\a"), ('\x08', "\\b"), ('\t', "\\t"), ('\n', "\\n"),
    ('\x0b', "\\v"),
      ('\x0c', "\\f"), ('\r', "\\r")].lookup c with
  | some shown => shown
  | none => if ' ' ≤ c ∧ c ≤ '~' then String.singleton c else digitsTo 8 3 c.toNat

/-- How bytes are shown: how many of them together, in what width, and how. -/
structure DumpStyle where
  size : Nat
  width : Nat
  shown : Nat → Raw

/-- The style of a type such as `x1`. -/
def dumpStyle (type : Raw) : DumpStyle :=
  let size := ((type.toList[1]?).bind fun d => if d.isDigit then some (d.toNat - '0'.toNat)
    else none).getD 4
  let inBase (base digits : Nat) :
      DumpStyle := ⟨size, digits + 1, fun n => digitsTo base digits n⟩
  match type.toList.head? with
  | some 'c' => ⟨1, 4, fun n => visible (Char.ofNat n)⟩
  | some 'a' => ⟨1, 4, fun n => visible (Char.ofNat n)⟩
  | some 'x' => inBase 16 (2 * size)
  | some 'u' => ⟨size, if size = 1 then 4 else 2 + 5 * size / 2, toString⟩
  | some 'd' => ⟨size, if size = 1 then 5 else 2 + 5 * size / 2, toString⟩
  | _ => inBase 8 (if size = 1 then 3 else if size = 2 then 6 else 11)

/-- The numbers that bytes make up in groups, the first byte the least. -/
def groups (size : Nat) : Nat → List Char → List Nat
  | 0, _ => []
  | _, [] => []
  | bound + 1, bytes =>
    ((bytes.take size).reverse.foldl (fun n c => 256 * n + c.toNat) 0) :: groups size bound
      (bytes.drop size)

/-- Shows bytes by their numbers. -/
def od : Job Nat :=
  Job.withOptions "cxobdv" "AtNj" [] 1 fun options => do
    let type := (options.value? 't').getD
      (if options.has 'c' then "c" else if options.has 'x' then "x2"
        else if options.has 'b' then "o1"
        else if options.has 'd' then "u2" else "o2")
    let style := dumpStyle type
    let (texts, status) ← Job.texts options.others 1
    let text := (texts.map Prod.snd).foldl (· ++ ·) ""
    let text := ((options.value? 'N').bind String.toNat?).elim text fun n => (text.take n).toString
    let base := (options.value? 'A').getD "o"
    let address (n : Nat) : Raw :=
      if base = "n" then "" else if base = "x" then digitsTo 16 6 n else if base = "d" then
        digitsTo 10 7 n
      else digitsTo 8 7 n
    let rows := (text.length + 15) / 16
    for i in List.range rows do
      let row := (text.toList.drop (16 * i)).take 16
      let shown := (groups style.size 16 row).map fun n => toWidth style.width (style.shown n)
      Job.put (address (16 * i) ++ String.join shown ++ "\n")
    if base ≠ "n" && (!texts.isEmpty || status = 0) then Job.put (address text.length ++ "\n")
    return status

end TenantHost.Rehearsal.Program
