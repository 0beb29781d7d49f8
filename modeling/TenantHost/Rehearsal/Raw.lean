import TenantHost.Text.Blank
import TenantHost.Text.Utf8
/-!
# Raw texts

The programs of a rehearsed host work on bytes, whatever they mean. A raw text is a text whose
characters stand for the bytes of their numbers, so that what is known of texts serves for bytes.
-/

namespace TenantHost.Rehearsal

/-- A text whose characters stand for bytes. -/
abbrev Raw : Type := String

namespace Raw

/-- The raw text of bytes. -/
def ofBytes (bytes : List UInt8) : Raw :=
  String.ofList (bytes.map fun b => Char.ofNat b.toNat)

/-- The bytes of a raw text. -/
def bytes (raw : Raw) : List UInt8 :=
  raw.toList.map fun c => UInt8.ofNat c.toNat

/-- The raw text that stands for a text. -/
def ofText (text : String) : Raw :=
  ofBytes (Text.Utf8.encode text.toList)

/-- The text that a raw text stands for, as far as it stands for one. -/
def toText (raw : Raw) : String :=
  String.ofList (Text.Utf8.decodeLenient (bytes raw))

/-- The raw text of lines, each of them ended. -/
def ofLines (lines : List Raw) : Raw :=
  String.join (lines.map (· ++ "\n"))

/-- The lines of a raw text, without their ends. -/
def lines (raw : Raw) : List Raw :=
  let fields := (Text.fields (· == '\n') raw.toList).map String.ofList
  if fields.getLast? = some "" then fields.dropLast else fields

end Raw

end TenantHost.Rehearsal
