import TenantHost.Text.Lines
import TenantHost.Text.Utf8
/-!
# Account records

The account database of a Linux host has one record a line, with the account's name before the first
colon. It is read leniently, whatever its bytes are and however its lines end; a line without a
colon is no record.
-/

namespace TenantHost.Account

/-- The account named by a line, if the line is a record. -/
def recordName? (line : List Char) : Option (List Char) :=
  if ':' ∈ line then some (line.takeWhile (· ≠ ':')) else none

/-- The accounts of a text with one kind of line end. -/
def recordNames (text : List Char) : List (List Char) :=
  (Text.fields (· == '\n') text).filterMap recordName?

/-- The accounts of a database, in its order. -/
def namesInRecords (bytes : List UInt8) : List String :=
  (recordNames (Text.unifyNewlines (Text.Utf8.decodeLenient bytes))).map String.ofList

end TenantHost.Account
