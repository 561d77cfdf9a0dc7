import Scenario.Json.Printer

/-!
# Messages

* `Message` has an identifier, headers in order, a payload and a time of creation.
* `Message.reply` answers a request: the reply carries the identifier of the request in its
  correlation header.  `Message.copyHeaders` adds headers that are not set already.
* `Ident` numbers generated identifiers and writes them in the usual form of 36 characters, and
  `Moment` writes a time.
-/

set_option autoImplicit false

namespace Scenario

open Text

/-! ## Identifiers and times -/

namespace Ident

/-- The last `size` hexadecimal digits of a number. -/
def hexDigits : Nat → Nat → List Char
  | 0, _ => []
  | size + 1, n => hexDigits size (n / 16) ++ [hexDigit (n % 16)]

/-- The `n`-th generated identifier, marked as version 4 and with the usual variant. -/
def nth (n : Nat) : String :=
  "00000000-0000-4000-8000-" ++ String.ofList (hexDigits 12 n)

end Ident

namespace Moment

/-- A number with leading zeros. -/
def padded (size n : Nat) : List Char :=
  let digits := Whole.write n
  List.replicate (size - digits.length) '0' ++ digits

/-- The year, month and day of a number of days since the beginning of 1970.  Years begin with
March here, so that the leap day is the last one. -/
def date (days : Nat) : Nat × Nat × Nat :=
  let shifted := days + 719468
  let era := shifted / 146097
  let dayOfEra := shifted % 146097
  let yearOfEra := (dayOfEra - dayOfEra / 1460 + dayOfEra / 36524 - dayOfEra / 146096) / 365
  let dayOfYear := dayOfEra - (365 * yearOfEra + yearOfEra / 4 - yearOfEra / 100)
  let month := (5 * dayOfYear + 2) / 153
  let day := dayOfYear - (153 * month + 2) / 5 + 1
  let year := yearOfEra + era * 400
  if month < 10 then (year, month + 3, day) else (year + 1, month - 9, day)

/-- The time that many milliseconds after the beginning of 1970, in the zone of Greenwich. -/
def iso (ms : Nat) : String :=
  let (year, month, day) := date (ms / 86400000)
  let rest := ms % 86400000
  String.ofList (padded 4 year ++ '-' :: padded 2 month ++ '-' :: padded 2 day ++ 'T' ::
    padded 2 (rest / 3600000) ++ ':' :: padded 2 (rest / 60000 % 60) ++ ':' ::
    padded 2 (rest / 1000 % 60) ++ '.' :: padded 6 (rest % 1000 * 1000) ++ "+00:00".toList)

/-- The milliseconds in some seconds and nanoseconds.  Nanoseconds that make up a whole second
count as one before anything is rounded. -/
def milliseconds (seconds nanoseconds : Nat) : Binary64 :=
  let whole := seconds + nanoseconds / 1000000000
  let rest := nanoseconds % 1000000000
  ((Binary64.ofNat whole).add
    ((Binary64.ofNat rest).div (Binary64.ofNat 1000000000))).mul (Binary64.ofNat 1000)

end Moment

/-! ## Messages -/

/-- A message to or from an endpoint. -/
structure Message where
  id : String
  headers : Fields Json := []
  payload : Json := .null
  timestamp : String := ""
deriving Repr, Inhabited

namespace Message

/-- The header that names the request a reply belongs to. -/
def correlationHeader : String := "correlation_id"

/-- The header that names the operation a request asks for. -/
def operationHeader : String := "operation"

/-- Sets a header. -/
def withHeader (m : Message) (name : String) (value : Json) : Message :=
  { m with headers := m.headers.set name value }

/-- Sets headers one after the other. -/
def withHeaders (m : Message) (headers : Fields Json) : Message :=
  headers.foldl (fun acc (name, value) => acc.withHeader name value) m

/-- Sets the correlation header. -/
def withCorrelation (m : Message) (id : String) : Message :=
  m.withHeader correlationHeader (.string id)

/-- The value of a header. -/
def header? (m : Message) (name : String) : Option Json := m.headers.get? name

/-- The text form of a header. -/
def headerText? (m : Message) (name : String) : Option String := (m.header? name).map Json.asText

/-- The text form of the correlation header. -/
def correlation? (m : Message) : Option String := m.headerText? correlationHeader

/-- The text form of the payload. -/
def payloadText (m : Message) : String := m.payload.asText

/-- A message with a new identifier that answers this one. -/
def reply (request : Message) (id timestamp : String) (payload : Json) : Message :=
  withCorrelation { id := id, payload := payload, timestamp := timestamp } request.id

/-- Adds those headers that are not set. -/
def copyHeaders (m : Message) (headers : Fields Json) : Message :=
  headers.foldl (fun acc (name, value) =>
    if acc.headers.has name then acc else acc.withHeader name value) m

end Message
end Scenario
