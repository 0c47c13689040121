import Catalog.Time.Calendar
import Catalog.Decode.Basic

/-!
# RFC 3339 timestamps

A timestamp is a local date and time with a UTC offset, read and written in the RFC 3339
form `YYYY-MM-DDThh:mm:ss[.fraction](Z|±hh:mm)`.

Reading: four year digits, `-`, two month digits (not `00`), `-`, two day digits, a
separator that may be any one byte (`T` as written, but also `t`, a space or `_`), then
`hh:mm:ss`, optionally `.` and at least one digit (digits past the ninth are
dropped), then `Z`, `z` or a signed `hh:mm` offset with the hour at most 23. Malformed
text is refused where it goes wrong, naming the part (`the 'month' component could not be
parsed`) or a literal (`a character literal was not valid`); the offset minute is checked
next, then that nothing follows, then the ranges of month, day, hour, minute and second.
Second 60 is read as 23:59:59.999999999 when the instant, in UTC, is 23:59:60 on the last
day of a month (a leap second), and refused otherwise.

Writing gives `Z` for a zero offset, the fraction without trailing zeros, and no fraction
when it is zero.

* `Timestamp.parse`, `Timestamp.format`.
* `Timestamp.instant`: nanoseconds since 1970-01-01T00:00:00Z, how timestamps compare.
-/

namespace Catalog

/-- A local date and time with its offset from UTC. -/
structure Timestamp where
  year : Nat
  month : Nat
  day : Nat
  hour : Nat
  minute : Nat
  second : Nat
  nanosecond : Nat
  /-- The offset from UTC in minutes, east positive. -/
  offsetMinutes : Int
  deriving DecidableEq, Repr

/-- The start of 1970, in UTC. -/
instance : Inhabited Timestamp := ⟨⟨1970, 1, 1, 0, 0, 0, 0, 0⟩⟩

/-- Why a text is no timestamp. -/
inductive TimeError where
  /-- A part that could not be read. -/
  | component (name : String)
  /-- A separator character that is not the expected one. -/
  | literal
  /-- Text after the timestamp. -/
  | trailing
  /-- A part read but out of range. -/
  | outOfRange (name : String)
  deriving DecidableEq, Repr

/-- The message of a timestamp error. -/
def TimeError.message : TimeError → String
  | .component name => "the '" ++ name ++ "' component could not be parsed"
  | .literal => "a character literal was not valid"
  | .trailing => "unexpected trailing characters; the end of input was expected"
  | .outOfRange name => name ++ " was not in range"

namespace Timestamp

/-- Reads `n` decimal digits. -/
def digits (n : Nat) (cs : List Char) : Option (Nat × List Char) :=
  let ds := cs.take n
  if ds.length = n ∧ ds.all Char.isDigit then
    some (ds.foldl (fun acc c => acc * 10 + (c.toNat - 48)) 0, cs.drop n)
  else none

/-- Reads `n` digits, or fails naming the part. -/
def part (n : Nat) (name : String) (cs : List Char) : Except TimeError (Nat × List Char) :=
  match digits n cs with
  | some r => .ok r
  | none => .error (.component name)

/-- Reads one expected character. -/
def literal (c : Char) : List Char → Except TimeError (List Char)
  | d :: rest => if c = d then .ok rest else .error .literal
  | [] => .error .literal

/-- Fraction digits: each of the first nine adds its place value in nanoseconds; later ones
are read and dropped. -/
def fractionDigits (place : Nat) (acc : Nat) : List Char → Nat × List Char
  | c :: rest =>
    if c.isDigit then fractionDigits (place / 10) (acc + (c.toNat - 48) * place) rest
    else (acc, c :: rest)
  | [] => (acc, [])

/-- The offset, in minutes: `Z`, or a sign, hour, `:` and minute. -/
def offset (cs : List Char) : Except TimeError (Int × List Char) :=
  match cs with
  | 'Z' :: rest => .ok (0, rest)
  | 'z' :: rest => .ok (0, rest)
  | s :: rest =>
    if s ≠ '+' ∧ s ≠ '-' then .error (.component "offset hour") else do
    let (h, rest) ← match digits 2 rest with
      | some (h, r) => if h ≤ 23 then .ok (h, r) else .error (.component "offset hour")
      | none => .error (.component "offset hour")
    let rest ← literal ':' rest
    let (m, rest) ← part 2 "offset minute" rest
    if m > 59 then .error (.outOfRange "offset minute") else
    let total : Int := (h : Int) * 60 + m
    .ok (if s = '-' then -total else total, rest)
  | [] => .error (.component "offset hour")

/-- **The instant** in nanoseconds since 1970-01-01T00:00:00Z. -/
def instant (t : Timestamp) : Int :=
  let days := Calendar.dayNumber t.year t.month t.day
  let seconds := days * 86400 + (t.hour * 3600 + t.minute * 60 + t.second : Nat) -
    t.offsetMinutes * 60
  seconds * 1000000000 + t.nanosecond

/-- Whether the timestamp, in UTC, is the last nanosecond of the last day of a month. -/
def endsMonthInUtc (t : Timestamp) : Bool :=
  let seconds := (t.instant - t.nanosecond).fdiv 1000000000
  let days := seconds.fdiv 86400
  let secondOfDay := seconds - days * 86400
  let (y, m, d) := Calendar.ofDayNumber days
  t.nanosecond = 999999999 && secondOfDay = 86399 && d = Calendar.daysInMonth y m

/-- The date and time separator: any one byte. A character of several bytes leaves a
continuation byte where the hour's first digit belongs, so then the hour is what fails. -/
def separator : List Char → Except TimeError (List Char)
  | c :: rest => if c.toNat < 0x80 then .ok rest else .error (.component "hour")
  | [] => .error (.component "separator")

/-- The month digits, `00` refused. -/
def monthPart (cs : List Char) : Except TimeError (Nat × List Char) :=
  match digits 2 cs with
  | some (m, r) => if m = 0 then .error (.component "month") else .ok (m, r)
  | none => .error (.component "month")

/-- The optional fraction of a second, in nanoseconds. -/
def fractionPart : List Char → Except TimeError (Nat × List Char)
  | '.' :: c :: rest =>
    if c.isDigit then .ok (fractionDigits 100000000 0 (c :: rest)) else .error (.component "subsecond")
  | ['.'] => .error (.component "subsecond")
  | cs => .ok (0, cs)

/-- **Reading a timestamp**. -/
def parse (s : String) : Except TimeError Timestamp := do
  let cs := s.toList
  let (year, cs) ← part 4 "year" cs
  let cs ← literal '-' cs
  let (month, cs) ← monthPart cs
  let cs ← literal '-' cs
  let (day, cs) ← part 2 "day" cs
  let cs ← separator cs
  let (hour, cs) ← part 2 "hour" cs
  let cs ← literal ':' cs
  let (minute, cs) ← part 2 "minute" cs
  let cs ← literal ':' cs
  let (second, cs) ← part 2 "second" cs
  let (nanosecond, cs) ← fractionPart cs
  let (offsetMinutes, cs) ← offset cs
  if !cs.isEmpty then .error .trailing else
  let leap := second = 60
  let (second, nanosecond) := if leap then (59, 999999999) else (second, nanosecond)
  if month > 12 then .error (.outOfRange "month") else
  if day = 0 ∨ day > Calendar.daysInMonth year month then .error (.outOfRange "day") else
  if hour > 23 then .error (.outOfRange "hour") else
  if minute > 59 then .error (.outOfRange "minute") else
  if second > 59 then .error (.outOfRange "second") else
  let t : Timestamp := { year, month, day, hour, minute, second, nanosecond, offsetMinutes }
  if leap ∧ !t.endsMonthInUtc then .error (.outOfRange "second") else
  .ok t

/-- `n` in decimal with at least `width` digits. -/
def padded (width n : Nat) : String :=
  let ds := Nat.toDigits 10 n
  String.ofList (List.replicate (width - ds.length) '0' ++ ds)

/-- The fraction of a second: nine digits without trailing zeros, after a point; nothing for
zero. -/
def fraction (nanosecond : Nat) : String :=
  if nanosecond = 0 then "" else
  let ds := (padded 9 nanosecond).toList
  "." ++ String.ofList (ds.reverse.dropWhile (· = '0')).reverse

/-- **Writing a timestamp** in the RFC 3339 form. -/
def format (t : Timestamp) : String :=
  let zone :=
    if t.offsetMinutes = 0 then "Z"
    else (if t.offsetMinutes < 0 then "-" else "+") ++ padded 2 (t.offsetMinutes.natAbs / 60) ++
      ":" ++ padded 2 (t.offsetMinutes.natAbs % 60)
  padded 4 t.year ++ "-" ++ padded 2 t.month ++ "-" ++ padded 2 t.day ++ "T" ++
    padded 2 t.hour ++ ":" ++ padded 2 t.minute ++ ":" ++ padded 2 t.second ++
    fraction t.nanosecond ++ zone

/-- The wire reader: a text read as a timestamp, a failure's message as the error. -/
def decode : Decode.Decoder Timestamp := fun j => do
  let s ← Decode.string j
  match parse s with
  | .ok t => .ok t
  | .error e => .error (.custom e.message)

/-- The wire reader of a timestamp that may be `null`. -/
def decodeOption : Decode.Decoder (Option Timestamp) := fun j => do
  match ← Decode.option Decode.string j with
  | none => .ok none
  | some s => match parse s with
    | .ok t => .ok (some t)
    | .error e => .error (.custom e.message)

/-- The wire form. -/
def toJson (t : Timestamp) : Json := .str t.format

/-- Formats a reading, or gives its error's message. -/
def reformat (s : String) : String :=
  match parse s with
  | .ok t => t.format
  | .error e => e.message

example : reformat "2024-03-01T00:59:60+01:00" = "2024-03-01T00:59:59.999999999+01:00" := by
  decide +kernel
example : reformat "2024-01-15T23:59:60Z" = "second was not in range" := by decide +kernel

end Timestamp

end Catalog
