import Dialogue.Text.Blank
import Dialogue.Text.Utf8
import Dialogue.Time.Instant

/-!
# Timestamps as text

Instants are written in the date and time format of RFC 3339, in universal time with a `Z`, and with
as many digits after the second as are needed out of 0, 3, 6 and 9.

Reading is more liberal: a blank may stand for the `T`, blanks may stand before numbers and
separators, the offset may be in other forms, and years may have a sign and more than four digits.
A local time without an offset, as some programs print it, is read by `readLocal?`.
-/

namespace Dialogue.Time

/-! ## Writing -/

/-- A number with at least `width` digits. -/
def padded (width n : Nat) : List Char :=
  let ds := Nat.toDigits 10 n
  List.replicate (width - ds.length) '0' ++ ds

/-- A year, with a sign unless it has four digits. -/
def yearChars (year : Int) : List Char :=
  if 0 ≤ year ∧ year ≤ 9999 then padded 4 year.toNat
  else (if year < 0 then '-' else '+') :: padded 4 year.natAbs

/-- The digits after the second. -/
def fractionChars (nanos : Nat) : List Char :=
  if nanos = 0 then []
  else if nanos % 1000000 = 0 then '.' :: padded 3 (nanos / 1000000)
  else if nanos % 1000 = 0 then '.' :: padded 6 (nanos / 1000)
  else '.' :: padded 9 nanos

/-- An instant as a timestamp. -/
def Instant.chars (t : Instant) : List Char :=
  let date := Date.ofNumber (t.seconds / daySeconds)
  let inDay := (t.seconds % daySeconds).toNat
  let leap := 1000000000 ≤ t.nanos
  let second := inDay % 60 + (if leap then 1 else 0)
  let nanos := if leap then t.nanos - 1000000000 else t.nanos
  yearChars date.year ++ '-' :: padded 2 date.month ++ '-' :: padded 2 date.day ++
    'T' :: padded 2 (inDay / 3600) ++ ':' :: padded 2 (inDay / 60 % 60) ++ ':' :: padded 2 second ++
    fractionChars nanos ++ ['Z']

/-- An instant as a timestamp. -/
def Instant.render (t : Instant) : String :=
  String.ofList t.chars

/-! ## Reading -/

/-- Why a text is not a timestamp. -/
inductive TimestampFault where
  | badCharacter
  | tooShort
  | tooLong
  | outOfRange
  /-- The instant lies outside the bounds. -/
  | impossible
deriving DecidableEq, Repr

/-- The wording of a fault. -/
def TimestampFault.message : TimestampFault → String
  | .badCharacter => "input contains invalid characters"
  | .tooShort => "premature end of input"
  | .tooLong => "trailing input"
  | .outOfRange => "input is out of range"
  | .impossible => "no possible date and time matching input"

/-- A decimal digit. -/
def isDigit (c : Char) : Bool :=
  '0' ≤ c && c ≤ '9'

/-- The number that digits stand for. -/
def digitsValue (ds : List Char) : Nat :=
  ds.foldl (fun n d => n * 10 + (d.toNat - '0'.toNat)) 0

/-- Reads a number of at most `width` digits, at least one. -/
def readDigits (width : Nat) (cs : List Char) : Except TimestampFault (Nat × List Char) :=
  let ds := (cs.take width).takeWhile isDigit
  if cs.isEmpty then .error .tooShort
  else if ds.isEmpty then .error .badCharacter
  else if 0x8000000000000000 ≤ digitsValue ds then .error .outOfRange
  else .ok (digitsValue ds, cs.drop ds.length)

/-- Reads a number in a range, with blanks before it. -/
def readInRange (low high : Nat) (cs : List Char) : Except TimestampFault (Nat × List Char) := do
  let (n, rest) ← readDigits 2 (Text.trimStart cs)
  if low ≤ n ∧ n ≤ high then .ok (n, rest) else .error .outOfRange

/-- Reads a year: four digits, or a sign and any number of digits. -/
def readYear (cs : List Char) : Except TimestampFault (Int × List Char) := do
  let cs := Text.trimStart cs
  let (year, rest) ← (match cs with
    | '-' :: cs => do
      let (n, rest) ← readDigits cs.length cs
      Except.ok (-(n : Int), rest)
    | '+' :: cs => do
      let (n, rest) ← readDigits cs.length cs
      Except.ok ((n : Int), rest)
    | cs => do
      let (n, rest) ← readDigits 4 cs
      Except.ok ((n : Int), rest))
  if -0x80000000 ≤ year ∧ year < 0x80000000 then .ok (year, rest) else .error .outOfRange

/-- Reads a separator. -/
def readSeparator (c : Char) : List Char → Except TimestampFault (List Char)
  | [] => .error .tooShort
  | d :: cs => if d = c then .ok cs else .error .badCharacter

/-- Reads the digits after a second, if a point stands here. Digits after the ninth are dropped. -/
def readFraction (cs : List Char) : Except TimestampFault (Nat × List Char) :=
  match cs with
  | '.' :: cs => do
    let (n, rest) ← readDigits 9 cs
    let places := cs.length - rest.length
    .ok (n * Nat.pow 10 (9 - places), rest.dropWhile isDigit)
  | cs => .ok (0, cs)

/-- The parts of a date and a time of day. -/
structure LocalTime where
  date : Date
  hour : Nat
  minute : Nat
  second : Nat
  nanos : Nat

/-- Reads a date. `gap` says whether blanks may stand before a separator. -/
def readDate (gap : Bool) (cs : List Char) : Except TimestampFault (Date × List Char) := do
  let skip (cs : List Char) : List Char := if gap then Text.trimStart cs else cs
  let (year, cs) ← readYear cs
  let cs ← readSeparator '-' (skip cs)
  let (month, cs) ← readInRange 1 12 cs
  let cs ← readSeparator '-' (skip cs)
  let (day, cs) ← readInRange 1 31 cs
  .ok (⟨year, month, day⟩, cs)

/-- Reads a time of day. -/
def readTime (gap : Bool) (date : Date) (cs : List Char) :
    Except TimestampFault (LocalTime × List Char) := do
  let skip (cs : List Char) : List Char := if gap then Text.trimStart cs else cs
  let (hour, cs) ← readInRange 0 23 cs
  let cs ← readSeparator ':' (skip cs)
  let (minute, cs) ← readInRange 0 59 cs
  let cs ← readSeparator ':' (skip cs)
  let (second, cs) ← readInRange 0 60 cs
  let (nanos, cs) ← readFraction cs
  .ok (⟨date, hour, minute, second, nanos⟩, cs)

/-- The number of octets of a text. -/
def octetCount (cs : List Char) : Nat :=
  (Text.Utf8.encode cs).length

/-- Reads the two digits of an offset's hours or minutes. -/
def readPair (most : Char) (cs : List Char) : Except TimestampFault (Nat × List Char) :=
  match cs with
  | a :: b :: rest =>
    if isDigit a ∧ isDigit b then
      if a ≤ most then .ok (digitsValue [a, b], rest) else .error .outOfRange
    else .error .badCharacter
  | _ => .error .badCharacter

/-- Reads an offset in seconds east: `Z`, `UTC`, or a sign, hours and minutes. -/
def readOffset (cs : List Char) : Except TimestampFault (Int × List Char) := do
  let word := (cs.take 3).map Char.toUpper
  if word = ['U', 'T', 'C'] then return (0, cs.drop 3)
  match cs with
  | [] => .error .tooShort
  | c :: rest =>
    if c = 'Z' ∨ c = 'z' then return (0, rest)
    let sign : Int ← if c = '+' then .ok 1 else if c = '-' ∨ c = '\u2212' then .ok (-1)
      else .error .badCharacter
    if octetCount rest < 2 then throw .tooShort
    let (hours, rest) ← readPair '9' rest
    let rest := rest.dropWhile fun c => c == ':' || Text.isBlank c
    if octetCount rest < 2 then throw .tooShort
    let (minutes, rest) ← readPair '5' rest
    .ok (sign * (hours * 3600 + minutes * 60 : Nat), rest)

/-- The instant of a local time at an offset. The second 60 is a leap second. -/
def LocalTime.instant (t : LocalTime) (offset : Int) : Except TimestampFault Instant :=
  if !t.date.exists? ∨ t.date.year < -262143 ∨ 262142 < t.date.year then .error .outOfRange
  else if offset ≤ -86400 ∨ 86400 ≤ offset then .error .outOfRange
  else
    let (second, leap) := if t.second = 60 then (59, 1000000000) else (t.second, 0)
    let seconds := t.date.number * daySeconds +
      (t.hour * 3600 + t.minute * 60 + second : Nat) - offset
    match Instant.make? seconds (t.nanos + leap) with
    | some instant => .ok instant
    | none => .error .impossible

/-- Reads a timestamp with an offset. -/
def readTimestamp (cs : List Char) : Except TimestampFault Instant := do
  let (date, cs) ← readDate true cs
  let cs ← (match cs with
    | [] => .error .tooShort
    | c :: rest => if c = 'T' ∨ c = 't' ∨ c = ' ' then .ok rest else .error .badCharacter)
  let (time, cs) ← readTime true date cs
  if (Text.trimStart cs).isEmpty then throw .tooShort
  let (offset, cs) ← readOffset (Text.trimStart cs)
  if !(Text.trimStart cs).isEmpty then throw .tooLong
  time.instant offset

/-! ## Local times -/

/-- How the clocks of a place go: the offset of a local time in seconds east, if it has just one. It
has none where the clocks were put forward over it, and two where they were put back over it. -/
abbrev Zone := LocalTime → Option Int

/-- The clocks of a place at one offset for all time. -/
def Zone.fixed (offset : Int) : Zone :=
  fun _ => some offset

/-- Reads a local time as `2024-05-01 12:30:00.000000`. -/
def readLocalTime (cs : List Char) : Except TimestampFault LocalTime := do
  let (date, cs) ← readDate false cs
  let (time, cs) ← readTime false date (Text.trimStart cs)
  if cs.isEmpty then .ok time else .error .tooLong

/-- The instant of a local time as it is written, if it is the time of just one instant. -/
def readLocal? (zone : Zone) (cs : List Char) : Option Instant := do
  let time ← (readLocalTime cs).toOption
  let offset ← zone time
  (time.instant offset).toOption

end Dialogue.Time
