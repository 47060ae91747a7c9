import Dialogue.Json.Basic
import Dialogue.Json.TextFault
import Dialogue.Text.Utf8

/-!
# Lexemes of JSON text

Blanks, literals, strings and numbers, each read off the front of a list of characters. A reader
gives what it read and the characters that follow, or the first fault.

A text comes as characters, or as octets that need not be UTF-8. In the second case every octet
stands as the character of that number, all syntax being ASCII, and a `Source` says how the strings
are put together again.
-/

namespace Dialogue.Json

/-- How the elements of a text stand for its characters. -/
structure Source where
  /-- The number of octets an element stands for. -/
  width : Char → Nat
  /-- The elements that stand for one character. -/
  elements : Char → List Char
  /-- The string that elements stand for, if they stand for one. -/
  assemble : List Char → Option String

namespace Source

/-- The number of octets that elements stand for. -/
def size (src : Source) (cs : List Char) : Nat :=
  cs.foldl (fun n c => n + src.width c) 0

/-- A text given as its characters. -/
def characters : Source where
  width c := (Text.Utf8.octetsOf c).length
  elements c := [c]
  assemble cs := some (String.ofList cs)

/-- A text given as octets, each written as the character of that number. -/
def octets : Source where
  width _ := 1
  elements c := (Text.Utf8.octetsOf c).map Char.ofNat
  assemble cs := (Text.Utf8.decode? (cs.map Char.toNat)).map String.ofList

end Source

/-! ## Blanks and literals -/

/-- The blanks between lexemes. -/
def isSpace (c : Char) : Bool :=
  c == ' ' || c == '\n' || c == '\t' || c == '\r'

/-- Drops blanks at the front. -/
def skipSpace (cs : List Char) : List Char :=
  cs.dropWhile isSpace

/-- Reads the characters `expected`. -/
def readLiteral : (expected : List Char) → List Char → Except TextFault (List Char)
  | [], cs => .ok cs
  | _ :: _, [] => .error .endInValue
  | e :: es, c :: cs => if c = e then readLiteral es cs else .error .noLiteral

/-! ## Strings -/

/-- The value of a hexadecimal digit of either case. -/
def hexValue? (c : Char) : Option Nat :=
  if '0' ≤ c ∧ c ≤ '9' then some (c.toNat - '0'.toNat)
  else if 'a' ≤ c ∧ c ≤ 'f' then some (c.toNat - 'a'.toNat + 10)
  else if 'A' ≤ c ∧ c ≤ 'F' then some (c.toNat - 'A'.toNat + 10)
  else none

/-- Reads four hexadecimal digits. Fewer than four octets are the end of the text; four octets that
are not digits are a bad escape. -/
def readHex4 (src : Source) (cs : List Char) : Except TextFault (Nat × List Char) :=
  match cs with
  | a :: b :: c :: d :: rest =>
    match hexValue? a, hexValue? b, hexValue? c, hexValue? d with
    | some a, some b, some c, some d => .ok (((a * 16 + b) * 16 + c) * 16 + d, rest)
    | _, _, _, _ => .error .badEscape
  | _ => if 4 ≤ src.size cs then .error .badEscape else .error .endInString

/-- Reads the second half of a surrogate pair, whose first half was `high`. -/
def readLowSurrogate (src : Source) (high : Nat) (cs : List Char) :
    Except TextFault (Char × List Char) :=
  match cs with
  | [] => .error .endInString
  | '\\' :: [] => .error .endInString
  | '\\' :: 'u' :: cs => do
    let (low, rest) ← readHex4 src cs
    if 0xDC00 ≤ low ∧ low ≤ 0xDFFF then
      .ok (Char.ofNat ((high - 0xD800) * 0x400 + (low - 0xDC00) + 0x10000), rest)
    else .error .loneSurrogate
  | _ => .error .noSecondEscape

/-- Reads the character of an escape, after its backslash. -/
def readEscape (src : Source) (cs : List Char) : Except TextFault (Char × List Char) :=
  match cs with
  | [] => .error .endInString
  | '"' :: cs => .ok ('"', cs)
  | '\\' :: cs => .ok ('\\', cs)
  | '/' :: cs => .ok ('/', cs)
  | 'b' :: cs => .ok ('\x08', cs)
  | 'f' :: cs => .ok ('\x0c', cs)
  | 'n' :: cs => .ok ('\n', cs)
  | 'r' :: cs => .ok ('\r', cs)
  | 't' :: cs => .ok ('\t', cs)
  | 'u' :: cs => do
    let (n, rest) ← readHex4 src cs
    if 0xDC00 ≤ n ∧ n ≤ 0xDFFF then .error .loneSurrogate
    else if 0xD800 ≤ n ∧ n ≤ 0xDBFF then readLowSurrogate src n rest
    else .ok (Char.ofNat n, rest)
  | _ => .error .badEscape

/-- Reads the elements of a string up to its closing quote; `fuel` bounds their number. -/
def readElements (src : Source) :
    (fuel : Nat) → List Char → Except TextFault (List Char × List Char)
  | _, [] => .error .endInString
  | 0, _ => .error .endInString
  | _ + 1, '"' :: cs => .ok ([], cs)
  | fuel + 1, '\\' :: cs => do
    let (c, rest) ← readEscape src cs
    let (es, rest) ← readElements src fuel rest
    .ok (src.elements c ++ es, rest)
  | fuel + 1, c :: cs =>
    if c.toNat < 0x20 then .error .controlCharacter
    else do
      let (es, rest) ← readElements src fuel cs
      .ok (c :: es, rest)

/-- Reads a string after its opening quote; `fuel` bounds the number of its elements. -/
def readString (src : Source) (fuel : Nat) (cs : List Char) :
    Except TextFault (String × List Char) := do
  let (es, rest) ← readElements src fuel cs
  match src.assemble es with
  | some s => .ok (s, rest)
  | none => .error .badCodePoint

/-! ## Numbers -/

/-- A decimal digit. -/
def isDigit (c : Char) : Bool :=
  '0' ≤ c && c ≤ '9'

/-- The value of a decimal digit. -/
def digitValue (c : Char) : Nat :=
  c.toNat - '0'.toNat

/-- Digits taken into `acc` for as long as the number stays at most `most`: the number, how many
digits it took, and how many are left over from the first one that did not fit. -/
def takeDigits (most : Nat) : List Char → Nat → Nat × Nat × Nat
  | [], acc => (acc, 0, 0)
  | d :: ds, acc =>
    let next := acc * 10 + digitValue d
    if most < next then (acc, 0, ds.length + 1)
    else
      let (n, taken, left) := takeDigits most ds next
      (n, taken + 1, left)

/-- The largest integer of a number, `2 ^ 64 - 1`. -/
def maxInteger : Nat :=
  0xFFFFFFFFFFFFFFFF

/-- The largest exponent that is counted, `2 ^ 31 - 1`. -/
def maxExponent : Nat :=
  0x7FFFFFFF

/-- `x / 1e308` again and again while the exponent is below -308, at most `fuel` times. A zero stays
a zero whatever the exponent. -/
def scaleLow : Nat → Binary64 → Int → Option Binary64
  | 0, x, _ => some x
  | fuel + 1, x, e =>
    if x.isZero then some x
    else if -308 ≤ e then x.div? (Binary64.pow10 e.natAbs)
    else (x.div? (Binary64.pow10 308)).bind fun y => scaleLow fuel y (e + 308)

/-- `significand * 10 ^ exponent` as reading rounds it: the significand is rounded, then the power
of ten, then the product or the quotient. None when the number is too large. -/
def floatOfParts (negative : Bool) (significand : Nat) (exponent : Int) : Option Binary64 :=
  let x := Binary64.ofNat significand
  let scaled :=
    if exponent < 0 then scaleLow exponent.natAbs x exponent
    else if exponent ≤ 308 then x.mul? (Binary64.pow10 exponent.toNat)
    else if x.isZero then some x
    else none
  scaled.map (·.withSign negative)

/-- The floating point number of its parts, or a fault when it is too large. -/
def finishFloat (negative : Bool) (significand : Nat) (exponent : Int) (rest : List Char) :
    Except TextFault (Number × List Char) :=
  match floatOfParts negative significand exponent with
  | some x => .ok (.float x, rest)
  | none => .error .numberTooLarge

/-- Reads an exponent after its `e`. The number so far is `significand * 10 ^ exponent`. -/
def readExponent (negative : Bool) (significand : Nat) (exponent : Int) (cs : List Char) :
    Except TextFault (Number × List Char) :=
  let (below, cs) := match cs with
    | '+' :: cs => (false, cs)
    | '-' :: cs => (true, cs)
    | cs => (false, cs)
  let ds := cs.takeWhile isDigit
  let rest := cs.dropWhile isDigit
  if ds.isEmpty then .error (if cs.isEmpty then .endInValue else .badNumber)
  else
    let (e, _, left) := takeDigits maxExponent ds 0
    if left = 0 then
      finishFloat negative significand (if below then exponent - e else exponent + e) rest
    else if significand ≠ 0 ∧ !below then .error .numberTooLarge
    else .ok (.float (Binary64.zero negative), rest)

/-- Reads what may follow the digits of a fraction. -/
def readAfterFraction (negative : Bool) (significand : Nat) (exponent : Int) (cs : List Char) :
    Except TextFault (Number × List Char) :=
  match cs with
  | 'e' :: cs => readExponent negative significand exponent cs
  | 'E' :: cs => readExponent negative significand exponent cs
  | cs => finishFloat negative significand exponent cs

/-- Reads a fraction after its point. The number so far is `significand * 10 ^ exponent`; digits
that no longer fit the significand are dropped. -/
def readFraction (negative : Bool) (significand : Nat) (exponent : Int) (cs : List Char) :
    Except TextFault (Number × List Char) :=
  let ds := cs.takeWhile isDigit
  let rest := cs.dropWhile isDigit
  if ds.isEmpty then .error (if cs.isEmpty then .endInValue else .badNumber)
  else
    let (significand, taken, _) := takeDigits maxInteger ds significand
    readAfterFraction negative significand (exponent - taken) rest

/-- The number of an integer lexeme: an integer down to `-2 ^ 63`, else a floating point number.
The integer `-0` is the floating point number. -/
def integerOrFloat (negative : Bool) (n : Nat) : Number :=
  if !negative then .int n
  else if 0 < n ∧ n ≤ 0x8000000000000000 then .int (-n)
  else .float ((Binary64.ofNat n).withSign true)

/-- Reads a number after its sign. -/
def readNumber (negative : Bool) (cs : List Char) : Except TextFault (Number × List Char) :=
  let ds := cs.takeWhile isDigit
  let rest := cs.dropWhile isDigit
  if ds.isEmpty then .error (if cs.isEmpty then .endInValue else .badNumber)
  else if ds.head? = some '0' ∧ 1 < ds.length then .error .badNumber
  else
    let (n, _, left) := takeDigits maxInteger ds 0
    match rest with
    | '.' :: cs => readFraction negative n left cs
    | 'e' :: cs => readExponent negative n left cs
    | 'E' :: cs => readExponent negative n left cs
    | _ =>
      if left = 0 then .ok (integerOrFloat negative n, rest)
      else finishFloat negative n left rest

end Dialogue.Json
