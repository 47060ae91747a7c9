import Dialogue.Http.Domain.Name
import Dialogue.Text.Utf8

/-!
# Hosts

The host of a web address in its normal form: an address of 32 bits in dotted decimals, an address
of 128 bits in brackets, or a domain name in ASCII. Addresses that are not of the web may have hosts
of another form, which are left alone.
-/

namespace Dialogue.Http

/-! ## Digits -/

/-- The value of a hexadecimal digit. -/
def hexValue? (c : Char) : Option Nat :=
  if '0' ≤ c ∧ c ≤ '9' then some (c.toNat - '0'.toNat)
  else if 'a' ≤ c ∧ c ≤ 'f' then some (c.toNat - 'a'.toNat + 10)
  else if 'A' ≤ c ∧ c ≤ 'F' then some (c.toNat - 'A'.toNat + 10)
  else none

/-- The number of digits below a base of at most sixteen. -/
def readBase (base : Nat) (ds : List Char) : Option Nat :=
  ds.foldlM (fun n d => do
    let v ← hexValue? d
    if v < base then some (n * base + v) else none) 0

/-- Takes out the octets written as a percent sign and two digits. -/
def percentDecode : List Nat → List Nat
  | 0x25 :: a :: b :: rest =>
    match hexValue? (Char.ofNat a), hexValue? (Char.ofNat b) with
    | some x, some y => (x * 16 + y) :: percentDecode rest
    | _, _ => 0x25 :: percentDecode (a :: b :: rest)
  | o :: rest => o :: percentDecode rest
  | [] => []
termination_by os => os.length

/-! ## Addresses of 32 bits -/

/-- A part of an address in decimals, octals after `0`, or hexadecimals after `0x`. -/
def readPart (cs : List Char) : Option Nat :=
  match cs with
  | [] => none
  | ['0', 'x'] | ['0', 'X'] => some 0
  | '0' :: 'x' :: ds | '0' :: 'X' :: ds => readBase 16 ds
  | '0' :: d :: ds => readBase 8 (d :: ds)
  | ds => readBase 10 ds

/-- The parts between dots, without an empty one at the end. -/
def parts (cs : List Char) : List (List Char) :=
  let ps := cs.splitOn '.'
  if 1 < ps.length ∧ ps.getLast? = some [] then ps.dropLast else ps

/-- Whether a name ends in a number, so that it can only be an address. -/
def endsInNumber (cs : List Char) : Bool :=
  match (parts cs).getLast? with
  | none => false
  | some last =>
    !last.isEmpty && (last.all (fun c => '0' ≤ c && c ≤ '9') || (readPart last).isSome)

/-- An address of 32 bits. The last part stands for all that are missing. -/
def readAddress4 (cs : List Char) : Option Nat := do
  let ps := parts cs
  let ns ← ps.mapM readPart
  let last ← ns.getLast?
  let first := ns.dropLast
  if 4 < ns.length ∨ Nat.pow 256 (4 - first.length) ≤ last ∨ first.any (255 < ·) then none
  else
    let front := first.foldl (fun n part => n * 256 + part) 0
    some (front * Nat.pow 256 (4 - first.length) + last)

/-- An address of 32 bits in dotted decimals. -/
def address4Chars (n : Nat) : List Char :=
  let octets := [n / 0x1000000, n / 0x10000 % 256, n / 256 % 256, n % 256]
  ['.'].intercalate (octets.map (Nat.toDigits 10))

/-! ## Addresses of 128 bits -/

/-- A piece of sixteen bits. -/
def readPiece (cs : List Char) : Option Nat :=
  if 1 ≤ cs.length ∧ cs.length ≤ 4 then readBase 16 cs else none

/-- One decimal part of the dotted end of an address. -/
def readDottedPart (cs : List Char) : Option Nat :=
  match cs with
  | '0' :: _ :: _ => none
  | _ => if cs.isEmpty then none else (readBase 10 cs).filter (· < 256)

/-- Pieces between colons; the last one may be in dotted decimals and stands for two. -/
def readPieces (groups : List (List Char)) : Option (List Nat) :=
  match groups with
  | [[]] => some []
  | _ =>
    match groups.getLast? with
    | none => some []
    | some last =>
      if last.contains '.' then do
        let front ← groups.dropLast.mapM readPiece
        match ← (last.splitOn '.').mapM readDottedPart with
        | [a, b, c, d] => some (front ++ [a * 256 + b, c * 256 + d])
        | _ => none
      else groups.mapM readPiece

/-- Cuts a text at the first double colon. -/
def cutDouble? : List Char → Option (List Char × List Char)
  | ':' :: ':' :: rest => some ([], rest)
  | c :: rest => (cutDouble? rest).map fun (a, b) => (c :: a, b)
  | [] => none

/-- The eight pieces of an address. -/
def readAddress6 (cs : List Char) : Option (List Nat) :=
  match cutDouble? cs with
  | none => (readPieces (cs.splitOn ':')).filter (·.length = 8)
  | some (front, back) => do
    if front.contains '.' then none
    let a ← readPieces (front.splitOn ':')
    let b ← readPieces (back.splitOn ':')
    if a.length + b.length < 8 then some (a ++ List.replicate (8 - a.length - b.length) 0 ++ b)
    else none

/-- How many zeros stand at the front. -/
def zerosAhead (pieces : List Nat) : Nat :=
  (pieces.takeWhile (· == 0)).length

/-- Where the longest run of at least two zeros starts, and its length; the first of equal ones. -/
def longestZeros (pieces : List Nat) : Nat × Nat :=
  (List.range pieces.length).foldl (fun best i =>
    let n := zerosAhead (pieces.drop i)
    if 2 ≤ n ∧ best.2 < n then (i, n) else best) (0, 0)

/-- An address of 128 bits, its longest run of zeros left out. -/
def address6Chars (pieces : List Nat) : List Char :=
  let join (ps : List Nat) : List Char := [':'].intercalate (ps.map (Nat.toDigits 16))
  let (start, count) := longestZeros pieces
  if count = 0 then join pieces
  else join (pieces.take start) ++ [':', ':'] ++ join (pieces.drop (start + count))

/-! ## Hosts -/

/-- The address of 128 bits between brackets, of which the first is gone. -/
def readBracketed? (cs : List Char) : Option String :=
  if cs.getLast? = some ']' then
    (readAddress6 cs.dropLast).map fun ps => String.ofList ('[' :: address6Chars ps ++ [']'])
  else none

/-- The host of an address of the web, in its normal form. A name that ends in a number is an
address of 32 bits. -/
def readHost? (cs : List Char) : Option String :=
  match cs with
  | '[' :: rest => readBracketed? rest
  | _ => do
    let name ← Text.Utf8.decode? (percentDecode (Text.Utf8.encode cs))
    let domain ← Domain.ascii? name
    if domain.isEmpty then none
    else if endsInNumber domain then (readAddress4 domain).map (String.ofList ∘ address4Chars)
    else some (String.ofList domain)

/-- Characters that stand in no host of any form. -/
def isForbidden (c : Char) : Bool :=
  "\x00\t\n\r #/:<>?@[\\]^|".toList.contains c

/-- Writes control characters, characters outside ASCII and those of a list with percent signs. -/
def percentEncode (also : List Char) (cs : List Char) : List Char :=
  let digit (n : Nat) : Char := (Nat.digitChar n).toUpper
  cs.flatMap fun c =>
    if c.toNat < 0x20 ∨ 0x7F ≤ c.toNat ∨ also.contains c then
      (Text.Utf8.octetsOf c).flatMap fun o => ['%', digit (o / 16), digit (o % 16)]
    else [c]

/-- The host of an address that is not of the web; it may be empty. -/
def readOtherHost? (cs : List Char) : Option String :=
  match cs with
  | '[' :: rest => readBracketed? rest
  | _ => if cs.any isForbidden then none else some (String.ofList (percentEncode [] cs))

end Dialogue.Http
