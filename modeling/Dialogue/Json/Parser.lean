import Dialogue.Json.Lexeme

/-!
# Reading JSON text

A reader for values by recursive descent. `depth` is one more than the number of arrays and objects
that may still be opened inside one another. `fuel` bounds the number of steps; two units for each
character are always enough, because every value takes at least one character.
-/

namespace Dialogue.Json

/-- One more than the number of arrays and objects that a text may nest. -/
def depthLimit : Nat :=
  128

mutual

/-- Reads a value, with blanks before it. -/
def readValue (src : Source) : (fuel depth : Nat) → List Char → Except TextFault (Json × List Char)
  | 0, _, _ => .error .tooDeep
  | fuel + 1, depth, cs =>
    match skipSpace cs with
    | [] => .error .endInValue
    | 'n' :: cs => do
      let rest ← readLiteral ['u', 'l', 'l'] cs
      .ok (.null, rest)
    | 't' :: cs => do
      let rest ← readLiteral ['r', 'u', 'e'] cs
      .ok (.bool true, rest)
    | 'f' :: cs => do
      let rest ← readLiteral ['a', 'l', 's', 'e'] cs
      .ok (.bool false, rest)
    | '"' :: cs => do
      let (s, rest) ← readString src fuel cs
      .ok (.str s, rest)
    | '-' :: cs => do
      let (n, rest) ← readNumber true cs
      .ok (.num n, rest)
    | '[' :: cs =>
      if depth ≤ 1 then .error .tooDeep
      else
        match skipSpace cs with
        | [] => .error .endInList
        | ']' :: rest => .ok (.arr [], rest)
        | cs => do
          let (xs, rest) ← readItems src fuel (depth - 1) cs
          .ok (.arr xs, rest)
    | '{' :: cs =>
      if depth ≤ 1 then .error .tooDeep
      else
        match skipSpace cs with
        | [] => .error .endInObject
        | '}' :: rest => .ok (.obj [], rest)
        | '"' :: cs => do
          let (ms, rest) ← readMembers src fuel (depth - 1) cs
          .ok (object ms, rest)
        | _ => .error .keyNotString
    | c :: cs =>
      if isDigit c then do
        let (n, rest) ← readNumber false (c :: cs)
        .ok (.num n, rest)
      else .error .noValue

/-- Reads one item and those after it, up to the closing bracket. -/
def readItems (src : Source) :
    (fuel depth : Nat) → List Char → Except TextFault (List Json × List Char)
  | 0, _, _ => .error .tooDeep
  | fuel + 1, depth, cs => do
    let (x, rest) ← readValue src fuel depth cs
    match skipSpace rest with
    | [] => .error .endInList
    | ']' :: rest => .ok ([x], rest)
    | ',' :: rest =>
      match skipSpace rest with
      | ']' :: _ => .error .trailingComma
      | rest => do
        let (xs, rest) ← readItems src fuel depth rest
        .ok (x :: xs, rest)
    | _ => .error .noCommaOrBracket

/-- Reads one member after the opening quote of its name and those after it, up to the closing
brace. -/
def readMembers (src : Source) :
    (fuel depth : Nat) → List Char → Except TextFault (Members × List Char)
  | 0, _, _ => .error .tooDeep
  | fuel + 1, depth, cs => do
    let (k, rest) ← readString src fuel cs
    match skipSpace rest with
    | [] => .error .endInObject
    | ':' :: rest => do
      let (v, rest) ← readValue src fuel depth rest
      match skipSpace rest with
      | [] => .error .endInObject
      | '}' :: rest => .ok ([(k, v)], rest)
      | ',' :: rest =>
        match skipSpace rest with
        | [] => .error .endInValue
        | '"' :: rest => do
          let (ms, rest) ← readMembers src fuel depth rest
          .ok ((k, v) :: ms, rest)
        | '}' :: _ => .error .trailingComma
        | _ => .error .keyNotString
      | _ => .error .noCommaOrBrace
    | _ => .error .noColon

end

/-- Checks that nothing but blanks is left. -/
def finish {α : Type} : α × List Char → Except TextFault α
  | (a, rest) => if (skipSpace rest).isEmpty then .ok a else .error .trailingCharacters

/-- Reads a whole text as one value. -/
def parseFrom (src : Source) (cs : List Char) : Except TextFault Json := do
  finish (← readValue src (2 * cs.length + 1) depthLimit cs)

/-- Reads characters as one value. -/
def parse (cs : List Char) : Except TextFault Json :=
  parseFrom .characters cs

/-- Reads octets as one value. -/
def parseOctets (octets : List Nat) : Except TextFault Json :=
  parseFrom .octets (octets.map Char.ofNat)

end Dialogue.Json
