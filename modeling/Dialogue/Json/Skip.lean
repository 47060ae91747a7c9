import Dialogue.Json.Parser

/-!
# Passing over a value

The value of a field that nobody asked for is passed over without being built. Less is asked of it
than of a value that is read: it may nest without limit, its numbers may have any size, and its
strings may hold lone surrogates and octets that are not UTF-8.
-/

namespace Dialogue.Json

/-- Passes over a string after its opening quote. -/
def skipString (src : Source) : (fuel : Nat) → List Char → Except TextFault (List Char)
  | _, [] => .error .endInString
  | 0, _ => .error .endInString
  | _ + 1, '"' :: cs => .ok cs
  | fuel + 1, '\\' :: cs =>
    match cs with
    | [] => .error .endInString
    | 'u' :: cs => do
      let (_, rest) ← readHex4 src cs
      skipString src fuel rest
    | c :: cs =>
      if "\"\\/bfnrt".toList.contains c then skipString src fuel cs else .error .badEscape
  | fuel + 1, c :: cs =>
    if c.toNat < 0x20 then .error .controlCharacter else skipString src fuel cs

/-- Passes over digits, of which there must be one. -/
def skipDigits (cs : List Char) : Except TextFault (List Char) :=
  if (cs.takeWhile isDigit).isEmpty then .error .badNumber else .ok (cs.dropWhile isDigit)

/-- Passes over an exponent, if one stands here. -/
def skipExponent : List Char → Except TextFault (List Char)
  | 'e' :: '+' :: cs => skipDigits cs
  | 'e' :: '-' :: cs => skipDigits cs
  | 'e' :: cs => skipDigits cs
  | 'E' :: '+' :: cs => skipDigits cs
  | 'E' :: '-' :: cs => skipDigits cs
  | 'E' :: cs => skipDigits cs
  | cs => .ok cs

/-- Passes over a number after its sign. -/
def skipNumber (cs : List Char) : Except TextFault (List Char) := do
  let rest ← match cs with
    | '0' :: c :: cs => if isDigit c then .error .badNumber else .ok (c :: cs)
    | cs => skipDigits cs
  match rest with
  | '.' :: cs => skipExponent (← skipDigits cs)
  | cs => skipExponent cs

mutual

/-- Passes over a value, with blanks before it. -/
def skipValue (src : Source) : (fuel : Nat) → List Char → Except TextFault (List Char)
  | 0, _ => .error .endInValue
  | fuel + 1, cs =>
    match skipSpace cs with
    | [] => .error .endInValue
    | 'n' :: cs => readLiteral ['u', 'l', 'l'] cs
    | 't' :: cs => readLiteral ['r', 'u', 'e'] cs
    | 'f' :: cs => readLiteral ['a', 'l', 's', 'e'] cs
    | '"' :: cs => skipString src fuel cs
    | '-' :: cs => skipNumber cs
    | '[' :: cs =>
      match skipSpace cs with
      | [] => .error .endInList
      | ']' :: rest => .ok rest
      | cs => skipItems src fuel cs
    | '{' :: cs =>
      match skipSpace cs with
      | [] => .error .endInObject
      | '}' :: rest => .ok rest
      | cs => skipMembers src fuel cs
    | c :: cs => if isDigit c then skipNumber (c :: cs) else .error .noValue

/-- Passes over one item and those after it, up to the closing bracket. -/
def skipItems (src : Source) : (fuel : Nat) → List Char → Except TextFault (List Char)
  | 0, _ => .error .endInValue
  | fuel + 1, cs => do
    match skipSpace (← skipValue src fuel cs) with
    | [] => .error .endInList
    | ']' :: rest => .ok rest
    | ',' :: rest => skipItems src fuel rest
    | _ => .error .noCommaOrBracket

/-- Passes over one member and those after it, up to the closing brace. -/
def skipMembers (src : Source) : (fuel : Nat) → List Char → Except TextFault (List Char)
  | 0, _ => .error .endInValue
  | fuel + 1, cs =>
    match skipSpace cs with
    | [] => .error .endInObject
    | '"' :: cs => do
      match skipSpace (← skipString src fuel cs) with
      | [] => .error .endInObject
      | ':' :: cs =>
        match skipSpace (← skipValue src fuel cs) with
        | [] => .error .endInObject
        | '}' :: rest => .ok rest
        | ',' :: rest => skipMembers src fuel rest
        | _ => .error .noCommaOrBrace
      | _ => .error .noColon
    | _ => .error .keyNotString

end

end Dialogue.Json
