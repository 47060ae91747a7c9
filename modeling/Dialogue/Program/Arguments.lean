import Dialogue.Agent.Assembly
import Dialogue.Session

/-!
# Arguments

The options of the command line. Each may be given once; nothing but options is taken.
-/

namespace Dialogue.Program

/-- What the options say. -/
structure Options where
  localToolsOnly : Bool
  /-- How often the model may be asked in one run; 0 is no limit. -/
  limit : Option Nat
  json : Bool
deriving DecidableEq, Repr

namespace Options

/-- No option is given. -/
def unset : Options := ⟨false, none, false⟩

/-- What the options put in place of the settings. -/
def overrides (o : Options) : Overrides :=
  ⟨o.localToolsOnly, o.limit.map Settings.unlessZero⟩

/-- How messages are written. -/
def format (o : Options) : Format :=
  if o.json then .json else .text

end Options

/-- What the arguments ask for. -/
inductive Arguments where
  | start (options : Options)
  /-- A text about the program itself. -/
  | info
  /-- The arguments break the rules. -/
  | refused
deriving DecidableEq, Repr

namespace Arguments

/-- The option for a limit with its value. -/
def limitMark : String := "--max-iterations="

/-- Takes the limit from its text. -/
def withLimit (o : Options) (text : List Char) : Option Options :=
  match o.limit, readCount text with
  | none, some n => some { o with limit := some n }
  | _, _ => none

/-- Whether an argument looks like an option, so that it cannot be a value of its own. -/
def isOption (argument : String) : Bool :=
  argument.toList.head? == some '-' && argument != "-"

/-- Reads arguments when the options before them are known. -/
def readFrom (o : Options) : List String → Arguments
  | [] => .start o
  | "--" :: rest => if rest.isEmpty then .start o else .refused
  | "--help" :: _ | "--version" :: _ => .info
  | "--local-tools-only" :: rest =>
    if o.localToolsOnly then .refused else readFrom { o with localToolsOnly := true } rest
  | "--json" :: rest => if o.json then .refused else readFrom { o with json := true } rest
  | ["--max-iterations"] => .refused
  | "--max-iterations" :: value :: rest =>
    if isOption value then .refused
    else
      match withLimit o value.toList with
      | some o => readFrom o rest
      | none => .refused
  | argument :: rest =>
    match argument.toList with
    | '-' :: 'h' :: _ | '-' :: 'V' :: _ => .info
    | cs =>
      if limitMark.toList.isPrefixOf cs then
        match withLimit o (cs.drop limitMark.length) with
        | some o => readFrom o rest
        | none => .refused
      else .refused

/-- Reads arguments. -/
def read (arguments : List String) : Arguments :=
  readFrom .unset arguments

example : read ["--json", "--max-iterations=+7"] = .start ⟨false, some 7, true⟩ := by decide
example : read ["--max-iterations", "-1"] = .refused := by decide
example : read ["--json", "--json"] = .refused := by decide

end Arguments

end Dialogue.Program
