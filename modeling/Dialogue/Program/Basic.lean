import Dialogue.Program.Arguments
import Dialogue.Program.EnvironmentFile
import Dialogue.Startup

/-!
# The program

From the arguments, the variables and the input of a program to what it writes and the code with
which it exits: 0 when the session ends, 1 after a fatal error, 2 for arguments that break the rules
and 101 after a crash. A crash leaves what was written before it; the text that tells of it is left
out.
-/

namespace Dialogue.Program

/-- What a program is started with. -/
structure Invocation where
  arguments : List String
  /-- Names and values of the process environment. -/
  environment : List (List Nat × List Nat)
  /-- The octets of the environment file, if there is one. -/
  environmentFile : Option (List Nat)
  input : Input

/-- What a program did. -/
structure Report where
  /-- None when it does not end by itself. -/
  code : Option Nat
  output : String
  errors : String
deriving DecidableEq, Repr

/-- A text with its lines after the first one moved in. -/
def indented (text : String) : String :=
  String.ofList (text.toList.flatMap fun c =>
    if c = '\n' then '\n' :: List.replicate 4 ' ' else [c])

/-- The text of a fatal error with its cause. -/
def fatal (what : String) (cause : Failure) : String :=
  "Error: " ++ what ++ "\n\nCaused by:\n    " ++ indented cause.message ++ "\n"

/-- The text of a fatal error of the input. -/
def unreadableInput : String :=
  "Error: stream did not contain valid UTF-8\n"

/-- The variables of an invocation: those of the process, and those of the file that are not set. -/
def Invocation.variables (i : Invocation) : List (String × String) :=
  let set := Variables.textual i.environment
  match i.environmentFile with
  | some file => EnvironmentFile.load set file
  | none => set

variable {ω : Type}

/-- What a program did that crashed in the turn after these. -/
def crashReport (format : Format) (turns : List (Run (World ω))) : Report :=
  ⟨some 101, String.join (turns.map fun turn => prompt ++ turn.outcome.write format) ++ prompt, ""⟩

/-- What the session of a program did, and the world afterwards. A turn in which the program crashes
is its last. -/
def reportOf (format : Format) (s : Session (World ω)) : Report × World ω :=
  match s.turns.span fun turn => !turn.world.crashed with
  | (before, turn :: _) => (crashReport format before, turn.world)
  | (_, []) =>
    match s.status with
    | .ended => (⟨some 0, s.output, ""⟩, s.world)
    | .unreadable => (⟨some 1, s.output, unreadableInput⟩, s.world)
    | .waiting | .unfinished => (⟨none, s.output, ""⟩, s.world)

/-- Runs a program with these options. `fuel` bounds each turn and the pages of each tool server,
and `schedule` says when interrupts come. -/
def start (outside : Outside ω) (fuel : Nat) (schedule : Schedule) (options : Options)
    (i : Invocation) (w : World ω) : Report × World ω :=
  match Settings.ofVariables i.variables with
  | .error e => (⟨some 1, "", fatal "Failed to load settings" e⟩, w)
  | .ok settings =>
    let order := ToolServer.Discovery.oneByOne fuel settings.toolServers.length
    match Startup.build outside order fuel settings options.overrides w with
    | (.failed e, w) => (⟨some 1, "", fatal "Failed to build agent" e⟩, w)
    | (.unfinished, w) => (⟨none, "", ""⟩, w)
    | (.ready agent, w) =>
      let (_, w) := agent.backend.health w
      if w.crashed then (⟨some 101, "", ""⟩, w)
      else
        reportOf options.format <|
          Session.run agent options.format (outside.clock w.outside) fuel schedule i.input w

/-- Runs a program. -/
def run (outside : Outside ω) (fuel : Nat) (schedule : Schedule) (i : Invocation) (w : World ω) :
    Report × World ω :=
  match Arguments.read i.arguments with
  | .start options => start outside fuel schedule options i w
  | .info => (⟨some 0, "", ""⟩, w)
  | .refused => (⟨some 2, "", ""⟩, w)

end Dialogue.Program
