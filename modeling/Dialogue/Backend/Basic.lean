import Dialogue.Completion
import Dialogue.Failure
import Dialogue.Sampling
import Dialogue.Tool.Signature

/-!
# Backends

A backend is shown messages and the signatures of tools and answers with a completion or a failure,
after some time. What it does depends on and changes a world of type `ω`: a script that is played
back, or a network.
-/

namespace Dialogue

/-- What a backend is shown. -/
structure Request where
  messages : List Message
  tools : List Signature
  sampling : Sampling
deriving DecidableEq, Repr

/-- What a backend answers, and after how many milliseconds. -/
structure Answer where
  result : Except Failure Completion
  delay : Nat

/-- What stands in the place of an answer when there is none. -/
def Answer.absent : Answer :=
  ⟨.ok (.text ""), 0⟩

/-- A backend that acts on a world of type `ω`. -/
structure Backend (ω : Type) where
  name : String
  /-- Answers a request. -/
  complete : Request → ω → Answer × ω
  /-- Says whether it is there and accepts the credentials. -/
  health : ω → Except Failure Bool × ω

end Dialogue
