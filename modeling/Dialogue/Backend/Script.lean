import Dialogue.Backend.Basic

/-!
# Scripted backends

A backend that plays back a list of answers, one for each request, whatever it is shown. After the
last one it answers with empty texts.
-/

namespace Dialogue

/-- The answers that are still to be given. -/
abbrev Script := List Answer

namespace Script

/-- The answer after the last one. -/
def exhausted : Answer :=
  ⟨.ok (.text ""), 0⟩

/-- The backend that plays back a script. -/
def backend : Backend Script where
  name := "Mock"
  complete
    | _, [] => (exhausted, [])
    | _, a :: rest => (a, rest)
  health script := (.ok true, script)

@[simp]
theorem complete_nil (r : Request) : backend.complete r [] = (exhausted, []) :=
  rfl

@[simp]
theorem complete_cons (r : Request) (a : Answer) (rest : Script) :
    backend.complete r (a :: rest) = (a, rest) :=
  rfl

end Script

end Dialogue
