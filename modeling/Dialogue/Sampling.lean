import Dialogue.Number.Single

/-!
# Sampling

How the backend should generate an answer. What is not set is left to the backend.
-/

namespace Dialogue

/-- How to generate an answer. -/
structure Sampling where
  temperature : Option Single
  maxTokens : Option UInt32
deriving DecidableEq, Repr

namespace Sampling

/-- Everything is left to the backend. -/
def unset : Sampling := ⟨none, none⟩

/-- The fields that are set. -/
def fields (s : Sampling) : Members :=
  (s.temperature.toList.map fun x => ("temperature", x.toJson)) ++
    s.maxTokens.toList.map fun n => ("max_tokens", .ofNat n.toNat)

/-- Sampling as a value. -/
def toJson (s : Sampling) : Json :=
  Json.object s.fields

/-- Reads sampling. -/
def decode : Json.Decoder Sampling :=
  Json.Record.decoder "GenerationOptions" 2 <|
    Sampling.mk <$> .optional "temperature" Single.decode <*> .optional "max_tokens" .word32

end Sampling

end Dialogue
