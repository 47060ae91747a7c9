import Dialogue.Tool.Toolbox

/-!
# Arithmetic tools

The tools that every agent has: `add`, `multiply` and `divide` over two integers of 64 bits. Sums
and products are exact or fail; a quotient is a floating point number.
-/

namespace Dialogue.Arithmetic

/-- The integers of 64 bits with a sign. -/
def fits (n : Int) : Prop :=
  -0x8000000000000000 ≤ n ∧ n < 0x8000000000000000

instance (n : Int) : Decidable (fits n) :=
  inferInstanceAs (Decidable (_ ∧ _))

/-- The signature of an operation on `a` and `b`. -/
def signature (name description : String) : Signature where
  name := name
  description := description
  parameters := [⟨"a", "integer", "First operand", true⟩, ⟨"b", "integer", "Second operand", true⟩]
  schema := none

/-- The operand of a name. -/
def operand (name : String) (arguments : Members) : Except String Int :=
  match (Table.lookup name arguments).bind Json.int? with
  | some n => if fits n then .ok n else .error ("argument `" ++ name ++ "` must be an integer")
  | none => .error ("argument `" ++ name ++ "` must be an integer")

/-- An exact result that has to fit. -/
def exact (n : Int) : Except String Json :=
  if fits n then .ok (.ofInt n) else .error "integer overflow"

/-- The sum of the operands. -/
def sum (arguments : Members) : Except String Json := do
  let a ← operand "a" arguments
  let b ← operand "b" arguments
  exact (a + b)

/-- The product of the operands. -/
def product (arguments : Members) : Except String Json := do
  let a ← operand "a" arguments
  let b ← operand "b" arguments
  exact (a * b)

/-- The quotient of the operands, each first rounded to a floating point number. -/
def quotient (arguments : Members) : Except String Json := do
  let a ← operand "a" arguments
  let b ← operand "b" arguments
  if b = 0 then .error "division by zero"
  else
    match (Binary64.ofInt a).div? (Binary64.ofInt b) with
    | some q => .ok (.num (.float q))
    | none => .ok .null

variable {ω : Type}

/-- Adds `a` and `b`. -/
def add : Tool ω :=
  .ofFunction (signature "add" "Adds `a` and `b`.") sum

/-- Multiplies `a` and `b`. -/
def multiply : Tool ω :=
  .ofFunction (signature "multiply" "Multiply `a` and `b`.") product

/-- Divides `a` by `b`. -/
def divide : Tool ω :=
  .ofFunction (signature "divide" "Divide `a` and `b`.") quotient

/-- The toolbox of the three operations. -/
def toolbox : Toolbox ω :=
  ⟨[add, divide, multiply]⟩

end Dialogue.Arithmetic
