import Dialogue.Http.Basic

/-!
# Exchanges

An exchange sends requests one after another, each perhaps depending on the responses before, and
ends with a value. What it would send next can be seen without a network, so several exchanges may
take turns. A network answers requests and has a world `ω`; running an exchange against a network
gives its value and the world afterwards.

A network is all of a transport: the redirects that it follows on its own are inside it. A request
stands for the first one of a chain of redirects, and its response is the one at the end.

Main statements: the laws of the monad (`done_bind`, `bind_done`, `bind_assoc`), and `run_bind`
(running one exchange after another threads the world).
-/

namespace Dialogue.Http

/-- A network with a world of type `ω`. -/
abbrev Network (ω : Type) := Request → ω → Except Trouble Response × ω

/-- Requests one after another, and a value at the end. -/
inductive Exchange (α : Type) where
  | done (value : α)
  | send (request : Request) (resume : Except Trouble Response → Exchange α)

namespace Exchange

variable {α β ω : Type}

/-- One exchange and then another that depends on its value. -/
def bind : Exchange α → (α → Exchange β) → Exchange β
  | .done a, f => f a
  | .send r resume, f => .send r fun answer => (resume answer).bind f

instance : Monad Exchange where
  pure := .done
  bind := bind

/-- The value of an exchange against a network, and the world afterwards. -/
def run (net : Network ω) : Exchange α → ω → α × ω
  | .done a, w => (a, w)
  | .send r resume, w => (resume (net r w).1).run net (net r w).2

/-- The request that is sent next. -/
def next? : Exchange α → Option Request
  | .done _ => none
  | .send r _ => some r

/-- Sends a request if it can be made. -/
def ask (method : Method) (address : String) (headers : List Header) (body : Option Json) :
    Exchange (Except Fault Response) :=
  match makeRequest method address headers body with
  | .error e => .done (.error e)
  | .ok r => .send r fun answer => .done (answer.mapError (.trouble · r.url))

@[simp]
theorem pure_eq (a : α) : (pure a : Exchange α) = .done a :=
  rfl

@[simp]
theorem bind_eq (e : Exchange α) (f : α → Exchange β) : e >>= f = e.bind f :=
  rfl

@[simp]
theorem done_bind (a : α) (f : α → Exchange β) : (done a).bind f = f a :=
  rfl

/-- Nothing after an exchange leaves it as it is. -/
@[simp]
theorem bind_done (e : Exchange α) : e.bind .done = e := by
  induction e with
  | done a => rfl
  | send r resume ih => exact congrArg (send r) (funext ih)

theorem bind_assoc {γ : Type} (e : Exchange α) (f : α → Exchange β) (g : β → Exchange γ) :
    (e.bind f).bind g = e.bind fun a => (f a).bind g := by
  induction e with
  | done a => rfl
  | send r resume ih => exact congrArg (send r) (funext ih)

instance : LawfulMonad Exchange :=
  .mk' Exchange bind_done (fun _ _ => rfl) bind_assoc

@[simp]
theorem run_done (net : Network ω) (a : α) (w : ω) : (done a).run net w = (a, w) :=
  rfl

/-- Running one exchange after another threads the world. -/
theorem run_bind (net : Network ω) (e : Exchange α) (f : α → Exchange β) (w : ω) :
    (e.bind f).run net w = (f (e.run net w).1).run net (e.run net w).2 := by
  induction e generalizing w with
  | done a => rfl
  | send r resume ih => exact ih _ _

end Exchange

/-- The network in which no server can be reached. -/
def Network.offline {ω : Type} : Network ω :=
  fun _ w => (.error .unreachable, w)

end Dialogue.Http
