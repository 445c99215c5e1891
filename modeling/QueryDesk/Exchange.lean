import QueryDesk.Token

/-!
# Exchanges with the remote side

A `Remote` stands for the token endpoint and the Web API: what they answer may depend on all that was
asked of them before. An `Exchange` is a computation that asks them; it keeps the log of what was asked,
also when it fails.
-/

namespace QueryDesk

/-- A request to the Web API of an environment. -/
structure Call where
  environment : Environment
  token : Token
  resource : String
  prefer : Option String
  deriving DecidableEq, Repr

/-- Something asked of the remote side. -/
inductive Event
  | signIn (environment : Environment)
  | call (c : Call)
  deriving DecidableEq, Repr

/-- The events so far, in their order. -/
abbrev Log := List Event

/-- The answers of the remote side to an event, given the events before it. -/
structure Remote where
  signIn : Log → Environment → Except Error Token
  answer : Log → Call → Except Error Json

/-- A computation that may fail and logs what it asks. -/
abbrev Exchange (α : Type) := ExceptT Error (StateM Log) α

namespace Exchange

/-- A result that is there without asking. -/
def ofExcept {α : Type} (r : Except Error α) : Exchange α := ExceptT.mk (pure r)

/-- The outcome of an exchange, which may be a failure, as a result. -/
def attempt {α : Type} (x : Exchange α) : Exchange (Except Error α) := ExceptT.mk (.ok <$> x.run)

/-- An exchange with what is said of its failures changed. -/
def mapError {α : Type} (f : Error → Error) (x : Exchange α) : Exchange α :=
  ExceptT.mk ((·.mapError f) <$> x.run)

/-- The outcome and the log, from a log. -/
def runFrom {α : Type} (x : Exchange α) (log : Log) : Except Error α × Log := x.run.run log

end Exchange

/-- Asks for a token. -/
def Remote.token (remote : Remote) (e : Environment) : Exchange Token :=
  ExceptT.mk fun log => (remote.signIn log e, log ++ [.signIn e])

/-- Sends a request to the Web API. -/
def Remote.get (remote : Remote) (c : Call) : Exchange Json :=
  ExceptT.mk fun log => (remote.answer log c, log ++ [.call c])

/-- Access to one environment with a token for it. -/
structure Session where
  remote : Remote
  environment : Environment
  token : Token

/-- Sends a request for a resource. -/
def Session.get (s : Session) (resource : String) (prefer : Option String) : Exchange Json :=
  s.remote.get ⟨s.environment, s.token, resource, prefer⟩

/-- Opens a session with an environment that the user owns. -/
def Session.connect (remote : Remote) (environments : EnvironmentStore) (userId environmentId : String) :
    Exchange Session := do
  let e ← Exchange.ofExcept (environments.owned userId environmentId)
  let t ← remote.token e
  return ⟨remote, e, t⟩

end QueryDesk
