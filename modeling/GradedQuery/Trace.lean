import GradedQuery.Literal
import GradedQuery.QueryError

/-!
# Trace events

What the stages of the compilation report while they work.  Events are values: a stage returns
them together with its outcome (`Traced`), in the order in which they happen, and the command line
decides which of them are shown.  A stage that fails ends the work, and **what was reported before
the failure is kept** (`Traced.events_bind_ok`, `Traced.bind_error`).
-/

namespace GradedQuery

/-- How serious an event is. -/
inductive Level where
  | error
  | warn
  | info
  | debug
  | trace
  deriving DecidableEq, Repr

namespace Level

/-- The name of a level in a log line. -/
def name : Level → String
  | .error => "ERROR"
  | .warn => "WARN"
  | .info => "INFO"
  | .debug => "DEBUG"
  | .trace => "TRACE"

/-- How talkative a level is: an event shows where the limit is at least its own verbosity. -/
def verbosity : Level → Nat
  | .error => 1
  | .warn => 2
  | .info => 3
  | .debug => 4
  | .trace => 5

end Level

/-- Something that a stage reports. -/
inductive Event where
  /-- The text has been parsed. -/
  | parsed (f : Formula)
  /-- The weighted connectives have been expanded. -/
  | expandedWeights (f : Formula)
  /-- The formula has been normalized. -/
  | normalized (f : Formula)
  /-- The normal form has no overlaps to begin with. -/
  | alreadyOverlapFree (terms : Nat)
  /-- A case split on a literal starts, at a depth and on so many terms. -/
  | splitting (literal : Literal) (depth terms : Nat)
  /-- The depth limit is reached although overlaps are left. -/
  | depthExhausted (maxDepth terms : Nat)
  deriving DecidableEq, Repr

namespace Event

/-- The level of an event. -/
def level : Event → Level
  | .depthExhausted .. => .warn
  | _ => .debug

/-- The part of the program that reports an event. -/
def target : Event → String
  | .parsed _ | .expandedWeights _ | .normalized _ => "cqql_query::pipeline"
  | _ => "cqql_query::normalize"

/-- The text of an event. -/
def message : Event → String
  | .parsed _ => "parsed"
  | .expandedWeights _ => "expanded weights"
  | .normalized _ => "normalized"
  | .alreadyOverlapFree _ => "DNF already overlap-free"
  | .splitting .. => "splitting on ordinal literal"
  | .depthExhausted .. => "split depth exhausted, returning DNF with ordinal overlaps"

/-- The named values of an event. -/
def fields : Event → List (String × String)
  | .parsed f | .expandedWeights f | .normalized f => [("formula", f.render)]
  | .alreadyOverlapFree terms => [("terms", toString terms)]
  | .splitting literal depth terms =>
    [("literal", literal.render), ("depth", toString depth), ("terms", toString terms)]
  | .depthExhausted maxDepth terms =>
    [("max_depth", toString maxDepth), ("terms", toString terms)]

end Event

/-- The outcome of a stage, with the events on the way to it. -/
structure Traced (α : Type) where
  outcome : Except QueryError α
  events : List Event

namespace Traced

variable {α β : Type}

/-- Reports an event. -/
def report (e : Event) : Traced Unit := ⟨.ok (), [e]⟩

/-- An outcome without events. -/
def ofExcept (x : Except QueryError α) : Traced α := ⟨x, []⟩

instance : Monad Traced where
  pure a := ⟨.ok a, []⟩
  bind x next :=
    match x.outcome with
    | .ok a => ⟨(next a).outcome, x.events ++ (next a).events⟩
    | .error e => ⟨.error e, x.events⟩

@[simp] theorem outcome_pure (a : α) : (pure a : Traced α).outcome = .ok a := rfl

@[simp] theorem events_pure (a : α) : (pure a : Traced α).events = [] := rfl

@[simp] theorem outcome_report (e : Event) : (report e).outcome = .ok () := rfl

@[simp] theorem events_report (e : Event) : (report e).events = [e] := rfl

@[simp] theorem outcome_ofExcept (x : Except QueryError α) : (ofExcept x).outcome = x := rfl

@[simp] theorem events_ofExcept (x : Except QueryError α) : (ofExcept x).events = [] := rfl

theorem outcome_bind_ok {x : Traced α} {a : α} (h : x.outcome = .ok a) (next : α → Traced β) :
    (x >>= next).outcome = (next a).outcome := by
  simp only [bind, h]

theorem events_bind_ok {x : Traced α} {a : α} (h : x.outcome = .ok a) (next : α → Traced β) :
    (x >>= next).events = x.events ++ (next a).events := by
  simp only [bind, h]

theorem bind_error {x : Traced α} {e : QueryError} (h : x.outcome = .error e)
    (next : α → Traced β) : x >>= next = ⟨.error e, x.events⟩ := by
  simp only [bind, h]

end Traced

end GradedQuery
