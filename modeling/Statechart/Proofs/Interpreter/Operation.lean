import Statechart.Interpreter
/-!
Calls on an interpreter, in any order and whether they succeed or not. A run is a list of calls, each
made on the interpreter that the one before has left. Main statement: what every call keeps is kept
by a run.
-/

namespace Statechart

/-- A call on an interpreter. -/
inductive Operation (C : Type)
  | withDefaultContext (context : C)
  | register (observer : Observer C)
  | unregister (id : Nat)
  | start (context : Option C)
  | startAt (path : String) (context : Option C)
  | send (event : Event)
  | stop

namespace Interpreter

variable {C : Type}

/-- The interpreter after a call. -/
def perform (i : Interpreter C) : Operation C → Interpreter C
  | .withDefaultContext context => i.withDefaultContext context
  | .register observer => (i.register observer).1
  | .unregister id => (i.unregister id).1
  | .start context => (i.start context).interpreter
  | .startAt path context => (i.startAt path context).interpreter
  | .send event => (i.send event).interpreter
  | .stop => i.stop.interpreter

/-- The interpreter after some calls, one after the other. -/
def performAll (i : Interpreter C) (ops : List (Operation C)) : Interpreter C := ops.foldl perform i

/-- What holds before some calls and is kept by every call holds afterwards. -/
theorem performAll_induction {P : Interpreter C → Prop} {i : Interpreter C}
    (hstep : ∀ i op, P i → P (i.perform op)) (h : P i) (ops : List (Operation C)) :
    P (i.performAll ops) := by
  induction ops generalizing i with
  | nil => exact h
  | cons op rest ih => exact ih (hstep i op h)

/-- The calls of a run, each with the interpreter on which it is made. -/
def history (i : Interpreter C) : List (Operation C) → List (Interpreter C × Operation C)
  | [] => []
  | op :: rest => (i, op) :: history (i.perform op) rest

end Interpreter

end Statechart
