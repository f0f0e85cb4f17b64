/-
Module: ReplicaBridge.Thread
Purpose: Who calls: host calls and state changes belong to the session's game thread.
Main exports: Thread, Caller, Thread.callerFor
-/

namespace ReplicaBridge

/-- The identity of a thread. -/
structure Thread where
  number : Nat
deriving Repr, Inhabited, DecidableEq

/-- Whether an operation is called on the session's game thread. -/
inductive Caller where
  | gameThread
  | elsewhere
deriving Repr, Inhabited, DecidableEq

/-- How a thread calls a session that belongs to the given game thread. -/
def Thread.callerFor (thread gameThread : Thread) : Caller :=
  if thread = gameThread then .gameThread else .elsewhere

end ReplicaBridge
