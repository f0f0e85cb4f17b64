/-
Module: ReplicaBridge.Fault
Purpose: Why an operation unwound instead of answering, and the two ways of not answering:
  to be refused for a reason, and to unwind.
Main exports: Fault, Halt, Fault.ofRange?, Fault.ofSize?
-/

namespace ReplicaBridge

/-- Why an operation unwound. -/
inductive Fault where
  /-- A listener unwound. -/
  | listenerFailed
  /-- More room was asked for than an allocation can have. -/
  | noRoom
  /-- A range starts past the last byte. -/
  | startPastEnd (start length : Nat)
  /-- A range stops past the last byte. -/
  | stopPastEnd (stop length : Nat)
  /-- A range stops before it starts. -/
  | backwards (start stop : Nat)
deriving Repr, Inhabited, DecidableEq

namespace Fault

def text : Fault → String
  | .listenerFailed => "listener failed"
  | .noRoom => "capacity overflow"
  | .startPastEnd start length =>
    s!"range start index {start} out of range for slice of length {length}"
  | .stopPastEnd stop length =>
    s!"range end index {stop} out of range for slice of length {length}"
  | .backwards start stop => s!"slice index starts at {start} but ends at {stop}"

/-- What is wrong with the range from `start` up to `stop` of so many bytes, if anything:
the start is looked at first. -/
def ofRange? (start stop length : Nat) : Option Fault :=
  if length < start then some (.startPastEnd start length)
  else if length < stop then some (.stopPastEnd stop length)
  else if stop < start then some (.backwards start stop)
  else none

/-- The bytes that an allocation can have at most. -/
def maxRoom : Nat := (1 <<< 63) - 1

/-- What is wrong with an allocation of so many bytes, if anything. -/
def ofSize? (size : Nat) : Option Fault :=
  if maxRoom < size then some .noRoom else none

/-- A sound range lies within the bytes, and it is the only kind that raises no fault. -/
theorem ofRange?_eq_none_iff {start stop length : Nat} :
    ofRange? start stop length = none ↔ start ≤ stop ∧ stop ≤ length := by
  unfold ofRange?
  split
  · simp; omega
  · split
    · simp; omega
    · split <;> simp <;> omega

end Fault

/-- Why an operation did not answer. -/
inductive Halt (ε : Type) where
  | refused (error : ε)
  | unwound (fault : Fault)
deriving Repr, Inhabited, DecidableEq

namespace Halt

variable {ε δ : Type}

/-- Tell the reason of a refusal in other terms. -/
def map (change : ε → δ) : Halt ε → Halt δ
  | .refused error => .refused (change error)
  | .unwound fault => .unwound fault

end Halt

end ReplicaBridge
