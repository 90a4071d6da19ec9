import Mathlib.Data.List.Basic

/-!
# A queue that may be emptied

A log tells what was put into a queue, what was taken from it and when it was emptied. Since it was
emptied last, what was put in is what was taken, followed by what the queue holds.
-/

namespace ResetQueue

set_option autoImplicit false

universe u w
variable {α : Type u} {ω : Type w}

inductive Event (α : Type u) where
  | put (xs : List α)
  | take (xs : List α)
  | clear
  deriving DecidableEq, Repr

def Event.addPut (xs : List α) : Event α → List α
  | .put ys => xs ++ ys
  | .take _ => xs
  | .clear => []

def Event.addTaken (xs : List α) : Event α → List α
  | .put _ => xs
  | .take ys => xs ++ ys
  | .clear => []

/-- What was put in since the last `clear`. -/
def putIn (log : List (Event α)) : List α := log.foldl Event.addPut []

/-- What was taken since the last `clear`. -/
def takenOut (log : List (Event α)) : List α := log.foldl Event.addTaken []

def Conserved (log : List (Event α)) (queue : List α) : Prop := putIn log = takenOut log ++ queue

@[simp] theorem putIn_append_one (log : List (Event α)) (e : Event α) :
    putIn (log ++ [e]) = e.addPut (putIn log) := by
  simp [putIn]

@[simp] theorem takenOut_append_one (log : List (Event α)) (e : Event α) :
    takenOut (log ++ [e]) = e.addTaken (takenOut log) := by
  simp [takenOut]

theorem conserved_nil : Conserved ([] : List (Event α)) [] := rfl

variable {log : List (Event α)} {queue : List α}

theorem Conserved.put (h : Conserved log queue) (xs : List α) :
    Conserved (log ++ [.put xs]) (queue ++ xs) := by
  unfold Conserved at h ⊢
  rw [putIn_append_one, takenOut_append_one, Event.addPut, Event.addTaken, h, List.append_assoc]

theorem Conserved.take (h : Conserved log queue) (n : Nat) :
    Conserved (log ++ [.take (queue.take n)]) (queue.drop n) := by
  unfold Conserved at h ⊢
  rw [putIn_append_one, takenOut_append_one, Event.addPut, Event.addTaken, h, List.append_assoc,
    List.take_append_drop]

theorem conserved_clear (log : List (Event α)) : Conserved (log ++ [.clear]) [] := by
  unfold Conserved
  rw [putIn_append_one, takenOut_append_one]
  rfl

end ResetQueue
