import K2soHead.Library.Logs
import Mathlib.Data.List.Induction

/-!
# Mailboxes that keep the latest message

One box per key.  `post` overwrites what the box holds, `clear` empties it, and `collect`
empties it and reports what it found.  A log of these is honest if every collection found
what the log before it says was there; then no message is collected twice, and none out of
order.
-/

namespace K2soHead

/-- One thing that happens to a box. -/
inductive Mail (κ α : Type*) where
  | post (k : κ) (a : α)
  | clear (k : κ)
  | collect (k : κ) (out : Option α)

namespace Mail

variable {κ α : Type*} [DecidableEq κ]

/-- What one event leaves in box `k`. -/
def effect (k : κ) (box : Option α) : Mail κ α → Option α
  | .post j a => if j = k then some a else box
  | .clear j => if j = k then none else box
  | .collect j _ => if j = k then none else box

/-- What a log leaves in box `k`. -/
def box (k : κ) (log : List (Mail κ α)) : Option α := log.foldl (effect k) none

/-- What was found in box `k`. -/
def found (k : κ) : Mail κ α → Option α
  | .collect j out => if j = k then out else none
  | _ => none

/-- A collection finds what is there. -/
def Allowed (log : List (Mail κ α)) : Mail κ α → Prop
  | .collect k out => out = box k log
  | _ => True

/-- Every collection found what was there. -/
def Honest (log : List (Mail κ α)) : Prop := Logs.Justified Allowed log

theorem honest_concat (log : List (Mail κ α)) (m : Mail κ α) :
    Honest (log ++ [m]) ↔ Honest log ∧ Allowed log m :=
  Logs.justified_concat _ _ _

@[simp] theorem box_concat (k : κ) (log : List (Mail κ α)) (m : Mail κ α) :
    box k (log ++ [m]) = effect k (box k log) m := by
  simp [box, List.foldl_append]

end Mail

end K2soHead
