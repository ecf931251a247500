import Provision.Timestamp

/-!
Conditions: what is known about a tracked thing under each of several types, and since when. A list of
conditions has one entry per type, and setting a condition that does not change its status keeps the
time at which the status was reached.
-/

namespace Provision

/-- Whether a condition holds. -/
inductive ConditionStatus where
  | holds
  | fails
  | unknown
deriving DecidableEq, Repr

namespace ConditionStatus

def text : ConditionStatus → String
  | holds => "True"
  | fails => "False"
  | unknown => "Unknown"

def all : List ConditionStatus := [holds, fails, unknown]

end ConditionStatus

/-- One condition. -/
structure Condition where
  /-- The type, which names the condition in its list. -/
  type : String
  status : ConditionStatus
  reason : String
  message : String
  /-- When the status last changed. -/
  since : Timestamp
deriving DecidableEq, Repr

namespace Condition

def available : String := "Available"
def progressing : String := "Progressing"
def degraded : String := "Degraded"

/-- The condition of a type. -/
def find? (conditions : List Condition) (type : String) : Option Condition :=
  conditions.find? fun c => c.type == type

/-- The condition `new` in place of `old`: it keeps the time of `old` if the status stays. -/
def succeed (old new : Condition) : Condition :=
  if old.status = new.status then { new with since := old.since } else new

/-- Set a condition: in place of the one of its type, or at the end. -/
def set : List Condition → Condition → List Condition
  | [], new => [new]
  | old :: rest, new =>
    if old.type = new.type then succeed old new :: rest else old :: set rest new

/-- A condition keeps its type when another takes its place. -/
@[simp] theorem type_succeed (old new : Condition) : (succeed old new).type = new.type := by
  simp only [succeed]; split <;> rfl

/-- After a condition is set it is found under its type, as the successor of the one before. -/
theorem find?_set_self (conditions : List Condition) (new : Condition) :
    find? (set conditions new) new.type =
      some (((find? conditions new.type).map fun old => succeed old new).getD new) := by
  induction conditions with
  | nil => simp [find?, set]
  | cons old rest ih =>
    by_cases h : old.type = new.type
    · simp [find?, set, h]
    · simp only [find?] at ih
      simp [find?, set, h, ih]

/-- Setting a condition leaves the other types alone. -/
theorem find?_set_of_ne (conditions : List Condition) (new : Condition) {type : String}
    (h : new.type ≠ type) : find? (set conditions new) type = find? conditions type := by
  induction conditions with
  | nil => simp [find?, set, h]
  | cons old rest ih =>
    simp only [find?] at ih
    by_cases ht : old.type = new.type
    · simp [find?, set, ht, h]
    · by_cases hx : old.type = type
      · have : type ≠ new.type := Ne.symm h
        simp [find?, set, hx, this]
      · simp [find?, set, ht, hx, ih]

end Condition
end Provision
