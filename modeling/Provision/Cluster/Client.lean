import Provision.Object.Basic
import Provision.Tracker.Basic

/-!
What the engine asks of a cluster. Everything goes through these operations, so that a cluster kept in
memory can stand in for a real one.
-/

namespace Provision

/-- Access to a cluster from computations in `m`. -/
structure Client (m : Type → Type) where
  /-- The object with a key, if there is one. -/
  get : ResourceType → ObjectKey → ExceptT Failure m (Option Object)
  /-- Create an object that does not exist. -/
  create : ResourceType → Object → ExceptT Failure m Object
  /-- Put an object in place of the one with its key. -/
  replace : ResourceType → Object → ExceptT Failure m Object
  /-- Merge a patch into an existing object. -/
  mergePatch : ResourceType → ObjectKey → Json → ExceptT Failure m Object
  /-- Delete an object; it need not exist. -/
  delete : ResourceType → ObjectKey → ExceptT Failure m Unit
  /-- The objects of a type, of one namespace or all, that a label selector picks. -/
  list : ResourceType → Option String → Option String → ExceptT Failure m (List Object)
  /-- The tracker with a name, if there is one. -/
  getTracker : String → ExceptT Failure m (Option Tracker)
  createTracker : Tracker → ExceptT Failure m Tracker
  /-- Write the status of a tracker that has not changed since it was read. -/
  replaceTrackerStatus : Tracker → ExceptT Failure m Tracker
  /-- Delete a tracker; it need not exist. -/
  deleteTracker : String → ExceptT Failure m Unit

end Provision
