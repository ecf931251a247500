/-!
The pipeline stages by the names under which conditions report them.
-/

namespace Provision

/-- The stage that a condition or a failure refers to. -/
inductive Reason where
  | featureCreated
  | preConditions
  | loadTemplateData
  | resourceCreation
  | applyManifests
  | postConditions
deriving DecidableEq, Repr

namespace Reason

def text : Reason → String
  | featureCreated => "FeatureCreated"
  | preConditions => "PreConditions"
  | loadTemplateData => "LoadTemplateData"
  | resourceCreation => "ResourceCreation"
  | applyManifests => "ApplyManifests"
  | postConditions => "PostConditions"

def all : List Reason :=
  [featureCreated, preConditions, loadTemplateData, resourceCreation, applyManifests, postConditions]

/-- The reason with a given name. -/
def ofText? (s : String) : Option Reason := all.find? fun r => r.text == s

theorem ofText?_text (r : Reason) : ofText? r.text = some r := by
  cases r <;> decide

end Reason
end Provision
