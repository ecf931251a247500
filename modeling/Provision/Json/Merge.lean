import Provision.Json.Basic

/-!
Merging a patch into a JSON value: members of the patch are merged in one by one, null takes a member
away, and anything that is not an object takes the place of the target as it is.
-/

namespace Provision.Json

mutual

/-- The target after a patch. -/
def merge : Json → Json → Json
  | object target, object patch => object (mergeFields target patch)
  | _, patch => patch

/-- The members of an object after the members of a patch. -/
def mergeFields (target : List (String × Json)) : List (String × Json) → List (String × Json)
  | [] => target
  | (key, value) :: rest =>
    match value with
    | null => mergeFields (Keyed.erase target key) rest
    | value =>
      mergeFields (Keyed.insert target key (merge ((Keyed.get? target key).getD null) value)) rest

end

/-- A member that is null in the patch is gone. -/
example : merge (object [("a", null), ("b", bool true)]) (object [("b", null)]) = object [("a", null)] := by
  simp [merge, mergeFields, Keyed.erase]

end Provision.Json
