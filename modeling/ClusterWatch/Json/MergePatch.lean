import ClusterWatch.Json.Basic

/-!
# Merge patches

A merge patch is a JSON value that describes a change of another: a member that
is an object changes the member of that key, `null` removes it, anything else
replaces it, and what the patch does not mention stays.
-/

namespace ClusterWatch.Json

/-- The members with the value at a key replaced, or put at the end. -/
def replaceMember (key : String) (value : Json) : List (String × Json) → List (String × Json)
  | [] => [(key, value)]
  | (k, v) :: rest =>
      if k = key then (key, value) :: rest else (k, v) :: replaceMember key value rest

/-- The members without those of a key. -/
def removeMember (key : String) (members : List (String × Json)) : List (String × Json) :=
  members.filter fun member => member.1 ≠ key

/-- The members of an object; other values have none. -/
def members : Json → List (String × Json)
  | .object members => members
  | _ => []

mutual

/-- The value that a merge patch makes of another. -/
def mergePatch (target : Json) : Json → Json
  | .object changes => .object (mergeMembers target.members changes)
  | patch => patch

/-- The members that the members of a merge patch make of others. -/
def mergeMembers (members : List (String × Json)) : List (String × Json) → List (String × Json)
  | [] => members
  | (key, change) :: rest => mergeMembers (mergeMember members key change) rest

/-- The members that one member of a merge patch makes of others. -/
def mergeMember (members : List (String × Json)) (key : String) : Json → List (String × Json)
  | .null => removeMember key members
  | change => replaceMember key (mergePatch ((members.lookup key).getD .null) change) members

end

end ClusterWatch.Json
