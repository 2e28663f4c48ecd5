import NodeImages.Json.Basic

/-!
# Merge patches

A merge patch describes a change of a value. A patch that is no object takes the place of the value. A patch
that is one changes the members that it names: those under null are removed, and the others are patched in
turn, a member that is missing being patched as if it were an empty object.
-/

namespace NodeImages.Json

/-- The members of a value, of which only an object has any. -/
def membersOf : Json → List (String × Json)
  | .obj members => members
  | _ => []

/-- The members without those of a name. -/
def removeMember (name : String) (members : List (String × Json)) : List (String × Json) :=
  members.filter (·.1 ≠ name)

mutual

/-- The value after a patch. -/
def mergePatch (value : Json) : Json → Json
  | .obj changes => .obj (mergeMembers (membersOf value) changes)
  | patch => patch

/-- The members after the changes of a patch. -/
def mergeMembers (members : List (String × Json)) : List (String × Json) → List (String × Json)
  | [] => members
  | (name, .null) :: rest => mergeMembers (removeMember name members) rest
  | (name, change) :: rest =>
    mergeMembers
      (Dictionary.insertEntry name (mergePatch ((members.lookup name).getD (.obj [])) change)
        members) rest

end

end NodeImages.Json
