import UiStream.Json.Basic

/-!
# How deep a value is

`Json.height` counts how many containers a value nests.  A value inside another is less high,
which bounds whatever walks down a document.
-/

namespace UiStream.Json

mutual

/-- The number of containers on the longest way down, an empty container counting too. -/
def height : Json → Nat
  | .array items => heightItems items + 1
  | .object members => heightMembers members + 1
  | _ => 0

/-- The largest height of some items. -/
def heightItems : List Json → Nat
  | [] => 0
  | v :: rest => max (height v) (heightItems rest)

/-- The largest height of some members. -/
def heightMembers : List (String × Json) → Nat
  | [] => 0
  | (_, v) :: rest => max (height v) (heightMembers rest)
end

/-- A member is not higher than all members together. -/
theorem height_find?_le {key : String} {v : Json} :
    ∀ {members : Members}, Members.find? key members = some v → v.height ≤ heightMembers members
  | [], h => by simp [Members.find?] at h
  | (k, w) :: rest, h => by
    by_cases hk : k = key
    · simp only [Members.find?, hk, if_true, Option.some.injEq] at h
      simp only [heightMembers, h]
      omega
    · simp [Members.find?, hk] at h
      have := height_find?_le h
      simp [heightMembers]; omega

end UiStream.Json
