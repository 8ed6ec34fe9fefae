/-!
Cutting a text at a separator.
-/

namespace Typewright.Text

/-- The pieces between the separators; one more piece than there are separators. -/
def splitAt (separator : Char) : List Char → List (List Char)
  | [] => [[]]
  | c :: rest =>
    if c == separator then [] :: splitAt separator rest
    else
      match splitAt separator rest with
      | [] => [[c]]
      | piece :: more => (c :: piece) :: more

theorem splitAt_ne_nil (separator : Char) (cs : List Char) : splitAt separator cs ≠ [] := by
  induction cs with
  | nil => simp [splitAt]
  | cons c rest _ =>
    unfold splitAt
    split
    · simp
    · split <;> simp

/-- The pieces of a path: those between slashes that are neither empty nor a single point. -/
def pathParts (s : String) : List String :=
  ((splitAt '/' s.toList).filter fun p => !p.isEmpty && p != ['.']).map String.ofList

end Typewright.Text
