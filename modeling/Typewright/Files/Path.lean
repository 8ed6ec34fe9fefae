import Typewright.Text.Case
import Typewright.Text.Split

/-!
Paths of files, kept in normal form: empty parts and single points are dropped, `..` stays, since where it leads is known
only in a tree. The normal form is what messages name (`Path.text`).

The suffix decides whether a file is taken for JSON. A name that starts with its only point has none, and neither has one
that ends in a point (`Path.suffix`); case does not matter, by the lower case of all characters (`Path.isJson`).
-/

namespace Typewright.Files

structure Path where
  rooted : Bool
  parts : List String
  deriving DecidableEq

def Path.ofString (s : String) : Path := ⟨s.toList.head? == some '/', Text.pathParts s⟩

/-- The path in writing; the empty one is a single point. -/
def Path.text (p : Path) : String :=
  if p.rooted then "/" ++ String.intercalate "/" p.parts
  else if p.parts.isEmpty then "."
  else String.intercalate "/" p.parts

def Path.name (p : Path) : String := p.parts.getLastD ""

/-- The last point of a name and what follows it, unless the point stands first or last. -/
def Path.suffix (p : Path) : String :=
  let name := p.name.toList
  let ending := name.reverse.takeWhile (· != '.')
  if ending.length + 1 < name.length && !ending.isEmpty then String.ofList ('.' :: ending.reverse) else ""

/-- The suffix is `.json`, in any case. -/
def Path.isJson (p : Path) : Bool := Text.lower p.suffix == ".json"

end Typewright.Files
