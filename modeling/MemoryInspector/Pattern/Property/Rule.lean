import MemoryInspector.Pattern.Property.Category

/-!
# Rules for properties

A property of characters is a list of its own, or it follows from general categories and other
properties. A rule is kept as it is written and worked out where a property is asked for.
-/

namespace MemoryInspector.Pattern.Property

inductive Rule where
  | all
  | listed (ranges : String)
  | categories (codes : List String)
  | either (first second : Rule)
  | without (first second : Rule)
deriving Repr

/-- The code points that a rule describes. -/
def Rule.members : Rule → CodePoints
  | all => .all
  | listed ranges => ofList ranges
  | categories codes => ofCategories codes
  | either first second => .union first.members second.members
  | without first second => .difference first.members second.members

end MemoryInspector.Pattern.Property
