/-
What a set asks of its items. `Typed` names the type of an item and says which type tags it satisfies, `Identical`
says when two items are the very same, `Presented` gives an item as text and as a dump. A value is identical to an
equal value; a handle is identical to what stands at the same place.
-/
import Lexicon.Text.Dump

namespace Lexicon

/-- items with a type known at run time; an item may satisfy the tags of several types -/
class Typed (α : Type) where
  typeName : α → String
  isA : α → String → Bool

/-- items of which it is known whether two are the very same -/
class Identical (α : Type) where
  isIdentical : α → α → Bool

/-- items that can be shown -/
class Presented (α : Type) where
  display : α → String
  dump : α → Dump

export Typed (typeName isA)
export Identical (isIdentical)
export Presented (display)

end Lexicon
