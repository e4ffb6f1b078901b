/-!
# Given values

An option that is given has a value, or it is given and holds nothing. The second case is kept
apart from an option that is not given at all, as it overrides what was set before.
-/
namespace EventHooks

/-- What is given: a value or nothing. -/
inductive Given (α : Type)
  | value (value : α)
  | nothing
  deriving DecidableEq, Repr

namespace Given

/-- The value, if there is one. -/
def value? {α : Type} : Given α → Option α
  | .value given => some given
  | .nothing => none

/-- The text that is given, unless there is none or it is empty. -/
def filled? : Option (Given String) → Option String
  | some (.value text) => if text.isEmpty then none else some text
  | _ => none

end Given

end EventHooks
