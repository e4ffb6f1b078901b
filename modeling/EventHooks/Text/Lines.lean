/-!
# Lines of a text stream

A stream is read with every carriage return, alone or before a line feed, turned into a line feed,
and is cut after each line feed. No other character ends a line.
-/
namespace EventHooks.Text

/-- Characters with every line ending written as a line feed. -/
def universalNewlines : List Char → List Char
  | [] => []
  | '\r' :: '\n' :: rest => '\n' :: universalNewlines rest
  | '\r' :: rest => '\n' :: universalNewlines rest
  | c :: rest => c :: universalNewlines rest

/-- The pieces of a list, cut after every element that ends a piece. -/
def cutAfter {α : Type} (ends : α → Bool) : List α → List (List α)
  | [] => []
  | x :: rest =>
    if ends x then [x] :: cutAfter ends rest
    else
      match cutAfter ends rest with
      | [] => [[x]]
      | piece :: pieces => (x :: piece) :: pieces

/-- The lines of a text, each with its line feed. -/
def lines (text : String) : List String :=
  (cutAfter (· == '\n') (universalNewlines text.toList)).map String.ofList

/-- Cutting loses nothing. -/
theorem flatten_cutAfter {α : Type} (ends : α → Bool) (xs : List α) :
    (cutAfter ends xs).flatten = xs := by
  induction xs with
  | nil => rfl
  | cons x rest ih =>
    simp only [cutAfter]
    split
    · simp [ih]
    · split <;> simp_all

end EventHooks.Text
