import EventHooks.Text.Blank
import EventHooks.Text.Lines
import Mathlib.Data.List.DropRight

/-!
# Lines and the blanks around them

What a cut into pieces and a trimmed text are, described without the functions that make them, and
that there is exactly one of either.
-/
namespace EventHooks.Text

/-! ## Pieces -/

/-- Exactly the pieces of a list that end at each element that ends a piece, and at the end of the
    list. -/
structure IsCut {α : Type} (ends : α → Bool) (xs : List α) (pieces : List (List α)) : Prop where
  whole : pieces.flatten = xs
  inner : ∀ piece ∈ pieces, piece ≠ [] ∧ ∀ x ∈ piece.dropLast, ends x = false
  outer : ∀ piece ∈ pieces.dropLast, ∃ x ∈ piece.getLast?, ends x = true

section Cuts

variable {α : Type} {ends : α → Bool}

theorem cutAfter_eq_nil {xs : List α} : cutAfter ends xs = [] ↔ xs = [] := by
  constructor
  · intro empty
    rw [← flatten_cutAfter ends xs, empty]
    rfl
  · rintro rfl
    rfl

theorem isCut_nil : IsCut ends [] [] :=
  ⟨rfl, by simp, by simp⟩

/-- An element that ends a piece is a piece of its own in front of the others. -/
theorem IsCut.cons_end {x : α} {xs : List α} {pieces : List (List α)} (ended : ends x = true)
    (cut : IsCut ends xs pieces) : IsCut ends (x :: xs) ([x] :: pieces) := by
  refine ⟨by rw [List.flatten_cons, cut.whole]; rfl, ?_, ?_⟩
  · exact List.forall_mem_cons.2 ⟨⟨by simp, by simp⟩, cut.inner⟩
  · cases pieces with
    | nil => simp
    | cons piece pieces =>
      rw [List.dropLast_cons_cons]
      exact List.forall_mem_cons.2 ⟨⟨x, rfl, ended⟩, cut.outer⟩

/-- Any other element goes in front of the first piece. -/
theorem IsCut.cons_inside {x : α} {xs piece : List α} {pieces : List (List α)}
    (inside : ends x = false) (cut : IsCut ends xs (piece :: pieces)) :
    IsCut ends (x :: xs) ((x :: piece) :: pieces) := by
  obtain ⟨⟨nonempty, plain⟩, others⟩ := List.forall_mem_cons.1 cut.inner
  refine ⟨by rw [← cut.whole]; rfl, List.forall_mem_cons.2 ⟨⟨by simp, ?_⟩, others⟩, ?_⟩
  · rw [List.dropLast_cons_of_ne_nil nonempty]
    exact List.forall_mem_cons.2 ⟨inside, plain⟩
  · cases pieces with
    | nil => simp
    | cons next pieces =>
      have outer := cut.outer
      rw [List.dropLast_cons_cons] at outer ⊢
      obtain ⟨⟨last, isLast, ended⟩, later⟩ := List.forall_mem_cons.1 outer
      refine List.forall_mem_cons.2 ⟨⟨last, ?_, ended⟩, later⟩
      rw [List.getLast?_cons_of_ne_nil nonempty]
      exact isLast

theorem isCut_cutAfter (ends : α → Bool) (xs : List α) : IsCut ends xs (cutAfter ends xs) := by
  induction xs with
  | nil => exact isCut_nil
  | cons x rest ih =>
    rw [cutAfter]
    cases ended : ends x with
    | true => exact ih.cons_end ended
    | false =>
      cases pieces : cutAfter ends rest with
      | nil =>
        obtain rfl := cutAfter_eq_nil.1 pieces
        exact ⟨rfl, by simp, by simp⟩
      | cons piece pieces' => exact (pieces ▸ ih).cons_inside ended

theorem IsCut.tail {piece : List α} {pieces : List (List α)} {xs : List α}
    (cut : IsCut ends xs (piece :: pieces)) : IsCut ends pieces.flatten pieces := by
  refine ⟨rfl, (List.forall_mem_cons.1 cut.inner).2, ?_⟩
  cases pieces with
  | nil => simp
  | cons next pieces =>
    have outer := cut.outer
    rw [List.dropLast_cons_cons] at outer
    exact (List.forall_mem_cons.1 outer).2

theorem IsCut.uncons_inside {x y : α} {piece : List α} {pieces : List (List α)} {xs : List α}
    (cut : IsCut ends (x :: xs) ((x :: y :: piece) :: pieces)) :
    ends x = false ∧ IsCut ends xs ((y :: piece) :: pieces) := by
  obtain ⟨⟨-, plain⟩, others⟩ := List.forall_mem_cons.1 cut.inner
  rw [List.dropLast_cons_cons] at plain
  obtain ⟨inside, plain⟩ := List.forall_mem_cons.1 plain
  have outer := cut.outer
  refine ⟨inside, (List.cons.inj cut.whole).2,
    List.forall_mem_cons.2 ⟨⟨by simp, plain⟩, others⟩, ?_⟩
  cases pieces with
  | nil => simp
  | cons next pieces =>
    rw [List.dropLast_cons_cons] at outer ⊢
    obtain ⟨first, later⟩ := List.forall_mem_cons.1 outer
    rw [List.getLast?_cons_cons] at first
    exact List.forall_mem_cons.2 ⟨first, later⟩

/-- There is no other cut. -/
theorem IsCut.eq_cutAfter {xs : List α} {pieces : List (List α)} (cut : IsCut ends xs pieces) :
    pieces = cutAfter ends xs := by
  induction xs generalizing pieces with
  | nil =>
    cases pieces with
    | nil => rfl
    | cons piece pieces =>
      have empty := List.flatten_eq_nil_iff.1 cut.whole piece List.mem_cons_self
      exact absurd empty (cut.inner piece List.mem_cons_self).1
  | cons x rest ih =>
    match pieces with
    | [] => cases cut.whole
    | [] :: pieces => exact absurd rfl (cut.inner [] List.mem_cons_self).1
    | [y] :: pieces =>
      obtain ⟨rfl, whole⟩ := List.cons.inj cut.whole
      have whole : pieces.flatten = rest := whole
      have others := ih (whole ▸ cut.tail)
      cases ended : ends y with
      | true => rw [cutAfter, if_pos ended, others]
      | false =>
        -- A piece that does not end as pieces do is the last one.
        cases pieces with
        | nil =>
          obtain rfl : rest = [] := whole.symm
          simp [cutAfter, ended]
        | cons next pieces =>
          have outer := cut.outer
          rw [List.dropLast_cons_cons] at outer
          obtain ⟨last, isLast, marks⟩ := (List.forall_mem_cons.1 outer).1
          obtain rfl : y = last := by simpa using isLast
          rw [ended] at marks
          cases marks
    | (y :: z :: piece) :: pieces =>
      obtain ⟨rfl, -⟩ := List.cons.inj cut.whole
      obtain ⟨inside, rest⟩ := cut.uncons_inside
      rw [cutAfter, inside, ← ih rest]
      rfl

end Cuts

/-- Exactly the lines of some characters: each one but the last ends in a line feed, and no line
    has one before its end. -/
structure IsLines (chars : List Char) (lines : List String) : Prop where
  whole : (lines.map String.toList).flatten = chars
  inner : ∀ line ∈ lines, line ≠ "" ∧ '\n' ∉ line.toList.dropLast
  outer : ∀ line ∈ lines.dropLast, line.toList.getLast? = some '\n'

theorem isLines_iff_isCut {chars : List Char} {lines : List String} :
    IsLines chars lines ↔ IsCut (· == '\n') chars (lines.map String.toList) := by
  have inner (line : String) : (line ≠ "" ∧ '\n' ∉ line.toList.dropLast) ↔
      (line.toList ≠ [] ∧ ∀ x ∈ line.toList.dropLast, (x == '\n') = false) := by
    rw [Ne, Ne, String.toList_eq_nil_iff]
    refine and_congr_right fun _ => ⟨fun absent x member => ?_, fun plain member => ?_⟩
    · exact beq_false_of_ne fun same => absent (same ▸ member)
    · exact absurd (plain _ member) (by decide)
  have outer (line : String) : line.toList.getLast? = some '\n' ↔
      ∃ x ∈ line.toList.getLast?, (x == '\n') = true := by
    simp
  constructor
  · rintro ⟨whole, lineInner, lineOuter⟩
    refine ⟨whole, List.forall_mem_map.2 fun line member => (inner line).1 (lineInner line member),
      ?_⟩
    rw [← List.map_dropLast]
    exact List.forall_mem_map.2 fun line member => (outer line).1 (lineOuter line member)
  · rintro ⟨whole, pieceInner, pieceOuter⟩
    rw [← List.map_dropLast] at pieceOuter
    exact ⟨whole, fun line member => (inner line).2 (List.forall_mem_map.1 pieceInner line member),
      fun line member => (outer line).2 (List.forall_mem_map.1 pieceOuter line member)⟩

/-- Without carriage returns there are no line endings to turn into line feeds. -/
theorem universalNewlines_of_not_mem {chars : List Char} (absent : '\r' ∉ chars) :
    universalNewlines chars = chars := by
  fun_induction universalNewlines chars with
  | case1 => rfl
  | case2 rest _ => exact absurd List.mem_cons_self absent
  | case3 rest _ _ => exact absurd List.mem_cons_self absent
  | case4 c rest _ _ ih => rw [ih fun member => absent (List.mem_cons_of_mem _ member)]

/-- A text has its lines, and no others. -/
theorem isLines_iff {text : String} {result : List String} :
    IsLines (universalNewlines text.toList) result ↔ result = lines text := by
  rw [isLines_iff_isCut]
  constructor
  · intro cut
    rw [lines, ← cut.eq_cutAfter, List.map_map]
    simp [Function.comp_def]
  · rintro rfl
    have same : (lines text).map String.toList =
        cutAfter (· == '\n') (universalNewlines text.toList) := by
      simp [lines, Function.comp_def]
    rw [same]
    exact isCut_cutAfter _ _

/-! ## Blanks -/

/-- The text between the blanks around another one. -/
structure IsTrimmed (text inner : String) : Prop where
  around : ∃ front back, text.toList = front ++ inner.toList ++ back ∧
    (∀ c ∈ front, isBlank c = true) ∧ ∀ c ∈ back, isBlank c = true
  first : ∀ c ∈ inner.toList.head?, isBlank c = false
  last : ∀ c ∈ inner.toList.getLast?, isBlank c = false

theorem dropWhile_of_head? {blank : Char → Bool} {chars : List Char}
    (first : ∀ c ∈ chars.head?, blank c = false) : chars.dropWhile blank = chars := by
  cases chars with
  | nil => rfl
  | cons c rest => rw [List.dropWhile_cons_of_neg (by simp [first c rfl])]

theorem head?_dropWhile (chars : List Char) :
    ∀ c ∈ (chars.dropWhile isBlank).head?, isBlank c = false := by
  intro c isFirst
  have other := List.head?_dropWhile_not isBlank chars
  rw [Option.mem_def.1 isFirst] at other
  exact other

theorem trimBlanks_of_around {front inner back : List Char}
    (frontBlank : ∀ c ∈ front, isBlank c = true) (backBlank : ∀ c ∈ back, isBlank c = true)
    (first : ∀ c ∈ inner.head?, isBlank c = false)
    (last : ∀ c ∈ inner.getLast?, isBlank c = false) :
    trimBlanks (front ++ inner ++ back) = inner := by
  unfold trimBlanks
  rw [List.append_assoc, List.dropWhile_append_of_pos frontBlank]
  by_cases empty : inner = []
  · rw [empty, List.nil_append, List.dropWhile_eq_nil_iff.2 backBlank]
    rfl
  · have start : ∀ c ∈ (inner ++ back).head?, isBlank c = false := by
      rw [List.head?_append_of_ne_nil _ empty]
      exact first
    have stop : ∀ c ∈ inner.reverse.head?, isBlank c = false := by
      rw [List.head?_reverse]
      exact last
    rw [dropWhile_of_head? start, List.reverse_append, List.dropWhile_append_of_pos,
      dropWhile_of_head? stop, List.reverse_reverse]
    exact fun c member => backBlank c (List.mem_reverse.1 member)

theorem isTrimmed_trim (text : String) : IsTrimmed text (trim text) := by
  have inner : (trim text).toList = (text.toList.dropWhile isBlank).rdropWhile isBlank := by
    rw [trim, String.toList_ofList]
    rfl
  refine ⟨⟨text.toList.takeWhile isBlank, (text.toList.dropWhile isBlank).rtakeWhile isBlank, ?_,
    fun c => List.mem_takeWhile_imp, fun c => List.mem_rtakeWhile_imp⟩, ?_, ?_⟩
  · rw [inner, List.append_assoc, List.rdropWhile_append_rtakeWhile,
      List.takeWhile_append_dropWhile]
  · rw [inner]
    intro c isFirst
    obtain ⟨rest, same⟩ : (text.toList.dropWhile isBlank).rdropWhile isBlank <+:
      text.toList.dropWhile isBlank := List.rdropWhile_prefix isBlank _
    refine head?_dropWhile text.toList c ?_
    rw [← same, List.head?_append, Option.mem_def.1 isFirst]
    rfl
  · rw [inner, List.rdropWhile, List.getLast?_reverse]
    exact head?_dropWhile _

/-- A text has one text between its blanks. -/
theorem isTrimmed_iff {text inner : String} : IsTrimmed text inner ↔ inner = trim text := by
  constructor
  · rintro ⟨⟨front, back, whole, frontBlank, backBlank⟩, first, last⟩
    rw [trim, whole, trimBlanks_of_around frontBlank backBlank first last, String.ofList_toList]
  · rintro rfl
    exact isTrimmed_trim text

end EventHooks.Text
