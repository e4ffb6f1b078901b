import EventHooks.Json.Value
import EventHooks.Proofs.DecimalText
import EventHooks.Proofs.Lines
import EventHooks.Text.Quoted

/-!
# Printable text

Quoted texts, numbers and JSON values are shown in printable characters alone, whatever characters
are in the texts that they hold. Printable characters that are not nothing are one line, and no
character among them breaks, hides or turns a part of it (`isOneLine_of_printable`).
-/
namespace EventHooks

namespace Text

/-- All characters are printable. -/
def Printable (chars : List Char) : Prop := ∀ c ∈ chars, isPrintable c = true

instance (chars : List Char) : Decidable (Printable chars) :=
  List.decidableBAll (fun c => isPrintable c = true) chars

/-- The controls, the separators and other blanks but the plain space, the marks that join or turn
text, the non-characters below U+10000, tags and the characters of private use. -/
def disruptiveRanges : List (Nat × Nat) := [
  (0x00, 0x1F), (0x7F, 0xA0), (0xAD, 0xAD), (0x61C, 0x61C), (0x1680, 0x1680), (0x180E, 0x180E),
  (0x2000, 0x200F), (0x2028, 0x202F), (0x205F, 0x206F), (0x3000, 0x3000), (0xE000, 0xF8FF),
  (0xFDD0, 0xFDEF), (0xFEFF, 0xFEFF), (0xFFF9, 0xFFFB), (0xFFFE, 0xFFFF), (0xE0001, 0xE007F),
  (0xF0000, 0x10FFFF)]

/-- Exactly one line: printable characters, of which no one breaks, hides or turns a part of it. -/
structure IsOneLine (text : String) : Prop where
  printable : Printable text.toList
  blank : ∀ c ∈ text.toList, isBlank c = true → c = ' '
  plain : ∀ c ∈ text.toList, ∀ range ∈ disruptiveRanges,
    ¬ (range.1 ≤ c.toNat ∧ c.toNat ≤ range.2)
  single : lines text = [text]

/-! ## Printable characters -/

section Characters

variable {c : Char}

/-- Disruptive characters are among those that are not printable. -/
theorem not_disruptive_of_printable (printable : isPrintable c = true) :
    ∀ range ∈ disruptiveRanges, ¬ (range.1 ≤ c.toNat ∧ c.toNat ≤ range.2) := by
  have covered : ∀ range ∈ disruptiveRanges, range.2 < 0x20 ∨ 0x7F ≤ range.1 ∧
      ∃ gap ∈ unprintableRanges, gap.1 ≤ range.1 ∧ range.2 ≤ gap.2 := by
    decide +kernel
  rintro range member ⟨low, high⟩
  unfold isPrintable at printable
  rcases covered range member with control | ⟨large, gap, isGap, start, stop⟩
  · rw [if_pos (by omega), decide_eq_true_eq] at printable
    omega
  · rw [if_neg (by omega), Bool.not_eq_true', List.any_eq_false] at printable
    refine printable gap isGap ?_
    rw [Bool.and_eq_true, decide_eq_true_eq, decide_eq_true_eq]
    omega

/-- The only blank that is printable is the plain space. -/
theorem eq_space_of_printable (printable : isPrintable c = true) (blank : isBlank c = true) :
    c = ' ' := by
  have covered : ∀ range ∈ blankRanges, range = (0x1C, 0x20) ∨
      ∃ other ∈ disruptiveRanges, other.1 ≤ range.1 ∧ range.2 ≤ other.2 := by
    decide
  have plain := not_disruptive_of_printable printable
  obtain ⟨range, member, inside⟩ := List.any_eq_true.1 blank
  rw [Bool.and_eq_true, decide_eq_true_eq, decide_eq_true_eq] at inside
  rcases covered range member with rfl | ⟨other, isOther, start, stop⟩
  · have control := plain (0x00, 0x1F) (by decide)
    have code : c.toNat = ' '.toNat := by
      have space : ' '.toNat = 0x20 := rfl
      omega
    exact Char.toNat_inj.1 code
  · exact absurd ⟨by omega, by omega⟩ (plain other isOther)

theorem printable_append {front back : List Char} :
    Printable (front ++ back) ↔ Printable front ∧ Printable back :=
  List.forall_mem_append

theorem printable_cons {rest : List Char} :
    Printable (c :: rest) ↔ isPrintable c = true ∧ Printable rest :=
  List.forall_mem_cons

theorem Printable.concat {first second : String} (front : Printable first.toList)
    (back : Printable second.toList) : Printable (first ++ second).toList := by
  rw [String.toList_append]
  exact printable_append.2 ⟨front, back⟩

theorem Printable.subset {chars others : List Char} (printable : Printable chars)
    (within : others ⊆ chars) : Printable others :=
  fun c member => printable c (within member)

theorem printable_replicate (count : Nat) (printable : isPrintable c = true) :
    Printable (List.replicate count c) :=
  fun _ member => List.eq_of_mem_replicate member ▸ printable

end Characters

/-! ## Lines of printable characters -/

/-- Printable characters that are not nothing are one line. -/
theorem isOneLine_of_printable {text : String} (printable : Printable text.toList)
    (nonempty : text.toList ≠ []) : IsOneLine text where
  printable := printable
  blank := fun c member => eq_space_of_printable (printable c member)
  plain := fun c member => not_disruptive_of_printable (printable c member)
  single := by
    have noReturn : '\r' ∉ text.toList := fun member => absurd (printable _ member) (by decide)
    have noFeed : '\n' ∉ text.toList := fun member => absurd (printable _ member) (by decide)
    refine (isLines_iff.1 ?_).symm
    rw [universalNewlines_of_not_mem noReturn]
    refine ⟨by simp, List.forall_mem_singleton.2 ⟨mt String.toList_eq_nil_iff.2 nonempty, ?_⟩,
      by simp⟩
    exact fun member => noFeed (List.dropLast_subset _ member)

/-! ## Quoted text -/

theorem printable_hexDigits (width number : Nat) : Printable (hexDigits width number) := by
  induction width generalizing number with
  | zero => exact List.forall_mem_nil _
  | succ width ih =>
    have all : ∀ value < 16, Printable [hexDigit value] := by decide
    exact printable_append.2 ⟨ih _, all _ (Nat.mod_lt _ (by decide))⟩

theorem printable_quotedChar {mark : Char} (isMark : isPrintable mark = true) (c : Char) :
    Printable (quotedChar mark c) := by
  have escape {letter : Char} {rest : List Char} (isLetter : isPrintable letter = true)
      (digits : Printable rest) : Printable ('\\' :: letter :: rest) :=
    printable_cons.2 ⟨by decide, printable_cons.2 ⟨isLetter, digits⟩⟩
  have none : Printable [] := List.forall_mem_nil _
  unfold quotedChar
  split_ifs with special feed carriage tab plain
  · rcases special with rfl | rfl
    · exact escape isMark none
    · exact escape (by decide) none
  · exact escape (by decide) none
  · exact escape (by decide) none
  · exact escape (by decide) none
  · exact printable_cons.2 ⟨plain, none⟩
  · exact escape (by decide) (printable_hexDigits 2 _)
  · exact escape (by decide) (printable_hexDigits 4 _)
  · exact escape (by decide) (printable_hexDigits 8 _)

/-- A text between quotes is printable, whatever characters it has. -/
theorem printable_quoted (text : String) : Printable (quoted text).toList := by
  have isMark : isPrintable (quoteMark text.toList) = true := by
    rcases quoteMark_cases text.toList with mark | mark
    · rw [mark]
      decide
    · rw [mark]
      decide
  rw [quoted, String.toList_ofList, quotedChars, printable_cons, printable_append, printable_cons]
  refine ⟨isMark, fun c member => ?_, isMark, List.forall_mem_nil _⟩
  obtain ⟨given, -, own⟩ := List.mem_flatMap.1 member
  exact printable_quotedChar isMark given c own

end Text

open Text

/-! ## Numbers -/

theorem printable_toDigits (number : Nat) : Printable (Nat.toDigits 10 number) := by
  intro c member
  obtain ⟨low, high⟩ := IntegerText.mem_toDigits member
  have zero : 0x30 ≤ c.toNat := low
  have nine : c.toNat ≤ 0x39 := high
  exact isPrintable_of_ascii (by omega) (by omega)

theorem printable_toString (number : Nat) : Printable (toString number).toList := by
  rw [Nat.toString_eq_repr, Nat.repr_eq_ofList_toDigits, String.toList_ofList]
  exact printable_toDigits number

theorem IntegerText.printable_render (number : Int) : Printable (render number).toList := by
  cases number with
  | ofNat magnitude =>
    rw [render, String.toList_ofList]
    exact printable_toDigits magnitude
  | negSucc less =>
    rw [render, String.toList_ofList, printable_cons]
    exact ⟨by decide, printable_toDigits _⟩

namespace Binary64

theorem printable_significantDigits (digits : Nat) : Printable (significantDigits digits) := by
  unfold significantDigits
  split
  · decide
  · refine (printable_toDigits digits).subset fun c member => ?_
    have kept := (List.dropWhile_suffix _).subset (List.mem_reverse.1 member)
    exact List.mem_reverse.1 kept

section Layouts

variable {digits : List Char}

theorem printable_positional (printable : Printable digits) (point : Int) :
    Printable (positional digits point) := by
  unfold positional
  split_ifs with small
  · have zeros := printable_replicate (-point).toNat (c := '0') (by decide)
    exact printable_cons.2 ⟨by decide, printable_cons.2 ⟨by decide,
      printable_append.2 ⟨zeros, printable⟩⟩⟩
  · have whole : Printable (digits.take point.toNat) := printable.subset (List.take_subset _ _)
    have zeros := printable_replicate (point.toNat - (digits.take point.toNat).length) (c := '0')
      (by decide)
    have fraction : Printable
        (if (digits.drop point.toNat).isEmpty then ['0'] else digits.drop point.toNat) := by
      split_ifs
      · exact printable_cons.2 ⟨by decide, List.forall_mem_nil _⟩
      · exact printable.subset (List.drop_subset _ _)
    exact printable_append.2 ⟨printable_append.2 ⟨whole, zeros⟩,
      printable_cons.2 ⟨by decide, fraction⟩⟩

theorem printable_scientific (form : Layout) (printable : Printable digits) (exponent : Int) :
    Printable (scientific form digits exponent) := by
  have zeros := printable_replicate
    (form.exponentWidth - (Nat.toDigits 10 exponent.natAbs).length) (c := '0') (by decide)
  have size := printable_toDigits exponent.natAbs
  have fraction : Printable (if (digits.drop 1).isEmpty then [] else '.' :: digits.drop 1) := by
    split_ifs
    · exact List.forall_mem_nil _
    · exact printable_cons.2 ⟨by decide, printable.subset (List.drop_subset _ _)⟩
  have sign : isPrintable (if exponent < 0 then '-' else '+') = true := by
    split_ifs <;> decide
  exact printable_append.2 ⟨printable_append.2 ⟨printable.subset (List.take_subset _ _), fraction⟩,
    printable_cons.2 ⟨by decide, printable_cons.2 ⟨sign, printable_append.2 ⟨zeros, size⟩⟩⟩⟩

end Layouts

theorem printable_renderMagnitude (form : Layout) (significand : Nat) (exponent : Int) :
    Printable (renderMagnitude form significand exponent) := by
  unfold renderMagnitude
  dsimp only
  split_ifs
  · exact printable_positional (by decide) 1
  · exact printable_positional (printable_significantDigits _) _
  · exact printable_scientific form (printable_significantDigits _) _

theorem printable_render (double : Binary64) : Printable double.render.toList := by
  cases double with
  | nan => decide
  | infinite negative => cases negative <;> decide
  | finite negative significand exponent =>
    rw [render, String.toList_ofList, printable_append]
    refine ⟨?_, printable_renderMagnitude _ _ _⟩
    split_ifs <;> decide

end Binary64

/-! ## JSON values -/

namespace Json

theorem printable_intercalate {parts : List String}
    (printable : ∀ part ∈ parts, Printable part.toList) :
    Printable (", ".intercalate parts).toList := by
  rw [String.toList_intercalate]
  induction parts with
  | nil => exact List.forall_mem_nil _
  | cons part rest ih =>
    obtain ⟨first, later⟩ := List.forall_mem_cons.1 printable
    cases rest with
    | nil => simpa using first
    | cons next rest =>
      rw [List.map_cons, List.map_cons, List.intercalate_cons_cons, ← List.map_cons,
        printable_append, printable_append]
      exact ⟨⟨first, by decide⟩, ih later⟩

mutual

/-- A value is shown in printable characters, whatever texts it holds. -/
theorem printable_shown : ∀ value : Json, Printable value.shown.toList
  | .null => by rw [shown]; decide
  | .bool value => by
    rw [shown]
    cases value <;> decide
  | .integer value => by
    rw [shown]
    exact IntegerText.printable_render value
  | .float value => by
    rw [shown]
    exact value.printable_render
  | .text value => by
    rw [shown]
    exact printable_quoted value
  | .array items => by
    rw [shown]
    exact .concat (.concat (by decide) (printable_intercalate (printable_shownItems items)))
      (by decide)
  | .object members => by
    rw [shown]
    exact .concat (.concat (by decide) (printable_intercalate (printable_shownMembers members)))
      (by decide)

theorem printable_shownItems :
    ∀ items : List Json, ∀ part ∈ shownItems items, Printable part.toList
  | [] => by simp [shownItems]
  | item :: items => by
    rw [shownItems]
    exact List.forall_mem_cons.2 ⟨printable_shown item, printable_shownItems items⟩

theorem printable_shownMembers :
    ∀ members : List (String × Json), ∀ part ∈ shownMembers members, Printable part.toList
  | [] => by simp [shownMembers]
  | (name, value) :: members => by
    rw [shownMembers]
    refine List.forall_mem_cons.2 ⟨?_, printable_shownMembers members⟩
    exact .concat (.concat (printable_quoted name) (by decide)) (printable_shown value)

end

end Json

end EventHooks
