import EventHooks.Json.Reader
import Mathlib.Order.Nat

/-!
# The fuel of the reader

What is read off some characters leaves less of them. So the steps that may nest are no more than
two for each character and one, and the reader never runs out of its fuel: with any more of it, a
document reads the same, be it a value or a fault (`readDocumentWith_eq`).
-/
namespace EventHooks.Json

variable {α : Type}

/-- Where a step succeeds, less is left than it was given. -/
def Shortens (chars : List Char) (step : Step α) : Prop :=
  ∀ value rest, step = .ok (value, rest) → rest.length < chars.length

theorem length_skipSpace_le (chars : List Char) : (skipSpace chars).length ≤ chars.length :=
  (List.dropWhile_sublist isSpace).length_le

/-! ## Texts -/

theorem shortens_readCode (chars : List Char) : Shortens chars (readCode chars) := by
  intro code rest read
  unfold readCode at read
  split at read
  · split at read
    · cases read
      simp only [List.length_cons]
      omega
    · cases read
  · cases read

theorem shortens_readUnicodeEscape (chars : List Char) :
    Shortens chars (readUnicodeEscape chars) := by
  intro character rest read
  unfold readUnicodeEscape at read
  split at read
  · cases read
  · rename_i code after first
    have less := shortens_readCode chars _ _ first
    split_ifs at read with high
    · split at read
      · split at read
        · cases read
        · rename_i low later second
          have lessAgain := shortens_readCode _ _ _ second
          split_ifs at read <;> obtain ⟨-, rfl⟩ := Prod.mk.inj (Except.ok.inj read)
          · simp only [List.length_cons] at less lessAgain
            omega
          · exact less
      · obtain ⟨-, rfl⟩ := Prod.mk.inj (Except.ok.inj read)
        exact less
    · obtain ⟨-, rfl⟩ := Prod.mk.inj (Except.ok.inj read)
      exact less

theorem shortens_error (chars : List Char) (stop : Stop) :
    Shortens chars (.error stop : Step α) :=
  fun _ _ read => nomatch read

theorem shortens_ok {chars rest : List Char} {value : α} (less : rest.length < chars.length) :
    Shortens chars (.ok (value, rest)) := by
  rintro _ _ ⟨⟩
  exact less

/-- A character either ends the text, whatever fuel is left, or is the start of one that is taken
over with one unit of fuel. -/
theorem readChars_cases (start : Nat) (read : List Char) (c : Char) (rest : List Char) :
    (∃ step, Shortens (c :: rest) step ∧
      ∀ fuel, readChars start (fuel + 1) read (c :: rest) = step) ∨
    ∃ character later, later.length ≤ rest.length ∧
      ∀ fuel, readChars start (fuel + 1) read (c :: rest) =
        readChars start fuel (character :: read) later := by
  by_cases quote : c = '"'
  · subst quote
    exact .inl ⟨_, shortens_ok (Nat.lt_succ_self _), fun fuel => by simp [readChars]; rfl⟩
  by_cases escaped : c = '\\'
  · subst escaped
    cases rest with
    | nil => exact .inl ⟨_, shortens_error _ _, fun fuel => by simp [readChars]; rfl⟩
    | cons letter rest =>
      by_cases unicode : letter = 'u'
      · subst unicode
        cases code : readUnicodeEscape rest with
        | error stop =>
          exact .inl ⟨_, shortens_error _ stop, fun fuel => by simp [readChars, code]⟩
        | ok result =>
          obtain ⟨character, later⟩ := result
          have less := shortens_readUnicodeEscape rest _ _ code
          refine .inr ⟨character, later, ?_, fun fuel => by simp [readChars, code]⟩
          rw [List.length_cons]
          omega
      · cases simple : simpleEscape? letter with
        | none =>
          exact .inl ⟨_, shortens_error _ _, fun fuel => by simp [readChars, unicode, simple]; rfl⟩
        | some character =>
          refine .inr ⟨character, rest, ?_, fun fuel => by simp [readChars, unicode, simple]⟩
          exact Nat.le_succ _
  by_cases control : c.toNat < 0x20
  · exact .inl ⟨_, shortens_error _ _,
      fun fuel => by simp [readChars, quote, escaped, control]; rfl⟩
  · exact .inr ⟨c, rest, Nat.le_refl _, fun fuel => by simp [readChars, quote, escaped, control]⟩

theorem shortens_readChars (start fuel : Nat) (read chars : List Char) :
    Shortens chars (readChars start fuel read chars) := by
  induction fuel generalizing read chars with
  | zero => exact shortens_error chars _
  | succ fuel ih =>
    cases chars with
    | nil => exact shortens_error [] _
    | cons c rest =>
      rcases readChars_cases start read c rest with
        ⟨step, shortens, same⟩ | ⟨character, later, less, same⟩
      · exact same fuel ▸ shortens
      · intro value after given
        rw [same] at given
        exact (ih _ _ _ _ given).trans_le (less.trans (Nat.le_succ _))

/-- With a unit for each character and one more, more fuel reads the same. -/
theorem readChars_of_enough {start fuel more : Nat} {read chars : List Char}
    (enough : chars.length < fuel) (atLeast : fuel ≤ more) :
    readChars start more read chars = readChars start fuel read chars := by
  induction fuel generalizing read chars more with
  | zero => cases enough
  | succ fuel ih =>
    obtain ⟨more, rfl⟩ : ∃ less, more = less + 1 := ⟨more - 1, by omega⟩
    cases chars with
    | nil => rfl
    | cons c rest =>
      rcases readChars_cases start read c rest with
        ⟨step, -, same⟩ | ⟨character, later, less, same⟩
      · rw [same, same]
      · rw [same, same]
        rw [List.length_cons] at enough
        exact ih (by omega) (by omega)

/-- A text is read with fuel for each of its characters, and never runs out of it. -/
theorem readText_eq {fuel : Nat} {chars : List Char} (enough : chars.length < fuel) :
    readChars (chars.length + 1) fuel [] chars = readText chars :=
  readChars_of_enough (Nat.lt_succ_self _) enough

/-! ## Numbers and words -/

theorem length_dropWhile_lt {chars digits : List Char} {inside : Char → Bool}
    (some : chars.takeWhile inside = digits) (nonempty : digits ≠ []) :
    (chars.dropWhile inside).length < chars.length := by
  have whole := congrArg List.length (List.takeWhile_append_dropWhile (p := inside) (l := chars))
  have positive := List.length_pos_iff.2 nonempty
  rw [List.length_append, some] at whole
  omega

theorem length_readFraction_le (chars : List Char) :
    (readFraction chars).2.length ≤ chars.length := by
  unfold readFraction
  split
  · split
    · exact Nat.le_refl _
    · exact (List.dropWhile_sublist _).length_le.trans (Nat.le_succ _)
  · exact Nat.le_refl _

theorem length_scanSign_le (chars : List Char) :
    (IntegerText.scanSign chars).2.length ≤ chars.length := by
  unfold IntegerText.scanSign
  split
  · exact Nat.le_succ _
  · exact Nat.le_succ _
  · exact Nat.le_refl _

theorem length_readExponent_le (chars : List Char) :
    (readExponent chars).2.length ≤ chars.length := by
  unfold readExponent
  split
  · rename_i c rest
    split
    · have body := length_scanSign_le rest
      dsimp only
      split
      · exact Nat.le_refl _
      · exact ((List.dropWhile_sublist _).length_le.trans body).trans (Nat.le_succ _)
    · exact Nat.le_refl _
  · exact Nat.le_refl _

theorem length_readWhole_lt {chars whole rest : List Char}
    (read : readWhole chars = some (whole, rest)) : rest.length < chars.length := by
  unfold readWhole at read
  split at read
  · cases read
    exact Nat.lt_succ_self _
  · split at read
    · cases read
    · rename_i digits nonempty
      cases read
      exact length_dropWhile_lt rfl nonempty

theorem shortens_readNumber (start chars : List Char) (negative : Bool) :
    Shortens chars (readNumber start negative chars) := by
  unfold readNumber
  cases whole : readWhole chars with
  | none => exact shortens_error chars _
  | some result =>
    obtain ⟨digits, rest⟩ := result
    have less := length_readWhole_lt whole
    have fraction := length_readFraction_le rest
    have exponent := length_readExponent_le (readFraction rest).2
    dsimp only
    split_ifs
    · exact shortens_error chars _
    · exact shortens_ok (by omega)
    · exact shortens_ok (by omega)

theorem length_after?_lt {word : String} {chars rest : List Char} (some : 0 < word.length)
    (stands : after? word chars = .some rest) : rest.length < chars.length := by
  unfold after? at stands
  split_ifs at stands with isPrefix
  cases stands
  have within := (List.isPrefixOf_iff_prefix.1 isPrefix).length_le
  rw [String.length_toList] at within
  rw [List.length_drop]
  omega

theorem shortens_readText (chars : List Char) : Shortens chars (readText chars) :=
  shortens_readChars _ _ _ _

theorem shortens_readScalar (chars : List Char) : Shortens chars (readScalar chars) := by
  unfold readScalar
  split
  · rename_i rest
    have text := shortens_readText rest
    intro value after read
    cases inside : readText rest with
    | error stop =>
      rw [inside] at read
      cases read
    | ok result =>
      rw [inside] at read
      cases read
      exact (text _ _ inside).trans (Nat.lt_succ_self _)
  · split
    · exact shortens_ok (length_after?_lt (by decide) ‹after? "null" chars = some _›)
    · exact shortens_ok (length_after?_lt (by decide) ‹after? "true" chars = some _›)
    · exact shortens_ok (length_after?_lt (by decide) ‹after? "false" chars = some _›)
    · split
      · exact shortens_ok (length_after?_lt (by decide) ‹after? "NaN" chars = some _›)
      · exact shortens_ok (length_after?_lt (by decide) ‹after? "Infinity" chars = some _›)
      · exact shortens_ok (length_after?_lt (by decide) ‹after? "-Infinity" chars = some _›)
      · split
        · intro value after read
          exact (shortens_readNumber _ _ _ _ _ read).trans (Nat.lt_succ_self _)
        · exact shortens_readNumber _ _ _

theorem shortens_readName (chars : List Char) : Shortens chars (readName chars) := by
  unfold readName
  split
  · rename_i rest
    cases inside : readText rest with
    | error stop => exact shortens_error _ stop
    | ok result =>
      obtain ⟨name, after⟩ := result
      have less := shortens_readText rest _ _ inside
      have space := length_skipSpace_le after
      dsimp only
      split
      · rename_i more colon
        have spaceAfter := length_skipSpace_le more
        rw [colon, List.length_cons] at space
        refine shortens_ok ?_
        rw [List.length_cons]
        omega
      · exact shortens_error _ _
  · exact shortens_error _ _

/-! ## Values -/

/-- A value without parts is read whatever fuel is left; otherwise one unit of fuel is taken and the
items or members inside the bracket are read. -/
theorem readValue_cases (chars : List Char) :
    (∃ step, Shortens chars step ∧ ∀ fuel, readValue (fuel + 1) chars = step) ∨
    (∃ later, later.length < chars.length ∧
      ∀ fuel, readValue (fuel + 1) chars = readItems fuel [] later) ∨
    ∃ later, later.length < chars.length ∧
      ∀ fuel, readValue (fuel + 1) chars = readMembers fuel [] later := by
  by_cases array : ∃ rest, chars = '[' :: rest
  · obtain ⟨rest, rfl⟩ := array
    have space := length_skipSpace_le rest
    by_cases closed : ∃ after, skipSpace rest = ']' :: after
    · obtain ⟨after, closed⟩ := closed
      rw [closed] at space
      refine .inl ⟨.ok (.array [], after), shortens_ok ?_, fun fuel => by simp [readValue, closed]⟩
      simp only [List.length_cons] at space ⊢
      omega
    · refine .inr (.inl ⟨skipSpace rest, Nat.lt_succ_of_le space, fun fuel => ?_⟩)
      rw [readValue]
      split
      · exact absurd ⟨_, ‹_›⟩ closed
      · rfl
  by_cases object : ∃ rest, chars = '\x7b' :: rest
  · obtain ⟨rest, rfl⟩ := object
    have space := length_skipSpace_le rest
    by_cases closed : ∃ after, skipSpace rest = '\x7d' :: after
    · obtain ⟨after, closed⟩ := closed
      rw [closed] at space
      refine .inl ⟨.ok (.object [], after), shortens_ok ?_, fun fuel => by simp [readValue, closed]⟩
      simp only [List.length_cons] at space ⊢
      omega
    · refine .inr (.inr ⟨skipSpace rest, Nat.lt_succ_of_le space, fun fuel => ?_⟩)
      rw [readValue]
      split
      · exact absurd ⟨_, ‹_›⟩ closed
      · rfl
  · refine .inl ⟨readScalar chars, shortens_readScalar chars, fun fuel => ?_⟩
    rw [readValue]
    · rintro rest rfl
      exact array ⟨rest, rfl⟩
    · rintro rest rfl
      exact object ⟨rest, rfl⟩

/-- Behind an item, an array ends or goes on with its next item. -/
theorem readItems_cases (read : List Json) (chars : List Char) (item : Json) (rest : List Char) :
    (∃ step, Shortens rest step ∧ ∀ fuel, readValue fuel chars = .ok (item, rest) →
      readItems (fuel + 1) read chars = step) ∨
    ∃ later, later.length < rest.length ∧ ∀ fuel, readValue fuel chars = .ok (item, rest) →
      readItems (fuel + 1) read chars = readItems fuel (item :: read) later := by
  have space := length_skipSpace_le rest
  by_cases closed : ∃ after, skipSpace rest = ']' :: after
  · obtain ⟨after, closed⟩ := closed
    rw [closed] at space
    refine .inl ⟨.ok (.array (item :: read).reverse, after), shortens_ok space, ?_⟩
    intro fuel first
    simp only [readItems, first, closed]
  by_cases comma : ∃ after, skipSpace rest = ',' :: after
  · obtain ⟨after, comma⟩ := comma
    have more := length_skipSpace_le after
    rw [comma, List.length_cons] at space
    refine .inr ⟨skipSpace after, by omega, fun fuel first => ?_⟩
    simp only [readItems, first, comma]
  · refine .inl ⟨_, shortens_error rest (.at .comma (skipSpace rest).length), ?_⟩
    intro fuel first
    simp only [readItems, first]
    split
    · exact absurd ⟨_, ‹_›⟩ closed
    · exact absurd ⟨_, ‹_›⟩ comma
    · rfl

/-- Behind a member, an object ends or goes on with its next member. -/
theorem readMembers_cases (read : Members) {chars inside : List Char} {name : String}
    (named : readName chars = .ok (name, inside)) (value : Json) (rest : List Char) :
    (∃ step, Shortens rest step ∧ ∀ fuel, readValue fuel inside = .ok (value, rest) →
      readMembers (fuel + 1) read chars = step) ∨
    ∃ later, later.length < rest.length ∧ ∀ fuel, readValue fuel inside = .ok (value, rest) →
      readMembers (fuel + 1) read chars = readMembers fuel (read.set name value) later := by
  have space := length_skipSpace_le rest
  by_cases closed : ∃ after, skipSpace rest = '\x7d' :: after
  · obtain ⟨after, closed⟩ := closed
    rw [closed] at space
    refine .inl ⟨.ok (.object (read.set name value), after), shortens_ok space, ?_⟩
    intro fuel first
    simp only [readMembers, named, first, closed]
  by_cases comma : ∃ after, skipSpace rest = ',' :: after
  · obtain ⟨after, comma⟩ := comma
    have more := length_skipSpace_le after
    rw [comma, List.length_cons] at space
    refine .inr ⟨skipSpace after, by omega, fun fuel first => ?_⟩
    simp only [readMembers, named, first, comma]
  · refine .inl ⟨_, shortens_error rest (.at .comma (skipSpace rest).length), ?_⟩
    intro fuel first
    simp only [readMembers, named, first]
    split
    · exact absurd ⟨_, ‹_›⟩ closed
    · exact absurd ⟨_, ‹_›⟩ comma
    · rfl

/-- With some fuel, values, items and members leave less than there was. -/
structure ShortensWith (fuel : Nat) : Prop where
  value : ∀ chars, Shortens chars (readValue fuel chars)
  items : ∀ read chars, Shortens chars (readItems fuel read chars)
  members : ∀ read chars, Shortens chars (readMembers fuel read chars)

section Steps

variable {fuel : Nat}

theorem ShortensWith.succ_value (shortens : ShortensWith fuel) (chars : List Char) :
    Shortens chars (readValue (fuel + 1) chars) := by
  intro value rest read
  rcases readValue_cases chars with
    ⟨step, ends, same⟩ | ⟨later, less, same⟩ | ⟨later, less, same⟩ <;> rw [same] at read
  · exact ends _ _ read
  · exact (shortens.items _ _ _ _ read).trans less
  · exact (shortens.members _ _ _ _ read).trans less

theorem ShortensWith.succ_items (shortens : ShortensWith fuel) (items : List Json)
    (chars : List Char) : Shortens chars (readItems (fuel + 1) items chars) := by
  cases first : readValue fuel chars with
  | error stop =>
    simp only [readItems, first]
    exact shortens_error chars stop
  | ok result =>
    obtain ⟨item, after⟩ := result
    have left := shortens.value _ _ _ first
    intro value rest read
    rcases readItems_cases items chars item after with
      ⟨step, ends, same⟩ | ⟨later, less, same⟩ <;> rw [same fuel first] at read
    · exact (ends _ _ read).trans left
    · exact ((shortens.items _ _ _ _ read).trans less).trans left

theorem ShortensWith.succ_members (shortens : ShortensWith fuel) (members : Members)
    (chars : List Char) : Shortens chars (readMembers (fuel + 1) members chars) := by
  cases named : readName chars with
  | error stop =>
    simp only [readMembers, named]
    exact shortens_error chars stop
  | ok result =>
    obtain ⟨name, inside⟩ := result
    have behind := shortens_readName _ _ _ named
    cases first : readValue fuel inside with
    | error stop =>
      simp only [readMembers, named, first]
      exact shortens_error chars stop
    | ok result =>
      obtain ⟨member, after⟩ := result
      have left := (shortens.value _ _ _ first).trans behind
      intro value rest read
      rcases readMembers_cases members named member after with
        ⟨step, ends, same⟩ | ⟨later, less, same⟩ <;> rw [same fuel first] at read
      · exact (ends _ _ read).trans left
      · exact ((shortens.members _ _ _ _ read).trans less).trans left

end Steps

theorem shortensWith (fuel : Nat) : ShortensWith fuel := by
  -- The readers of values, items and members call each other, each with less fuel.
  induction fuel with
  | zero =>
    constructor
    · intro chars
      rw [readValue]
      exact shortens_error chars _
    · intro items chars
      rw [readItems]
      exact shortens_error chars _
    · intro members chars
      rw [readMembers]
      exact shortens_error chars _
  | succ fuel ih => exact ⟨ih.succ_value, ih.succ_items, ih.succ_members⟩

/-! ## Enough fuel -/

/-- With some fuel, a value reads as with any more of it if there are two units for each character
and one more, and so do items and members if there is yet another unit. -/
structure Suffices (fuel : Nat) : Prop where
  value : ∀ {chars more}, 2 * chars.length + 1 ≤ fuel → fuel ≤ more →
    readValue more chars = readValue fuel chars
  items : ∀ {items chars more}, 2 * chars.length + 2 ≤ fuel → fuel ≤ more →
    readItems more items chars = readItems fuel items chars
  members : ∀ {members : Members} {chars more}, 2 * chars.length + 2 ≤ fuel → fuel ≤ more →
    readMembers more members chars = readMembers fuel members chars

section Steps

variable {fuel more : Nat} {chars : List Char}

theorem Suffices.succ_value (inner : Suffices fuel) (enough : 2 * chars.length ≤ fuel)
    (atLeast : fuel ≤ more) : readValue (more + 1) chars = readValue (fuel + 1) chars := by
  rcases readValue_cases chars with
    ⟨step, -, same⟩ | ⟨later, less, same⟩ | ⟨later, less, same⟩ <;> rw [same, same]
  · exact inner.items (by omega) atLeast
  · exact inner.members (by omega) atLeast

theorem Suffices.succ_items (inner : Suffices fuel) {items : List Json}
    (enough : 2 * chars.length + 1 ≤ fuel) (atLeast : fuel ≤ more) :
    readItems (more + 1) items chars = readItems (fuel + 1) items chars := by
  have own := inner.value enough atLeast
  cases first : readValue fuel chars with
  | error stop => simp only [readItems, own, first]
  | ok result =>
    obtain ⟨item, after⟩ := result
    have left := (shortensWith fuel).value _ _ _ first
    rcases readItems_cases items chars item after with
      ⟨step, -, same⟩ | ⟨later, less, same⟩ <;> rw [same more (own.trans first), same fuel first]
    exact inner.items (by omega) atLeast

theorem Suffices.succ_members (inner : Suffices fuel) {members : Members}
    (enough : 2 * chars.length + 1 ≤ fuel) (atLeast : fuel ≤ more) :
    readMembers (more + 1) members chars = readMembers (fuel + 1) members chars := by
  cases named : readName chars with
  | error stop => simp only [readMembers, named]
  | ok result =>
    obtain ⟨name, inside⟩ := result
    have behind := shortens_readName _ _ _ named
    have own : readValue more inside = readValue fuel inside :=
      inner.value (by omega) atLeast
    cases first : readValue fuel inside with
    | error stop => simp only [readMembers, named, own, first]
    | ok result =>
      obtain ⟨member, after⟩ := result
      have left := (shortensWith fuel).value _ _ _ first
      rcases readMembers_cases members named member after with
        ⟨step, -, same⟩ | ⟨later, less, same⟩ <;>
        rw [same more (own.trans first), same fuel first]
      exact inner.members (by omega) atLeast

end Steps

theorem suffices_fuel (fuel : Nat) : Suffices fuel := by
  induction fuel with
  | zero => exact ⟨fun enough => by omega, fun enough => by omega, fun enough => by omega⟩
  | succ fuel ih =>
    constructor
    · intro chars more enough atLeast
      obtain ⟨more, rfl⟩ := Nat.exists_eq_add_of_le' (Nat.one_le_of_lt atLeast)
      exact ih.succ_value (by omega) (by omega)
    · intro items chars more enough atLeast
      obtain ⟨more, rfl⟩ := Nat.exists_eq_add_of_le' (Nat.one_le_of_lt atLeast)
      exact ih.succ_items (by omega) (by omega)
    · intro members chars more enough atLeast
      obtain ⟨more, rfl⟩ := Nat.exists_eq_add_of_le' (Nat.one_le_of_lt atLeast)
      exact ih.succ_members (by omega) (by omega)

/-- The reader never runs out of fuel: with any more of it, a document reads the same. -/
theorem readDocumentWith_eq {fuel : Nat} {chars : List Char} (enough : 2 * chars.length < fuel) :
    readDocumentWith fuel chars = readDocument chars := by
  have space := length_skipSpace_le chars
  have fits : 2 * (skipSpace chars).length + 1 ≤ 2 * chars.length + 1 := by omega
  have same := (suffices_fuel _).value fits enough
  unfold readDocument readDocumentWith
  split
  · rfl
  · rw [same]

/-- Two open arrays are read up to where an item has ended and nothing follows. -/
example : read "[[1" = .error (.at .comma 3 1 4) := rfl

end EventHooks.Json
