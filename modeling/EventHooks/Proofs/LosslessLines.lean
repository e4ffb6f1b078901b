import EventHooks.Proofs.Lines
import Mathlib.Data.List.Chain

/-!
# Lines without loss

A reader takes one line after the other off a stream, until the line that it gets is empty. What it
yields is the text with each line ending written as a line feed, cut after every line feed and
nowhere else (`lines_lossless`).
-/
namespace EventHooks.Text

/-! ## Line endings -/

/-- The character that a piece of a text is read as. A carriage return is read as a line feed, and
so is one together with the line feed behind it. -/
inductive ReadsAs : List Char → Char → Prop
  | pair : ReadsAs ['\r', '\n'] '\n'
  | lone : ReadsAs ['\r'] '\n'
  | other {c : Char} (plain : c ≠ '\r') : ReadsAs [c] c

/-- Exactly the characters that the pieces of a text are read as, where no line feed is parted from
a carriage return in front of it. -/
def IsTranslation (chars translated : List Char) : Prop :=
  ∃ pieces : List (List Char), pieces.flatten = chars ∧ List.Forall₂ ReadsAs pieces translated ∧
    pieces.IsChain fun piece next => ¬ (piece = ['\r'] ∧ next = ['\n'])

/-- A carriage return without a line feed behind it is translated alone. -/
theorem universalNewlines_lone {rest : List Char} (lone : rest.head? ≠ some '\n') :
    universalNewlines ('\r' :: rest) = '\n' :: universalNewlines rest := by
  cases rest with
  | nil => rfl
  | cons next rest =>
    rw [universalNewlines]
    rintro rest ⟨rfl, -⟩
    exact lone rfl

theorem universalNewlines_other {c : Char} (plain : c ≠ '\r') (rest : List Char) :
    universalNewlines (c :: rest) = c :: universalNewlines rest := by
  rw [universalNewlines]
  · rintro rest rfl
    exact absurd rfl plain
  · exact plain

/-- Pieces begin with a line feed only if the first one is a line feed alone. -/
theorem head?_flatten_ne {pieces : List (List Char)} {translated : List Char}
    (reads : List.Forall₂ ReadsAs pieces translated) (unparted : ['\n'] ∉ pieces.head?) :
    pieces.flatten.head? ≠ some '\n' := by
  cases reads with
  | nil => simp
  | cons first later =>
    cases first with
    | pair | lone => simp
    | other plain =>
      rintro ⟨⟩
      exact unparted rfl

theorem eq_universalNewlines {pieces : List (List Char)} {translated : List Char}
    (reads : List.Forall₂ ReadsAs pieces translated)
    (chain : pieces.IsChain fun piece next => ¬ (piece = ['\r'] ∧ next = ['\n'])) :
    translated = universalNewlines pieces.flatten := by
  induction reads with
  | nil => rfl
  | cons first later ih =>
    obtain ⟨unparted, chain⟩ := List.isChain_cons.1 chain
    rw [ih chain]
    cases first with
    | pair => rfl
    | lone =>
      have lone := head?_flatten_ne later fun isNext => unparted _ isNext ⟨rfl, rfl⟩
      exact (universalNewlines_lone lone).symm
    | other plain => exact (universalNewlines_other plain _).symm

theorem isTranslation_universalNewlines (chars : List Char) :
    IsTranslation chars (universalNewlines chars) := by
  fun_induction universalNewlines chars with
  | case1 => exact ⟨[], rfl, .nil, .nil⟩
  | case2 rest ih =>
    obtain ⟨pieces, rfl, reads, chain⟩ := ih
    refine ⟨['\r', '\n'] :: pieces, rfl, .cons .pair reads, chain.cons ?_⟩
    simp
  | case3 rest unpaired ih =>
    obtain ⟨pieces, rfl, reads, chain⟩ := ih
    refine ⟨['\r'] :: pieces, rfl, .cons .lone reads, chain.cons ?_⟩
    rintro next isNext ⟨-, rfl⟩
    obtain ⟨later, rfl⟩ := List.head?_eq_some_iff.1 isNext
    exact unpaired later.flatten rfl
  | case4 c rest _ plain ih =>
    obtain ⟨pieces, rfl, reads, chain⟩ := ih
    refine ⟨[c] :: pieces, rfl, .cons (.other plain) reads, chain.cons ?_⟩
    rintro next - ⟨same, -⟩
    exact plain (List.cons.inj same).1

/-- A text has one translation. -/
theorem isTranslation_iff {chars translated : List Char} :
    IsTranslation chars translated ↔ translated = universalNewlines chars := by
  constructor
  · rintro ⟨pieces, rfl, reads, chain⟩
    exact eq_universalNewlines reads chain
  · rintro rfl
    exact isTranslation_universalNewlines chars

/-! ## Reading line by line -/

/-- The next line of a stream, and what is left then. A line goes up to the first line feed, or to
the end. -/
def nextLine (chars : List Char) : List Char × List Char :=
  match chars.dropWhile (· != '\n') with
  | [] => (chars, [])
  | feed :: rest => (chars.takeWhile (· != '\n') ++ [feed], rest)

/-- What a reader yields that takes lines off a stream until it gets an empty one. -/
inductive Yields : List Char → List String → Prop
  | stop {chars rest : List Char} (taken : nextLine chars = ([], rest)) : Yields chars []
  | line {chars line rest : List Char} {lines : List String} (taken : nextLine chars = (line, rest))
    (more : line ≠ []) (later : Yields rest lines) : Yields chars (String.ofList line :: lines)

theorem nextLine_nil : nextLine [] = ([], []) := rfl

theorem nextLine_feed (rest : List Char) : nextLine ('\n' :: rest) = (['\n'], rest) := rfl

theorem nextLine_cons {c : Char} (plain : c ≠ '\n') (rest : List Char) :
    nextLine (c :: rest) = (c :: (nextLine rest).1, (nextLine rest).2) := by
  have inside : (c != '\n') = true := bne_iff_ne.2 plain
  rw [nextLine, nextLine, List.dropWhile_cons, List.takeWhile_cons, if_pos inside, if_pos inside]
  cases rest.dropWhile (· != '\n') <;> rfl

/-- A line is empty only at the end of a stream. -/
theorem nextLine_fst_eq_nil {chars : List Char} : (nextLine chars).1 = [] ↔ chars = [] := by
  cases chars with
  | nil => simp [nextLine_nil]
  | cons c rest =>
    by_cases feed : c = '\n'
    · subst feed
      simp [nextLine_feed]
    · simp [nextLine_cons feed]

/-- The first of the pieces between line feeds is the next line. -/
theorem cutAfter_eq_nextLine {chars : List Char} (more : chars ≠ []) :
    cutAfter (· == '\n') chars =
      (nextLine chars).1 :: cutAfter (· == '\n') (nextLine chars).2 := by
  induction chars with
  | nil => exact absurd rfl more
  | cons c rest ih =>
    rw [cutAfter]
    by_cases feed : c = '\n'
    · subst feed
      rfl
    · rw [if_neg (by simpa using feed), nextLine_cons feed]
      cases rest with
      | nil => rfl
      | cons next rest => rw [ih (List.cons_ne_nil next rest)]

theorem length_nextLine_snd {chars : List Char} (more : chars ≠ []) :
    (nextLine chars).2.length < chars.length := by
  have whole := congrArg List.length (flatten_cutAfter (· == '\n') chars)
  rw [cutAfter_eq_nextLine more, List.flatten_cons, flatten_cutAfter, List.length_append] at whole
  have some := List.length_pos_iff.2 (mt nextLine_fst_eq_nil.1 more)
  omega

/-- The reader comes to the end of every stream, and yields the pieces between line feeds. -/
theorem yields_iff {chars : List Char} {result : List String} :
    Yields chars result ↔ result = (cutAfter (· == '\n') chars).map String.ofList := by
  constructor
  · intro yields
    induction yields with
    | stop taken =>
      obtain rfl := nextLine_fst_eq_nil.1 (congrArg Prod.fst taken)
      rfl
    | @line chars line rest lines taken more later ih =>
      have more : chars ≠ [] := mt nextLine_fst_eq_nil.2 (by rwa [taken])
      rw [cutAfter_eq_nextLine more, taken, List.map_cons, ih]
  · rintro rfl
    -- The induction is on what is left, of which every line takes something.
    induction long : chars.length using Nat.strongRecOn generalizing chars with
    | ind count ih =>
      by_cases more : chars = []
      · subst more
        exact .stop nextLine_nil
      · rw [cutAfter_eq_nextLine more]
        refine .line rfl (mt nextLine_fst_eq_nil.1 more) ?_
        exact ih _ (long ▸ length_nextLine_snd more) rfl

/-! ## Where a text is cut -/

/-- Some lines are cut behind some characters: the first of them make up these, and others
follow. -/
def IsCutBehind (lines : List String) (front : List Char) : Prop :=
  ∃ before after, lines = before ++ after ∧ after ≠ [] ∧
    (before.map String.toList).flatten = front

/-- Characters that separate lines elsewhere: tabulations and feeds, the separators of files, groups
and records, the next line, and the separators of lines and paragraphs. -/
def otherSeparators : List Char :=
  ['\x0b', '\x0c', '\x1c', '\x1d', '\x1e', '\u0085', '\u2028', '\u2029']

section Cuts

variable {α : Type} {ends : α → Bool}

/-- Behind an element that ends a piece, the cut begins anew. -/
theorem cutAfter_append {front : List α} (ended : ∃ x ∈ front.getLast?, ends x = true)
    (back : List α) :
    cutAfter ends (front ++ back) = cutAfter ends front ++ cutAfter ends back := by
  induction front with
  | nil => obtain ⟨x, member, -⟩ := ended; cases member
  | cons x rest ih =>
    rw [List.cons_append, cutAfter, cutAfter]
    cases rest with
    | nil =>
      obtain ⟨last, isLast, marks⟩ := ended
      obtain rfl : x = last := by simpa using isLast
      rw [if_pos marks, if_pos marks]
      rfl
    | cons next rest =>
      rw [List.getLast?_cons_cons] at ended
      rw [ih ended]
      split_ifs
      · rfl
      · cases pieces : cutAfter ends (next :: rest) with
        | nil => cases cutAfter_eq_nil.1 pieces
        | cons piece pieces => rfl

/-- The pieces in front of others end with an element that ends a piece. -/
theorem IsCut.ended {xs : List α} {before after : List (List α)}
    (cut : IsCut ends xs (before ++ after)) (more : after ≠ []) (nonempty : before.flatten ≠ []) :
    ∃ x ∈ before.flatten.getLast?, ends x = true := by
  obtain rfl | ⟨before, piece, rfl⟩ := before.eq_nil_or_concat
  · exact absurd rfl nonempty
  · rw [List.concat_eq_append] at cut ⊢
    have inner : piece ∈ (before ++ [piece] ++ after).dropLast := by
      rw [List.dropLast_append_of_ne_nil more]
      simp
    obtain ⟨last, isLast, marks⟩ := cut.outer piece inner
    refine ⟨last, ?_, marks⟩
    rw [List.flatten_append, List.flatten_singleton, List.getLast?_append, Option.mem_def.1 isLast]
    rfl

end Cuts

/-- Lines are cut behind a line feed that is not the last character, and nowhere else. -/
theorem isCutBehind_iff {text : String} {front : List Char} (nonempty : front ≠ []) :
    IsCutBehind (lines text) front ↔
      front.getLast? = some '\n' ∧ ∃ back ≠ [], front ++ back = universalNewlines text.toList := by
  have cut := isLines_iff_isCut.1 (isLines_iff.2 (rfl : lines text = lines text))
  constructor
  · rintro ⟨before, after, split, more, rfl⟩
    rw [split, List.map_append] at cut
    obtain ⟨last, isLast, marks⟩ := cut.ended (by simpa using more) nonempty
    refine ⟨by rw [Option.mem_def.1 isLast, beq_iff_eq.1 marks], (after.map String.toList).flatten,
      ?_, by rw [← cut.whole, List.flatten_append]⟩
    obtain ⟨line, later, rfl⟩ := List.exists_cons_of_ne_nil more
    have filled := (cut.inner line.toList (by simp)).1
    simp [filled]
  · rintro ⟨ended, back, more, whole⟩
    refine ⟨(cutAfter (· == '\n') front).map String.ofList,
      (cutAfter (· == '\n') back).map String.ofList, ?_, ?_, ?_⟩
    · rw [lines, ← whole, cutAfter_append ⟨_, ended, rfl⟩, List.map_append]
    · simpa [cutAfter_eq_nil] using more
    · simp [Function.comp_def, flatten_cutAfter]

/-- The lines of a text are its translation, cut behind each line feed: they are the only ones that
together are the translation, that are not empty and have no line feed before their end, and of
which each but the last ends in one. They are what a reader yields that takes line after line until
it gets an empty one. No other separator ends a line. -/
theorem lines_lossless (text : String) :
    let translated := universalNewlines text.toList
    (∀ other, IsTranslation text.toList other ↔ other = translated) ∧
      (∀ result, IsLines translated result ↔ result = lines text) ∧
      (∀ result, Yields translated result ↔ result = lines text) ∧
      (∀ front ≠ [], IsCutBehind (lines text) front ↔
        front.getLast? = some '\n' ∧ ∃ back ≠ [], front ++ back = translated) ∧
      ∀ separator ∈ otherSeparators, ∀ front,
        ¬ IsCutBehind (lines text) (front ++ [separator]) := by
  intro translated
  refine ⟨fun _ => isTranslation_iff, fun _ => isLines_iff, fun _ => yields_iff,
    fun _ => isCutBehind_iff, fun separator isOther front isCut => ?_⟩
  obtain ⟨ended, -⟩ := (isCutBehind_iff (by simp)).1 isCut
  rw [List.getLast?_concat, Option.some.injEq] at ended
  subst ended
  exact absurd isOther (by decide)

/-- Carriage returns before another line ending and at the end, and a separator inside a line. -/
example : lines "a\r\r\nb\x0bc\n\nd\r" = ["a\n", "\n", "b\x0bc\n", "\n", "d\n"] := by
  decide +kernel

end EventHooks.Text
