import EventHooks.Hook.Failure
import EventHooks.Proofs.WrittenJson

/-!
# What the words for a failure tell

Inside a quoted text the quote around it stands only behind a backslash, and every escape says how
far it goes. So a quoted text ends at one place, whatever it holds and whatever follows it, and the
words for a failure give away the command and the shell (`message_tells_subject`).
-/
namespace EventHooks

namespace Text

/-- Whether a form can be split off the front of longer text in one way only. -/
def SelfDelimiting {α : Type} (form : α → List Char) : Prop :=
  ∀ (first second : α) (rest others : List Char),
    form first ++ rest = form second ++ others → first = second ∧ rest = others

section Delimiting

variable {α β : Type} {form : α → List Char} {next : β → List Char}

theorem SelfDelimiting.after (delimiting : SelfDelimiting form) (words : List Char) :
    SelfDelimiting fun value => words ++ form value := by
  intro first second rest others same
  simp only [List.append_assoc, List.append_cancel_left_eq] at same
  exact delimiting first second rest others same

theorem SelfDelimiting.pair (delimiting : SelfDelimiting form) (following : SelfDelimiting next) :
    SelfDelimiting fun values : α × β => form values.1 ++ next values.2 := by
  intro first second rest others same
  simp only [List.append_assoc] at same
  obtain ⟨sameFirst, sameTail⟩ := delimiting _ _ _ _ same
  obtain ⟨sameSecond, sameRest⟩ := following _ _ _ _ sameTail
  exact ⟨Prod.ext sameFirst sameSecond, sameRest⟩

end Delimiting

/-! ## Reading one character -/

/-- The character whose code stands in front in some hexadecimal digits, and what follows them. -/
def readCoded? (width : Nat) (chars : List Char) : Option (Char × List Char) :=
  (ofHexDigits? (chars.take width)).map fun code => (Char.ofNat code, chars.drop width)

/-- The character that stands in front inside a quoted text, and what follows it. -/
def readQuotedChar? : List Char → Option (Char × List Char)
  | [] => none
  | '\\' :: letter :: rest =>
    if letter = 'n' then some ('\n', rest)
    else if letter = 'r' then some ('\r', rest)
    else if letter = 't' then some ('\t', rest)
    else if letter = 'x' then readCoded? 2 rest
    else if letter = 'u' then readCoded? 4 rest
    else if letter = 'U' then readCoded? 8 rest
    else some (letter, rest)
  | c :: rest => some (c, rest)

section Characters

variable {mark c : Char} {rest : List Char}

theorem readCoded?_hexDigits {width : Nat} (fits : c.toNat < 16 ^ width) (rest : List Char) :
    readCoded? width (hexDigits width c.toNat ++ rest) = some (c, rest) := by
  have length := length_hexDigits width c.toNat
  unfold readCoded?
  rw [List.take_left' length, List.drop_left' length, ofHexDigits?_hexDigits,
    Nat.mod_eq_of_lt fits, Option.map_some, Char.ofNat_toNat]

/-- The reader undoes the escape of a character, whatever follows it. -/
theorem readQuotedChar?_quotedChar (isMark : mark = '\'' ∨ mark = '"') (c : Char)
    (rest : List Char) : readQuotedChar? (quotedChar mark c ++ rest) = some (c, rest) := by
  have valid : c.toNat < 0xD800 ∨ 0xDFFF < c.toNat ∧ c.toNat < 0x110000 := c.valid
  unfold quotedChar
  split_ifs with special feed carriage tab plain small medium
  · rcases special with rfl | rfl
    · rcases isMark with rfl | rfl
      · rfl
      · rfl
    · rfl
  · subst feed
    rfl
  · subst carriage
    rfl
  · subst tab
    rfl
  · have notSlash : c ≠ '\\' := fun slash => special (.inr slash)
    simp [readQuotedChar?, notSlash]
  · exact readCoded?_hexDigits small rest
  · exact readCoded?_hexDigits medium rest
  · have scalar : c.toNat < 0x110000 := by omega
    exact readCoded?_hexDigits (Nat.lt_trans scalar (by decide)) rest

/-- A character stands for itself, and is not the quote then, or starts with a backslash. -/
theorem quotedChar_cases (mark c : Char) : (quotedChar mark c).head? = some '\\' ∨
    quotedChar mark c = [c] ∧ c ≠ mark := by
  unfold quotedChar
  split_ifs with special feed carriage tab plain small medium
  · exact .inl rfl
  · exact .inl rfl
  · exact .inl rfl
  · exact .inl rfl
  · exact .inr ⟨rfl, fun own => special (.inl own)⟩
  · exact .inl rfl
  · exact .inl rfl
  · exact .inl rfl

/-- No character is written with the quote in front. -/
theorem quotedChar_ne_mark (isMark : mark = '\'' ∨ mark = '"') (others : List Char) :
    quotedChar mark c ++ rest ≠ mark :: others := by
  have notSlash : '\\' ≠ mark := by
    rcases isMark with rfl | rfl
    · decide
    · decide
  intro same
  rcases quotedChar_cases mark c with escaped | ⟨plain, notMark⟩
  · have front := congrArg List.head? same
    rw [List.head?_append, escaped, Option.some_or, List.head?_cons] at front
    exact notSlash (Option.some.inj front)
  · rw [plain] at same
    exact notMark (List.cons.inj same).1

end Characters

/-! ## Quoted texts -/

/-- Characters inside quotes end where the quote stands by itself. -/
theorem selfDelimiting_inside {mark : Char} (isMark : mark = '\'' ∨ mark = '"') :
    SelfDelimiting fun chars : List Char => chars.flatMap (quotedChar mark) ++ [mark] := by
  intro first second rest others same
  simp only [List.append_assoc, List.singleton_append] at same
  induction first generalizing second with
  | nil =>
    cases second with
    | nil => exact ⟨rfl, (List.cons.inj same).2⟩
    | cons d second =>
      rw [List.flatMap_cons, List.append_assoc] at same
      exact absurd same.symm (quotedChar_ne_mark isMark rest)
  | cons c first ih =>
    rw [List.flatMap_cons, List.append_assoc] at same
    cases second with
    | nil => exact absurd same (quotedChar_ne_mark isMark others)
    | cons d second =>
      rw [List.flatMap_cons, List.append_assoc] at same
      have read := congrArg readQuotedChar? same
      rw [readQuotedChar?_quotedChar isMark, readQuotedChar?_quotedChar isMark] at read
      obtain ⟨rfl, later⟩ := Prod.mk.inj (Option.some.inj read)
      obtain ⟨rfl, sameRest⟩ := ih second later
      exact ⟨rfl, sameRest⟩

/-- A quoted text ends at one place, whatever it holds and whatever follows it. -/
theorem selfDelimiting_quoted : SelfDelimiting fun text => (quoted text).toList := by
  intro first second rest others same
  simp only [quoted, String.toList_ofList, quotedChars, List.cons_append] at same
  obtain ⟨sameMark, inside⟩ := List.cons.inj same
  rw [sameMark] at inside
  obtain ⟨sameChars, sameRest⟩ :=
    selfDelimiting_inside (quoteMark_cases second.toList) _ _ _ _ inside
  exact ⟨String.toList_injective sameChars, sameRest⟩

end Text

open Text

/-- The words for a detail, as they follow those for what was run. -/
def FailureDetail.words : FailureDetail → String
  | .nothing => ""
  | .cause error => ": " ++ error.message
  | .errors text => if (trim text).isEmpty then ": (empty stderr)" else ": " ++ trim text

namespace Failure

theorem message_eq (failure : Failure) :
    failure.message = subject failure.shell failure.command ++ failure.detail.words := by
  unfold message
  cases failure.detail with
  | nothing => exact String.append_empty.symm
  | cause error => exact String.append_assoc
  | errors text =>
    dsimp only [FailureDetail.words]
    split_ifs
    · rfl
    · exact String.append_assoc

/-- The words for what was run end at one place, whatever the texts hold and whatever follows. -/
theorem selfDelimiting_subject :
    SelfDelimiting fun run : String × String => (subject run.2 run.1).toList := by
  have delimiting := (selfDelimiting_quoted.after "Failed to run ".toList).pair
    (selfDelimiting_quoted.after " using ".toList)
  have parts (run : String × String) : (subject run.2 run.1).toList =
      "Failed to run ".toList ++ (quoted run.1).toList ++
        (" using ".toList ++ (quoted run.2).toList) := by
    have whole : subject run.2 run.1 =
        "Failed to run " ++ quoted run.1 ++ " using " ++ quoted run.2 := rfl
    simp only [whole, String.toList_append, List.append_assoc]
  simpa only [parts] using delimiting

/-- Whatever follows the words for what was run, they tell the command and the shell. -/
theorem subject_append_eq_iff {shell command others shell' command' others' : String} :
    subject shell command ++ others = subject shell' command' ++ others' ↔
      command = command' ∧ shell = shell' ∧ others = others' := by
  constructor
  · intro same
    have chars := congrArg String.toList same
    rw [String.toList_append, String.toList_append] at chars
    obtain ⟨run, rest⟩ := selfDelimiting_subject (command, shell) (command', shell') _ _ chars
    obtain ⟨sameCommand, sameShell⟩ := Prod.mk.inj run
    exact ⟨sameCommand, sameShell, String.toList_injective rest⟩
  · rintro ⟨rfl, rfl, rfl⟩
    rfl

/-- Failures of any kinds have the same words exactly if they are of the same command under the
same shell and the words for their details are the same. The words for what was run tell the
command and the shell in front of any other words, too. -/
theorem message_tells_subject :
    (∀ first second : Failure, first.message = second.message ↔
      first.command = second.command ∧ first.shell = second.shell ∧
        first.detail.words = second.detail.words) ∧
    ∀ shell command others shell' command' others' : String,
      subject shell command ++ others = subject shell' command' ++ others' ↔
        command = command' ∧ shell = shell' ∧ others = others' := by
  refine ⟨?_, fun _ _ _ _ _ _ => subject_append_eq_iff⟩
  intro first second
  rw [message_eq, message_eq]
  exact subject_append_eq_iff

/-- The words do not tell what kind of failure it is, or whether a detail is of the system or of the
command. -/
example : (spawn "sh" "it's" (.plain "no")).message = (unsuccessful "sh" "it's" " no\n").message := by
  decide

end Failure

end EventHooks
