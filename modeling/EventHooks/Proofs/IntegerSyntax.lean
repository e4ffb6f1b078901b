import EventHooks.Proofs.DecimalText
import EventHooks.Proofs.Lines

/-!
# The syntax of integers in texts

Which texts are integers, and which integer each of them is, described by the blanks and the digits
of every script and by positional notation. The reader takes exactly these texts
(`read_eq_ok_iff`), and the decimal text of an integer is one of them (`denotes_render`).
-/
namespace EventHooks.IntegerText

open Text

/-- A blank around an integer: one of ASCII, or one of any script beyond it. -/
def IsSpace (c : Char) : Prop :=
  isAsciiBlank c = true ∨ 0x7F ≤ c.toNat ∧ isBlank c = true

/-- A sign that may be missing, and whether it is a minus. -/
inductive IsSign : Bool → List Char → Prop
  | missing : IsSign false []
  | plus : IsSign false ['+']
  | minus : IsSign true ['-']

/-- Digits of any script with their values. A single underscore may stand between two of them. -/
inductive IsRun : List Char → List Nat → Prop
  | last {c : Char} {value : Nat} (digit : decimalDigit? c = some value) : IsRun [c] [value]
  | next {c : Char} {value : Nat} {rest : List Char} {values : List Nat}
    (digit : decimalDigit? c = some value) (later : IsRun rest values) :
    IsRun (c :: rest) (value :: values)
  | underscore {c : Char} {value : Nat} {rest : List Char} {values : List Nat}
    (digit : decimalDigit? c = some value) (later : IsRun rest values) :
    IsRun (c :: '_' :: rest) (value :: values)

/-- Exactly the texts of an integer: digits, not more than the limit, after a sign or none and
between blanks. -/
def Denotes (text : String) (number : Int) : Prop :=
  ∃ (front sign body back : List Char) (negative : Bool) (digits : List Nat),
    text.toList = front ++ (sign ++ (body ++ back)) ∧ (∀ c ∈ front, IsSpace c) ∧
    IsSign negative sign ∧ IsRun body digits ∧ (∀ c ∈ back, IsSpace c) ∧
    digits.length ≤ digitLimit ∧ number = signed negative (Nat.ofDigits 10 digits.reverse)

/-! ## Characters -/

section Characters

variable {c : Char}

theorem fold_of_ascii (ascii : c.toNat < 0x7F) : fold c = c :=
  if_pos ascii

/-- No blank is a digit. -/
theorem decimalDigit?_of_blank (blank : isBlank c = true) : decimalDigit? c = none := by
  have apart : ∀ range ∈ blankRanges, ∀ start ∈ decimalZeros,
      range.2 < start ∨ start + 10 ≤ range.1 := by
    decide
  obtain ⟨range, isRange, inside⟩ := List.any_eq_true.1 blank
  rw [Bool.and_eq_true, decide_eq_true_eq, decide_eq_true_eq] at inside
  rw [decimalDigit?, Option.map_eq_none_iff, List.find?_eq_none]
  intro start isStart digit
  rw [Bool.and_eq_true, decide_eq_true_eq, decide_eq_true_eq] at digit
  rcases apart range isRange start isStart with below | above <;> omega

theorem decimalDigit?_of_ascii (ascii : c.toNat < 0x7F) : decimalDigit? c = asciiDigit? c := by
  have all : ∀ code < 0x7F, decimalDigit? (Char.ofNat code) = asciiDigit? (Char.ofNat code) := by
    decide +kernel
  have same := all c.toNat ascii
  rwa [Char.ofNat_toNat] at same

/-- Beyond ASCII a folded character is a space, a digit or a question mark. -/
theorem fold_cases (large : ¬ c.toNat < 0x7F) :
    isBlank c = true ∧ fold c = ' ' ∨
      isBlank c = false ∧ ((∃ value, decimalDigit? c = some value ∧ value < 10 ∧
        fold c = Char.ofNat (0x30 + value)) ∨ decimalDigit? c = none ∧ fold c = '?') := by
  unfold fold
  rw [if_neg large]
  cases blank : isBlank c with
  | true => exact .inl ⟨rfl, if_pos rfl⟩
  | false =>
    refine .inr ⟨rfl, ?_⟩
    cases digit : decimalDigit? c with
    | none => exact .inr ⟨rfl, rfl⟩
    | some value => exact .inl ⟨value, rfl, decimalDigit?_lt digit, rfl⟩

/-- Folding keeps the values of digits. -/
theorem asciiDigit?_fold (c : Char) : asciiDigit? (fold c) = decimalDigit? c := by
  by_cases ascii : c.toNat < 0x7F
  · rw [fold_of_ascii ascii, decimalDigit?_of_ascii ascii]
  · rcases fold_cases ascii with ⟨blank, folded⟩ |
      ⟨-, ⟨value, digit, small, folded⟩ | ⟨other, folded⟩⟩
    · rw [folded, decimalDigit?_of_blank blank]
      rfl
    · have all : ∀ value < 10, asciiDigit? (Char.ofNat (0x30 + value)) = some value := by decide
      rw [folded, digit, all value small]
    · rw [folded, other]
      rfl

/-- Folding turns exactly the blanks around integers into ASCII blanks. -/
theorem isAsciiBlank_fold_iff : isAsciiBlank (fold c) = true ↔ IsSpace c := by
  unfold IsSpace
  by_cases ascii : c.toNat < 0x7F
  · rw [fold_of_ascii ascii]
    refine ⟨.inl, ?_⟩
    rintro (blank | ⟨large, -⟩)
    · exact blank
    · omega
  · have notAscii : ¬ isAsciiBlank c = true := by
      intro blank
      rw [isAsciiBlank, Bool.or_eq_true, beq_iff_eq, Bool.and_eq_true, decide_eq_true_eq,
        decide_eq_true_eq] at blank
      rcases blank with rfl | ⟨-, small⟩
      · exact ascii (by decide)
      · omega
    have large : 0x7F ≤ c.toNat := Nat.not_lt.1 ascii
    rcases fold_cases ascii with ⟨blank, folded⟩ |
      ⟨blank, ⟨value, -, small, folded⟩ | ⟨-, folded⟩⟩
    · rw [folded]
      exact ⟨fun _ => .inr ⟨large, blank⟩, fun _ => by decide⟩
    · have all : ∀ value < 10, isAsciiBlank (Char.ofNat (0x30 + value)) = false := by decide
      simp [folded, all value small, notAscii, blank]
    · have other : isAsciiBlank '?' = false := by decide
      simp [folded, other, notAscii, blank]

/-- A sign or an underscore comes from itself alone. -/
theorem fold_eq_iff {mark : Char} (isMark : mark ∈ ['+', '-', '_']) : fold c = mark ↔ c = mark := by
  by_cases ascii : c.toNat < 0x7F
  · rw [fold_of_ascii ascii]
  · obtain ⟨markAscii, notSpace, notQuestion, notDigit⟩ : mark.toNat < 0x7F ∧ mark ≠ ' ' ∧
        mark ≠ '?' ∧ ∀ value < 10, mark ≠ Char.ofNat (0x30 + value) := by
      simp only [List.mem_cons, List.not_mem_nil, or_false] at isMark
      rcases isMark with rfl | rfl | rfl <;> decide
    have different : c ≠ mark := fun same => ascii (same ▸ markAscii)
    rcases fold_cases ascii with ⟨-, folded⟩ | ⟨-, ⟨value, -, small, folded⟩ | ⟨-, folded⟩⟩
    · exact ⟨fun same => absurd (same.symm.trans folded) notSpace,
        fun same => absurd same different⟩
    · exact ⟨fun same => absurd (same.symm.trans folded) (notDigit value small),
        fun same => absurd same different⟩
    · exact ⟨fun same => absurd (same.symm.trans folded) notQuestion,
        fun same => absurd same different⟩

end Characters

/-! ## Runs of digits -/

theorem ofDigits_eq (digits : List Nat) : ofDigits digits = Nat.ofDigits 10 digits.reverse := by
  rw [ofDigits, Nat.ofDigits_eq_foldr, List.foldr_reverse]
  simp only [Nat.cast_id, Nat.mul_comm, Nat.add_comm]

theorem plain_of_digit {c : Char} {value : Nat} (digit : asciiDigit? c = some value) :
    isAsciiBlank c = false ∧ c ≠ '+' ∧ c ≠ '-' := by
  unfold asciiDigit? at digit
  split_ifs at digit with inRange
  have low : 0x30 ≤ c.toNat := inRange.1
  have notSmall : ∀ other : Char, other.toNat < 0x30 → c ≠ other := by
    rintro other small rfl
    omega
  refine ⟨?_, notSmall _ (by decide), notSmall _ (by decide)⟩
  rw [isAsciiBlank, Bool.or_eq_false_iff, beq_eq_false_iff_ne, Bool.and_eq_false_iff]
  exact ⟨notSmall _ (by decide), .inr (by simpa using by omega)⟩

theorem endsRun_of_blank {c : Char} (blank : isAsciiBlank c = true) :
    asciiDigit? c = none ∧ c ≠ '_' := by
  constructor
  · cases digit : asciiDigit? c with
    | none => rfl
    | some value =>
      rw [(plain_of_digit digit).1] at blank
      cases blank
  · rintro rfl
    cases blank

theorem IsRun.exists_cons {chars : List Char} {digits : List Nat} (run : IsRun chars digits) :
    ∃ c rest, chars = c :: rest ∧ ∃ value, decimalDigit? c = some value := by
  cases run with
  | last digit | next digit | underscore digit => exact ⟨_, _, rfl, _, digit⟩

section Runs

variable {after : Bool} {read digits : List Nat} {chars rest : List Char}

/-- What follows a run goes on neither with a digit nor with an underscore. -/
def EndsRun (rest : List Char) : Prop :=
  ∀ c ∈ rest.head?, asciiDigit? c = none ∧ c ≠ '_'

theorem scanDigits_of_endsRun (ends : EndsRun rest) :
    scanDigits true read rest = some (read.reverse, rest) := by
  cases rest with
  | nil => rfl
  | cons c rest =>
    obtain ⟨noDigit, noUnderscore⟩ := ends c rfl
    simp [scanDigits, noDigit, noUnderscore]

theorem scanDigits_of_isRun (run : IsRun chars digits) (ends : EndsRun rest) :
    scanDigits after read (chars.map fold ++ rest) = some (read.reverse ++ digits, rest) := by
  induction run generalizing after read with
  | @last c value digit =>
    have step : asciiDigit? (fold c) = some value := (asciiDigit?_fold c).trans digit
    simp [scanDigits, step, scanDigits_of_endsRun ends]
  | @next c value chars values digit _ ih =>
    have step : asciiDigit? (fold c) = some value := (asciiDigit?_fold c).trans digit
    simp [scanDigits, step, ih]
  | @underscore c value chars values digit _ ih =>
    have step : asciiDigit? (fold c) = some value := (asciiDigit?_fold c).trans digit
    have mark : fold '_' = '_' := rfl
    have noDigit : asciiDigit? '_' = none := rfl
    simp [scanDigits, step, mark, noDigit, ih]

/-- What a scan takes: nothing, where a digit stands before or none has been read; a run; or a run
after an underscore that follows a digit. -/
theorem exists_of_scanDigits (begun : after = true → read ≠ [])
    (scanned : scanDigits after read (chars.map fold) = some (digits, rest)) :
    ∃ body back values, chars = body ++ back ∧ rest = back.map fold ∧
      digits = read.reverse ++ values ∧
      (body = [] ∧ values = [] ∧ (after = true ∨ read = []) ∨ IsRun body values ∨
        after = true ∧ ∃ tail, body = '_' :: tail ∧ IsRun tail values) := by
  induction chars generalizing after read with
  | nil =>
    simp only [List.map_nil, scanDigits, Bool.or_eq_true, List.isEmpty_iff,
      Option.ite_none_right_eq_some] at scanned
    obtain ⟨stops, same⟩ := scanned
    cases same
    exact ⟨[], [], [], rfl, rfl, (List.append_nil _).symm, .inl ⟨rfl, rfl, stops⟩⟩
  | cons c chars ih =>
    rw [List.map_cons, scanDigits, asciiDigit?_fold] at scanned
    cases digit : decimalDigit? c with
    | some value =>
      rw [digit] at scanned
      obtain ⟨body, back, values, rfl, rfl, rfl, taken⟩ := ih (by simp) scanned
      refine ⟨c :: body, back, value :: values, rfl, rfl, by simp, .inr (.inl ?_)⟩
      rcases taken with ⟨rfl, rfl, -⟩ | run | ⟨-, tail, rfl, run⟩
      · exact .last digit
      · exact .next digit run
      · exact .underscore digit run
    | none =>
      have isUnderscore : fold c = '_' ↔ c = '_' := fold_eq_iff (by decide)
      simp only [digit, isUnderscore, Bool.or_eq_true, List.isEmpty_iff] at scanned
      split_ifs at scanned with underscore follows stops
      · obtain ⟨body, back, values, rfl, rfl, rfl, taken⟩ := ih (by simp) scanned
        refine ⟨c :: body, back, values, rfl, rfl, rfl, .inr (.inr ⟨follows, body, ?_, ?_⟩)⟩
        · rw [underscore]
        · rcases taken with ⟨-, -, impossible | empty⟩ | run | ⟨impossible, -⟩
          · cases impossible
          · exact absurd empty (begun follows)
          · exact run
          · cases impossible
      · cases scanned
        exact ⟨[], c :: chars, [], rfl, rfl, (List.append_nil _).symm, .inl ⟨rfl, rfl, stops⟩⟩

end Runs

/-! ## Texts -/

theorem scanSign_of_plain {chars : List Char} (plain : ∀ c ∈ chars.head?, c ≠ '+' ∧ c ≠ '-') :
    scanSign chars = (false, chars) := by
  unfold scanSign
  split
  · exact absurd rfl (plain '+' rfl).1
  · exact absurd rfl (plain '-' rfl).2
  · rfl

/-- A sign is read back from the characters it stands before, if they start with no sign. -/
theorem scanSign_of_isSign {negative : Bool} {sign rest : List Char} (isSign : IsSign negative sign)
    (plain : ∀ c ∈ rest.head?, c ≠ '+' ∧ c ≠ '-') :
    scanSign (sign.map fold ++ rest) = (negative, rest) := by
  cases isSign with
  | missing => exact scanSign_of_plain plain
  | plus => rfl
  | minus => rfl

theorem exists_of_scanSign (chars : List Char) : ∃ negative sign rest,
    chars = sign ++ rest ∧ IsSign negative sign ∧
      scanSign (chars.map fold) = (negative, rest.map fold) := by
  cases chars with
  | nil => exact ⟨false, [], [], rfl, .missing, rfl⟩
  | cons c rest =>
    by_cases plus : c = '+'
    · subst plus
      exact ⟨false, ['+'], rest, rfl, .plus, rfl⟩
    · by_cases minus : c = '-'
      · subst minus
        exact ⟨true, ['-'], rest, rfl, .minus, rfl⟩
      · refine ⟨false, [], c :: rest, rfl, .missing, scanSign_of_plain fun other isFirst => ?_⟩
        cases isFirst
        exact ⟨fun same => plus ((fold_eq_iff (by decide)).1 same),
          fun same => minus ((fold_eq_iff (by decide)).1 same)⟩

section Reading

variable {text : String} {number : Int}

theorem denotes_of_read (isRead : read text = .ok number) : Denotes text number := by
  unfold read at isRead
  -- Blanks are dropped from the folded characters, and so from the characters themselves.
  have dropped : (text.toList.map fold).dropWhile isAsciiBlank =
      (text.toList.dropWhile (isAsciiBlank ∘ fold)).map fold := List.dropWhile_map ..
  have split := List.takeWhile_append_dropWhile (p := isAsciiBlank ∘ fold) (l := text.toList)
  generalize text.toList.dropWhile (isAsciiBlank ∘ fold) = inner at dropped split
  obtain ⟨negative, sign, rest, rfl, isSign, signed⟩ := exists_of_scanSign inner
  rw [dropped, signed] at isRead
  dsimp only at isRead
  split at isRead
  · cases isRead
  · rename_i digits after scanned
    obtain ⟨body, back, values, rfl, rfl, rfl, taken⟩ := exists_of_scanDigits (by simp) scanned
    split_ifs at isRead with many malformed
    cases isRead
    rw [Bool.or_eq_true, not_or] at malformed
    obtain ⟨something, blank⟩ := malformed
    have run : IsRun body digits := by
      rcases taken with ⟨-, rfl, -⟩ | run | ⟨impossible, -⟩
      · exact absurd rfl something
      · exact run
      · cases impossible
    refine ⟨_, sign, body, back, negative, digits, split.symm, ?_, isSign, run, ?_,
      Nat.not_lt.1 many, congrArg _ (ofDigits_eq digits)⟩
    · intro c member
      have dropped : (isAsciiBlank ∘ fold) c = true := List.mem_takeWhile_imp member
      exact isAsciiBlank_fold_iff.1 dropped
    · intro c member
      have all : (back.map fold).all isAsciiBlank = true := by simpa using blank
      exact isAsciiBlank_fold_iff.1 (List.all_eq_true.1 all _ (List.mem_map_of_mem member))

theorem read_of_denotes (denotes : Denotes text number) : read text = .ok number := by
  obtain ⟨front, sign, body, back, negative, digits, split, frontBlank, isSign, run, backBlank, few,
    rfl⟩ := denotes
  have first : ∀ c ∈ (body.map fold ++ back.map fold).head?,
      isAsciiBlank c = false ∧ c ≠ '+' ∧ c ≠ '-' := by
    obtain ⟨c, rest, rfl, value, digit⟩ := run.exists_cons
    rintro _ ⟨⟩
    exact plain_of_digit ((asciiDigit?_fold c).trans digit)
  have dropped : (text.toList.map fold).dropWhile isAsciiBlank =
      sign.map fold ++ (body.map fold ++ back.map fold) := by
    rw [split, List.map_append, List.map_append, List.map_append, List.dropWhile_append_of_pos]
    · refine dropWhile_of_head? fun c isFirst => ?_
      cases isSign with
      | missing => exact (first c isFirst).1
      | plus | minus =>
        cases isFirst
        rfl
    · intro c member
      obtain ⟨given, isGiven, rfl⟩ := List.mem_map.1 member
      exact isAsciiBlank_fold_iff.2 (frontBlank given isGiven)
  have blank : (back.map fold).all isAsciiBlank = true := by
    rw [List.all_map, List.all_eq_true]
    exact fun c member => isAsciiBlank_fold_iff.2 (backBlank c member)
  have ends : EndsRun (back.map fold) := by
    intro c isFirst
    exact endsRun_of_blank (List.all_eq_true.1 blank c (List.mem_of_mem_head? isFirst))
  have something : digits.isEmpty = false := by
    cases run <;> rfl
  unfold read
  rw [dropped, scanSign_of_isSign isSign fun c isFirst => (first c isFirst).2]
  dsimp only
  rw [scanDigits_of_isRun run ends]
  dsimp only [List.reverse_nil, List.nil_append]
  rw [if_neg (Nat.not_lt.2 few), something, blank, ofDigits_eq]
  rfl

/-- Exactly the texts of an integer are read, each as the integer that it denotes. -/
theorem read_eq_ok_iff : read text = .ok number ↔ Denotes text number :=
  ⟨denotes_of_read, read_of_denotes⟩

end Reading

/-! ## Decimal texts -/

/-- Characters that are ASCII digits form a run, each with its own value. -/
theorem isRun_of_digits {chars : List Char} (something : chars ≠ [])
    (digits : ∀ c ∈ chars, '0' ≤ c ∧ c ≤ '9') :
    IsRun chars (chars.map fun c => c.toNat - '0'.toNat) := by
  have own : ∀ c ∈ chars, decimalDigit? c = some (c.toNat - '0'.toNat) := by
    intro c member
    have bound : c.toNat ≤ '9'.toNat := (digits c member).2
    rw [decimalDigit?_of_ascii (Nat.lt_of_le_of_lt bound (by decide)), asciiDigit?,
      if_pos (digits c member)]
  clear digits
  induction chars with
  | nil => exact absurd rfl something
  | cons c rest ih =>
    obtain ⟨digit, later⟩ := List.forall_mem_cons.1 own
    cases rest with
    | nil => exact .last digit
    | cons next rest => exact .next digit (ih (List.cons_ne_nil _ _) later)

/-- The decimal text of an integer within the limit is one of the texts of this integer. -/
theorem denotes_render {number : Int} (renders : Renders number) :
    Denotes (render number) number := by
  obtain ⟨negative, digits, ⟨numeral, form, value⟩, within⟩ := exists_isDecimal number
  have same : Nat.ofDigitChars 10 digits 0 =
      ofDigits (digits.map fun c => c.toNat - '0'.toNat) := by
    rw [Nat.ofDigitChars, ofDigits, List.foldl_map]
    simp only [Nat.mul_comm]
  refine ⟨[], if negative then ['-'] else [], digits, [], negative,
    digits.map fun c => c.toNat - '0'.toNat, ?_, List.forall_mem_nil _, ?_, ?_,
    List.forall_mem_nil _, ?_, ?_⟩
  · rw [form]
    cases negative <;> simp
  · cases negative
    · exact .missing
    · exact .minus
  · exact isRun_of_digits numeral.1 numeral.2.1
  · rw [List.length_map]
    exact within.2 renders
  · rw [value, same, ofDigits_eq]

end EventHooks.IntegerText
