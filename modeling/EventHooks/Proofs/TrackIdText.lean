import EventHooks.TrackId
import Mathlib.Data.List.GetD
import Mathlib.Data.Nat.Digits.Lemmas

/-!
# Text forms of track identifiers

Reading and writing text forms are inverse to each other. The texts that are read are described
by the alphabet and by positional notation alone, and every other text has exactly one fault.
-/
namespace EventHooks.TrackId

/-- Positional interpretation to the base 62, most significant digit first, independent of the
    order in which digits are read or written. -/
def Positional (chars : List Char) : Nat :=
  Nat.ofDigits 62 (chars.reverse.map fun c => alphabet.idxOf c)

/-- Exactly the digits of the alphabet; no normalization of case. -/
def Digits (chars : List Char) : Prop := ∀ c ∈ chars, c ∈ alphabet

/-- Exactly the texts of 22 digits whose number has 128 bits at most. -/
def IsTextForm (text : String) : Prop :=
  text.length = 22 ∧ Digits text.toList ∧ Positional text.toList < 2 ^ 128

/-- The one fault of a text: its length, then its first character that is no digit, then its
    range. Faults keep the unchanged text. -/
def HasFault (text : String) : Fault String → Prop
  | .length given => given = text ∧ text.length ≠ 22
  | .digit element given => given = text ∧ text.length = 22 ∧
      ∃ front c back, text.toList = front ++ c :: back ∧ Digits front ∧ c ∉ alphabet ∧
        element = String.singleton c
  | .range given => given = text ∧ text.length = 22 ∧ Digits text.toList ∧
      2 ^ 128 ≤ Positional text.toList

/-! ## Digits -/

theorem length_alphabet : alphabet.length = 62 := by decide

theorem nodup_alphabet : alphabet.Nodup := by decide +kernel

theorem idxOf_lt {c : Char} (digit : c ∈ alphabet) : alphabet.idxOf c < 62 := by
  rw [← length_alphabet]
  exact List.idxOf_lt_length_of_mem digit

theorem digitValue?_of_mem {c : Char} (digit : c ∈ alphabet) :
    digitValue? c = some (alphabet.idxOf c) := by
  have inside := List.idxOf_lt_length_of_mem digit
  refine List.idxOf?_eq_some_iff.2 ⟨inside, List.getElem_idxOf inside, ?_⟩
  intro earlier before same
  have place := nodup_alphabet.idxOf_getElem earlier (by omega)
  rw [same] at place
  omega

theorem digitValue?_of_not_mem {c : Char} (other : c ∉ alphabet) : digitValue? c = none :=
  List.idxOf?_eq_none_iff.2 other

theorem digitChar_mem {value : Nat} (small : value < 62) : digitChar value ∈ alphabet := by
  have inside : value < alphabet.length := by rw [length_alphabet]; exact small
  rw [digitChar, List.getD_eq_getElem _ _ inside]
  exact List.getElem_mem inside

theorem idxOf_digitChar {value : Nat} (small : value < 62) :
    alphabet.idxOf (digitChar value) = value := by
  have inside : value < alphabet.length := by rw [length_alphabet]; exact small
  rw [digitChar, List.getD_eq_getElem _ _ inside]
  exact nodup_alphabet.idxOf_getElem value inside

theorem digitChar_idxOf {c : Char} (digit : c ∈ alphabet) : digitChar (alphabet.idxOf c) = c := by
  rw [digitChar, List.getD_eq_getElem _ _ (List.idxOf_lt_length_of_mem digit)]
  exact List.getElem_idxOf _

/-! ## Positional notation -/

theorem positional_nil : Positional [] = 0 := rfl

theorem positional_concat (front : List Char) (c : Char) :
    Positional (front ++ [c]) = Positional front * 62 + alphabet.idxOf c := by
  simp only [Positional, List.reverse_append, List.reverse_singleton, List.singleton_append,
    List.map_cons, Nat.ofDigits_cons]
  ring

theorem digits_concat {front : List Char} {c : Char} :
    Digits (front ++ [c]) ↔ Digits front ∧ c ∈ alphabet := by
  simp only [Digits, List.forall_mem_append, List.forall_mem_singleton]

theorem length_digits (count number : Nat) : (digits count number).length = count := by
  induction count generalizing number with
  | zero => rfl
  | succ count ih => simp [digits, ih]

theorem digits_of_digits (count number : Nat) : Digits (digits count number) := by
  induction count generalizing number with
  | zero => simp [digits, Digits]
  | succ count ih =>
    rw [digits, digits_concat]
    exact ⟨ih _, digitChar_mem (Nat.mod_lt _ (by omega))⟩

/-- Writing keeps a number up to the power of 62 that its digits cannot reach. -/
theorem positional_digits (count number : Nat) :
    Positional (digits count number) = number % 62 ^ count := by
  induction count generalizing number with
  | zero => simp [digits, positional_nil, Nat.mod_one]
  | succ count ih =>
    rw [digits, positional_concat, ih, idxOf_digitChar (Nat.mod_lt _ (by omega)), pow_succ',
      Nat.mod_mul]
    ring

/-- Digits are written again from the number that they write. -/
theorem digits_positional {chars : List Char} (valid : Digits chars) :
    digits chars.length (Positional chars) = chars := by
  induction chars using List.reverseRecOn with
  | nil => rfl
  | append_singleton front c ih =>
    obtain ⟨validFront, digit⟩ := digits_concat.1 valid
    have small := idxOf_lt digit
    have quotient : (Positional front * 62 + alphabet.idxOf c) / 62 = Positional front := by omega
    have remainder : (Positional front * 62 + alphabet.idxOf c) % 62 = alphabet.idxOf c := by
      omega
    rw [List.length_append, List.length_singleton, digits, positional_concat, quotient, remainder,
      ih validFront, digitChar_idxOf digit]

/-! ## Reading -/

theorem ofElements_append {α ε : Type} (value : α → Except ε Nat) (front back : List α) :
    ofElements value (front ++ back) = (ofElements value front).bind fun number =>
      back.foldlM (fun number element => (value element).map (number * 62 + ·)) number :=
  List.foldlM_append

/-- Elements write no number only if one of them has no value. -/
theorem exists_of_ofElements_eq_error {α ε : Type} {value : α → Except ε Nat} {elements : List α}
    {error : ε} (failed : ofElements value elements = .error error) :
    ∃ element ∈ elements, value element = .error error := by
  unfold ofElements at failed
  generalize 0 = number at failed
  induction elements generalizing number with
  | nil => cases failed
  | cons element rest ih =>
    rw [List.foldlM_cons] at failed
    cases valued : value element with
    | error other =>
      rw [valued] at failed
      cases failed
      exact ⟨element, List.mem_cons_self, valued⟩
    | ok digit =>
      rw [valued] at failed
      obtain ⟨later, member, failing⟩ := ih _ failed
      exact ⟨later, List.mem_cons_of_mem _ member, failing⟩

theorem ofElements_of_digits (text : String) {chars : List Char} (valid : Digits chars) :
    ofElements (readDigit text) chars = .ok (Positional chars) := by
  induction chars using List.reverseRecOn with
  | nil => rfl
  | append_singleton front c ih =>
    obtain ⟨validFront, digit⟩ := digits_concat.1 valid
    have value : readDigit text c = .ok (alphabet.idxOf c) := by
      simp only [readDigit, digitValue?_of_mem digit]
    rw [ofElements_append, ih validFront, positional_concat]
    simp only [Except.bind, List.foldlM_cons, List.foldlM_nil, value, Except.map]
    rfl

theorem ofElements_of_not_digit (text : String) {front back : List Char} {c : Char}
    (valid : Digits front) (other : c ∉ alphabet) :
    ofElements (readDigit text) (front ++ c :: back) =
      .error (.digit (String.singleton c) text) := by
  have value : readDigit text c = .error (.digit (String.singleton c) text) := by
    simp only [readDigit, digitValue?_of_not_mem other]
  rw [ofElements_append, ofElements_of_digits text valid]
  simp only [Except.bind, List.foldlM_cons, value, Except.map]
  rfl

/-- Characters are digits, or there is a first one that is none. -/
theorem digits_or_first_other (chars : List Char) :
    Digits chars ∨ ∃ front c back, chars = front ++ c :: back ∧ Digits front ∧ c ∉ alphabet := by
  induction chars with
  | nil => exact .inl (by simp [Digits])
  | cons c rest ih =>
    by_cases digit : c ∈ alphabet
    · rcases ih with valid | ⟨front, other, back, rfl, valid, isOther⟩
      · exact .inl (List.forall_mem_cons.2 ⟨digit, valid⟩)
      · exact .inr ⟨c :: front, other, back, rfl, List.forall_mem_cons.2 ⟨digit, valid⟩, isOther⟩
    · exact .inr ⟨[], c, rest, rfl, by simp [Digits], digit⟩

theorem parse_of_isTextForm {text : String} (form : IsTextForm text) :
    parse text = .ok ⟨Positional text.toList⟩ := by
  obtain ⟨long, valid, small⟩ := form
  have inRange : Positional text.toList < bound := small
  simp only [parse, width, long, ↓reduceIte, ofElements_of_digits text valid, ofNumber, inRange]

theorem parse_of_hasFault {text : String} {fault : Fault String} (faulty : HasFault text fault) :
    parse text = .error fault := by
  cases fault with
  | length given =>
    obtain ⟨rfl, long⟩ := faulty
    simp only [parse, width, long, ↓reduceIte]
  | digit element given =>
    obtain ⟨rfl, long, front, c, back, split, valid, other, rfl⟩ := faulty
    simp only [parse, width, long, ↓reduceIte, split, ofElements_of_not_digit _ valid other]
  | range given =>
    obtain ⟨rfl, long, valid, large⟩ := faulty
    have outOfRange : ¬ Positional given.toList < bound := Nat.not_lt.2 large
    simp only [parse, width, long, ↓reduceIte, ofElements_of_digits _ valid, ofNumber, outOfRange]

theorem isTextForm_or_hasFault (text : String) :
    IsTextForm text ∨ ∃ fault, HasFault text fault := by
  by_cases long : text.length = 22
  · rcases digits_or_first_other text.toList with valid | ⟨front, c, back, split, valid, other⟩
    · by_cases small : Positional text.toList < 2 ^ 128
      · exact .inl ⟨long, valid, small⟩
      · exact .inr ⟨.range text, rfl, long, valid, Nat.not_lt.1 small⟩
    · exact .inr ⟨.digit (String.singleton c) text, rfl, long, front, c, back, split, valid, other,
        rfl⟩
  · exact .inr ⟨.length text, rfl, long⟩

theorem parse_eq_ok_iff {text : String} {id : TrackId} :
    parse text = .ok id ↔ IsTextForm text ∧ id.raw = Positional text.toList := by
  constructor
  · intro read
    rcases isTextForm_or_hasFault text with form | ⟨fault, faulty⟩
    · rw [parse_of_isTextForm form] at read
      cases read
      exact ⟨form, rfl⟩
    · rw [parse_of_hasFault faulty] at read
      cases read
  · rintro ⟨form, same⟩
    rw [parse_of_isTextForm form, ← same]

theorem parse_eq_error_iff {text : String} {fault : Fault String} :
    parse text = .error fault ↔ HasFault text fault := by
  constructor
  · intro read
    rcases isTextForm_or_hasFault text with form | ⟨other, faulty⟩
    · rw [parse_of_isTextForm form] at read
      cases read
    · rw [parse_of_hasFault faulty] at read
      cases read
      exact faulty
  · exact parse_of_hasFault

/-! ## Writing -/

theorem format?_eq_none_iff {id : TrackId} :
    id.format? = none ↔ id.raw < 0 ∨ 2 ^ 128 ≤ id.raw := by
  have limit : (bound : Int) = 2 ^ 128 := by norm_num [bound]
  rw [format?, limit]
  split_ifs with inRange
  · simp only [false_iff]
    omega
  · simp only [true_iff]
    omega

/-- Twenty-two digits suffice for 128 bits. -/
theorem positional_digits_of_lt {number : Nat} (small : number < 2 ^ 128) :
    Positional (digits 22 number) = number := by
  have reach : (2 : Nat) ^ 128 < 62 ^ 22 := by norm_num
  rw [positional_digits, Nat.mod_eq_of_lt (small.trans reach)]

theorem format?_eq_some_iff {id : TrackId} {text : String} :
    id.format? = some text ↔ IsTextForm text ∧ id.raw = Positional text.toList := by
  have limit : (bound : Int) = 2 ^ 128 := by norm_num [bound]
  rw [format?, limit]
  constructor
  · intro written
    split_ifs at written with inRange
    obtain rfl := Option.some.inj written
    have small : id.raw.toNat < 2 ^ 128 := by omega
    refine ⟨⟨?_, ?_, ?_⟩, ?_⟩
    · rw [String.length_ofList, length_digits, width]
    · rw [String.toList_ofList]
      exact digits_of_digits _ _
    · rw [String.toList_ofList, width, positional_digits_of_lt small]
      exact small
    · rw [String.toList_ofList, width, positional_digits_of_lt small]
      omega
  · rintro ⟨⟨long, valid, small⟩, same⟩
    have number : id.raw.toNat = Positional text.toList := by omega
    have inRange : 0 ≤ id.raw ∧ id.raw < 2 ^ 128 := by omega
    have again := digits_positional valid
    rw [String.length_toList, long] at again
    rw [if_pos inRange, number, width, again, String.ofList_toList]

/-- A number of 128 bits has a text form, and is read back from it. -/
theorem exists_format? {id : TrackId} (inRange : 0 ≤ id.raw ∧ id.raw < 2 ^ 128) :
    ∃ text, id.format? = some text ∧ parse text = .ok id := by
  cases form : id.format? with
  | none =>
    have outside := format?_eq_none_iff.1 form
    omega
  | some text => exact ⟨text, rfl, parse_eq_ok_iff.2 (format?_eq_some_iff.1 form)⟩

/-- Reading and writing text forms are inverse to each other, on exactly the numbers of 128 bits
    and exactly the texts of 22 digits that write one; any other text has its one fault. -/
theorem text_form_exact (id : TrackId) (text : String) :
    (id.format? = none ↔ id.raw < 0 ∨ 2 ^ 128 ≤ id.raw) ∧
      (id.format? = some text ↔ parse text = .ok id) ∧
      (parse text = .ok id ↔ IsTextForm text ∧ id.raw = Positional text.toList) ∧
      ∀ fault, parse text = .error fault ↔ HasFault text fault :=
  ⟨format?_eq_none_iff, format?_eq_some_iff.trans parse_eq_ok_iff.symm, parse_eq_ok_iff,
    fun _ => parse_eq_error_iff⟩

/-- Not every text of 22 digits is a text form: 62 to the power of 22 exceeds 2 to that of 128. -/
example : parse "ZZZZZZZZZZZZZZZZZZZZZZ" = .error (.range "ZZZZZZZZZZZZZZZZZZZZZZ") := by
  rfl

end EventHooks.TrackId
