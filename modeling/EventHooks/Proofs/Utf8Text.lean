import EventHooks.Text.Utf8
import Mathlib.Tactic.SplitIfs

/-!
# Text as UTF-8

Reading is the exact inverse of writing: the bytes of a text read back as the text, and no other
bytes do (`decode?_eq_some_iff`). Each length of a character has one lemma on when the reader takes
it, in terms of the values of its bytes, and one on the bytes that it is written as.
-/
namespace EventHooks.Utf8

/-! ## Bytes by their values -/

section Bytes

variable {a b : UInt8}

theorem isTail_iff : isTail b = true ↔ 0x80 ≤ b.toNat ∧ b.toNat < 0xC0 := by
  simp [isTail, UInt8.lt_iff_toNat_lt, UInt8.le_iff_toNat_le]

theorem isSecondOfThree_iff : isSecondOfThree a b = true ↔
    (0x80 ≤ b.toNat ∧ b.toNat < 0xC0) ∧ (a.toNat = 0xE0 → 0xA0 ≤ b.toNat) ∧
      (a.toNat = 0xED → b.toNat < 0xA0) := by
  simp only [isSecondOfThree, Bool.and_eq_true, isTail_iff, Bool.or_eq_true, bne_iff_ne, ne_eq,
    decide_eq_true_eq, UInt8.lt_iff_toNat_lt, UInt8.le_iff_toNat_le, ← UInt8.toNat_inj,
    ← Decidable.imp_iff_not_or, and_assoc]
  rfl

theorem isSecondOfFour_iff : isSecondOfFour a b = true ↔
    (0x80 ≤ b.toNat ∧ b.toNat < 0xC0) ∧ (a.toNat = 0xF0 → 0x90 ≤ b.toNat) ∧
      (a.toNat = 0xF4 → b.toNat < 0x90) := by
  simp only [isSecondOfFour, Bool.and_eq_true, isTail_iff, Bool.or_eq_true, bne_iff_ne, ne_eq,
    decide_eq_true_eq, UInt8.lt_iff_toNat_lt, UInt8.le_iff_toNat_le, ← UInt8.toNat_inj,
    ← Decidable.imp_iff_not_or, and_assoc]
  rfl

end Bytes

/-! ## Characters by their length -/

/-- The bytes of a character by the length of its code. -/
theorem encodeChar_eq (character : Char) : String.utf8EncodeChar character =
    if character.toNat ≤ 0x7F then [UInt8.ofNat character.toNat]
    else if character.toNat ≤ 0x7FF then
      [UInt8.ofNat (character.toNat / 64 % 32 + 192), UInt8.ofNat (character.toNat % 64 + 128)]
    else if character.toNat ≤ 0xFFFF then
      [UInt8.ofNat (character.toNat / 4096 % 16 + 224),
        UInt8.ofNat (character.toNat / 64 % 64 + 128), UInt8.ofNat (character.toNat % 64 + 128)]
    else
      [UInt8.ofNat (character.toNat / 262144 % 8 + 240),
        UInt8.ofNat (character.toNat / 4096 % 64 + 128),
        UInt8.ofNat (character.toNat / 64 % 64 + 128), UInt8.ofNat (character.toNat % 64 + 128)] :=
  rfl

section Characters

variable (offset : Nat) (read : List Char) {a b c d : UInt8} (rest : Bytes)

theorem decodeFrom_one (first : a.toNat < 0x80) :
    decodeFrom offset read (a :: rest) =
      decodeFrom (offset + 1) (assemble a.toNat [] :: read) rest := by
  rw [decodeFrom.eq_def]
  simp [UInt8.lt_iff_toNat_lt, first]

theorem decodeFrom_two (first : 0xC2 ≤ a.toNat ∧ a.toNat < 0xE0) (second : isTail b = true) :
    decodeFrom offset read (a :: b :: rest) =
      decodeFrom (offset + 2) (assemble (a.toNat % 32) [b] :: read) rest := by
  have notOne : ¬ a.toNat < 0x80 := by omega
  rw [decodeFrom.eq_def]
  simp [UInt8.lt_iff_toNat_lt, notOne, Nat.not_lt.2 first.1, first.2, second]

theorem decodeFrom_three (first : 0xE0 ≤ a.toNat ∧ a.toNat < 0xF0)
    (second : isSecondOfThree a b = true) (third : isTail c = true) :
    decodeFrom offset read (a :: b :: c :: rest) =
      decodeFrom (offset + 3) (assemble (a.toNat % 16) [b, c] :: read) rest := by
  have notOne : ¬ a.toNat < 0x80 := by omega
  have notTail : ¬ a.toNat < 0xC2 := by omega
  rw [decodeFrom.eq_def]
  simp [UInt8.lt_iff_toNat_lt, notOne, notTail, Nat.not_lt.2 first.1, first.2, second, third]

theorem decodeFrom_four (first : 0xF0 ≤ a.toNat ∧ a.toNat < 0xF5)
    (second : isSecondOfFour a b = true) (third : isTail c = true) (fourth : isTail d = true) :
    decodeFrom offset read (a :: b :: c :: d :: rest) =
      decodeFrom (offset + 4) (assemble (a.toNat % 8) [b, c, d] :: read) rest := by
  have notOne : ¬ a.toNat < 0x80 := by omega
  have notTail : ¬ a.toNat < 0xC2 := by omega
  have notTwo : ¬ a.toNat < 0xE0 := by omega
  rw [decodeFrom.eq_def]
  simp [UInt8.lt_iff_toNat_lt, notOne, notTail, notTwo, Nat.not_lt.2 first.1, first.2, second,
    third, fourth]

theorem toNat_ofNat {value : Nat} (byte : value < 256) : (UInt8.ofNat value).toNat = value :=
  UInt8.toNat_ofNat_of_lt' byte

/-- The reader takes the bytes of one character at once. -/
theorem decodeFrom_encodeChar (character : Char) :
    decodeFrom offset read (String.utf8EncodeChar character ++ rest) =
      decodeFrom (offset + (String.utf8EncodeChar character).length) (character :: read) rest := by
  have valid : character.toNat < 0xD800 ∨ 0xDFFF < character.toNat ∧ character.toNat < 0x110000 :=
    character.valid
  have code : Char.ofNat character.toNat = character := Char.ofNat_toNat character
  rw [encodeChar_eq]
  generalize character.toNat = value at *
  have last : (UInt8.ofNat (value % 64 + 128)).toNat = value % 64 + 128 := toNat_ofNat (by omega)
  have third : (UInt8.ofNat (value / 64 % 64 + 128)).toNat = value / 64 % 64 + 128 :=
    toNat_ofNat (by omega)
  have second : (UInt8.ofNat (value / 4096 % 64 + 128)).toNat = value / 4096 % 64 + 128 :=
    toNat_ofNat (by omega)
  split_ifs with one two three
  · have first : (UInt8.ofNat value).toNat = value := toNat_ofNat (by omega)
    rw [List.singleton_append, decodeFrom_one _ _ _ (by omega)]
    simp [assemble, first, code]
  · have first : (UInt8.ofNat (value / 64 % 32 + 192)).toNat = value / 64 % 32 + 192 :=
      toNat_ofNat (by omega)
    have joined : (value / 64 % 32 + 192) % 32 * 64 + (value % 64 + 128) % 64 = value := by omega
    rw [List.cons_append, List.singleton_append,
      decodeFrom_two _ _ _ (by omega) (isTail_iff.2 (by omega))]
    simp only [assemble, List.foldl_cons, List.foldl_nil, first, last, joined, code]
    rfl
  · have first : (UInt8.ofNat (value / 4096 % 16 + 224)).toNat = value / 4096 % 16 + 224 :=
      toNat_ofNat (by omega)
    have joined : ((value / 4096 % 16 + 224) % 16 * 64 + (value / 64 % 64 + 128) % 64) * 64 +
        (value % 64 + 128) % 64 = value := by omega
    rw [List.cons_append, List.cons_append, List.singleton_append,
      decodeFrom_three _ _ _ (by omega) (isSecondOfThree_iff.2 (by omega))
        (isTail_iff.2 (by omega))]
    simp only [assemble, List.foldl_cons, List.foldl_nil, first, third, last, joined, code]
    rfl
  · have first : (UInt8.ofNat (value / 262144 % 8 + 240)).toNat = value / 262144 % 8 + 240 :=
      toNat_ofNat (by omega)
    have joined : (((value / 262144 % 8 + 240) % 8 * 64 + (value / 4096 % 64 + 128) % 64) * 64 +
        (value / 64 % 64 + 128) % 64) * 64 + (value % 64 + 128) % 64 = value := by omega
    rw [List.cons_append, List.cons_append, List.cons_append, List.singleton_append,
      decodeFrom_four _ _ _ (by omega) (isSecondOfFour_iff.2 (by omega))
        (isTail_iff.2 (by omega)) (isTail_iff.2 (by omega))]
    simp only [assemble, List.foldl_cons, List.foldl_nil, first, second, third, last, joined, code]
    rfl

end Characters

/-! ## Bytes of one character -/

section Assembled

variable {a b c d : UInt8}

theorem ofNat_eq {value : Nat} {byte : UInt8} (same : value = byte.toNat) :
    UInt8.ofNat value = byte := by
  rw [same, UInt8.ofNat_toNat]

theorem toNat_assemble {high code : Nat} {tails : Bytes}
    (joined : tails.foldl (fun code byte => code * 64 + byte.toNat % 64) high = code)
    (valid : code < 0xD800 ∨ 0xDFFF < code ∧ code < 0x110000) :
    (assemble high tails).toNat = code := by
  rw [assemble, joined, Char.ofNat, dif_pos valid]
  rfl

theorem encodeChar_one (first : a.toNat < 0x80) :
    String.utf8EncodeChar (assemble a.toNat []) = [a] := by
  rw [encodeChar_eq, toNat_assemble rfl (by dsimp only [List.foldl_nil]; omega),
    List.foldl_nil, if_pos (by omega), UInt8.ofNat_toNat]

theorem encodeChar_two (first : 0xC2 ≤ a.toNat ∧ a.toNat < 0xE0) (second : isTail b = true) :
    String.utf8EncodeChar (assemble (a.toNat % 32) [b]) = [a, b] := by
  rw [isTail_iff] at second
  obtain ⟨code, joined⟩ : ∃ code, a.toNat % 32 * 64 + b.toNat % 64 = code := ⟨_, rfl⟩
  have isFirst : UInt8.ofNat (code / 64 % 32 + 192) = a := ofNat_eq (by omega)
  have isSecond : UInt8.ofNat (code % 64 + 128) = b := ofNat_eq (by omega)
  have isCode : (assemble (a.toNat % 32) [b]).toNat = code := toNat_assemble joined (by omega)
  rw [encodeChar_eq, isCode, if_neg (by omega), if_pos (by omega), isFirst, isSecond]

theorem encodeChar_three (first : 0xE0 ≤ a.toNat ∧ a.toNat < 0xF0)
    (second : isSecondOfThree a b = true) (third : isTail c = true) :
    String.utf8EncodeChar (assemble (a.toNat % 16) [b, c]) = [a, b, c] := by
  obtain ⟨tail, overlong, surrogate⟩ := isSecondOfThree_iff.1 second
  rw [isTail_iff] at third
  obtain ⟨code, joined⟩ :
      ∃ code, (a.toNat % 16 * 64 + b.toNat % 64) * 64 + c.toNat % 64 = code := ⟨_, rfl⟩
  have isFirst : UInt8.ofNat (code / 4096 % 16 + 224) = a := ofNat_eq (by omega)
  have isSecond : UInt8.ofNat (code / 64 % 64 + 128) = b := ofNat_eq (by omega)
  have isThird : UInt8.ofNat (code % 64 + 128) = c := ofNat_eq (by omega)
  have isCode : (assemble (a.toNat % 16) [b, c]).toNat = code := toNat_assemble joined (by omega)
  rw [encodeChar_eq, isCode, if_neg (by omega), if_neg (by omega), if_pos (by omega), isFirst,
    isSecond, isThird]

theorem encodeChar_four (first : 0xF0 ≤ a.toNat ∧ a.toNat < 0xF5)
    (second : isSecondOfFour a b = true) (third : isTail c = true) (fourth : isTail d = true) :
    String.utf8EncodeChar (assemble (a.toNat % 8) [b, c, d]) = [a, b, c, d] := by
  obtain ⟨tail, overlong, large⟩ := isSecondOfFour_iff.1 second
  rw [isTail_iff] at third fourth
  obtain ⟨code, joined⟩ : ∃ code, ((a.toNat % 8 * 64 + b.toNat % 64) * 64 + c.toNat % 64) * 64 +
      d.toNat % 64 = code := ⟨_, rfl⟩
  have isFirst : UInt8.ofNat (code / 262144 % 8 + 240) = a := ofNat_eq (by omega)
  have isSecond : UInt8.ofNat (code / 4096 % 64 + 128) = b := ofNat_eq (by omega)
  have isThird : UInt8.ofNat (code / 64 % 64 + 128) = c := ofNat_eq (by omega)
  have isFourth : UInt8.ofNat (code % 64 + 128) = d := ofNat_eq (by omega)
  have isCode : (assemble (a.toNat % 8) [b, c, d]).toNat = code :=
    toNat_assemble joined (by omega)
  rw [encodeChar_eq, isCode, if_neg (by omega), if_neg (by omega), if_neg (by omega), isFirst,
    isSecond, isThird, isFourth]

end Assembled

/-- What is read begins with the bytes of one character, and the rest is read after it. -/
theorem exists_of_decodeFrom_cons {offset : Nat} {read content : List Char} {a : UInt8}
    {rest : Bytes} (isRead : decodeFrom offset read (a :: rest) = .ok content) :
    ∃ (character : Char) (later : Bytes) (place : Nat),
      a :: rest = String.utf8EncodeChar character ++ later ∧
      decodeFrom place (character :: read) later = .ok content := by
  rw [decodeFrom.eq_def] at isRead
  dsimp only at isRead
  simp only [UInt8.lt_iff_toNat_lt, Bool.not_eq_true'] at isRead
  split_ifs at isRead with one low two three four
  · exact ⟨_, rest, _, by rw [encodeChar_one one]; rfl, isRead⟩
  · have first : 0xC2 ≤ a.toNat ∧ a.toNat < 0xE0 := ⟨Nat.not_lt.1 low, two⟩
    split at isRead
    · cases isRead
    · rename_i b later
      split_ifs at isRead with second
      exact ⟨_, later, _, by rw [encodeChar_two first (by simpa using second)]; rfl, isRead⟩
  · have first : 0xE0 ≤ a.toNat ∧ a.toNat < 0xF0 := ⟨Nat.not_lt.1 two, three⟩
    split at isRead
    · cases isRead
    · rename_i b later
      split_ifs at isRead with second
      split at isRead
      · cases isRead
      · rename_i c later
        split_ifs at isRead with third
        exact ⟨_, later, _, by
          rw [encodeChar_three first (by simpa using second) (by simpa using third)]; rfl, isRead⟩
  · have first : 0xF0 ≤ a.toNat ∧ a.toNat < 0xF5 := ⟨Nat.not_lt.1 three, four⟩
    split at isRead
    · cases isRead
    · rename_i b later
      split_ifs at isRead with second
      split at isRead
      · cases isRead
      · rename_i c later
        split_ifs at isRead with third
        split at isRead
        · cases isRead
        · rename_i d later
          split_ifs at isRead with fourth
          exact ⟨_, later, _, by
            rw [encodeChar_four first (by simpa using second) (by simpa using third)
              (by simpa using fourth)]; rfl, isRead⟩

/-! ## Texts -/

theorem decodeFrom_encode (offset : Nat) (read content : List Char) :
    decodeFrom offset read (content.flatMap String.utf8EncodeChar) =
      .ok (read.reverse ++ content) := by
  induction content generalizing offset read with
  | nil => simp [decodeFrom]
  | cons character content ih =>
    rw [List.flatMap_cons, decodeFrom_encodeChar, ih]
    simp

/-- The bytes of a text read back as the text. -/
theorem decode_encode (text : String) : decode (encode text) = .ok text := by
  rw [decode, encode, decodeFrom_encode]
  simp [Except.map]

theorem encode_of_decodeFrom {offset : Nat} {read content : List Char} {bytes : Bytes}
    (isRead : decodeFrom offset read bytes = .ok content) :
    ∃ more, content = read.reverse ++ more ∧ more.flatMap String.utf8EncodeChar = bytes := by
  -- The induction is on the number of bytes, as one character takes up to four of them.
  induction long : bytes.length using Nat.strongRecOn generalizing offset read bytes with
  | ind count ih =>
    cases bytes with
    | nil =>
      cases isRead
      exact ⟨[], by simp, rfl⟩
    | cons a rest =>
      obtain ⟨character, later, place, split, isLater⟩ := exists_of_decodeFrom_cons isRead
      have shorter : later.length < count := by
        have positive := character.utf8Size_pos
        rw [← long, split, List.length_append, String.length_utf8EncodeChar]
        omega
      obtain ⟨more, rfl, written⟩ := ih later.length shorter isLater rfl
      exact ⟨character :: more, by simp, by rw [List.flatMap_cons, written, split]⟩

/-- Bytes read as a text exactly if they are those of the text. -/
theorem decode?_eq_some_iff {bytes : Bytes} {text : String} :
    decode? bytes = some text ↔ encode text = bytes := by
  constructor
  · intro isRead
    unfold decode? decode at isRead
    cases content : decodeFrom 0 [] bytes with
    | error fault =>
      rw [content] at isRead
      cases isRead
    | ok chars =>
      rw [content] at isRead
      obtain rfl := Option.some.inj isRead
      obtain ⟨more, rfl, written⟩ := encode_of_decodeFrom content
      simpa [encode] using written
  · rintro rfl
    rw [decode?, decode_encode]
    rfl

theorem decode?_eq_none_iff {bytes : Bytes} :
    decode? bytes = none ↔ ∀ text, encode text ≠ bytes := by
  simp only [Option.eq_none_iff_forall_ne_some, ne_eq, decode?_eq_some_iff]

/-- The bytes of a text are those of no other text. -/
theorem encode_injective {text other : String} (same : encode text = encode other) :
    text = other := by
  have read := decode_encode text
  rw [same, decode_encode] at read
  exact (Except.ok.inj read).symm

end EventHooks.Utf8
