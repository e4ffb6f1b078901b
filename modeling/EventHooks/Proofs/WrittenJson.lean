import EventHooks.Json.Writer
import EventHooks.Proofs.Environments
import Mathlib.Algebra.Group.Nat.Defs
import Mathlib.Data.List.Forall2
import Mathlib.Tactic.SplitIfs

/-!
# Reading what is written

A written text reads back as the text whatever follows it, and a written record as an object with
its members. What is written is ASCII without any control but the line feed.
-/
namespace EventHooks

/-! ## Hexadecimal digits -/

namespace Text

theorem ofHexDigits?_hexDigits (width number : Nat) :
    ofHexDigits? (hexDigits width number) = some (number % 16 ^ width) := by
  induction width generalizing number with
  | zero => simp [hexDigits, ofHexDigits?, Nat.mod_one]
  | succ width ih =>
    have digit : hexValue? (hexDigit (number % 16)) = some (number % 16) :=
      hexValue?_hexDigit _ (Nat.mod_lt _ (by decide))
    have split : number % 16 ^ (width + 1) = number / 16 % 16 ^ width * 16 + number % 16 := by
      rw [Nat.pow_succ, Nat.mul_comm, Nat.mod_mul, Nat.add_comm, Nat.mul_comm]
    unfold ofHexDigits? at ih ⊢
    rw [hexDigits, List.foldlM_append, ih, split]
    simp [digit]

end Text

namespace Json

/-! ## Written characters -/

/-- A code of four digits is read if another character follows. -/
theorem readCode_hexDigits {code : Nat} (small : code < 0x10000) (next : Char)
    (rest : List Char) :
    readCode (Text.hexDigits 4 code ++ next :: rest) = .ok (code, next :: rest) := by
  have digits : Text.ofHexDigits? (Text.hexDigits 4 code) = some code := by
    have whole := Text.ofHexDigits?_hexDigits 4 code
    have smallPower : code < 16 ^ 4 := small
    rwa [Nat.mod_eq_of_lt smallPower] at whole
  obtain ⟨a, b, c, d, same⟩ : ∃ a b c d, Text.hexDigits 4 code = [a, b, c, d] := ⟨_, _, _, _, rfl⟩
  rw [same] at digits ⊢
  simp [readCode, digits]

/-- The code of a character is not half of a surrogate pair. -/
theorem not_surrogate (c : Char) :
    isHighSurrogate c.toNat = false ∧ isLowSurrogate c.toNat = false := by
  have valid : c.toNat < 0xD800 ∨ 0xDFFF < c.toNat ∧ c.toNat < 0x110000 := c.valid
  simp only [isHighSurrogate, isLowSurrogate, Bool.and_eq_false_iff, decide_eq_false_iff_not]
  omega

theorem charOfCode_toNat (c : Char) : charOfCode c.toNat = c := by
  obtain ⟨high, low⟩ := not_surrogate c
  simp [charOfCode, high, low, Char.ofNat_toNat]

theorem readUnicodeEscape_toNat {c : Char} (small : c.toNat < 0x10000) (next : Char)
    (rest : List Char) :
    readUnicodeEscape (Text.hexDigits 4 c.toNat ++ next :: rest) = .ok (c, next :: rest) := by
  simp [readUnicodeEscape, readCode_hexDigits small, (not_surrogate c).1, charOfCode_toNat]

theorem readUnicodeEscape_pair {high low : Nat} (isHigh : isHighSurrogate high = true)
    (isLow : isLowSurrogate low = true) (next : Char) (rest : List Char) :
    readUnicodeEscape (Text.hexDigits 4 high ++ unicodeEscape low ++ next :: rest) =
      .ok (joinSurrogates high low, next :: rest) := by
  have highSmall : high < 0x10000 := by
    simp only [isHighSurrogate, Bool.and_eq_true, decide_eq_true_eq] at isHigh
    omega
  have lowSmall : low < 0x10000 := by
    simp only [isLowSurrogate, Bool.and_eq_true, decide_eq_true_eq] at isLow
    omega
  have readLow := readCode_hexDigits lowSmall next rest
  obtain ⟨a, b, c, d, same⟩ : ∃ a b c d, Text.hexDigits 4 low = [a, b, c, d] := ⟨_, _, _, _, rfl⟩
  have readHigh := readCode_hexDigits highSmall '\\' ('u' :: a :: b :: c :: d :: next :: rest)
  rw [same] at readLow
  simp only [List.cons_append, List.nil_append] at readLow
  simp [readUnicodeEscape, unicodeEscape, same, readHigh, isHigh, readLow, isLow]

/-- A character above U+FFFF is the join of its two halves. -/
theorem surrogates_of_large {c : Char} (large : ¬ c.toNat < 0x10000) :
    isHighSurrogate (0xD800 + (c.toNat - 0x10000) / 0x400) = true ∧
      isLowSurrogate (0xDC00 + (c.toNat - 0x10000) % 0x400) = true ∧
      joinSurrogates (0xD800 + (c.toNat - 0x10000) / 0x400)
        (0xDC00 + (c.toNat - 0x10000) % 0x400) = c := by
  have valid : c.toNat < 0xD800 ∨ 0xDFFF < c.toNat ∧ c.toNat < 0x110000 := c.valid
  refine ⟨?_, ?_, ?_⟩
  · simp only [isHighSurrogate, Bool.and_eq_true, decide_eq_true_eq]
    omega
  · simp only [isLowSurrogate, Bool.and_eq_true, decide_eq_true_eq]
    omega
  · have code : 0x10000 + (0xD800 + (c.toNat - 0x10000) / 0x400 - 0xD800) * 0x400 +
        (0xDC00 + (c.toNat - 0x10000) % 0x400 - 0xDC00) = c.toNat := by omega
    rw [joinSurrogates, code, Char.ofNat_toNat]

section Steps

variable (start fuel : Nat) (read : List Char) (next : Char) (rest : List Char)

theorem readChars_simpleEscape {letter c : Char} (plain : letter ≠ 'u')
    (stands : simpleEscape? letter = some c) :
    readChars start (fuel + 1) read ('\\' :: letter :: next :: rest) =
      readChars start fuel (c :: read) (next :: rest) := by
  simp [readChars, plain, stands]

theorem readChars_unicodeEscape {chars after : List Char} {c : Char}
    (reads : readUnicodeEscape chars = .ok (c, after)) :
    readChars start (fuel + 1) read ('\\' :: 'u' :: chars) =
      readChars start fuel (c :: read) after := by
  simp [readChars, reads]

/-- A step of the reader undoes a step of the writer, if another character follows. -/
theorem readChars_writtenChar (c : Char) :
    readChars start (fuel + 1) read (writtenChar c ++ next :: rest) =
      readChars start fuel (c :: read) (next :: rest) := by
  unfold writtenChar
  split_ifs with mark feed carriage tab form back plain small
  · rcases mark with rfl | rfl
    · exact readChars_simpleEscape start fuel read next rest (by decide) rfl
    · exact readChars_simpleEscape start fuel read next rest (by decide) rfl
  · subst feed
    exact readChars_simpleEscape start fuel read next rest (by decide) rfl
  · subst carriage
    exact readChars_simpleEscape start fuel read next rest (by decide) rfl
  · subst tab
    exact readChars_simpleEscape start fuel read next rest (by decide) rfl
  · subst form
    exact readChars_simpleEscape start fuel read next rest (by decide) rfl
  · subst back
    exact readChars_simpleEscape start fuel read next rest (by decide) rfl
  · obtain ⟨notQuote, notSlash⟩ := not_or.1 mark
    have visible : ¬ c.toNat < 0x20 := Nat.not_lt.2 plain.1
    simp [readChars, notQuote, notSlash, visible]
  · exact readChars_unicodeEscape start fuel read (readUnicodeEscape_toNat small next rest)
  · obtain ⟨isHigh, isLow, join⟩ := surrogates_of_large small
    generalize 0xD800 + (c.toNat - 0x10000) / 0x400 = high at *
    generalize 0xDC00 + (c.toNat - 0x10000) % 0x400 = low at *
    have pair := readUnicodeEscape_pair isHigh isLow next rest
    rw [join] at pair
    exact readChars_unicodeEscape start fuel read pair

end Steps

/-! ## Written texts -/

theorem readChars_written (start : Nat) (content : List Char) {fuel : Nat}
    (enough : content.length < fuel) (read rest : List Char) :
    readChars start fuel read (content.flatMap writtenChar ++ '"' :: rest) =
      .ok (String.ofList (read.reverse ++ content), rest) := by
  induction content generalizing fuel read with
  | nil =>
    obtain ⟨fuel, rfl⟩ := Nat.exists_eq_succ_of_ne_zero (Nat.ne_of_gt enough)
    simp [readChars]
  | cons c content ih =>
    obtain ⟨fuel, rfl⟩ := Nat.exists_eq_succ_of_ne_zero (Nat.ne_zero_of_lt enough)
    have later := ih (Nat.lt_of_succ_lt_succ enough) (c :: read)
    -- What follows a written character is the next one or the closing quote.
    obtain ⟨next, after, same⟩ : ∃ next after,
        content.flatMap writtenChar ++ '"' :: rest = next :: after :=
      List.exists_cons_of_ne_nil (by simp)
    rw [List.flatMap_cons, List.append_assoc, same, readChars_writtenChar, ← same, later]
    simp

theorem writtenChar_ne_nil (c : Char) : writtenChar c ≠ [] := by
  unfold writtenChar
  split_ifs <;> simp [unicodeEscape]

theorem length_le_written (content : List Char) :
    content.length ≤ (content.flatMap writtenChar).length := by
  induction content with
  | nil => exact Nat.le_refl 0
  | cons c content ih =>
    have some := List.length_pos_iff.2 (writtenChar_ne_nil c)
    simp only [List.flatMap_cons, List.length_append, List.length_cons]
    omega

/-- A written text, after its opening quote, reads back whatever follows it. -/
theorem readText_written (content : String) (rest : List Char) :
    readText (content.toList.flatMap writtenChar ++ '"' :: rest) = .ok (content, rest) := by
  have enough := length_le_written content.toList
  rw [readText, readChars_written _ _ (by rw [List.length_append]; omega)]
  simp

/-! ## Written records -/

/-- Characters that read as a value whatever follows them, and do not start with a blank. -/
structure Writes (chars : List Char) (value : Json) : Prop where
  unspaced : ∀ rest, skipSpace (chars ++ rest) = chars ++ rest
  read : ∀ fuel rest, readValue (fuel + 1) (chars ++ rest) = .ok (value, rest)

theorem writes_null : Writes "null".toList .null :=
  ⟨fun _ => rfl, fun _ _ => rfl⟩

theorem writes_text (content : String) : Writes (writtenText content) (.text content) := by
  refine ⟨fun rest => rfl, fun fuel rest => ?_⟩
  have same : writtenText content ++ rest =
      '"' :: (content.toList.flatMap writtenChar ++ '"' :: rest) := by simp [writtenText]
  have scalar : readScalar ('"' :: (content.toList.flatMap writtenChar ++ '"' :: rest)) =
      .ok (.text content, rest) := by
    simp [readScalar, readText_written, Except.map]
  rw [same]
  simp [readValue, scalar]

theorem readName_written (name : String) {chars : List Char} {value : Json}
    (writes : Writes chars value) (rest : List Char) :
    readName (writtenText name ++ ": ".toList ++ chars ++ rest) = .ok (name, chars ++ rest) := by
  have same : writtenText name ++ ": ".toList ++ chars ++ rest =
      '"' :: (name.toList.flatMap writtenChar ++ '"' :: ':' :: ' ' :: (chars ++ rest)) := by
    simp [writtenText]
  have colon : skipSpace (':' :: ' ' :: (chars ++ rest)) = ':' :: ' ' :: (chars ++ rest) := rfl
  have blank : skipSpace (' ' :: (chars ++ rest)) = skipSpace (chars ++ rest) := rfl
  rw [same]
  simp [readName, readText_written, colon, blank, writes.unspaced]

/-- Members with others set one after the other. -/
def Members.setAll (read members : Members) : Members :=
  members.foldl (fun (read : Members) member => read.set member.1 member.2) read

theorem Members.get?_set (members : Members) (name : String) (value : Json) (other : String) :
    (members.set name value).get? other =
      if other = name then some value else members.get? other := by
  unfold get? set
  rw [find?_set]
  split_ifs <;> rfl

/-- Of members of one name, the last one counts. -/
theorem Members.get?_setAll (read members : Members) (name : String) :
    (read.setAll members).get? name =
      (Members.get? members.reverse name).or (read.get? name) := by
  induction members generalizing read with
  | nil => rfl
  | cons member members ih =>
    have step : read.setAll (member :: members) = (read.set member.1 member.2).setAll members := rfl
    rw [step, ih, get?_set, List.reverse_cons]
    unfold get?
    rw [List.find?_append, Option.map_or, Option.or_assoc]
    congr 1
    by_cases own : name = member.1
    · simp [own]
    · simp [own, Ne.symm own]

/-- A member as it is written and as it is read. -/
def WritesMember (written : String × List Char) (member : String × Json) : Prop :=
  written.1 = member.1 ∧ Writes written.2 member.2

/-- What follows the first member of a record. -/
def writtenRest (members : List (String × List Char)) : List Char :=
  members.flatMap (fun member => ',' :: writtenMember member) ++ "\n\x7d\n".toList

theorem intercalate_writtenMember (first : String × List Char)
    (members : List (String × List Char)) :
    [','].intercalate ((first :: members).map writtenMember) ++ "\n\x7d\n".toList =
      writtenMember first ++ writtenRest members := by
  induction members generalizing first with
  | nil => simp [writtenRest, List.intercalate]
  | cons next members ih =>
    rw [List.map_cons, List.map_cons, List.intercalate_cons_cons, ← List.map_cons,
      List.append_assoc, List.append_assoc, ih next]
    simp [writtenRest]

theorem skipSpace_writtenMember (member : String × List Char) (rest : List Char) :
    skipSpace (writtenMember member ++ rest) =
      writtenText member.1 ++ ": ".toList ++ member.2 ++ rest := by
  simp [writtenMember, writtenText, skipSpace, isSpace]

/-- From a member on, the reader sets each member that is written. -/
theorem readMembers_written {first : String × List Char} {member : String × Json}
    {written : List (String × List Char)} {members : Members}
    (writes : WritesMember first member) (others : List.Forall₂ WritesMember written members)
    {fuel : Nat} (enough : members.length + 1 < fuel) (read : Members) :
    readMembers fuel read
        (writtenText first.1 ++ ": ".toList ++ first.2 ++ writtenRest written) =
      .ok (.object (Members.setAll read (member :: members)), ['\n']) := by
  induction others generalizing first member fuel read with
  | nil =>
    obtain ⟨fuel, rfl⟩ : ∃ rest, fuel = rest + 2 := ⟨fuel - 2, by omega⟩
    obtain ⟨name, writes⟩ := writes
    have closing : skipSpace (writtenRest []) = ['\x7d', '\n'] := rfl
    simp only [readMembers, readName_written _ writes, writes.read, closing, name,
      Members.setAll, List.foldl_cons, List.foldl_nil]
  | @cons next entry written members writesNext _ ih =>
    obtain ⟨fuel, rfl⟩ : ∃ rest, fuel = rest + 2 := ⟨fuel - 2, by omega⟩
    obtain ⟨name, writes⟩ := writes
    have comma : skipSpace (writtenRest (next :: written)) =
        ',' :: (writtenMember next ++ writtenRest written) := by
      simp [writtenRest, skipSpace, isSpace]
    have enoughNext : members.length + 1 < fuel + 1 := by
      rw [List.length_cons] at enough
      omega
    have later := ih writesNext enoughNext (read.set member.1 member.2)
    rw [readMembers]
    simp only [readName_written _ writes, writes.read, comma, skipSpace_writtenMember, name, later]
    rfl

theorem length_writtenRest (members : List (String × List Char)) :
    members.length < (writtenRest members).length := by
  induction members with
  | nil => decide
  | cons member members ih =>
    simp only [writtenRest, List.flatMap_cons, List.length_append, List.length_cons] at ih ⊢
    omega

/-- A written record reads as the object of its members. -/
theorem read_writeRecord {written : List (String × List Char)} {members : Members}
    (writes : List.Forall₂ WritesMember written members) (some : written ≠ []) :
    Json.read (writeRecord written) = .ok (.object (Members.setAll [] members)) := by
  cases writes with
  | nil => exact absurd rfl some
  | @cons first member written members writesFirst others =>
    have body : (writeRecord (first :: written)).toList =
        '\x7b' :: (writtenMember first ++ writtenRest written) := by
      rw [writeRecord, String.toList_ofList, intercalate_writtenMember]
    have enough : members.length + 1 <
        2 * ('\x7b' :: (writtenMember first ++ writtenRest written)).length := by
      have rest := length_writtenRest written
      rw [others.length_eq] at rest
      rw [List.length_cons, List.length_append]
      omega
    have inside := readMembers_written writesFirst others enough []
    have space : skipSpace ('\x7b' :: (writtenMember first ++ writtenRest written)) =
        '\x7b' :: (writtenMember first ++ writtenRest written) := rfl
    have whole : readDocument ('\x7b' :: (writtenMember first ++ writtenRest written)) =
        .ok (.object (Members.setAll [] (member :: members))) := by
      have value : readValue
          (2 * ('\x7b' :: (writtenMember first ++ writtenRest written)).length + 1)
          ('\x7b' :: (writtenMember first ++ writtenRest written)) =
            .ok (.object (Members.setAll [] (member :: members)), ['\n']) := by
        rw [readValue, skipSpace_writtenMember]
        simp only [writtenText, List.cons_append]
        exact inside
      simp only [readDocument, readDocumentWith, space, value]
      rfl
    rw [Json.read, body, whole]
    rfl

/-! ## Written characters are ASCII -/

/-- A character is visible ASCII, a blank or a line feed. -/
def IsPlain (c : Char) : Prop :=
  0x20 ≤ c.toNat ∧ c.toNat < 0x7F ∨ c = '\n'

instance (c : Char) : Decidable (IsPlain c) := by
  unfold IsPlain
  infer_instance

theorem isPlain_of_all {chars : List Char} (all : chars.all (IsPlain ·) = true) :
    ∀ c ∈ chars, IsPlain c := by
  simpa using all

theorem isPlain_hexDigits {width number : Nat} : ∀ c ∈ Text.hexDigits width number, IsPlain c := by
  induction width generalizing number with
  | zero => simp [Text.hexDigits]
  | succ width ih =>
    intro c member
    rcases List.mem_append.1 member with earlier | last
    · exact ih c earlier
    · rw [List.mem_singleton.1 last]
      have all : ∀ value < 16, IsPlain (Text.hexDigit value) := by decide
      exact all _ (Nat.mod_lt _ (by decide))

theorem isPlain_unicodeEscape (code : Nat) : ∀ c ∈ unicodeEscape code, IsPlain c := by
  intro c member
  rcases List.mem_cons.1 member with rfl | member
  · decide
  · rcases List.mem_cons.1 member with rfl | member
    · decide
    · exact isPlain_hexDigits c member

theorem isPlain_writtenChar (c : Char) : ∀ written ∈ writtenChar c, IsPlain written := by
  unfold writtenChar
  split_ifs with mark feed carriage tab form back plain small
  · rcases mark with rfl | rfl <;> exact isPlain_of_all rfl
  · exact isPlain_of_all rfl
  · exact isPlain_of_all rfl
  · exact isPlain_of_all rfl
  · exact isPlain_of_all rfl
  · exact isPlain_of_all rfl
  · intro written member
    rw [List.mem_singleton.1 member]
    exact .inl plain
  · exact isPlain_unicodeEscape _
  · intro written member
    rcases List.mem_append.1 member with high | low
    · exact isPlain_unicodeEscape _ _ high
    · exact isPlain_unicodeEscape _ _ low

theorem isPlain_writtenText (content : String) : ∀ c ∈ writtenText content, IsPlain c := by
  intro c member
  rcases List.mem_cons.1 member with rfl | member
  · decide
  · rcases List.mem_append.1 member with inside | closing
    · obtain ⟨_, -, written⟩ := List.mem_flatMap.1 inside
      exact isPlain_writtenChar _ _ written
    · rw [List.mem_singleton.1 closing]
      decide

theorem isPlain_writeRecord {members : List (String × List Char)}
    (plain : ∀ member ∈ members, ∀ c ∈ member.2, IsPlain c) :
    ∀ c ∈ (writeRecord members).toList, IsPlain c := by
  have one : ∀ member ∈ members, ∀ c ∈ writtenMember member, IsPlain c := by
    intro member isMember c inside
    simp only [writtenMember, List.mem_append] at inside
    rcases inside with ((line | name) | colon) | value
    · exact isPlain_of_all rfl c line
    · exact isPlain_writtenText _ c name
    · exact isPlain_of_all rfl c colon
    · exact plain member isMember c value
  have closing : ∀ c ∈ "\n\x7d\n".toList, IsPlain c := isPlain_of_all rfl
  intro c inside
  rw [writeRecord, String.toList_ofList] at inside
  rcases List.mem_cons.1 inside with rfl | inside
  · decide
  cases members with
  | nil => exact closing c inside
  | cons first members =>
    rw [intercalate_writtenMember, writtenRest, List.mem_append, List.mem_append,
      List.mem_flatMap] at inside
    rcases inside with body | ⟨member, isMember, body⟩ | last
    · exact one first List.mem_cons_self c body
    · rcases List.mem_cons.1 body with rfl | body
      · decide
      · exact one member (List.mem_cons_of_mem _ isMember) c body
    · exact closing c last

end Json

end EventHooks
