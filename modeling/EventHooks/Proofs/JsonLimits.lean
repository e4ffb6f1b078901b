import EventHooks.Json.Reader
import EventHooks.Proofs.IntegerParts

/-!
# Limits of numbers in documents

No number in a document that is read exceeds what can be written: an integer has few enough digits,
and so has the integer part of a double. The reader keeps this from the parts of a value to the
value.
-/
namespace EventHooks.Json

/-- Every number in a value has an integer part that can be written, if it has one. -/
inductive WithinLimits : Json → Prop
  | null : WithinLimits .null
  | bool (value : Bool) : WithinLimits (.bool value)
  | integer {number : Int} (renders : IntegerText.Renders number) : WithinLimits (.integer number)
  | float {double : Binary64}
    (renders : ∀ number, double.truncate = .ok number → IntegerText.Renders number) :
    WithinLimits (.float double)
  | text (value : String) : WithinLimits (.text value)
  | array {items : List Json} (all : ∀ item ∈ items, WithinLimits item) :
    WithinLimits (.array items)
  | object {members : Members} (all : ∀ entry ∈ members, WithinLimits entry.2) :
    WithinLimits (.object members)

/-! ## Parts of values -/

section Parts

variable {members : Members} {name : String} {value : Json}

theorem mem_of_get? (found : members.get? name = some value) : (name, value) ∈ members := by
  obtain ⟨entry, isFirst, rfl⟩ := Option.map_eq_some_iff.1 found
  have isName := List.find?_some isFirst
  exact beq_iff_eq.1 isName ▸ List.mem_of_find?_eq_some isFirst

theorem mem_set {entry : String × Json} (member : entry ∈ members.set name value) :
    entry ∈ members ∨ entry = (name, value) := by
  unfold Members.set at member
  split_ifs at member
  · obtain ⟨old, isOld, same⟩ := List.mem_map.1 member
    split_ifs at same
    · exact .inr same.symm
    · exact .inl (same ▸ isOld)
  · simpa using member

theorem WithinLimits.member (within : WithinLimits (.object members))
    (found : members.get? name = some value) : value.WithinLimits := by
  cases within with
  | object all => exact all _ (mem_of_get? found)

theorem WithinLimits.item {items : List Json} (within : WithinLimits (.array items))
    (member : value ∈ items) : value.WithinLimits := by
  cases within with
  | array all => exact all value member

end Parts

/-! ## Reading -/

section Reading

variable {chars rest : List Char} {value : Json}

theorem readNumber_withinLimits {start : List Char} {negative : Bool}
    (read : readNumber start negative chars = .ok (value, rest)) : value.WithinLimits := by
  unfold readNumber at read
  split at read
  · cases read
  · rename_i whole after _
    dsimp only at read
    split_ifs at read with plain many
    · cases read
      refine .integer (IntegerText.renders_signed ?_ ?_ negative)
      · intro digit member
        obtain ⟨c, -, found⟩ := List.mem_filterMap.1 member
        exact IntegerText.asciiDigit?_lt found
      · exact (List.length_filterMap_le _ _).trans (Nat.not_lt.1 many)
    · cases read
      exact .float fun number truncated => Binary64.renders_of_truncate truncated

theorem readScalar_withinLimits (read : readScalar chars = .ok (value, rest)) :
    value.WithinLimits := by
  unfold readScalar at read
  split at read
  · rename_i body
    cases text : readText body with
    | error stop =>
      rw [text] at read
      cases read
    | ok result =>
      rw [text] at read
      cases read
      exact .text _
  · split at read
    · cases read
      exact .null
    · cases read
      exact .bool true
    · cases read
      exact .bool false
    · split at read
      · cases read
        exact .float fun number truncated => by cases truncated
      · cases read
        exact .float fun number truncated => by cases truncated
      · cases read
        exact .float fun number truncated => by cases truncated
      · split at read
        · exact readNumber_withinLimits read
        · exact readNumber_withinLimits read

/-- Whatever is read with some fuel keeps to the limits, if what has been read before does. -/
structure ReadsWithin (fuel : Nat) : Prop where
  value : ∀ {chars rest value}, readValue fuel chars = .ok (value, rest) → value.WithinLimits
  items : ∀ {read chars rest value}, (∀ item ∈ read, item.WithinLimits) →
    readItems fuel read chars = .ok (value, rest) → value.WithinLimits
  members : ∀ {read : Members} {chars rest value}, (∀ entry ∈ read, entry.2.WithinLimits) →
    readMembers fuel read chars = .ok (value, rest) → value.WithinLimits

section Steps

variable {fuel : Nat}

theorem ReadsWithin.succ_value (within : ReadsWithin fuel)
    (read : readValue (fuel + 1) chars = .ok (value, rest)) : value.WithinLimits := by
  unfold readValue at read
  split at read
  · cases read
  · rename_i same
    cases same
    split at read
    · cases read
      exact .array (by simp)
    · exact within.items (by simp) read
  · rename_i same
    cases same
    split at read
    · cases read
      exact .object (by simp)
    · exact within.members (by simp) read
  · exact readScalar_withinLimits read

theorem ReadsWithin.succ_items (within : ReadsWithin fuel) {items : List Json}
    (earlier : ∀ item ∈ items, item.WithinLimits)
    (read : readItems (fuel + 1) items chars = .ok (value, rest)) : value.WithinLimits := by
  unfold readItems at read
  split at read
  · cases read
  · rename_i item after isRead
    have all : ∀ other ∈ item :: items, other.WithinLimits :=
      List.forall_mem_cons.2 ⟨within.value isRead, earlier⟩
    split at read
    · cases read
      exact .array fun other member => all other (List.mem_reverse.1 member)
    · exact within.items all read
    · cases read

theorem ReadsWithin.succ_members (within : ReadsWithin fuel) {members : Members}
    (earlier : ∀ entry ∈ members, entry.2.WithinLimits)
    (read : readMembers (fuel + 1) members chars = .ok (value, rest)) : value.WithinLimits := by
  unfold readMembers at read
  split at read
  · cases read
  · split at read
    · cases read
    · rename_i name _ _ _ member _ isRead
      have all : ∀ entry ∈ members.set name member, entry.2.WithinLimits := by
        intro entry isEntry
        rcases mem_set isEntry with old | rfl
        · exact earlier entry old
        · exact within.value isRead
      split at read
      · cases read
        exact .object all
      · exact within.members all read
      · cases read

end Steps

theorem readsWithin (fuel : Nat) : ReadsWithin fuel := by
  -- The readers of values, items and members call each other, each with less fuel.
  induction fuel with
  | zero =>
    constructor
    · intro chars rest value read
      simp [readValue] at read
    · intro items chars rest value _ read
      simp [readItems] at read
    · intro members chars rest value _ read
      simp [readMembers] at read
  | succ fuel ih => exact ⟨ih.succ_value, ih.succ_items, ih.succ_members⟩

/-- A document that is read is a value between blanks. -/
theorem exists_readValue_of_read {document : String} (isRead : read document = .ok value) :
    ∃ fuel rest, readValue fuel (skipSpace document.toList) = .ok (value, rest) ∧
      skipSpace rest = [] := by
  unfold read readDocument readDocumentWith at isRead
  split at isRead
  · cases isRead
  · cases first : readValue (2 * document.toList.length + 1) (skipSpace document.toList) with
    | error stop =>
      rw [first] at isRead
      cases isRead
    | ok result =>
      rw [first] at isRead
      obtain ⟨found, after⟩ := result
      dsimp only at isRead
      split at isRead
      · rename_i blank
        cases isRead
        exact ⟨_, after, first, blank⟩
      · cases isRead

/-- No number in a document exceeds what can be written. -/
theorem withinLimits_of_read {document : String} (isRead : read document = .ok value) :
    value.WithinLimits := by
  obtain ⟨fuel, rest, first, -⟩ := exists_readValue_of_read isRead
  exact (readsWithin fuel).value first

end Reading

end EventHooks.Json
