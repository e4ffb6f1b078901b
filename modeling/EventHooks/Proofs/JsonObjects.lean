import EventHooks.Proofs.FieldReading
import EventHooks.Proofs.JsonLimits
import EventHooks.Proofs.WrittenJson

/-!
# Objects and the members that are listed in them

A document may list a member of one name several times. Its members in the order in which they stand
there are apart from those of the object that is read, where each name has one place. The reader
sets the listed members one after the other (`exists_isObject_of_read`), so that of those of one
name the last one counts.
-/
namespace EventHooks.Json

/-- A value stands at the start of some characters, with a rest after it. -/
def Begins (chars : List Char) (value : Json) (rest : List Char) : Prop :=
  ∃ fuel, readValue fuel chars = .ok (value, rest)

/-- Members in the order in which they stand from a first name on, up to the brace that closes their
object. -/
inductive ListsMembers : List Char → Members → List Char → Prop
  | last {chars inside after rest : List Char} {name : String} {value : Json}
    (named : readName chars = .ok (name, inside)) (begins : Begins inside value after)
    (closed : skipSpace after = '\x7d' :: rest) : ListsMembers chars [(name, value)] rest
  | next {chars inside after more rest : List Char} {name : String} {value : Json}
    {members : Members} (named : readName chars = .ok (name, inside))
    (begins : Begins inside value after) (continued : skipSpace after = ',' :: more)
    (others : ListsMembers (skipSpace more) members rest) :
    ListsMembers chars ((name, value) :: members) rest

/-- Exactly the objects, with their members in the order in which they stand between the braces. -/
inductive ListsObject : List Char → Members → List Char → Prop
  | empty {inside rest : List Char} (closed : skipSpace inside = '\x7d' :: rest) :
    ListsObject ('\x7b' :: inside) [] rest
  | members {inside rest : List Char} {members : Members}
    (listed : ListsMembers (skipSpace inside) members rest) :
    ListsObject ('\x7b' :: inside) members rest

/-- A document is accepted, and it is an object in which some members stand in order. -/
structure IsObject (document : String) (listed : Members) : Prop where
  accepted : read document = .ok (.object (Members.setAll [] listed))
  lists : ∃ rest, ListsObject (skipSpace document.toList) listed rest ∧ skipSpace rest = []

section Reading

variable {chars rest : List Char} {value : Json} {members : Members}

theorem readNumber_ne_object {start : List Char} {negative : Bool} :
    readNumber start negative chars ≠ .ok (.object members, rest) := by
  intro read
  unfold readNumber at read
  split at read
  · cases read
  · dsimp only at read
    split_ifs at read <;> cases read

theorem readScalar_ne_object : readScalar chars ≠ .ok (.object members, rest) := by
  intro read
  unfold readScalar at read
  split at read
  · obtain ⟨text, -, same⟩ := map_eq_ok_iff.1 read
    cases same
  · split at read
    · cases read
    · cases read
    · cases read
    · split at read
      · cases read
      · cases read
      · cases read
      · split at read
        · exact readNumber_ne_object read
        · exact readNumber_ne_object read

theorem readItems_ne_object {fuel : Nat} {items : List Json} :
    readItems fuel items chars ≠ .ok (.object members, rest) := by
  induction fuel generalizing items chars with
  | zero => simp [readItems]
  | succ fuel ih =>
    intro read
    unfold readItems at read
    split at read
    · cases read
    · split at read
      · cases read
      · exact ih read
      · cases read

/-- The reader of members sets each member that is listed, one after the other. -/
theorem exists_listsMembers {fuel : Nat} {earlier : Members}
    (read : readMembers fuel earlier chars = .ok (value, rest)) :
    ∃ listed, ListsMembers chars listed rest ∧ value = .object (earlier.setAll listed) := by
  -- The members before the next one are set already, so the induction is for any earlier ones.
  induction fuel generalizing earlier chars with
  | zero => simp [readMembers] at read
  | succ fuel ih =>
    unfold readMembers at read
    split at read
    · cases read
    · rename_i name inside named
      split at read
      · cases read
      · rename_i member after isRead
        split at read
        · rename_i closed
          cases read
          exact ⟨[(name, member)], .last named ⟨fuel, isRead⟩ closed, rfl⟩
        · rename_i continued
          obtain ⟨listed, others, rfl⟩ := ih read
          exact ⟨(name, member) :: listed, .next named ⟨fuel, isRead⟩ continued others, rfl⟩
        · cases read

theorem exists_listsObject {fuel : Nat}
    (read : readValue fuel chars = .ok (.object members, rest)) :
    ∃ listed, ListsObject chars listed rest ∧ members = Members.setAll [] listed := by
  unfold readValue at read
  split at read
  · cases read
  · split at read
    · cases read
    · exact absurd read readItems_ne_object
  · split at read
    · rename_i closed
      cases read
      exact ⟨[], .empty closed, rfl⟩
    · obtain ⟨listed, lists, same⟩ := exists_listsMembers read
      cases same
      exact ⟨listed, .members lists, rfl⟩
  · exact absurd read readScalar_ne_object

/-- Where a document is read as an object, its members are the listed ones, set one after the
other. -/
theorem exists_isObject_of_read {document : String}
    (isRead : read document = .ok (.object members)) :
    ∃ listed, IsObject document listed ∧ members = Members.setAll [] listed := by
  obtain ⟨fuel, rest, first, blank⟩ := exists_readValue_of_read isRead
  obtain ⟨listed, lists, rfl⟩ := exists_listsObject first
  exact ⟨listed, ⟨isRead, rest, lists, blank⟩, rfl⟩

end Reading

end EventHooks.Json
