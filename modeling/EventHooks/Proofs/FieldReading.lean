import EventHooks.Event.Decoder
import EventHooks.Proofs.EventFields

/-!
# Reading fields by a table

Every variant is read in the same way: its fields in order, each as a value of its kind. So an event
is read exactly if each of its fields is, and otherwise the first field that is not decides the
fault.
-/
namespace EventHooks

/-! ## Steps that may fail -/

section Steps

variable {α β ε : Type} {error : ε}

theorem bind_eq_ok_iff {first : Except ε α} {next : α → Except ε β} {result : β} :
    (first >>= next) = .ok result ↔ ∃ value, first = .ok value ∧ next value = .ok result := by
  cases first <;> simp [bind, Except.bind]

theorem bind_eq_error_iff {first : Except ε α} {next : α → Except ε β} :
    (first >>= next) = .error error ↔
      first = .error error ∨ ∃ value, first = .ok value ∧ next value = .error error := by
  cases first <;> simp [bind, Except.bind]

theorem map_eq_ok_iff {first : Except ε α} {change : α → β} {result : β} :
    change <$> first = .ok result ↔ ∃ value, first = .ok value ∧ change value = result := by
  cases first <;> simp [Functor.map, Except.map]

theorem map_eq_error_iff {first : Except ε α} {change : α → β} :
    change <$> first = .error error ↔ first = .error error := by
  cases first <;> simp [Functor.map, Except.map]

theorem mapError_eq_ok_iff {ε' : Type} {first : Except ε α} {change : ε → ε'} {value : α} :
    first.mapError change = .ok value ↔ first = .ok value := by
  cases first <;> simp [Except.mapError]

/-- Items are taken by a step exactly if each of them is, in order. -/
theorem mapM_eq_ok_iff {step : α → Except ε β} {items : List α} {results : List β} :
    items.mapM step = .ok results ↔
      List.Forall₂ (fun item result => step item = .ok result) items results := by
  induction items generalizing results with
  | nil =>
    rw [List.forall₂_nil_left_iff]
    exact ⟨fun stepped => by cases stepped; rfl, fun empty => empty ▸ rfl⟩
  | cons item items ih =>
    simp only [List.mapM_cons, bind_eq_ok_iff, ih, List.forall₂_cons_left_iff]
    constructor
    · rintro ⟨first, isFirst, others, later, same⟩
      cases same
      exact ⟨first, others, isFirst, later, rfl⟩
    · rintro ⟨first, others, isFirst, later, rfl⟩
      exact ⟨first, isFirst, others, later, rfl⟩

/-- Each result is that of some item. -/
theorem exists_of_mapM_eq_ok {step : α → Except ε β} {items : List α} {results : List β}
    (stepped : items.mapM step = .ok results) :
    ∀ result ∈ results, ∃ item ∈ items, step item = .ok result := by
  have related := mapM_eq_ok_iff.1 stepped
  clear stepped
  induction related with
  | nil => simp
  | @cons item result items results own _ ih =>
    refine List.forall_mem_cons.2 ⟨⟨item, List.mem_cons_self, own⟩, fun other member => ?_⟩
    obtain ⟨source, isItem, given⟩ := ih other member
    exact ⟨source, List.mem_cons_of_mem _ isItem, given⟩

/-- Items are taken exactly if there is a result for each of them. -/
theorem exists_mapM_eq_ok_iff {step : α → Except ε β} {items : List α} :
    (∃ results, items.mapM step = .ok results) ↔
      ∀ item ∈ items, ∃ result, step item = .ok result := by
  simp only [mapM_eq_ok_iff]
  induction items with
  | nil => simp
  | cons item items ih =>
    rw [List.forall_mem_cons, ← ih]
    constructor
    · rintro ⟨_, related⟩
      obtain ⟨_, _, own, later, -⟩ := List.forall₂_cons_left_iff.1 related
      exact ⟨⟨_, own⟩, _, later⟩
    · rintro ⟨⟨_, own⟩, _, later⟩
      exact ⟨_, .cons own later⟩

theorem mapM_congr_left {step other : α → Except ε β} {items : List α}
    (same : ∀ item ∈ items, step item = other item) : items.mapM step = items.mapM other := by
  induction items with
  | nil => rfl
  | cons item items ih =>
    obtain ⟨own, later⟩ := List.forall_mem_cons.1 same
    rw [List.mapM_cons, List.mapM_cons, own, ih later]

/-- The first step that fails decides the error; those after it are not taken. -/
theorem mapM_eq_error_iff {step : α → Except ε β} {items : List α} :
    items.mapM step = .error error ↔ ∃ front item back, items = front ++ item :: back ∧
      (∀ earlier ∈ front, ∃ result, step earlier = .ok result) ∧ step item = .error error := by
  induction items with
  | nil => simp [pure, Except.pure]
  | cons item items ih =>
    rw [List.mapM_cons, bind_eq_error_iff]
    constructor
    · rintro (failed | ⟨result, stepped, rest⟩)
      · exact ⟨[], item, items, rfl, by simp, failed⟩
      · rcases bind_eq_error_iff.1 rest with later | ⟨_, _, impossible⟩
        · obtain ⟨front, other, back, rfl, fine, failed⟩ := ih.1 later
          exact ⟨item :: front, other, back, rfl,
            List.forall_mem_cons.2 ⟨⟨result, stepped⟩, fine⟩, failed⟩
        · cases impossible
    · rintro ⟨front, other, back, split, fine, failed⟩
      cases front with
      | nil =>
        obtain ⟨rfl, -⟩ := List.cons.inj split
        exact .inl failed
      | cons first front =>
        obtain ⟨rfl, rfl⟩ := List.cons.inj split
        obtain ⟨⟨result, stepped⟩, fine⟩ := List.forall_mem_cons.1 fine
        exact .inr ⟨result, stepped, bind_eq_error_iff.2
          (.inl (ih.2 ⟨front, other, back, rfl, fine, failed⟩))⟩

end Steps

/-! ## Fields -/

/-- A value read as one of a kind, for the field of a name. -/
def FieldKind.read (name : String) : FieldKind → Json → Except FieldFault FieldValue
  | .trackId, given => FieldValue.trackId <$> Event.readTrackId given
  | .integer, given => FieldValue.integer <$> Event.readInteger given
  | .boolean, given => FieldValue.boolean <$> Event.readBoolean name given
  | .text, given => pure (.text given.asText)
  | .audioItem, given => FieldValue.audioItem <$> Event.readAudioItem given

namespace Variant

/-- The fields of a variant, each with its kind. -/
def table (variant : Variant) : List (String × FieldKind) :=
  variant.fields.zip variant.kinds

end Variant

namespace Event

/-- An event is determined by its variant and the values of its fields. -/
theorem eq_of_values {first second : Event} (variant : first.variant = second.variant)
    (values : first.values = second.values) : first = second := by
  cases first <;> cases second <;> cases variant <;> cases values <;> rfl

theorem member_eq_ok_iff {members : Json.Members} {name : String} {value : Json} :
    member members name = .ok value ↔ members.get? name = some value := by
  unfold member
  cases members.get? name <;> simp

/-- The field of a name, read from an object as a value of a kind. -/
def readField (members : Json.Members) (field : String × FieldKind) :
    Except FieldFault FieldValue := do
  field.2.read field.1 (← member members field.1)

theorem readField_congr {members other : Json.Members} {field : String × FieldKind}
    (same : members.get? field.1 = other.get? field.1) :
    readField members field = readField other field := by
  rw [readField, readField, member, member, same]

/-- Items are objects exactly if they are listed as such. -/
theorem objects?_eq_some_iff {items : List Json} {covers : List Json.Members} :
    objects? items = some covers ↔ items = covers.map .object := by
  unfold objects?
  induction items generalizing covers with
  | nil => cases covers <;> simp
  | cons item items ih =>
    rw [List.mapM_cons]
    cases item with
    | object members =>
      cases covers <;> simp [Option.bind_eq_some_iff, ih, and_comm]
    | _ => cases covers <;> simp

section Fields

variable {variant : Variant} {members : Json.Members} {event : Event} {fault : FieldFault}

theorem values_readFields (variant : Variant) (members : Json.Members) :
    values <$> readFields variant members = variant.table.mapM (readField members) := by
  cases variant <;>
    simp only [readFields, Variant.table, Variant.fields, Variant.kinds, List.zip_cons_cons,
      List.zip_nil_right, List.mapM_cons, List.mapM_nil, readField, FieldKind.read,
      map_eq_pure_bind, bind_assoc, pure_bind, values]

theorem variant_readFields (variant : Variant) (members : Json.Members) :
    Event.variant <$> readFields variant members =
      (fun _ => variant) <$> readFields variant members := by
  cases variant <;> simp only [readFields, map_eq_pure_bind, bind_assoc, pure_bind, Event.variant]

/-- The fields of a variant are read as the event of this variant with the values that they are
read as. -/
theorem readFields_eq_ok_iff :
    readFields variant members = .ok event ↔ event.variant = variant ∧
      List.Forall₂ (fun field value => readField members field = .ok value) variant.table
        event.values := by
  rw [← mapM_eq_ok_iff, ← values_readFields]
  have own : ∀ {other}, readFields variant members = .ok other → other.variant = variant := by
    intro other read
    have same := variant_readFields variant members
    rw [read] at same
    exact Except.ok.inj same
  constructor
  · intro read
    exact ⟨own read, map_eq_ok_iff.2 ⟨event, read, rfl⟩⟩
  · rintro ⟨isVariant, values⟩
    obtain ⟨other, read, same⟩ := map_eq_ok_iff.1 values
    rw [read, eq_of_values ((own read).trans isVariant.symm) same]

/-- Each value of an event that is read is that of some field. -/
theorem exists_of_readFields (read : readFields variant members = .ok event) :
    ∀ value ∈ event.values, ∃ field ∈ variant.table, readField members field = .ok value :=
  exists_of_mapM_eq_ok (mapM_eq_ok_iff.2 (readFields_eq_ok_iff.1 read).2)

/-- The fields of a variant are read exactly if each of them is. -/
theorem exists_readFields_iff :
    (∃ event, readFields variant members = .ok event) ↔
      ∀ field ∈ variant.table, ∃ value, readField members field = .ok value := by
  rw [← exists_mapM_eq_ok_iff, ← values_readFields]
  simp only [map_eq_ok_iff]
  exact ⟨fun ⟨event, read⟩ => ⟨_, event, read, rfl⟩, fun ⟨_, event, read, _⟩ => ⟨event, read⟩⟩

/-- The first field that cannot be read decides the fault. -/
theorem readFields_eq_error_iff :
    readFields variant members = .error fault ↔ ∃ front field back,
      variant.table = front ++ field :: back ∧
      (∀ earlier ∈ front, ∃ value, readField members earlier = .ok value) ∧
      readField members field = .error fault := by
  rw [← mapM_eq_error_iff, ← values_readFields, map_eq_error_iff]

/-- An event is read from the fields of the variant that is named. -/
theorem ofMembers_eq_ok_iff :
    ofMembers members = .ok event ↔
      ∃ variant, namedVariant members = .ok variant ∧ readFields variant members = .ok event := by
  unfold ofMembers
  cases namedVariant members <;> simp [mapError_eq_ok_iff]

/-- The first field that cannot be read decides the error. -/
theorem ofMembers_of_fault {front back : List (String × FieldKind)} {field : String × FieldKind}
    (named : namedVariant members = .ok variant) (split : variant.table = front ++ field :: back)
    (readable : ∀ earlier ∈ front, ∃ value, readField members earlier = .ok value)
    (failed : readField members field = .error fault) :
    ofMembers members = .error (.field variant fault) := by
  have unread := readFields_eq_error_iff.2 ⟨front, field, back, split, readable, failed⟩
  simp only [ofMembers, named, unread, Except.mapError]

/-- Objects that name one variant, and of which its fields are read alike, are read alike. -/
theorem ofMembers_congr {other : Json.Members} (named : members.get? "event" = other.get? "event")
    (fields : ∀ variant, namedVariant members = .ok variant →
      ∀ field ∈ variant.table, readField members field = readField other field) :
    ofMembers members = ofMembers other := by
  have sameVariant : namedVariant members = namedVariant other := by
    rw [namedVariant, namedVariant, named]
  unfold ofMembers
  rw [← sameVariant]
  cases isNamed : namedVariant members with
  | error given => rfl
  | ok variant =>
    -- The values are read alike, and with the variant they determine the event.
    have sameValues :
        values <$> readFields variant members = values <$> readFields variant other := by
      rw [values_readFields, values_readFields, mapM_congr_left (fields variant isNamed)]
    have sameFields : readFields variant members = readFields variant other := by
      cases read : readFields variant members with
      | error fault =>
        rw [read] at sameValues
        exact (map_eq_error_iff.1 sameValues.symm).symm
      | ok event =>
        rw [read] at sameValues
        obtain ⟨again, readAgain, values⟩ := map_eq_ok_iff.1 sameValues.symm
        have first := (readFields_eq_ok_iff.1 read).1
        have second := (readFields_eq_ok_iff.1 readAgain).1
        rw [readAgain, eq_of_values (second.trans first.symm) values]
    dsimp only
    rw [sameFields]

end Fields

end Event

end EventHooks
