import EventHooks.Proofs.InfiniteNumbers
import EventHooks.Proofs.WrittenJson

/-!
# Identifiers that are no texts

Any value with a length is read as an identifier by its elements: a text by its characters, an
array by its items and an object by the names of its members. Each element counts as the place at
which it first occurs in the alphabet, so that twenty-two of them spell an identifier even if they
are no single digits. An object that gives an identifier in this way is read as if it gave the
text form, and one that gives what spells none is refused (`refused_unless_spelled`).
-/
namespace EventHooks

/-- The elements of a value that has a length. -/
inductive Json.HasElements : Json → List Json → Prop
  | text (value : String) :
    HasElements (.text value) (value.toList.map fun c => .text (String.singleton c))
  | array (items : List Json) : HasElements (.array items) items
  | object (members : Json.Members) :
    HasElements (.object members) (members.map fun entry => .text entry.1)

namespace TrackId

/-- Exactly the first place at which a text stands in the alphabet. The empty text stands at any
place, and so first at zero. -/
def IsPlace (digit : String) (place : Nat) : Prop :=
  digit.toList <+: alphabet.drop place ∧
    ∀ earlier < place, ¬ digit.toList <+: alphabet.drop earlier

/-- Exactly the values whose elements are twenty-two texts that stand in the alphabet, and whose
places write the identifier to the base 62. -/
def Spells (given : Json) (id : TrackId) : Prop :=
  ∃ (digits : List String) (places : List Nat) (number : Nat),
    given.HasElements (digits.map .text) ∧ digits.length = 22 ∧
    List.Forall₂ IsPlace digits places ∧ number = Nat.ofDigits 62 places.reverse ∧
    number < 2 ^ 128 ∧ id = ⟨number⟩

/-- What is spelled is in range. -/
theorem Spells.inRange {given : Json} {id : TrackId} (spells : Spells given id) :
    0 ≤ id.raw ∧ id.raw < 2 ^ 128 := by
  obtain ⟨_, _, number, -, -, -, -, small, rfl⟩ := spells
  constructor <;> dsimp only <;> omega

/-- Elements write the number whose digits are their values, most significant first. -/
theorem ofElements_eq_ok_iff {α ε : Type} {value : α → Except ε Nat} {elements : List α}
    {number : Nat} : ofElements value elements = .ok number ↔
      ∃ values, List.Forall₂ (fun element place => value element = .ok place) elements values ∧
        number = Nat.ofDigits 62 values.reverse := by
  have positional (values : List Nat) : Nat.ofDigits 62 values.reverse =
      values.foldl (fun number place => number * 62 + place) 0 := by
    rw [Nat.ofDigits_eq_foldr, List.foldr_reverse]
    simp only [Nat.cast_id, Nat.mul_comm, Nat.add_comm]
  simp only [positional, ofElements]
  generalize 0 = start
  induction elements generalizing start with
  | nil => simp [pure, Except.pure, eq_comm]
  | cons element elements ih =>
    rw [List.foldlM_cons, bind_eq_ok_iff]
    simp only [ih, List.forall₂_cons_left_iff]
    constructor
    · rintro ⟨_, stepped, values, related, rfl⟩
      obtain ⟨place, valued, rfl⟩ := map_eq_ok_iff.1 stepped
      exact ⟨place :: values, ⟨place, values, valued, related, rfl⟩, rfl⟩
    · rintro ⟨_, ⟨place, values, valued, related, rfl⟩, rfl⟩
      exact ⟨start * 62 + place, map_eq_ok_iff.2 ⟨place, valued, rfl⟩, values, related, rfl⟩

end TrackId

namespace Event

open TrackId

/-! ## Reading identifiers -/

section Reading

variable {given : Json} {id : TrackId}

theorem elements?_eq_some_iff {elements : List Json} :
    elements? given = some elements ↔ given.HasElements elements := by
  constructor
  · intro found
    cases given <;> cases found <;> constructor
  · rintro (_ | _ | _) <;> rfl

theorem indexOfRun?_eq_some_iff {run chars : List Char} {place : Nat} :
    indexOfRun? run chars = some place ↔
      run <+: chars.drop place ∧ ∀ earlier < place, ¬ run <+: chars.drop earlier := by
  induction chars generalizing place with
  | nil =>
    simp only [indexOfRun?, List.drop_nil, List.prefix_nil, List.isEmpty_iff,
      Option.ite_none_right_eq_some, Option.some.injEq]
    refine and_congr_right fun empty => ?_
    subst empty
    constructor
    · rintro rfl
      simp
    · exact fun least => (Nat.eq_zero_of_not_pos fun later => least 0 later rfl).symm
  | cons c rest ih =>
    simp only [indexOfRun?, List.isPrefixOf_iff_prefix]
    split_ifs with found
    · rw [Option.some.injEq]
      constructor
      · rintro rfl
        exact ⟨found, by simp⟩
      · rintro ⟨-, least⟩
        exact (Nat.eq_zero_of_not_pos fun later => least 0 later found).symm
    · rw [Option.map_eq_some_iff]
      cases place with
      | zero => simp [found]
      | succ place =>
        simp only [Nat.succ.injEq, exists_eq_right, ih, List.drop_succ_cons]
        refine and_congr_right fun _ => ⟨fun least earlier before => ?_, fun least earlier before =>
          least (earlier + 1) (Nat.succ_lt_succ before)⟩
        cases earlier with
        | zero => exact found
        | succ earlier => exact least earlier (Nat.lt_of_succ_lt_succ before)

theorem readDigit_eq_ok_iff {element : Json} {place : Nat} :
    readDigit given element = .ok place ↔
      ∃ digit, element = .text digit ∧ IsPlace digit place := by
  cases element with
  | text digit =>
    simp only [readDigit, Json.text.injEq, exists_eq_left', IsPlace, ← indexOfRun?_eq_some_iff]
    cases indexOfRun? digit.toList alphabet <;> simp
  | _ => simp [readDigit]

theorem forall₂_readDigit_iff {elements : List Json} {places : List Nat} :
    List.Forall₂ (fun element place => readDigit given element = .ok place) elements places ↔
      ∃ digits : List String, elements = digits.map .text ∧ List.Forall₂ IsPlace digits places := by
  constructor
  · intro related
    induction related with
    | nil => exact ⟨[], rfl, .nil⟩
    | cons own _ ih =>
      obtain ⟨digit, rfl, isPlace⟩ := readDigit_eq_ok_iff.1 own
      obtain ⟨digits, rfl, rest⟩ := ih
      exact ⟨digit :: digits, rfl, .cons isPlace rest⟩
  · rintro ⟨digits, rfl, related⟩
    rw [List.forall₂_map_left_iff]
    exact related.imp fun digit place isPlace => readDigit_eq_ok_iff.2 ⟨digit, rfl, isPlace⟩

/-- Exactly the values that spell an identifier are read as one. -/
theorem readTrackId_eq_ok_iff : readTrackId given = .ok id ↔ Spells given id := by
  have ofNumber_iff {number : Nat} : ofNumber given number = .ok id ↔
      number < 2 ^ 128 ∧ id = ⟨number⟩ := by
    have limit : bound = 2 ^ 128 := rfl
    rw [ofNumber, limit]
    generalize 2 ^ 128 = limit
    split_ifs with small <;> simp [small, eq_comm]
  unfold readTrackId
  constructor
  · intro read
    split at read
    · cases read
    · rename_i elements found
      split_ifs at read with long
      split at read
      · rename_i number written
        obtain ⟨small, same⟩ := ofNumber_iff.1 (mapError_eq_ok_iff.1 read)
        obtain ⟨places, related, rfl⟩ := ofElements_eq_ok_iff.1 written
        obtain ⟨digits, rfl, isPlace⟩ := forall₂_readDigit_iff.1 related
        refine ⟨digits, places, _, elements?_eq_some_iff.1 found, ?_, isPlace, rfl, small, same⟩
        exact (List.length_map _).symm.trans long
      · cases read
  · rintro ⟨digits, places, _, has, long, isPlace, rfl, small, same⟩
    have written : ofElements (readDigit given) (digits.map .text) = .ok _ :=
      ofElements_eq_ok_iff.2 ⟨places, forall₂_readDigit_iff.2 ⟨digits, rfl, isPlace⟩, rfl⟩
    have wide : (digits.map Json.text).length = width := (List.length_map _).trans long
    rw [elements?_eq_some_iff.2 has]
    dsimp only
    rw [if_pos wide, written]
    exact mapError_eq_ok_iff.2 (ofNumber_iff.2 ⟨small, same⟩)

/-- A single character stands in the alphabet exactly if it is a digit, at its value. -/
theorem isPlace_singleton_iff {c : Char} {place : Nat} :
    IsPlace (String.singleton c) place ↔ c ∈ alphabet ∧ place = alphabet.idxOf c := by
  have stands (other : Nat) : (String.singleton c).toList <+: alphabet.drop other ↔
      alphabet[other]? = some c := by
    rw [String.toList_singleton, ← List.head?_drop]
    cases alphabet.drop other <;> simp [List.cons_prefix_cons, eq_comm]
  have isPlace : IsPlace (String.singleton c) place ↔ digitValue? c = some place := by
    simp only [IsPlace, stands, digitValue?, List.idxOf?_eq_some_iff, List.getElem?_eq_some_iff]
    constructor
    · rintro ⟨⟨inside, found⟩, least⟩
      exact ⟨inside, found, fun earlier before same => least earlier before ⟨by omega, same⟩⟩
    · rintro ⟨inside, found, least⟩
      exact ⟨⟨inside, found⟩, fun earlier before ⟨_, same⟩ => least earlier before same⟩
  rw [isPlace]
  by_cases digit : c ∈ alphabet
  · simp [digit, digitValue?_of_mem digit, eq_comm]
  · simp [digit, digitValue?_of_not_mem digit]

/-- A text spells an identifier exactly if it is its text form. -/
theorem spells_text_iff {text : String} :
    Spells (.text text) id ↔ IsTextForm text ∧ id.raw = Positional text.toList := by
  have places_iff {chars : List Char} {places : List Nat} :
      List.Forall₂ IsPlace (chars.map String.singleton) places ↔
        Digits chars ∧ places = chars.map fun c => alphabet.idxOf c := by
    rw [List.forall₂_map_left_iff]
    simp only [isPlace_singleton_iff]
    induction chars generalizing places with
    | nil => simp [Digits]
    | cons c rest ih =>
      simp only [List.forall₂_cons_left_iff, ih, Digits, List.forall_mem_cons, List.map_cons]
      constructor
      · rintro ⟨_, _, ⟨digit, rfl⟩, ⟨digits, rfl⟩, rfl⟩
        exact ⟨⟨digit, digits⟩, rfl⟩
      · rintro ⟨⟨digit, digits⟩, rfl⟩
        exact ⟨_, _, ⟨digit, rfl⟩, ⟨digits, rfl⟩, rfl⟩
  have own {digits : List String} : (Json.text text).HasElements (digits.map .text) ↔
      digits = text.toList.map String.singleton := by
    have distinct : Function.Injective Json.text := fun _ _ same => by cases same; rfl
    rw [← elements?_eq_some_iff, elements?, Option.some.injEq,
      ← (List.map_injective_iff.2 distinct).eq_iff, List.map_map, eq_comm]
    rfl
  constructor
  · rintro ⟨digits, places, number, has, long, isPlace, rfl, small, rfl⟩
    obtain rfl := own.1 has
    obtain ⟨valid, rfl⟩ := places_iff.1 isPlace
    rw [← List.map_reverse] at small ⊢
    refine ⟨⟨?_, valid, small⟩, rfl⟩
    rw [← String.length_toList]
    exact (List.length_map _).symm.trans long
  · rintro ⟨⟨long, valid, small⟩, same⟩
    refine ⟨_, _, _, own.2 rfl, ?_, places_iff.2 ⟨valid, rfl⟩, rfl, ?_, ?_⟩
    · rw [List.length_map, String.length_toList, long]
    · rw [← List.map_reverse]
      exact small
    · rw [← List.map_reverse]
      obtain ⟨raw⟩ := id
      exact congrArg _ same

theorem readTrackId_text_iff {text : String} :
    readTrackId (.text text) = .ok id ↔ parse text = .ok id := by
  rw [readTrackId_eq_ok_iff, spells_text_iff, parse_eq_ok_iff]

end Reading

end Event

/-! ## Objects that give an identifier -/

/-- Where an object gives an identifier: as a field of its own, or in its audio item. -/
inductive IdSite
  | own
  | inItem

namespace IdSite

/-- The field that holds the identifier, with its kind. -/
def field : IdSite → String × FieldKind
  | .own => ("track_id", .trackId)
  | .inItem => ("audio_item", .audioItem)

/-- The value that is given there. -/
def get? (members : Json.Members) : IdSite → Option Json
  | .own => members.get? "track_id"
  | .inItem =>
    match members.get? "audio_item" with
    | some (.object item) => Json.Members.get? item "track_id"
    | _ => none

/-- The object with another value given there. -/
def set (members : Json.Members) (given : Json) : IdSite → Json.Members
  | .own => members.set "track_id" given
  | .inItem =>
    match members.get? "audio_item" with
    | some (.object item) =>
      members.set "audio_item" (.object (Json.Members.set item "track_id" given))
    | _ => members

/-- An object of a variant that has the field gives a value as the identifier. -/
structure Gives (site : IdSite) (members : Json.Members) (given : Json) : Prop where
  reads : ∃ variant, Event.namedVariant members = .ok variant ∧ site.field ∈ variant.table
  given : site.get? members = some given

/-- Reading comes to an infinite number before the identifier, which is possible in the pictures of
an item. -/
inductive Infinite (members : Json.Members) : IdSite → Prop
  | picture {item : Json.Members} {front back : List Json.Members} {cover : Json.Members}
    (object : members.get? "audio_item" = some (.object item))
    (listed : Json.Members.get? item "covers" =
      some (.array ((front ++ cover :: back).map .object)))
    (readable : ∀ earlier ∈ front, ∃ picture, Event.readCover earlier = .ok picture)
    (infinite : Event.CoverInfinity cover) : Infinite members .inItem

/-- The field is the first one of each variant that has it. -/
theorem table_eq {site : IdSite} {variant : Variant} (reads : site.field ∈ variant.table) :
    variant.table = site.field :: variant.table.tail ∧
      ∀ field ∈ variant.table.tail, field.1 ≠ site.field.1 := by
  have all : ∀ variant ∈ Variant.all, ∀ site ∈ [own, inItem], site.field ∈ variant.table →
      variant.table = site.field :: variant.table.tail ∧
        ∀ field ∈ variant.table.tail, field.1 ≠ site.field.1 := by
    decide
  exact all variant variant.mem_all site (by cases site <;> simp) reads

section Sites

variable {site : IdSite} {members : Json.Members} {given other : Json} {name : String}

theorem get?_set_of_ne (foreign : name ≠ site.field.1) :
    (site.set members given).get? name = members.get? name := by
  cases site with
  | own =>
    have apart : name ≠ "track_id" := foreign
    rw [set, Json.Members.get?_set, if_neg apart]
  | inItem =>
    have apart : name ≠ "audio_item" := foreign
    simp only [set]
    split
    · rw [Json.Members.get?_set, if_neg apart]
    · rfl

theorem exists_item (gives : inItem.get? members = some given) :
    ∃ item, members.get? "audio_item" = some (.object item) ∧
      Json.Members.get? item "track_id" = some given := by
  simp only [get?] at gives
  split at gives
  · exact ⟨_, ‹_›, gives⟩
  · cases gives

/-- What spells no identifier ends the reading of its field: by its own fault, or by an infinite
number that is reached before. -/
theorem exists_fault (gives : site.get? members = some given)
    (spellsNone : ¬ ∃ id, TrackId.Spells given id) :
    ∃ fault, Event.readField members site.field = .error fault ∧
      (fault = .noInteger .infinite ↔ site.Infinite members) := by
  obtain ⟨ownFault, failed⟩ : ∃ fault, Event.readTrackId given = .error fault := by
    cases read : Event.readTrackId given with
    | ok id => exact absurd ⟨id, Event.readTrackId_eq_ok_iff.1 read⟩ spellsNone
    | error fault => exact ⟨fault, rfl⟩
  have notInfinite : ownFault ≠ .noInteger .infinite :=
    fun same => Event.readTrackId_ne_infinite (same ▸ failed)
  cases site with
  | own =>
    refine ⟨ownFault, ?_, iff_of_false notInfinite fun infinite => by cases infinite⟩
    exact bind_eq_error_iff.2
      (.inr ⟨given, Event.member_eq_ok_iff.2 gives, map_eq_error_iff.2 failed⟩)
  | inItem =>
    obtain ⟨item, object, identified⟩ := exists_item gives
    have infinite_iff : inItem.Infinite members ↔
        Event.readCovers ((Json.Members.get? item "covers").getD .null) =
          .error (.noInteger .infinite) := by
      rw [Event.readItemCovers_infinite_iff]
      constructor
      · rintro ⟨isObject, listed, readable, infinite⟩
        cases object.symm.trans isObject
        exact ⟨_, _, _, listed, readable, infinite⟩
      · rintro ⟨front, cover, back, listed, readable, infinite⟩
        exact .picture object listed readable infinite
    have ends {fault : FieldFault} (unread : Event.readAudioItem (.object item) = .error fault) :
        Event.readField members inItem.field = .error fault :=
      bind_eq_error_iff.2 (.inr ⟨_, Event.member_eq_ok_iff.2 object, map_eq_error_iff.2 unread⟩)
    rw [infinite_iff]
    -- The pictures are read before the identifier, so that their fault comes first.
    cases pictures : Event.readCovers ((Json.Members.get? item "covers").getD .null) with
    | error fault =>
      exact ⟨fault, ends (bind_eq_error_iff.2 (.inl pictures)), by simp⟩
    | ok covers =>
      have unread : Event.readAudioItem (.object item) = .error ownFault :=
        bind_eq_error_iff.2 (.inr ⟨covers, pictures, bind_eq_error_iff.2 (.inr ⟨given,
          Event.member_eq_ok_iff.2 identified, bind_eq_error_iff.2 (.inl failed)⟩)⟩)
      exact ⟨ownFault, ends unread, by simp [notInfinite]⟩

/-- What spells an identifier is read as its text form is. -/
theorem readField_set {id : TrackId} {form : String} (gives : site.get? members = some given)
    (spells : TrackId.Spells given id) (parsed : TrackId.parse form = .ok id) :
    Event.readField members site.field =
      Event.readField (site.set members (.text form)) site.field := by
  have read := Event.readTrackId_eq_ok_iff.2 spells
  have readForm : Event.readTrackId (.text form) = .ok id := Event.readTrackId_text_iff.2 parsed
  cases site with
  | own =>
    have before : Event.member members "track_id" = .ok given := Event.member_eq_ok_iff.2 gives
    have after : Event.member (own.set members (.text form)) "track_id" = .ok (.text form) :=
      Event.member_eq_ok_iff.2 ((Json.Members.get?_set ..).trans (if_pos rfl))
    simp only [Event.readField, field, before, after, bind, Except.bind, FieldKind.read, read,
      readForm]
  | inItem =>
    obtain ⟨item, object, identified⟩ := exists_item gives
    have before : Event.member members "audio_item" = .ok (.object item) :=
      Event.member_eq_ok_iff.2 object
    have after : Event.member (inItem.set members (.text form)) "audio_item" =
        .ok (.object (Json.Members.set item "track_id" (.text form))) := by
      simp only [set, object]
      exact Event.member_eq_ok_iff.2 ((Json.Members.get?_set ..).trans (if_pos rfl))
    have item_eq : Event.readAudioItem (.object item) =
        Event.readAudioItem (.object (Json.Members.set item "track_id" (.text form))) := by
      simp [Event.readAudioItem, Event.member, Json.Members.get?_set, identified, bind, Except.bind,
        read, readForm]
    simp only [Event.readField, field, before, after, bind, Except.bind, FieldKind.read, item_eq]

end Sites

end IdSite

/-- An object that gives what spells no identifier is refused, as merely invalid unless an infinite
number is reached before; and one that gives what spells an identifier is read as if it gave the
text form of it. -/
theorem refused_unless_spelled (site : IdSite) (members : Json.Members) (given : Json)
    (gives : site.Gives members given) :
    ((¬ ∃ id, TrackId.Spells given id) → ∃ error, Event.ofMembers members = .error error ∧
      (error.isInvalid = true ↔ ¬ site.Infinite members)) ∧
    ∀ id, TrackId.Spells given id → ∃ form, id.format? = some form ∧
      Event.ofMembers members = Event.ofMembers (site.set members (.text form)) := by
  obtain ⟨⟨variant, named, reads⟩, isGiven⟩ := gives
  obtain ⟨table, apart⟩ := IdSite.table_eq reads
  constructor
  · intro spellsNone
    obtain ⟨fault, failed, infinite⟩ := IdSite.exists_fault isGiven spellsNone
    have first : variant.table = [] ++ site.field :: variant.table.tail := table
    refine ⟨_, Event.ofMembers_of_fault named first (by simp) failed, ?_⟩
    rw [← infinite, ← Bool.not_eq_false, isInvalid_eq_false]
    simp
  · intro id spells
    obtain ⟨form, formed, parsed⟩ := TrackId.exists_format? spells.inRange
    have named_ne : "event" ≠ site.field.1 := by cases site <;> decide
    refine ⟨form, formed, Event.ofMembers_congr (IdSite.get?_set_of_ne named_ne).symm ?_⟩
    intro other isNamed entry isField
    cases named.symm.trans isNamed
    rw [table] at isField
    rcases List.mem_cons.1 isField with rfl | later
    · exact IdSite.readField_set isGiven spells parsed
    · exact Event.readField_congr (IdSite.get?_set_of_ne (apart entry later)).symm

/-- An object that preloads the track with an identifier. -/
def preloadingOf (given : Json) : Json.Members :=
  [("event", .text "Preloading"), ("track_id", given)]

/-- An object that changes to an item with an identifier. -/
def changedOf (given : Json) : Json.Members :=
  [("event", .text "TrackChanged"),
    ("audio_item",
      .object [("name", .text "n"), ("duration_ms", .integer 1), ("track_id", given)])]

/-- A list of twenty-two copies of a value. -/
def listOf (element : Json) : Json :=
  .array (List.replicate 22 element)

/-- An object whose members are named by the first twenty-two digits. -/
def namedDigits : Json :=
  .object ((TrackId.alphabet.take 22).map fun c => (String.singleton c, .null))

/-- Twenty-two numbers spell nothing and are refused; twenty-two names spell an identifier, and are
read as its text form is. -/
theorem digits_of_other_kinds :
    (∃ error, Event.ofMembers (preloadingOf (listOf (.integer 0))) = .error error ∧
      error.isInvalid = true) ∧
    ∃ form, (⟨727708585810981026683757467666037881⟩ : TrackId).format? = some form ∧
      Event.ofMembers (changedOf namedDigits) = Event.ofMembers (changedOf (.text form)) := by
  constructor
  · have unread : (Event.readTrackId (listOf (.integer 0))).toOption = none := by
      decide +kernel
    obtain ⟨error, refused, invalid⟩ := (refused_unless_spelled .own
      (preloadingOf (listOf (.integer 0))) (listOf (.integer 0))
      ⟨⟨.preloading, rfl, by decide⟩, rfl⟩).1 (by
        rintro ⟨id, spells⟩
        rw [Event.readTrackId_eq_ok_iff.2 spells] at unread
        cases unread)
    exact ⟨error, refused, invalid.2 fun infinite => by cases infinite⟩
  · exact (refused_unless_spelled .inItem (changedOf namedDigits) namedDigits
      ⟨⟨.trackChanged, rfl, by decide⟩, rfl⟩).2 _ (Event.readTrackId_eq_ok_iff.1 rfl)

/-- A list of twenty-two digits is no text, and yet it is read as an identifier. -/
theorem listed_digits_are_read :
    (∀ text, listOf (.text "0") ≠ .text text) ∧
    IdSite.own.Gives (preloadingOf (listOf (.text "0"))) (listOf (.text "0")) ∧
    Event.ofMembers (preloadingOf (listOf (.text "0"))) = .ok (.preloading ⟨0⟩) := by
  refine ⟨?_, ⟨⟨.preloading, rfl, by decide⟩, rfl⟩, rfl⟩
  intro text same
  cases same

end EventHooks
