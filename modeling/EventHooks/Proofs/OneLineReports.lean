import EventHooks.Proofs.FieldReading
import EventHooks.Proofs.PrintableText
import EventHooks.Proofs.StreamReading

/-!
# Reports on one line

What a stream brings in reaches the log between quotes or not at all: outside of quotes a report
has only words of the program's own, the names of variants and fields, the kinds of values, and
numbers. So each report is one line of printable characters, whatever a line, its values or its
identifiers hold (`reports_on_one_line`).
-/
namespace EventHooks

open Text

/-! ## Errors of steps -/

section Steps

variable {α β ε : Type} {holds : ε → Prop}

/-- Whatever error a step ends with, something holds of it. -/
def FailsOnly (holds : ε → Prop) (step : Except ε α) : Prop :=
  ∀ error, step = .error error → holds error

theorem failsOnly_ok {value : α} : FailsOnly holds (.ok value) := by
  intro error failed
  cases failed

theorem failsOnly_error {error : ε} (own : holds error) :
    FailsOnly holds (.error error : Except ε α) := by
  intro other failed
  cases failed
  exact own

theorem FailsOnly.bind {first : Except ε α} {next : α → Except ε β} (start : FailsOnly holds first)
    (rest : ∀ value, FailsOnly holds (next value)) : FailsOnly holds (first >>= next) := by
  intro error failed
  rcases bind_eq_error_iff.1 failed with early | ⟨value, -, late⟩
  · exact start error early
  · exact rest value error late

theorem FailsOnly.map {first : Except ε α} (start : FailsOnly holds first) (change : α → β) :
    FailsOnly holds (change <$> first) :=
  fun error failed => start error (map_eq_error_iff.1 failed)

theorem FailsOnly.mapM {step : α → Except ε β} (each : ∀ item, FailsOnly holds (step item))
    (items : List α) : FailsOnly holds (items.mapM step) := by
  intro error failed
  obtain ⟨-, item, -, -, -, own⟩ := mapM_eq_error_iff.1 failed
  exact each item error own

theorem failsOnly_mapError {ε' : Type} {change : ε' → ε} {first : Except ε' α}
    (all : ∀ error, holds (change error)) : FailsOnly holds (first.mapError change) := by
  intro error failed
  cases first with
  | ok value => cases failed
  | error other =>
    cases failed
    exact all other

end Steps

/-! ## Words outside of quotes -/

/-- A fault names kinds of values and fields of variants, and shows all else between quotes. -/
def FieldFault.NamesOwn : FieldFault → Prop
  | .noLength kind | .notText kind | .notNumber kind => ∃ value : Json, kind = value.kind
  | .notBoolean name => ∃ variant : Variant, name ∈ variant.fields
  | _ => True

namespace Event

section Readers

variable {members : Json.Members} {value : Json}

theorem member_namesOwn (name : String) : FailsOnly FieldFault.NamesOwn (member members name) := by
  unfold member
  split
  · exact failsOnly_ok
  · exact failsOnly_error trivial

theorem readInteger_namesOwn : FailsOnly FieldFault.NamesOwn (readInteger value) := by
  cases value with
  | integer number => exact failsOnly_ok
  | bool value => exact failsOnly_ok
  | float double => exact failsOnly_mapError fun _ => trivial
  | text given => exact failsOnly_mapError fun _ => trivial
  | null | array items | object members => exact failsOnly_error ⟨_, rfl⟩

theorem readDigit_namesOwn (given : Json) :
    FailsOnly FieldFault.NamesOwn (readDigit given value) := by
  unfold readDigit
  split
  · split
    · exact failsOnly_ok
    · exact failsOnly_error trivial
  · exact failsOnly_error ⟨_, rfl⟩

theorem readTrackId_namesOwn : FailsOnly FieldFault.NamesOwn (readTrackId value) := by
  unfold readTrackId
  split
  · exact failsOnly_error ⟨_, rfl⟩
  · split_ifs
    · split
      · exact failsOnly_mapError fun _ => trivial
      · rename_i fault failed
        obtain ⟨element, -, own⟩ := TrackId.exists_of_ofElements_eq_error failed
        exact failsOnly_error (readDigit_namesOwn value fault own)
    · exact failsOnly_error trivial

theorem readCover_namesOwn : FailsOnly FieldFault.NamesOwn (readCover members) :=
  (member_namesOwn _).bind fun _ => (member_namesOwn _).bind fun _ =>
    readInteger_namesOwn.bind fun _ => (member_namesOwn _).bind fun _ =>
      readInteger_namesOwn.bind fun _ => failsOnly_ok

theorem readCovers_namesOwn : FailsOnly FieldFault.NamesOwn (readCovers value) := by
  unfold readCovers
  split_ifs
  · exact failsOnly_ok
  · split
    · split
      · exact FailsOnly.mapM (fun _ => readCover_namesOwn) _
      · exact failsOnly_error trivial
    · exact failsOnly_error trivial

theorem readAudioItem_namesOwn : FailsOnly FieldFault.NamesOwn (readAudioItem value) := by
  cases value with
  | object members =>
    exact readCovers_namesOwn.bind fun _ => (member_namesOwn _).bind fun _ =>
      readTrackId_namesOwn.bind fun _ => (member_namesOwn _).bind fun _ =>
        (member_namesOwn _).bind fun _ => readInteger_namesOwn.bind fun _ => failsOnly_ok
  | _ => exact failsOnly_error trivial

theorem read_namesOwn {variant : Variant} {name : String} (isField : name ∈ variant.fields)
    (kind : FieldKind) : FailsOnly FieldFault.NamesOwn (kind.read name value) := by
  cases kind with
  | trackId => exact readTrackId_namesOwn.map _
  | integer => exact readInteger_namesOwn.map _
  | boolean =>
    refine FailsOnly.map ?_ _
    cases value with
    | bool value => exact failsOnly_ok
    | _ => exact failsOnly_error ⟨variant, isField⟩
  | text => exact failsOnly_ok
  | audioItem => exact readAudioItem_namesOwn.map _

theorem readFields_namesOwn (variant : Variant) :
    FailsOnly FieldFault.NamesOwn (readFields variant members) := by
  intro fault failed
  obtain ⟨front, ⟨name, kind⟩, back, split, -, own⟩ := readFields_eq_error_iff.1 failed
  have isField : name ∈ variant.fields := by
    have inTable : (name, kind) ∈ variant.table := by
      rw [split]
      simp
    exact (List.of_mem_zip inTable).1
  exact (member_namesOwn name).bind (fun _ => read_namesOwn isField kind) fault own

end Readers

end Event

/-! ## Messages -/

theorem Variant.printable_name (variant : Variant) : Printable variant.name.toList := by
  cases variant <;> decide

theorem Variant.printable_field {variant : Variant} {name : String}
    (isField : name ∈ variant.fields) : Printable name.toList := by
  have all : ∀ variant ∈ Variant.all, ∀ name ∈ variant.fields, Printable name.toList := by
    decide
  exact all variant variant.mem_all name isField

theorem Json.printable_kind (value : Json) : Printable value.kind.toList := by
  have all : ∀ kind ∈ ["NoneType", "bool", "int", "float", "str", "list", "dict"],
      Printable kind.toList := by
    decide
  refine all value.kind ?_
  cases value <;> simp [kind]

theorem IntegerText.printable_tooManyDigits (count : Nat) :
    Printable (tooManyDigitsMessage count).toList := by
  have limit := printable_toString digitLimit
  have given := printable_toString count
  unfold tooManyDigitsMessage
  exact .concat (.concat (.concat (.concat (by decide) limit) (by decide))
    (.concat (.concat (by decide) given) (by decide))) (by decide)

theorem TrackId.Fault.printable_message (fault : TrackId.Fault Json) :
    Printable (fault.message Json.shown).toList := by
  cases fault with
  | length given =>
    have wanted := printable_toString width
    exact .concat (.concat (.concat (by decide) wanted) (by decide)) given.printable_shown
  | digit element given =>
    exact .concat (.concat (.concat (by decide) element.printable_shown) (by decide))
      given.printable_shown
  | range given => exact .concat (by decide) given.printable_shown

theorem FieldFault.printable_message (variant : Variant) {fault : FieldFault}
    (namesOwn : fault.NamesOwn) : Printable (fault.message variant).toList := by
  have named := variant.printable_name
  cases fault with
  | missing name => exact .concat (.concat named (by decide)) (printable_quoted name)
  | noLength kind =>
    obtain ⟨value, rfl⟩ := namesOwn
    exact .concat (.concat (.concat (.concat (by decide) named) (by decide)) value.printable_kind)
      (by decide)
  | notText kind =>
    obtain ⟨value, rfl⟩ := namesOwn
    exact .concat (.concat (.concat (by decide) named) (by decide)) value.printable_kind
  | notNumber kind =>
    obtain ⟨value, rfl⟩ := namesOwn
    exact .concat (.concat (.concat (by decide) named) (by decide))
      (.concat (.concat (by decide) value.printable_kind) (by decide))
  | trackId fault => exact fault.printable_message
  | integerText fault given =>
    cases fault with
    | malformed =>
      refine .concat (by decide) ?_
      rw [String.toList_ofList]
      exact (printable_quoted given).subset (List.take_subset _ _)
    | tooManyDigits count => exact IntegerText.printable_tooManyDigits count
  | noInteger reason =>
    cases reason with
    | notANumber =>
      show Printable "cannot convert float NaN to integer".toList
      decide
    | infinite =>
      show Printable "cannot convert float infinity to integer".toList
      decide
  | notBoolean name =>
    obtain ⟨_, isField⟩ := namesOwn
    exact .concat (Variant.printable_field isField) (by decide)
  | audioItemNotObject =>
    show Printable "audio_item must be an object".toList
    decide
  | coversNotList =>
    show Printable "covers must be a list".toList
    decide
  | coverNotObject =>
    show Printable "each cover must be an object".toList
    decide

theorem Event.printable_of_ofMembers {members : Json.Members} {error : DecodeError}
    (failed : ofMembers members = .error error) : Printable error.message.toList := by
  unfold ofMembers at failed
  split at failed
  · rename_i given _
    cases failed
    exact .concat (by decide) given.printable_shown
  · rename_i variant _
    cases read : readFields variant members with
    | ok event =>
      rw [read] at failed
      cases failed
    | error fault =>
      rw [read] at failed
      cases failed
      exact FieldFault.printable_message variant (readFields_namesOwn variant fault read)

theorem Json.Fault.printable_message (fault : Json.Fault) : Printable fault.message.toList := by
  cases fault with
  | digits count => exact IntegerText.printable_tooManyDigits count
  | «at» cause offset line column =>
    have words : Printable cause.message.toList := by
      cases cause <;> decide
    have place : Printable (s!"{cause.message}: line {line} column {column}").toList :=
      .concat (.concat (.concat (.concat words (by decide)) (printable_toString line)) (by decide))
        (printable_toString column)
    exact .concat (.concat (.concat place (by decide)) (printable_toString offset)) (by decide)

/-! ## Reports -/

/-- A report is one line, whatever its line is and whatever is wrong with it. -/
theorem Gives.report {line given : String} {fault : LineFault} {record : LogRecord}
    (gives : Gives line (.invalid given fault))
    (reported : (StreamItem.invalid given fault).record? = some record) :
    record.level = .error ∧ IsOneLine record.message := by
  have why : Printable fault.message.toList := by
    cases gives with
    | notJson broken => exact Json.Fault.printable_message _
    | notObject =>
      show Printable "expected a JSON object".toList
      decide
    | notEvent object failed => exact Event.printable_of_ofMembers failed
  cases reported
  have words : Printable (s!"Ignoring invalid event {quoted given}: {fault.message}").toList :=
    .concat (.concat (.concat (by decide) (printable_quoted given)) (by decide)) why
  refine ⟨rfl, isOneLine_of_printable words ?_⟩
  rw [String.toList_append, String.toList_append, String.toList_append, List.append_assoc,
    List.append_assoc]
  exact List.append_ne_nil_of_left_ne_nil (by decide) _

/-- All that lines report is on one line each. -/
theorem Taken.reports {raws : List String} {items : List StreamItem} {stop : Option LineFault}
    (taken : Taken raws items stop) : ∀ record ∈ items.filterMap StreamItem.record?,
      record.level = .error ∧ IsOneLine record.message := by
  induction taken with
  | done | stop => simp
  | blank _ _ ih => exact ih
  | @item _ _ _ item _ _ _ _ gives _ ih =>
    cases item with
    | event event => exact ih
    | invalid given fault =>
      exact List.forall_mem_cons.2 ⟨gives.report rfl, ih⟩

/-- Whatever a stream holds, a run over it reports each invalid line in one record, and each record
is one line of printable characters. -/
theorem reports_on_one_line {σ : Type} [OperatingSystem σ] (text shell command : String)
    (sink : Sink) (host : Host σ) :
    let reports := (Stream.read text).items.filterMap StreamItem.record?
    let run := (Stream.contents text).foldl CommandLine.EventRun.next
      { dispatcher := .start shell command sink host }
    run.dispatcher.host.spoken .commandLine = host.spoken .commandLine ++ reports ∧
      reports.length = run.invalid ∧
      ∀ record ∈ reports, record.level = .error ∧ IsOneLine record.message := by
  intro reports run
  have taken : Taken (lines text) (Stream.read text).items (Stream.read text).stop :=
    taken_iff.2 ⟨rfl, rfl⟩
  obtain ⟨-, counted, -, spoken⟩ := runsTo_of_taken taken
    { dispatcher := Dispatcher.start shell command sink host } rfl
  exact ⟨spoken, (counted.trans (Nat.zero_add _)).symm, taken.reports⟩

end EventHooks
