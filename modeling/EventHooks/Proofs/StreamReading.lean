import EventHooks.CommandLine
import EventHooks.Proofs.HookSteps
import EventHooks.Proofs.Lines

/-!
# Reading a stream of events

What the lines of a stream give, line by line, as a relation on the lines themselves: a blank line
gives nothing, any other one an event or a report, and a number too large ends the reading. The
reader and the run over a stream give exactly that (`stream_exact`).
-/
namespace EventHooks

open Text

/-- The event that an item holds, if it is one. -/
def StreamItem.event? : StreamItem → Option Event
  | .event given => some given
  | .invalid _ _ => none

/-- The record that reports an item, if it is invalid: the line as it is quoted, and why. -/
def StreamItem.record? : StreamItem → Option LogRecord
  | .event _ => none
  | .invalid line fault => some ⟨.error, .commandLine,
      s!"Ignoring invalid event {Text.quoted line}: {fault.message}"⟩

/-- What a line without blanks around it gives: the event of its object, or its one fault. -/
inductive Gives (line : String) : StreamItem → Prop
  | event {members : Json.Members} {event : Event}
    (object : Json.read line = .ok (.object members))
    (decoded : Event.ofMembers members = .ok event) : Gives line (.event event)
  | notJson {fault : Json.Fault} (broken : Json.read line = .error fault) :
    Gives line (.invalid line (.json fault))
  | notObject {value : Json} (read : Json.read line = .ok value)
    (other : ∀ members, value ≠ .object members) : Gives line (.invalid line .notObject)
  | notEvent {members : Json.Members} {error : DecodeError}
    (object : Json.read line = .ok (.object members))
    (failed : Event.ofMembers members = .error error)
    (finite : ∀ variant, error ≠ .field variant (.noInteger .infinite)) :
    Gives line (.invalid line (.event error))

/-- A line whose object has an infinite number where an integer is wanted. -/
inductive Overflows (line : String) : LineFault → Prop
  | infinite {members : Json.Members} {variant : Variant}
    (object : Json.read line = .ok (.object members))
    (failed : Event.ofMembers members = .error (.field variant (.noInteger .infinite))) :
    Overflows line (.event (.field variant (.noInteger .infinite)))

/-- What some lines give, in order, and the fault that ends the reading before their end. -/
inductive Taken : List String → List StreamItem → Option LineFault → Prop
  | done : Taken [] [] none
  | blank {raw : String} {rest : List String} {items : List StreamItem} {stop : Option LineFault}
    (nothing : IsTrimmed raw "") (later : Taken rest items stop) : Taken (raw :: rest) items stop
  | item {raw line : String} {rest : List String} {item : StreamItem} {items : List StreamItem}
    {stop : Option LineFault} (trimmed : IsTrimmed raw line) (something : line ≠ "")
    (gives : Gives line item) (later : Taken rest items stop) :
    Taken (raw :: rest) (item :: items) stop
  | stop {raw line : String} {rest : List String} {fault : LineFault}
    (trimmed : IsTrimmed raw line) (something : line ≠ "") (overflows : Overflows line fault) :
    Taken (raw :: rest) [] (some fault)

/-! ## One line -/

theorem isInvalid_eq_false {error : DecodeError} :
    error.isInvalid = false ↔ ∃ variant, error = .field variant (.noInteger .infinite) := by
  constructor
  · intro ends
    unfold DecodeError.isInvalid at ends
    split at ends
    · exact ⟨_, rfl⟩
    · cases ends
  · rintro ⟨variant, rfl⟩
    rfl

/-- The reader of a line and the relation agree. -/
theorem readLine_cases (line : String) :
    (∃ event, Stream.readLine line = .ok event ∧ Gives line (.event event)) ∨
      ∃ fault, Stream.readLine line = .error fault ∧
        if fault.isInvalid then Gives line (.invalid line fault) else Overflows line fault := by
  unfold Stream.readLine
  cases read : Json.read line with
  | error fault => exact .inr ⟨_, rfl, .notJson read⟩
  | ok value =>
    cases value with
    | object members =>
      cases decoded : Event.ofMembers members with
      | ok event => exact .inl ⟨event, by simp [decoded, Except.mapError], .event read decoded⟩
      | error error =>
        refine .inr ⟨.event error, by simp [decoded, Except.mapError], ?_⟩
        rw [LineFault.isInvalid]
        split_ifs with goesOn
        · refine .notEvent read decoded fun variant infinite => ?_
          rw [infinite] at goesOn
          cases goesOn
        · obtain ⟨variant, rfl⟩ := isInvalid_eq_false.1 (Bool.not_eq_true _ ▸ goesOn)
          exact .infinite read decoded
    | _ => exact .inr ⟨_, rfl, .notObject read (by simp)⟩

theorem readLine_of_event {line : String} {event : Event} (gives : Gives line (.event event)) :
    Stream.readLine line = .ok event := by
  cases gives with
  | event object decoded => simp [Stream.readLine, object, decoded, Except.mapError]

theorem readLine_of_invalid {line given : String} {fault : LineFault}
    (gives : Gives line (.invalid given fault)) :
    given = line ∧ Stream.readLine line = .error fault ∧ fault.isInvalid = true := by
  cases gives with
  | notJson broken => exact ⟨rfl, by simp [Stream.readLine, broken], rfl⟩
  | @notObject value read other =>
    refine ⟨rfl, ?_, rfl⟩
    cases value with
    | object members => exact absurd rfl (other members)
    | _ => simp [Stream.readLine, read]
  | notEvent object failed finite =>
    refine ⟨rfl, by simp [Stream.readLine, object, failed, Except.mapError], ?_⟩
    rw [LineFault.isInvalid, ← Bool.not_eq_false, isInvalid_eq_false]
    rintro ⟨variant, infinite⟩
    exact finite variant infinite

theorem readLine_of_overflows {line : String} {fault : LineFault}
    (overflows : Overflows line fault) :
    Stream.readLine line = .error fault ∧ fault.isInvalid = false := by
  cases overflows with
  | infinite object failed =>
    exact ⟨by simp [Stream.readLine, object, failed, Except.mapError], rfl⟩

/-! ## All lines -/

/-- What is left of some lines without the blanks around them and without blank ones. -/
def contentsOf (raws : List String) : List String :=
  (raws.map trim).filter (!·.isEmpty)

section Contents

variable {raw line : String} {rest : List String}

theorem contentsOf_blank (nothing : IsTrimmed raw "") :
    contentsOf (raw :: rest) = contentsOf rest := by
  unfold contentsOf
  rw [List.map_cons, ← isTrimmed_iff.1 nothing]
  rfl

theorem contentsOf_cons (trimmed : IsTrimmed raw line) (something : line ≠ "") :
    contentsOf (raw :: rest) = line :: contentsOf rest := by
  unfold contentsOf
  rw [List.map_cons, ← isTrimmed_iff.1 trimmed, List.filter_cons_of_pos]
  simpa using something

end Contents

/-- Some lines give something, whatever they are. -/
theorem exists_taken (raws : List String) : ∃ items stop, Taken raws items stop := by
  induction raws with
  | nil => exact ⟨[], none, .done⟩
  | cons raw rest ih =>
    obtain ⟨items, stop, later⟩ := ih
    have trimmed := isTrimmed_trim raw
    by_cases empty : trim raw = ""
    · exact ⟨items, stop, .blank (empty ▸ trimmed) later⟩
    · rcases readLine_cases (trim raw) with ⟨event, -, gives⟩ | ⟨fault, -, faulty⟩
      · exact ⟨_, stop, .item trimmed empty gives later⟩
      · split_ifs at faulty with goesOn
        · exact ⟨_, stop, .item trimmed empty faulty later⟩
        · exact ⟨[], some fault, .stop trimmed empty faulty⟩

section Readings

variable {raws : List String} {items : List StreamItem} {stop : Option LineFault}

theorem foldl_next_of_stopped (lines : List String) {reading : Stream.Reading} {fault : LineFault}
    (stopped : reading.stop = some fault) :
    lines.foldl Stream.Reading.next reading = reading := by
  induction lines with
  | nil => rfl
  | cons line rest ih =>
    have same : reading.next line = reading := by
      rw [Stream.Reading.next, stopped]
    rw [List.foldl_cons, same, ih]

/-- The reader takes from some lines what they give, and counts the reports. -/
theorem foldl_next_of_taken (taken : Taken raws items stop) (reading : Stream.Reading)
    (goesOn : reading.stop = none) :
    (contentsOf raws).foldl Stream.Reading.next reading =
      { items := reading.items ++ items
        invalid := reading.invalid + (items.filterMap StreamItem.record?).length
        stop := stop } := by
  induction taken generalizing reading with
  | done =>
    obtain ⟨items, invalid, stop⟩ := reading
    obtain rfl : stop = none := goesOn
    simp [contentsOf]
  | blank nothing _ ih => rw [contentsOf_blank nothing, ih reading goesOn]
  | @item raw line rest item items stop trimmed something gives _ ih =>
    rw [contentsOf_cons trimmed something, List.foldl_cons]
    cases item with
    | event event =>
      have next : reading.next line =
          { reading with items := reading.items ++ [.event event] } := by
        rw [Stream.Reading.next, goesOn, readLine_of_event gives]
      have silent : StreamItem.record? (.event event) = none := rfl
      rw [next, ih { reading with items := reading.items ++ [.event event] } goesOn,
        List.filterMap_cons_none silent, List.append_assoc, List.singleton_append]
    | invalid given fault =>
      obtain ⟨rfl, failed, invalid⟩ := readLine_of_invalid gives
      have next : reading.next given = { reading with
          items := reading.items ++ [.invalid given fault], invalid := reading.invalid + 1 } := by
        rw [Stream.Reading.next, goesOn, failed]
        simp [invalid]
      rw [next, ih { reading with
        items := reading.items ++ [.invalid given fault], invalid := reading.invalid + 1 } goesOn]
      have counted : ((StreamItem.invalid given fault :: items).filterMap
          StreamItem.record?).length = (items.filterMap StreamItem.record?).length + 1 := rfl
      rw [counted, List.append_assoc, List.singleton_append, Nat.add_right_comm, Nat.add_assoc]
  | @stop raw line rest fault trimmed something overflows =>
    obtain ⟨failed, ends⟩ := readLine_of_overflows overflows
    have next : reading.next line = { reading with stop := some fault } := by
      rw [Stream.Reading.next, goesOn, failed]
      simp [ends]
    rw [contentsOf_cons trimmed something, List.foldl_cons, next, foldl_next_of_stopped _ rfl]
    simp

/-- What lines give is determined. -/
theorem taken_iff :
    Taken raws items stop ↔
      items = ((contentsOf raws).foldl Stream.Reading.next {}).items ∧
        stop = ((contentsOf raws).foldl Stream.Reading.next {}).stop := by
  constructor
  · intro taken
    rw [foldl_next_of_taken taken {} rfl]
    exact ⟨rfl, rfl⟩
  · rintro ⟨rfl, rfl⟩
    obtain ⟨items, stop, taken⟩ := exists_taken raws
    rw [foldl_next_of_taken taken {} rfl]
    exact taken

end Readings

/-! ## Runs -/

section Runs

open CommandLine

variable {σ : Type} {raws : List String} {items : List StreamItem} {stop : Option LineFault}

/-- What a run over some items comes to, seen from where it was before. -/
structure RunsTo (run next : EventRun σ) (items : List StreamItem) (stop : Option LineFault) :
    Prop where
  stop : next.stop = stop
  invalid : next.invalid = run.invalid + (items.filterMap StreamItem.record?).length
  events : next.dispatcher.hooks.map (·.event) =
    run.dispatcher.hooks.map (·.event) ++ items.filterMap StreamItem.event?
  records : next.dispatcher.host.spoken .commandLine =
    run.dispatcher.host.spoken .commandLine ++ items.filterMap StreamItem.record?

theorem RunsTo.trans {first middle last : EventRun σ} {more : List StreamItem}
    (earlier : RunsTo first middle items none) (later : RunsTo middle last more stop) :
    RunsTo first last (items ++ more) stop := by
  refine ⟨later.stop, ?_, ?_, ?_⟩
  · rw [later.invalid, earlier.invalid, List.filterMap_append, List.length_append, Nat.add_assoc]
  · rw [later.events, earlier.events, List.filterMap_append, List.append_assoc]
  · rw [later.records, earlier.records, List.filterMap_append, List.append_assoc]

variable [OperatingSystem σ]

theorem foldl_run_of_stopped (lines : List String) {run : EventRun σ} {fault : LineFault}
    (stopped : run.stop = some fault) : lines.foldl EventRun.next run = run := by
  induction lines with
  | nil => rfl
  | cons line rest ih =>
    have same : run.next line = run := by
      rw [EventRun.next, stopped]
    rw [List.foldl_cons, same, ih]

section Next

variable {run : EventRun σ} {line : String} {event : Event} {fault : LineFault}

theorem next_event (goesOn : run.stop = none) (read : Stream.readLine line = .ok event) :
    run.next line = { run with dispatcher := (run.dispatcher.dispatch event).launchAll } := by
  rw [EventRun.next, goesOn, read]

theorem next_invalid (goesOn : run.stop = none) (read : Stream.readLine line = .error fault)
    (invalid : fault.isInvalid = true) :
    run.next line = { run with
      dispatcher := { run.dispatcher with
        host := run.dispatcher.host.log .error .commandLine (Stream.invalidMessage line fault) }
      invalid := run.invalid + 1 } := by
  rw [EventRun.next, goesOn, read]
  simp [invalid]

theorem next_overflow (goesOn : run.stop = none) (read : Stream.readLine line = .error fault)
    (ends : fault.isInvalid = false) : run.next line = { run with stop := some fault } := by
  rw [EventRun.next, goesOn, read]
  simp [ends]

theorem runsTo_event (goesOn : run.stop = none) (read : Stream.readLine line = .ok event) :
    RunsTo run (run.next line) [.event event] none := by
  rw [next_event goesOn read]
  refine ⟨goesOn, rfl, ?_, ?_⟩
  · rw [Dispatcher.events_launchAll, Dispatcher.dispatch, List.map_append]
    rfl
  · rw [Dispatcher.spoken_launchAll _ (by decide) (by decide)]
    exact (List.append_nil _).symm

theorem runsTo_invalid (goesOn : run.stop = none) (read : Stream.readLine line = .error fault)
    (invalid : fault.isInvalid = true) :
    RunsTo run (run.next line) [.invalid line fault] none := by
  rw [next_invalid goesOn read invalid]
  refine ⟨goesOn, rfl, (List.append_nil _).symm, ?_⟩
  rw [Host.spoken_log_error]
  rfl

end Next

/-- A run dispatches the events that some lines give, and reports and counts the other items. -/
theorem runsTo_of_taken (taken : Taken raws items stop) (run : EventRun σ)
    (goesOn : run.stop = none) :
    RunsTo run ((contentsOf raws).foldl EventRun.next run) items stop := by
  induction taken generalizing run with
  | done => exact ⟨goesOn, rfl, (List.append_nil _).symm, (List.append_nil _).symm⟩
  | blank nothing _ ih =>
    rw [contentsOf_blank nothing]
    exact ih run goesOn
  | @item raw line rest item items stop trimmed something gives _ ih =>
    rw [contentsOf_cons trimmed something, List.foldl_cons]
    have first : RunsTo run (run.next line) [item] none := by
      cases item with
      | event event => exact runsTo_event goesOn (readLine_of_event gives)
      | invalid given fault =>
        obtain ⟨rfl, failed, invalid⟩ := readLine_of_invalid gives
        exact runsTo_invalid goesOn failed invalid
    exact first.trans (ih _ first.stop)
  | @stop raw line rest fault trimmed something overflows =>
    obtain ⟨failed, ends⟩ := readLine_of_overflows overflows
    rw [contentsOf_cons trimmed something, List.foldl_cons, next_overflow goesOn failed ends,
      foldl_run_of_stopped _ rfl]
    exact ⟨rfl, rfl, (List.append_nil _).symm, (List.append_nil _).symm⟩

/-- What every event of a stream and every report of an invalid line keeps, a run over the stream
keeps. It may depend on the events that were dispatched. -/
theorem dispatcher_of_taken {motive : List Event → Dispatcher σ → Prop}
    (dispatch : ∀ events dispatcher event, motive events dispatcher →
      motive (events ++ [event]) (dispatcher.dispatch event).launchAll)
    (report : ∀ events dispatcher message, motive events dispatcher →
      motive events { dispatcher with host := dispatcher.host.log .error .commandLine message })
    (taken : Taken raws items stop) (run : EventRun σ) (goesOn : run.stop = none)
    (events : List Event) (holds : motive events run.dispatcher) :
    motive (events ++ items.filterMap StreamItem.event?)
      ((contentsOf raws).foldl EventRun.next run).dispatcher := by
  induction taken generalizing run events with
  | done =>
    rw [List.filterMap_nil, List.append_nil]
    exact holds
  | blank nothing _ ih =>
    rw [contentsOf_blank nothing]
    exact ih run goesOn events holds
  | @item raw line _ item items _ trimmed something gives _ ih =>
    rw [contentsOf_cons trimmed something, List.foldl_cons]
    cases item with
    | event event =>
      rw [next_event goesOn (readLine_of_event gives)]
      have later := ih { run with
        dispatcher := (run.dispatcher.dispatch event).launchAll } goesOn _
        (dispatch _ _ event holds)
      rwa [List.append_assoc] at later
    | invalid given fault =>
      obtain ⟨rfl, failed, invalid⟩ := readLine_of_invalid gives
      rw [next_invalid goesOn failed invalid]
      exact ih { run with
        dispatcher := { run.dispatcher with
          host := run.dispatcher.host.log .error .commandLine (Stream.invalidMessage given fault) }
        invalid := run.invalid + 1 } goesOn _ (report _ _ _ holds)
  | @stop raw line _ fault trimmed something overflows =>
    obtain ⟨failed, ends⟩ := readLine_of_overflows overflows
    rw [contentsOf_cons trimmed something, List.foldl_cons, next_overflow goesOn failed ends,
      foldl_run_of_stopped _ rfl, List.filterMap_nil, List.append_nil]
    exact holds

/-- Every stream is taken line by line: each line that is not blank gives one event or one report,
    in order, up to the first one that ends the reading. Reader and run take exactly these items,
    and as many lines are counted as reports are made. -/
theorem stream_exact (text shell command : String) (sink : Sink) (host : Host σ) :
    let reading := Stream.read text
    let run := (Stream.contents text).foldl EventRun.next
      { dispatcher := .start shell command sink host }
    IsLines (universalNewlines text.toList) (lines text) ∧
      (∀ items stop, Taken (lines text) items stop ↔
        items = reading.items ∧ stop = reading.stop) ∧
      reading.invalid = (reading.items.filterMap StreamItem.record?).length ∧
      run.invalid = reading.invalid ∧
      run.stop = reading.stop ∧
      run.dispatcher.hooks.map (·.event) = reading.items.filterMap StreamItem.event? ∧
      run.dispatcher.host.spoken .commandLine =
        host.spoken .commandLine ++ reading.items.filterMap StreamItem.record? := by
  intro reading run
  have taken : Taken (lines text) reading.items reading.stop := taken_iff.2 ⟨rfl, rfl⟩
  have counted : reading.invalid = (reading.items.filterMap StreamItem.record?).length := by
    have read : reading = _ := foldl_next_of_taken taken {} rfl
    rw [read]
    simp
  obtain ⟨stop, invalid, events, records⟩ := runsTo_of_taken taken
    { dispatcher := Dispatcher.start shell command sink host } rfl
  refine ⟨isLines_iff.2 rfl, fun _ _ => taken_iff, counted, ?_, stop, events, records⟩
  rw [counted]
  exact invalid.trans (Nat.zero_add _)

end Runs

end EventHooks
