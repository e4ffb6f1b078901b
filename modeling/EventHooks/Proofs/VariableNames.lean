import EventHooks.Proofs.EventFields
import EventHooks.Proofs.WidestCover

/-!
# Which variables an event sets

An event sets its token and the variables of its variant's fields, but not the variable of an
identifier out of range and not that of a picture if there is none. These are known variables, each
known variable is set by some event, and the token names the variant (`variable_names_exact`).
-/
namespace EventHooks

/-- Exactly the variables that a field leaves unset, of those that it may set. -/
def FieldValue.LeavesOut (name : String) : FieldValue → Prop
  | .trackId id => name = "TRACK_ID" ∧ (id.raw < 0 ∨ 2 ^ 128 ≤ id.raw)
  | .audioItem item =>
    name = "TRACK_ID" ∧ (item.trackId.raw < 0 ∨ 2 ^ 128 ≤ item.trackId.raw) ∨
      name = "TRACK_COVER" ∧ item.covers = []
  | _ => False

/-- Exactly the variables that an event leaves unset, of those of its variant. -/
def Event.LeavesOut (event : Event) (name : String) : Prop :=
  ∃ field ∈ event.values, field.LeavesOut name

namespace FieldValue

variable {field : FieldValue} {names : List String} {name : String}

/-- What a field leaves out is one of its own variables. -/
theorem LeavesOut.own (out : field.LeavesOut name) (suits : field.kind.Suits names) :
    name ∈ names := by
  cases field with
  | trackId id =>
    obtain rfl : names = _ := suits
    obtain ⟨rfl, -⟩ := out
    simp
  | audioItem item =>
    obtain rfl : names = _ := suits
    rcases out with ⟨rfl, -⟩ | ⟨rfl, -⟩
    · simp
    · simp
  | integer | boolean | text => cases out

/-- A field gives no value exactly to what it leaves out. -/
theorem value?_eq_none_iff (suits : field.kind.Suits names) (own : name ∈ names) :
    field.value? name = none ↔ field.LeavesOut name := by
  cases field with
  | trackId id =>
    obtain rfl : names = _ := suits
    obtain rfl := List.mem_singleton.1 own
    simp [value?, LeavesOut, TrackId.format?_eq_none_iff]
  | audioItem item =>
    obtain rfl : names = _ := suits
    simp only [List.mem_cons, List.not_mem_nil, or_false] at own
    rcases own with rfl | rfl | rfl | rfl
    · simp [value?, LeavesOut, TrackId.format?_eq_none_iff]
    · simp [value?, LeavesOut]
    · simp [value?, LeavesOut]
    · simp [value?, LeavesOut, widest?_eq_none_iff]
  | integer | boolean | text => simp [value?, LeavesOut]

end FieldValue

namespace Event

variable {event : Event} {name : String}

theorem get?_of_leavesOut (out : event.LeavesOut name) : event.environment.get? name = none := by
  obtain ⟨field, member, out⟩ := out
  obtain ⟨index, names, isNames, isField, suits⟩ := exists_names member
  have own := out.own suits
  rw [event.get?_environment isNames isField own]
  exact (FieldValue.value?_eq_none_iff suits own).2 out

/-- A variable of the variant is unset exactly if the event leaves it out. -/
theorem get?_eq_none_iff_leavesOut (known : name ∈ event.variant.keys.flatten) :
    event.environment.get? name = none ↔ event.LeavesOut name := by
  constructor
  · intro unset
    obtain ⟨index, names, field, isNames, isField, own, suits⟩ := exists_owner known
    rw [event.get?_environment isNames isField own] at unset
    have out := (FieldValue.value?_eq_none_iff suits own).1 unset
    exact ⟨field, List.mem_of_getElem? isField, out⟩
  · exact get?_of_leavesOut

theorem mem_names_iff (event : Event) (name : String) : name ∈ event.environment.names ↔
    name = "PLAYER_EVENT" ∨ name ∈ event.variant.keys.flatten ∧ ¬ event.LeavesOut name := by
  by_cases token : name = "PLAYER_EVENT"
  · simp [token, environment_eq, Environment.names]
  · rw [← not_iff_not, ← Environment.get?_eq_none_iff]
    by_cases known : name ∈ event.variant.keys.flatten
    · simp [token, known, get?_eq_none_iff_leavesOut known]
    · simp [token, known, event.get?_environment_of_not_mem token known]

theorem names_subset (event : Event) : event.environment.names ⊆ variableNames := by
  intro name member
  obtain ⟨entry, isEntry, rfl⟩ := List.mem_map.1 member
  exact (event.suits_environment entry isEntry).1

/-- Events that set every variable between them. -/
def covering : List Event :=
  [.loading ⟨0⟩ 0 0, .volumeChanged 0, .trackChanged ⟨⟨0⟩, "", 0, [⟨"", 0, 0⟩]⟩,
    .sessionConnected "" "", .sessionClientChanged "" "" "" "", .shuffleChanged false,
    .repeatChanged false, .autoPlayChanged false, .filterExplicitContentChanged false]

theorem exists_covering : ∀ name ∈ variableNames, ∃ event ∈ covering,
    event.Renders ∧ name ∈ event.environment.names := by
  decide +kernel

end Event

/-- An event sets its token and its variant's variables less those that it leaves out, each once,
and it is written exactly if its numbers have few enough digits. All of its variables are known,
each known one is set by some event, and events of two variants have two tokens. -/
theorem variable_names_exact :
    (∀ event : Event, event.environment.names.Nodup ∧
      (∀ name, name ∈ event.environment.names ↔
        name = "PLAYER_EVENT" ∨ name ∈ event.variant.keys.flatten ∧ ¬ event.LeavesOut name) ∧
      event.environment.names ⊆ variableNames ∧
      (event.environment? = some event.environment ↔ event.Renders)) ∧
    (∀ name ∈ variableNames, ∃ event : Event, event.Renders ∧ name ∈ event.environment.names) ∧
    ∀ first second : Event,
      first.environment.get? "PLAYER_EVENT" = second.environment.get? "PLAYER_EVENT" ↔
        first.variant = second.variant := by
  refine ⟨?_, ?_, ?_⟩
  · intro event
    refine ⟨nodup_environment event, event.mem_names_iff, event.names_subset, ?_⟩
    simp [Event.environment?]
  · intro name known
    obtain ⟨event, -, renders, member⟩ := Event.exists_covering name known
    exact ⟨event, renders, member⟩
  · intro first second
    rw [Event.get?_token, Event.get?_token, Option.some.injEq]
    exact Variant.token_injective.eq_iff

/-- An identifier out of range takes no other variable away. -/
example : (Event.loading ⟨-5⟩ 3 200).environment.names =
    ["PLAYER_EVENT", "PLAY_REQUEST_ID", "POSITION_MS"] := by
  decide

end EventHooks
