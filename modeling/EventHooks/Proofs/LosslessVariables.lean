import EventHooks.Proofs.DecimalText
import EventHooks.Proofs.EventFields
import EventHooks.Proofs.WidestCover

/-!
# What the variables of an event keep

Two events have the same variables exactly if they are of the same variant and have the same fields,
up to what the variables leave out: numbers of identifiers without a text form, and of an item's
pictures all but the address of the first widest one (`same_variables_iff_alike`).
-/
namespace EventHooks

/-! ## Values that count as the same -/

/-- The same number, or two numbers outside the range of 128 bits. -/
def TrackId.Alike (first second : TrackId) : Prop :=
  first = second ∨
    (first.raw < 0 ∨ 2 ^ 128 ≤ first.raw) ∧ (second.raw < 0 ∨ 2 ^ 128 ≤ second.raw)

/-- No pictures on either side, or first widest pictures at the same address. -/
def CoversAlike (first second : List Cover) : Prop :=
  first = [] ∧ second = [] ∨
    ∃ cover other, IsFirstWidest first cover ∧ IsFirstWidest second other ∧ cover.url = other.url

/-- The same item up to identifiers out of range and pictures that are not chosen. -/
structure AudioItem.Alike (first second : AudioItem) : Prop where
  trackId : first.trackId.Alike second.trackId
  name : first.name = second.name
  durationMs : first.durationMs = second.durationMs
  covers : CoversAlike first.covers second.covers

/-- The same value, with identifiers and items compared as such. -/
def FieldValue.Alike : FieldValue → FieldValue → Prop
  | .trackId first, .trackId second => first.Alike second
  | .audioItem first, .audioItem second => first.Alike second
  | first, second => first = second

/-- Events of one variant whose fields are alike, one by one. -/
structure Event.Alike (first second : Event) : Prop where
  variant : first.variant = second.variant
  values : List.Forall₂ FieldValue.Alike first.values second.values

/-! ## Parts -/

theorem TrackId.format?_eq_iff {first second : TrackId} :
    first.format? = second.format? ↔ first.Alike second := by
  constructor
  · intro same
    cases form : first.format? with
    | none => exact .inr ⟨format?_eq_none_iff.1 form, format?_eq_none_iff.1 (same ▸ form)⟩
    | some text =>
      obtain ⟨-, isFirst⟩ := format?_eq_some_iff.1 form
      obtain ⟨-, isSecond⟩ := format?_eq_some_iff.1 (same ▸ form)
      obtain ⟨raw⟩ := first
      obtain ⟨other⟩ := second
      exact .inl (congrArg TrackId.mk (isFirst.trans isSecond.symm))
  · rintro (rfl | ⟨isFirst, isSecond⟩)
    · rfl
    · rw [format?_eq_none_iff.2 isFirst, format?_eq_none_iff.2 isSecond]

theorem widest_url_eq_iff {first second : List Cover} :
    (widest? first).map (·.url) = (widest? second).map (·.url) ↔ CoversAlike first second := by
  constructor
  · intro same
    cases isFirst : widest? first with
    | none =>
      rw [isFirst, Option.map_none, eq_comm, Option.map_eq_none_iff] at same
      exact .inl ⟨widest?_eq_none_iff.1 isFirst, widest?_eq_none_iff.1 same⟩
    | some cover =>
      rw [isFirst, Option.map_some, eq_comm, Option.map_eq_some_iff] at same
      obtain ⟨other, isSecond, url⟩ := same
      exact .inr ⟨cover, other, widest?_eq_some_iff.1 isFirst, widest?_eq_some_iff.1 isSecond,
        url.symm⟩
  · rintro (⟨rfl, rfl⟩ | ⟨cover, other, isFirst, isSecond, url⟩)
    · rfl
    · rw [widest?_eq_some_iff.2 isFirst, widest?_eq_some_iff.2 isSecond, Option.map_some,
        Option.map_some, url]

/-! ## Fields -/

namespace FieldValue

variable {first second : FieldValue}

theorem flagWord_injective (name : String) : Function.Injective (flagWord name) := by
  intro first second same
  by_cases isRepeat : name = "REPEAT"
  all_goals
    simp only [flagWord, isRepeat, booleanWord, if_true, if_false] at same
    revert same
    cases first <;> cases second <;> decide

/-- Fields that are alike give the same value to every variable. -/
theorem Alike.value? (alike : first.Alike second) (name : String) :
    first.value? name = second.value? name := by
  cases first with
  | trackId id =>
    cases second with
    | trackId other => exact TrackId.format?_eq_iff.2 alike
    | _ => cases alike
  | audioItem item =>
    cases second with
    | audioItem other =>
      obtain ⟨trackId, itemName, durationMs, covers⟩ := alike
      simp only [FieldValue.value?, TrackId.format?_eq_iff.2 trackId, itemName, durationMs,
        widest_url_eq_iff.2 covers]
    | _ => cases alike
  | integer | boolean | text =>
    cases second <;> cases alike
    rfl

/-- Fields of one kind that give the same values to the variables of the kind are alike. -/
theorem alike_of_value? {names : List String} (suits : first.kind.Suits names)
    (kind : first.kind = second.kind)
    (same : ∀ name ∈ names, first.value? name = second.value? name) : first.Alike second := by
  cases first with
  | audioItem item =>
    cases second with
    | audioItem other =>
      obtain rfl : names = _ := suits
      refine ⟨?_, ?_, ?_, ?_⟩
      · exact TrackId.format?_eq_iff.1 (same "TRACK_ID" (by simp))
      · exact Option.some.inj (same "TRACK_NAME" (by simp))
      · exact IntegerText.render_injective (Option.some.inj (same "TRACK_DURATION" (by simp)))
      · exact widest_url_eq_iff.1 (same "TRACK_COVER" (by simp))
    | _ => cases kind
  | trackId id =>
    obtain rfl : names = _ := suits
    cases second with
    | trackId other => exact TrackId.format?_eq_iff.1 (same "TRACK_ID" List.mem_cons_self)
    | _ => cases kind
  | integer number =>
    obtain ⟨name, -, rfl⟩ := suits
    cases second with
    | integer other =>
      have rendered := Option.some.inj (same name List.mem_cons_self)
      exact congrArg integer (IntegerText.render_injective rendered)
    | _ => cases kind
  | boolean value =>
    obtain ⟨name, -, rfl⟩ := suits
    cases second with
    | boolean other =>
      have word := Option.some.inj (same name List.mem_cons_self)
      exact congrArg boolean (flagWord_injective name word)
    | _ => cases kind
  | text value =>
    obtain ⟨name, -, rfl⟩ := suits
    cases second with
    | text other => exact congrArg text (Option.some.inj (same name List.mem_cons_self))
    | _ => cases kind

end FieldValue

/-! ## Events -/

namespace Event

variable {first second : Event}

theorem settings_of_alike {keys : List (List String)} {values others : List FieldValue}
    (alike : List.Forall₂ FieldValue.Alike values others) :
    settings keys values = settings keys others := by
  induction alike generalizing keys with
  | nil => rfl
  | @cons value other values others head _ ih =>
    cases keys with
    | nil => rfl
    | cons names keys =>
      have setting : value.setting names = other.setting names := by
        simp only [FieldValue.setting, head.value?]
      unfold settings at ih ⊢
      rw [List.zipWith_cons_cons, List.zipWith_cons_cons, List.flatten_cons, List.flatten_cons,
        setting, ih]

theorem Alike.environment (alike : first.Alike second) :
    first.environment = second.environment := by
  rw [environment_eq, environment_eq, entries_eq, entries_eq, alike.variant,
    settings_of_alike alike.values]

/-- Events whose variables have the same values are alike. -/
theorem alike_of_get? (same : ∀ name, first.environment.get? name = second.environment.get? name) :
    first.Alike second := by
  -- The token gives the variant away, and with it the kinds and the variables of the fields.
  have variant : first.variant = second.variant := by
    have token := same "PLAYER_EVENT"
    rw [get?_token, get?_token] at token
    exact Variant.token_injective (Option.some.inj token)
  have kinds : first.values.map FieldValue.kind = second.values.map FieldValue.kind := by
    rw [kinds_values, kinds_values, variant]
  have length : first.values.length = second.values.length := by
    simpa using congrArg List.length kinds
  refine ⟨variant, List.forall₂_iff_get.2 ⟨length, fun index inFirst inSecond => ?_⟩⟩
  have inKeys : index < first.variant.keys.length := by rw [length_keys]; exact inFirst
  have isNames := List.getElem?_eq_getElem inKeys
  have isFirst := List.getElem?_eq_getElem inFirst
  have isSecond := List.getElem?_eq_getElem inSecond
  have sameKind : first.values[index].kind = second.values[index].kind := by
    have atIndex := congrArg (·[index]?) kinds
    simpa [isFirst, isSecond] using atIndex
  refine FieldValue.alike_of_value? (Variant.suits_keys (kinds_of_values isFirst) isNames) sameKind
    fun name own => ?_
  rw [List.get_eq_getElem, List.get_eq_getElem, ← first.get?_environment isNames isFirst own, same]
  exact second.get?_environment (variant ▸ isNames) isSecond own

end Event

/-- Two events that can be written have the same variables exactly if they are alike, whether or not
the order of the variables counts. -/
theorem same_variables_iff_alike (first second : Event) (firstRenders : first.Renders)
    (secondRenders : second.Renders) :
    ∃ own others, first.environment? = some own ∧ second.environment? = some others ∧
      ((∀ name, own.get? name = others.get? name) ↔ first.Alike second) ∧
      (own = others ↔ first.Alike second) := by
  refine ⟨first.environment, second.environment, if_pos firstRenders, if_pos secondRenders, ?_, ?_⟩
  · exact ⟨Event.alike_of_get?, fun alike name => by rw [alike.environment]⟩
  · exact ⟨fun same => Event.alike_of_get? fun name => by rw [same], Event.Alike.environment⟩

/-- An item with an identifier below the range and two pictures of one width. -/
def itemBelow : AudioItem :=
  ⟨⟨-1⟩, "a", 5, [⟨"u", 3, 3⟩, ⟨"v", 3, 3⟩]⟩

/-- An item with an identifier above the range and another choice of pictures. -/
def itemAbove : AudioItem :=
  ⟨⟨2 ^ 128⟩, "a", 5, [⟨"w", -4, 0⟩, ⟨"u", 7, 1⟩]⟩

/-- Identifiers out of range and pictures that are not chosen are all that is lost: another length
is not. -/
theorem items_out_of_range :
    (∃ own others, (Event.trackChanged itemBelow).environment? = some own ∧
      (Event.trackChanged itemAbove).environment? = some others ∧ own = others) ∧
    ∃ own others, (Event.trackChanged itemBelow).environment? = some own ∧
      (Event.trackChanged { itemAbove with durationMs := 6 }).environment? = some others ∧
      own ≠ others := by
  constructor
  · obtain ⟨own, others, isOwn, isOther, -, same⟩ := same_variables_iff_alike
      (.trackChanged itemBelow) (.trackChanged itemAbove) (by decide +kernel) (by decide +kernel)
    refine ⟨own, others, isOwn, isOther, same.2 ⟨rfl, .cons ⟨?_, rfl, rfl, ?_⟩ .nil⟩⟩
    · exact .inr ⟨by decide, by decide⟩
    · exact widest_url_eq_iff.1 rfl
  · obtain ⟨own, others, isOwn, isOther, -, same⟩ := same_variables_iff_alike
      (.trackChanged itemBelow) (.trackChanged { itemAbove with durationMs := 6 })
      (by decide +kernel) (by decide +kernel)
    refine ⟨own, others, isOwn, isOther, fun equal => ?_⟩
    cases (same.1 equal).values with
    | cons alike _ =>
      have length : (5 : Int) = 6 := alike.durationMs
      cases length

end EventHooks
