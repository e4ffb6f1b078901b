import EventHooks.Proofs.EventFields
import EventHooks.Proofs.WidestCover

/-!
# Setting an audio item on other variables

An item sets its own variables on others and keeps every other one. The identifier, the name and
the length of the item replace what was set before. The address of a picture replaces it exactly if
the item has a picture: an item without one keeps the address that it finds, be it of an earlier
item (`item_overwrites_iff`). The picture is the first widest one, and stays it with other heights
and beside pictures that are narrower (`first_widest_picture`).
-/
namespace EventHooks

namespace AudioItem

/-- Whether an item replaces what a variable was set to: its own variables, that of a picture only
if it has one. -/
def Replaces (item : AudioItem) (name : String) : Prop :=
  name ∈ FieldKind.audioItem.variables ∧ (name = "TRACK_COVER" → item.covers ≠ [])

instance (item : AudioItem) (name : String) : Decidable (item.Replaces name) :=
  inferInstanceAs (Decidable (_ ∧ _))

/-- Exactly what an item leaves of the variables that it is set on. -/
structure SetsOn (item : AudioItem) (before after : Environment) : Prop where
  trackId : after.get? "TRACK_ID" = item.trackId.format?
  unidentified : after.get? "TRACK_ID" = none ↔ item.trackId.raw < 0 ∨ 2 ^ 128 ≤ item.trackId.raw
  trackName : after.get? "TRACK_NAME" = some item.name
  duration : after.get? "TRACK_DURATION" = some (IntegerText.render item.durationMs)
  pictured : ∀ cover, IsFirstWidest item.covers cover →
    after.get? "TRACK_COVER" = some cover.url
  /-- Nothing takes away the address that was there. -/
  unpictured : item.covers = [] → after.get? "TRACK_COVER" = before.get? "TRACK_COVER"
  others : ∀ name ∉ FieldKind.audioItem.variables, after.get? name = before.get? name

end AudioItem

namespace Environment

theorem get?_setTrackId (environment : Environment) (id : TrackId) (name : String) :
    (environment.setTrackId id).get? name =
      if name = "TRACK_ID" then id.format? else environment.get? name := by
  unfold setTrackId
  cases form : id.format? with
  | none => rw [get?_erase]
  | some text => rw [get?_set]

end Environment

namespace AudioItem

section Lookup

variable (item : AudioItem) (environment : Environment)

/-- A variable that an item replaces has the item's value, and any other one its own. -/
theorem get?_setVariables (name : String) :
    (item.setVariables environment).get? name =
      if item.Replaces name then (FieldValue.audioItem item).value? name
      else environment.get? name := by
  unfold setVariables Replaces
  cases chosen : widest? item.covers with
  | none =>
    have bare : item.covers = [] := widest?_eq_none_iff.1 chosen
    simp only [Environment.setInteger, Environment.get?_set, Environment.get?_setTrackId]
    simp only [FieldKind.variables, FieldValue.value?, bare]
    grind
  | some cover =>
    have pictured : item.covers ≠ [] := (widest?_eq_some_iff.1 chosen).ne_nil
    simp only [Environment.setInteger, Environment.get?_set, Environment.get?_setTrackId]
    simp only [FieldKind.variables, FieldValue.value?, chosen]
    grind

theorem get?_of_replaces {name : String} (replaces : item.Replaces name) :
    (item.setVariables environment).get? name = (FieldValue.audioItem item).value? name := by
  rw [get?_setVariables, if_pos replaces]

theorem get?_of_not_replaces {name : String} (keeps : ¬ item.Replaces name) :
    (item.setVariables environment).get? name = environment.get? name := by
  rw [get?_setVariables, if_neg keeps]

/-- Of its own variables, the address of a picture is the only one that an item may keep. -/
theorem eq_cover_of_not_replaces {name : String} (own : name ∈ FieldKind.audioItem.variables)
    (keeps : ¬ item.Replaces name) : name = "TRACK_COVER" ∧ item.covers = [] := by
  by_contra other
  apply keeps
  refine ⟨own, ?_⟩
  intro isCover bare
  exact other ⟨isCover, bare⟩

theorem replaces_of_ne_cover {name : String} (own : name ∈ FieldKind.audioItem.variables)
    (other : name ≠ "TRACK_COVER") : item.Replaces name := by
  refine ⟨own, ?_⟩
  intro isCover
  exact absurd isCover other

theorem replaces_cover_iff : item.Replaces "TRACK_COVER" ↔ item.covers ≠ [] := by
  constructor
  · intro replaces
    exact replaces.2 rfl
  · intro pictured
    exact ⟨by decide, fun _ => pictured⟩

theorem setsOn_setVariables : item.SetsOn environment (item.setVariables environment) where
  trackId := item.get?_of_replaces environment (item.replaces_of_ne_cover (by decide) (by decide))
  unidentified := by
    rw [item.get?_of_replaces environment (item.replaces_of_ne_cover (by decide) (by decide))]
    exact TrackId.format?_eq_none_iff
  trackName := item.get?_of_replaces environment (item.replaces_of_ne_cover (by decide) (by decide))
  duration := item.get?_of_replaces environment (item.replaces_of_ne_cover (by decide) (by decide))
  pictured := by
    intro cover first
    rw [item.get?_of_replaces environment (item.replaces_cover_iff.2 first.ne_nil)]
    simp [FieldValue.value?, widest?_eq_some_iff.2 first]
  unpictured := by
    intro bare
    apply item.get?_of_not_replaces environment
    intro replaces
    exact item.replaces_cover_iff.1 replaces bare
  others := by
    intro name foreign
    apply item.get?_of_not_replaces environment
    intro replaces
    exact foreign replaces.1

end Lookup

variable {item earlier : AudioItem} {first second environment : Environment}

/-- An item leaves the same in its variables, whatever they were, unless it keeps two different
addresses. -/
theorem same_own_iff :
    (∀ name ∈ FieldKind.audioItem.variables,
      (item.setVariables first).get? name = (item.setVariables second).get? name) ↔
      item.covers ≠ [] ∨ first.get? "TRACK_COVER" = second.get? "TRACK_COVER" := by
  constructor
  · intro same
    by_cases bare : item.covers = []
    · right
      have cover := same "TRACK_COVER" (by decide)
      rwa [(item.setsOn_setVariables first).unpictured bare,
        (item.setsOn_setVariables second).unpictured bare] at cover
    · exact .inl bare
  · intro apart name own
    by_cases replaces : item.Replaces name
    · rw [item.get?_of_replaces first replaces, item.get?_of_replaces second replaces]
    · obtain ⟨rfl, bare⟩ := item.eq_cover_of_not_replaces own replaces
      rw [item.get?_of_not_replaces first replaces, item.get?_of_not_replaces second replaces]
      exact apart.resolve_left (not_not.2 bare)

/-- An item keeps the address that was there if it has no picture, or one at this address. -/
theorem keeps_cover_iff :
    (item.setVariables environment).get? "TRACK_COVER" = environment.get? "TRACK_COVER" ↔
      ∀ cover, IsFirstWidest item.covers cover →
        environment.get? "TRACK_COVER" = some cover.url := by
  have sets := item.setsOn_setVariables environment
  constructor
  · intro same cover chosen
    rw [← same, sets.pictured cover chosen]
  · intro given
    cases chosen : widest? item.covers with
    | none => exact sets.unpictured (widest?_eq_none_iff.1 chosen)
    | some cover =>
      have first := widest?_eq_some_iff.1 chosen
      rw [sets.pictured cover first, given cover first]

/-- An item covers up the one before it unless it keeps that one's picture. -/
theorem covers_up_iff :
    (∀ name, (item.setVariables (earlier.setVariables environment)).get? name =
      (item.setVariables environment).get? name) ↔
      item.covers ≠ [] ∨ ∀ cover, IsFirstWidest earlier.covers cover →
        environment.get? "TRACK_COVER" = some cover.url := by
  rw [← keeps_cover_iff]
  constructor
  · intro same
    exact same_own_iff.1 fun name _ => same name
  · intro apart name
    by_cases own : name ∈ FieldKind.audioItem.variables
    · exact same_own_iff.2 apart name own
    · rw [(item.setsOn_setVariables _).others name own,
        (earlier.setsOn_setVariables environment).others name own,
        (item.setsOn_setVariables environment).others name own]

/-- An item leaves its own values and keeps all other variables, but without a picture it keeps an
address too. So what was set before does not show in the item's variables, and an earlier item does
not show at all, exactly if the item has a picture or there are no two addresses to tell apart. -/
theorem item_overwrites_iff (item : AudioItem) :
    (∀ environment, item.SetsOn environment (item.setVariables environment) ∧
      (item.setVariables? environment = some (item.setVariables environment) ↔
        IntegerText.Renders item.durationMs)) ∧
    (∀ first second : Environment,
      (∀ name ∈ FieldKind.audioItem.variables,
        (item.setVariables first).get? name = (item.setVariables second).get? name) ↔
        item.covers ≠ [] ∨ first.get? "TRACK_COVER" = second.get? "TRACK_COVER") ∧
    ∀ (earlier : AudioItem) (environment : Environment),
      (∀ name, (item.setVariables (earlier.setVariables environment)).get? name =
        (item.setVariables environment).get? name) ↔
        item.covers ≠ [] ∨ ∀ cover, IsFirstWidest earlier.covers cover →
          environment.get? "TRACK_COVER" = some cover.url := by
  refine ⟨fun environment => ⟨item.setsOn_setVariables environment, ?_⟩, ?_, ?_⟩
  · simp [setVariables?]
  · intro first second
    exact same_own_iff
  · intro earlier environment
    exact covers_up_iff

/-- An item without pictures. -/
def unpicturedItem : AudioItem := ⟨⟨0⟩, "a", 5, []⟩

/-- An item with a picture. -/
def picturedItem : AudioItem := ⟨⟨0⟩, "b", 5, [⟨"u", 3, 3⟩]⟩

/-- The address of an earlier item's picture stays on an item without pictures, which has none if
it is set on nothing. -/
theorem stale_cover_stays :
    unpicturedItem.covers = [] ∧
      (unpicturedItem.setVariables [("TRACK_COVER", "x")]).get? "TRACK_COVER" = some "x" ∧
      (unpicturedItem.setVariables (picturedItem.setVariables [])).get? "TRACK_COVER" = some "u" ∧
      (unpicturedItem.setVariables []).get? "TRACK_COVER" = none := by
  decide

/-! ## The picture -/

theorem exists_setVariables?_iff :
    (∃ after, item.setVariables? environment = some after) ↔
      IntegerText.Renders item.durationMs := by
  unfold setVariables?
  split_ifs with renders <;> simp [renders]

theorem eq_of_setVariables? {after : Environment}
    (set : item.setVariables? environment = some after) :
    after = item.setVariables environment := by
  unfold setVariables? at set
  split_ifs at set
  exact (Option.some.inj set).symm

/-- Items that differ in their pictures alone set the same variables if their first widest pictures
are at one address. -/
theorem setVariables_congr_covers {covers : List Cover} {cover other : Cover}
    (chosen : IsFirstWidest item.covers cover) (found : IsFirstWidest covers other)
    (url : other.url = cover.url) :
    { item with covers := covers }.setVariables? environment = item.setVariables? environment := by
  have same : { item with covers := covers }.setVariables environment =
      item.setVariables environment := by
    unfold setVariables
    rw [widest?_eq_some_iff.2 chosen, widest?_eq_some_iff.2 found]
    simp only [url]
  rw [setVariables?, setVariables?, same]

/-- Unless the length of the item is too long to be written, it sets the address of its first widest
picture, at the one place where no other picture is wider and every earlier one is narrower. Other
heights, pictures at the end that are no wider and narrower pictures anywhere leave all variables as
they are. -/
theorem first_widest_picture (item : AudioItem) (pictured : item.covers ≠ [])
    (environment : Environment) :
    ((∃ after, item.setVariables? environment = some after) ↔
      IntegerText.Renders item.durationMs) ∧
    ∃ place cover, IsWidestAt item.covers place cover ∧
      (∀ another other, IsWidestAt item.covers another other → another = place) ∧
      (∀ after, item.setVariables? environment = some after →
        after.get? "TRACK_COVER" = some cover.url) ∧
      (∀ resized : List Cover, resized.map Cover.flat = item.covers.map Cover.flat →
        { item with covers := resized }.setVariables? environment =
          item.setVariables? environment) ∧
      (∀ further : List Cover, (∀ other ∈ further, other.width ≤ cover.width) →
        { item with covers := item.covers ++ further }.setVariables? environment =
          item.setVariables? environment) ∧
      ∀ mixed : List Cover, Inserted (·.width < cover.width) item.covers mixed →
        { item with covers := mixed }.setVariables? environment =
          item.setVariables? environment := by
  obtain ⟨cover, isWidest⟩ := Option.ne_none_iff_exists'.1 (mt widest?_eq_none_iff.1 pictured)
  have chosen := widest?_eq_some_iff.1 isWidest
  obtain ⟨place, isPlace⟩ := chosen.exists_place
  refine ⟨exists_setVariables?_iff, place, cover, isPlace, fun _ _ => isPlace.unique, ?_, ?_, ?_, ?_⟩
  · intro after set
    rw [eq_of_setVariables? set]
    exact (item.setsOn_setVariables environment).pictured cover chosen
  · intro resized same
    obtain ⟨other, found, url⟩ := chosen.resize same
    exact setVariables_congr_covers chosen found url
  · intro further noWider
    exact setVariables_congr_covers chosen (chosen.append_no_wider noWider) rfl
  · intro mixed inserted
    exact setVariables_congr_covers chosen (chosen.insert_narrower inserted) rfl

/-- An item with pictures of negative widths, of which two are the widest. -/
def negativeItem : AudioItem := ⟨⟨0⟩, "c", 7, [⟨"a", -5, 1⟩, ⟨"b", -3, 9⟩, ⟨"c", -3, 2⟩]⟩

/-- The first of two widest pictures is chosen, beside narrower ones too. -/
theorem first_of_two_widest : negativeItem.covers ≠ [] ∧
    (∃ after, negativeItem.setVariables? [] = some after ∧
      after.get? "TRACK_COVER" = some "b") ∧
    { negativeItem with covers := [⟨"d", -4, 0⟩, ⟨"a", -5, 1⟩, ⟨"b", -3, 9⟩, ⟨"e", -9, 0⟩,
      ⟨"c", -3, 2⟩] }.setVariables? [] = negativeItem.setVariables? [] := by
  have pictured : negativeItem.covers ≠ [] := by decide
  obtain ⟨sets, place, cover, isPlace, unique, address, -, -, mixed⟩ :=
    first_widest_picture negativeItem pictured []
  have isSecond : IsWidestAt negativeItem.covers 1 ⟨"b", -3, 9⟩ := by
    refine ⟨rfl, by decide, ?_⟩
    intro earlier before other isEarlier
    obtain rfl : earlier = 0 := by omega
    cases isEarlier
    decide
  obtain rfl := unique _ _ isSecond
  obtain rfl : _ = cover := Option.some.inj isPlace.place
  obtain ⟨after, set⟩ := sets.2 (by decide +kernel)
  refine ⟨pictured, ⟨after, set, address after set⟩, mixed _ ?_⟩
  exact .put _ (by decide) (.kept _ (.kept _ (.put _ (by decide) (.kept _ .nil))))

end AudioItem

end EventHooks
