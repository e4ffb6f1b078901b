import EventHooks.Settings
import Mathlib.Data.List.Nodup
import Mathlib.Tactic.SplitIfs

/-!
# Updates of settings

An update by the names of settings gives each setting the value that the changes have for it, in
whatever order these come, and tells whether the settings are others then (`known_update_exact`). If
a name is no setting, the changes before it have been made all the same, so that the settings are
kept exactly if these have no effect (`refused_update_exact`).
-/
namespace EventHooks

namespace Setting

theorem name_injective {first second : Setting} (same : first.name = second.name) :
    first = second := by
  revert same
  cases first <;> cases second <;> decide

theorem ofName?_eq_some_iff {name : String} {setting : Setting} :
    ofName? name = some setting ↔ name = setting.name := by
  constructor
  · intro found
    have own : setting.name = name := by simpa using List.find?_some found
    exact own.symm
  · rintro rfl
    cases setting <;> decide

theorem ofName?_eq_none_iff {name : String} :
    ofName? name = none ↔ ∀ setting : Setting, name ≠ setting.name := by
  simp only [ofName?, List.find?_eq_none, beq_iff_eq]
  exact ⟨fun none setting same => none setting (mem_all setting) same.symm,
    fun none setting _ same => none setting same.symm⟩

end Setting

namespace Settings

/-- The settings by their names, in order. -/
def entries (settings : Settings) : List (String × Option (Given String)) :=
  Setting.all.map fun setting => (setting.name, settings.get setting)

theorem entries_injective {first second : Settings} (same : first.entries = second.entries) :
    first = second :=
  ext_get fun setting => (Prod.ext_iff.1 (List.map_inj_left.1 same setting setting.mem_all)).2

/-! ## Changes -/

/-- Changes of settings by name, in order. One without a value has no effect. -/
abbrev Changes := List (String × Option (Given String))

namespace Changes

/-- The names of changes. -/
def names (changes : Changes) : List String :=
  changes.map (·.1)

/-- Each change has the name of a setting. -/
def AreKnown (changes : Changes) : Prop :=
  ∀ name ∈ changes.names, ∃ setting : Setting, name = setting.name

/-- The value that changes have for a setting, the last one if there are several. -/
def given (changes : Changes) (setting : Setting) : Option (Given String) :=
  (changes.filterMap fun change => if change.1 = setting.name then change.2 else none).getLast?

/-- One list of changes for two that are made one after the other: a value of a later change stands
in place of those of earlier ones. -/
def overriddenBy (earlier later : Changes) : Changes :=
  earlier.filter (fun change => change.1 ∉ names (later.filter (·.2.isSome))) ++
    later.filter (·.2.isSome)

section Values

variable {changes others earlier later : Changes} {setting : Setting}

theorem given_append (earlier later : Changes) (setting : Setting) :
    given (earlier ++ later) setting = (given later setting).or (given earlier setting) := by
  simp [given, List.filterMap_append, List.getLast?_append]

theorem given_cons (name : String) (value : Option (Given String)) (changes : Changes)
    (setting : Setting) : given ((name, value) :: changes) setting =
      (given changes setting).or (if name = setting.name then value else none) := by
  have alone : given [(name, value)] setting = if name = setting.name then value else none := by
    unfold given
    split_ifs with own <;> cases value <;> simp [own]
  rw [← alone, ← given_append, List.singleton_append]

theorem given_of_not_mem (absent : setting.name ∉ changes.names) : changes.given setting = none := by
  induction changes with
  | nil => rfl
  | cons change changes ih =>
    obtain ⟨name, value⟩ := change
    obtain ⟨other, absent⟩ := not_or.1 (List.mem_cons.not.1 absent)
    rw [given_cons, ih absent, if_neg (Ne.symm other)]
    rfl

/-- Under distinct names, changes have the one value for a setting that stands under its name. -/
theorem given_of_mem (distinct : changes.names.Nodup) {value : Option (Given String)}
    (member : (setting.name, value) ∈ changes) : changes.given setting = value := by
  induction changes with
  | nil => cases member
  | cons change changes ih =>
    obtain ⟨fresh, distinct⟩ := List.nodup_cons.1 distinct
    rcases List.mem_cons.1 member with rfl | later
    · rw [given_cons, given_of_not_mem fresh, if_pos rfl]
      rfl
    · have other : change.1 ≠ setting.name := fun same =>
        fresh (List.mem_map.2 ⟨_, later, same.symm⟩)
      rw [given_cons, ih distinct later, if_neg other, Option.or_none]

theorem perm_names (same : others.Perm changes) : others.names.Perm changes.names :=
  same.map _

theorem given_congr (distinct : changes.names.Nodup) (same : others.Perm changes)
    (setting : Setting) : others.given setting = changes.given setting := by
  have distinctOthers : others.names.Nodup := (perm_names same).nodup_iff.2 distinct
  by_cases present : setting.name ∈ changes.names
  · obtain ⟨⟨name, value⟩, member, rfl⟩ := List.mem_map.1 present
    rw [given_of_mem distinct member, given_of_mem distinctOthers (same.mem_iff.2 member)]
  · rw [given_of_not_mem present,
      given_of_not_mem fun member => present ((perm_names same).mem_iff.1 member)]

theorem AreKnown.cons {name : String} {value : Option (Given String)}
    (known : AreKnown ((name, value) :: changes)) :
    (∃ setting : Setting, name = setting.name) ∧ changes.AreKnown :=
  List.forall_mem_cons.1 known

/-- Where not each change has the name of a setting, there is a first one that has not. -/
theorem exists_first_unknown (unknown : ¬ changes.AreKnown) :
    ∃ (made : Changes) (name : String) (value : Option (Given String)) (others : Changes),
      changes = made ++ (name, value) :: others ∧ made.AreKnown ∧
        ∀ setting : Setting, name ≠ setting.name := by
  induction changes with
  | nil => exact absurd (by simp [AreKnown, names]) unknown
  | cons change changes ih =>
    obtain ⟨name, value⟩ := change
    by_cases isSetting : ∃ setting : Setting, name = setting.name
    · have later : ¬ AreKnown changes := fun known =>
        unknown (List.forall_mem_cons.2 ⟨isSetting, known⟩)
      obtain ⟨made, other, given, others, rfl, known, isUnknown⟩ := ih later
      exact ⟨(name, value) :: made, other, given, others, rfl,
        List.forall_mem_cons.2 ⟨isSetting, known⟩, isUnknown⟩
    · exact ⟨[], name, value, changes, rfl, by simp [AreKnown, names], not_exists.1 isSetting⟩

theorem AreKnown.congr (known : changes.AreKnown) (same : others.Perm changes) :
    others.AreKnown :=
  fun name member => known name ((perm_names same).mem_iff.1 member)

/-! ### Changes that override others -/

theorem given_filter_isSome (changes : Changes) (setting : Setting) :
    given (changes.filter (·.2.isSome)) setting = changes.given setting := by
  induction changes with
  | nil => rfl
  | cons change changes ih =>
    obtain ⟨name, value⟩ := change
    cases value <;> simp [given_cons, ih]

theorem given_eq_none_iff : changes.given setting = none ↔
    setting.name ∉ names (changes.filter (·.2.isSome)) := by
  constructor
  · intro none member
    obtain ⟨⟨name, value⟩, kept, own⟩ := List.mem_map.1 member
    obtain ⟨isChange, isSome⟩ := List.mem_filter.1 kept
    obtain ⟨value, rfl⟩ := Option.isSome_iff_exists.1 isSome
    simp only [given, List.getLast?_eq_none_iff, List.filterMap_eq_nil_iff] at none
    have own : name = setting.name := own
    simpa [own] using none _ isChange
  · intro absent
    rw [← given_filter_isSome, given_of_not_mem absent]

theorem given_filter_not_mem (changes : Changes) (taken : List String) (setting : Setting) :
    given (changes.filter fun change => change.1 ∉ taken) setting =
      if setting.name ∈ taken then none else changes.given setting := by
  induction changes with
  | nil => simp [given]
  | cons change changes ih =>
    obtain ⟨name, value⟩ := change
    by_cases isTaken : name ∈ taken
    · have dropped : ((name, value) :: changes).filter (fun change => change.1 ∉ taken) =
          changes.filter fun change => change.1 ∉ taken := by
        simp [isTaken]
      rw [dropped, ih, given_cons]
      split_ifs with present own
      · rfl
      · exact absurd (own ▸ isTaken) present
      · rw [Option.or_none]
    · have kept : ((name, value) :: changes).filter (fun change => change.1 ∉ taken) =
          (name, value) :: changes.filter fun change => change.1 ∉ taken := by
        simp [isTaken]
      rw [kept, given_cons, given_cons, ih]
      by_cases present : setting.name ∈ taken
      · have other : name ≠ setting.name := fun own => isTaken (own ▸ present)
        simp [present, other]
      · simp only [present, if_false]

theorem given_overriddenBy (earlier later : Changes) (setting : Setting) :
    (earlier.overriddenBy later).given setting =
      (later.given setting).or (earlier.given setting) := by
  rw [overriddenBy, given_append, given_filter_isSome, given_filter_not_mem]
  split_ifs with overridden
  · obtain ⟨value, isGiven⟩ := Option.ne_none_iff_exists'.1
      (given_eq_none_iff.not.2 (not_not.2 overridden))
    rw [isGiven]
    rfl
  · rfl

theorem mem_names_overriddenBy {name : String} (member : name ∈ (earlier.overriddenBy later).names) :
    name ∈ earlier.names ∨ name ∈ later.names := by
  obtain ⟨change, kept, rfl⟩ := List.mem_map.1 member
  rcases List.mem_append.1 kept with isEarlier | isLater
  · exact .inl (List.mem_map.2 ⟨change, List.mem_of_mem_filter isEarlier, rfl⟩)
  · exact .inr (List.mem_map.2 ⟨change, List.mem_of_mem_filter isLater, rfl⟩)

theorem AreKnown.overriddenBy (known : earlier.AreKnown) (knownLater : later.AreKnown) :
    (earlier.overriddenBy later).AreKnown :=
  fun name member => (mem_names_overriddenBy member).elim (known name) (knownLater name)

theorem nodup_overriddenBy (distinct : earlier.names.Nodup) (distinctLater : later.names.Nodup) :
    (earlier.overriddenBy later).names.Nodup := by
  unfold Changes.overriddenBy names
  rw [List.map_append]
  refine List.nodup_append.2 ⟨distinct.sublist (List.filter_sublist.map _),
    distinctLater.sublist (List.filter_sublist.map _), ?_⟩
  rintro name isEarlier other isLater rfl
  obtain ⟨change, kept, rfl⟩ := List.mem_map.1 isEarlier
  exact absurd isLater (by simpa using (List.mem_filter.1 kept).2)

end Values

end Changes

/-! ## Changes that are made -/

section Steps

variable {changes : Changes} {setting other : Setting} {value : Option (Given String)}

theorem get_change (settings : Settings) (setting : Setting) (value : Option (Given String))
    (other : Setting) : (settings.change setting value).1.get other =
      (if setting = other then value else none).or (settings.get other) := by
  unfold change
  by_cases own : setting = other
  · subst own
    cases value with
    | none => simp
    | some given => by_cases same : settings.get setting = some given <;> simp [same]
  · split_ifs <;> simp [Ne.symm own]

/-- A change tells whether the settings are others. -/
theorem snd_change (settings : Settings) (setting : Setting) (value : Option (Given String)) :
    (settings.change setting value).2 = decide ((settings.change setting value).1 ≠ settings) := by
  unfold change
  split_ifs with changes
  · have different : settings.set setting value ≠ settings := by
      intro same
      have own : settings.get setting = value := by
        conv_lhs => rw [← same]
        simp
      exact changes.2 own
    simp [different]
  · simp

theorem changeAll_cons (settings : Settings) (setting : Setting) (value : Option (Given String))
    (changes : Changes) : settings.changeAll ((setting.name, value) :: changes) =
      (((settings.change setting value).1.changeAll changes).1,
        ((settings.change setting value).1.changeAll changes).2.map
          ((settings.change setting value).2 || ·)) := by
  simp only [changeAll, Setting.ofName?_eq_some_iff.2 rfl]

/-- Changes of known settings are all made, whatever comes after them. -/
theorem changeAll_append (settings : Settings) (known : changes.AreKnown) (later : Changes) :
    ∃ hasChanged, (settings.changeAll changes).2 = .ok hasChanged ∧
      settings.changeAll (changes ++ later) =
        (((settings.changeAll changes).1.changeAll later).1,
          ((settings.changeAll changes).1.changeAll later).2.map (hasChanged || ·)) := by
  induction changes generalizing settings with
  | nil =>
    refine ⟨false, rfl, ?_⟩
    cases result : (settings.changeAll later).2 <;> simp [changeAll, result, Except.map, Prod.ext_iff]
  | cons change changes ih =>
    obtain ⟨name, value⟩ := change
    obtain ⟨⟨setting, rfl⟩, others⟩ := known.cons
    obtain ⟨hasChanged, made, appended⟩ := ih (settings.change setting value).1 others
    refine ⟨(settings.change setting value).2 || hasChanged, ?_, ?_⟩
    · rw [changeAll_cons, made]
      rfl
    · rw [List.cons_append, changeAll_cons, appended, changeAll_cons]
      cases ((settings.change setting value).1.changeAll changes).1.changeAll later |>.2 <;>
        simp [Except.map, Bool.or_assoc]

theorem get_changeAll (settings : Settings) (known : changes.AreKnown) (other : Setting) :
    (settings.changeAll changes).1.get other = (changes.given other).or (settings.get other) := by
  induction changes generalizing settings with
  | nil => rfl
  | cons change changes ih =>
    obtain ⟨name, value⟩ := change
    obtain ⟨⟨setting, rfl⟩, others⟩ := known.cons
    have sameName : setting.name = other.name ↔ setting = other :=
      ⟨Setting.name_injective, congrArg Setting.name⟩
    rw [changeAll_cons, ih _ others, get_change, Changes.given_cons, Option.or_assoc]
    simp only [sameName]

/-- Changes under distinct names tell whether the settings are others: none of them takes back what
another one has changed. -/
theorem snd_changeAll (settings : Settings) (known : changes.AreKnown)
    (distinct : changes.names.Nodup) : (settings.changeAll changes).2 =
      .ok (decide ((settings.changeAll changes).1 ≠ settings)) := by
  induction changes generalizing settings with
  | nil => simp [changeAll]
  | cons change changes ih =>
    obtain ⟨name, value⟩ := change
    obtain ⟨⟨setting, rfl⟩, others⟩ := known.cons
    obtain ⟨fresh, distinct⟩ := List.nodup_cons.1 distinct
    rw [changeAll_cons]
    dsimp only
    rw [ih _ others distinct, snd_change]
    generalize first : (settings.change setting value).1 = changed
    by_cases same : changed = settings
    · simp [same, Except.map]
    · -- The later changes are of other settings, so the first one is still to be seen.
      have stays : (changed.changeAll changes).1 ≠ settings := by
        intro back
        refine same (ext_get fun other => ?_)
        have later := get_changeAll changed others other
        by_cases own : setting = other
        · subst own
          rw [back, Changes.given_of_not_mem fresh] at later
          exact later.symm
        · rw [← first, get_change, if_neg own]
          rfl
      simp [same, stays, Except.map]

end Steps

/-! ## Updates -/

section Updates

variable {changes later : Changes}

theorem any_ownName_iff : changes.any (·.1 == ownName) ↔ ownName ∈ changes.names := by
  simp [Changes.names]

theorem update_of_named (settings : Settings) (named : ownName ∈ changes.names) :
    settings.update changes = (settings, .error .ownName) :=
  if_pos (any_ownName_iff.2 named)

theorem update_of_unnamed (settings : Settings) (unnamed : ownName ∉ changes.names) :
    settings.update changes = settings.changeAll changes :=
  if_neg fun named => unnamed (any_ownName_iff.1 named)

theorem update_of_known (settings : Settings) (known : changes.AreKnown) :
    settings.update changes = settings.changeAll changes := by
  refine update_of_unnamed settings fun named => ?_
  obtain ⟨setting, same⟩ := known ownName named
  revert same
  cases setting <;> decide

theorem get_update (settings : Settings) (known : changes.AreKnown) (setting : Setting) :
    (settings.update changes).1.get setting = (changes.given setting).or (settings.get setting) := by
  rw [update_of_known settings known, get_changeAll settings known]

theorem snd_update (settings : Settings) (known : changes.AreKnown)
    (distinct : changes.names.Nodup) : (settings.update changes).2 =
      .ok (decide ((settings.update changes).1 ≠ settings)) := by
  rw [update_of_known settings known, snd_changeAll settings known distinct]

/-- An update by the names of settings, each at most once, gives a setting the value that stands
under its name, if there is one, and leaves it alone otherwise. It tells whether the settings differ
then. The order of the changes does not matter, repeating them changes nothing, and two updates are
one in which the values of the later one override. -/
theorem known_update_exact (settings : Settings) {changes later : Changes}
    (known : changes.AreKnown) (distinct : changes.names.Nodup) (knownLater : later.AreKnown)
    (distinctLater : later.names.Nodup) :
    let updated := (settings.update changes).1
    (∀ setting value, (setting.name, value) ∈ changes →
      updated.get setting = value.or (settings.get setting)) ∧
    (∀ setting : Setting, setting.name ∉ changes.names →
      updated.get setting = settings.get setting) ∧
    (settings.update changes).2 = .ok (decide (updated.entries ≠ settings.entries)) ∧
    (∀ others : Changes, others.Perm changes → settings.update others = settings.update changes) ∧
    updated.update changes = (updated, .ok false) ∧
    (changes.overriddenBy later).AreKnown ∧ (changes.overriddenBy later).names.Nodup ∧
    (updated.update later).1 = (settings.update (changes.overriddenBy later)).1 := by
  intro updated
  have gives (setting : Setting) := get_update settings known setting
  have tells : (settings.update changes).2 = .ok (decide (updated ≠ settings)) :=
    snd_update settings known distinct
  refine ⟨fun setting value member => ?_, fun setting absent => ?_, ?_, fun others same => ?_, ?_,
    known.overriddenBy knownLater, Changes.nodup_overriddenBy distinct distinctLater, ?_⟩
  · rw [gives, Changes.given_of_mem distinct member]
  · rw [gives, Changes.given_of_not_mem absent]
    rfl
  · have sameEntries : updated.entries = settings.entries ↔ updated = settings :=
      ⟨entries_injective, congrArg entries⟩
    rw [tells]
    simp only [ne_eq, sameEntries]
  · have knownOthers := known.congr same
    have sameSettings : (settings.update others).1 = updated := ext_get fun setting => by
      rw [get_update settings knownOthers, gives, Changes.given_congr distinct same]
    refine Prod.ext sameSettings ?_
    rw [tells, snd_update settings knownOthers ((Changes.perm_names same).nodup_iff.2 distinct),
      sameSettings]
  · have kept : (updated.update changes).1 = updated := ext_get fun setting => by
      rw [get_update updated known, gives]
      cases changes.given setting <;> rfl
    refine Prod.ext kept ?_
    rw [snd_update updated known distinct, kept]
    simp
  · refine ext_get fun setting => ?_
    rw [get_update updated knownLater, gives, get_update settings (known.overriddenBy knownLater),
      Changes.given_overriddenBy, Option.or_assoc]

/-- Settings with a shell, and changes of three settings with a value, an empty one and none. -/
theorem three_changes_update :
    let settings : Settings := { shell := some (.value "/bin/dash") }
    let changes : Changes :=
      [("onevent", some (.value "true")), ("username", some (.value "")), ("shell", none)]
    let later : Changes := [("onevent", none), ("username", some (.value "ada"))]
    (changes.AreKnown ∧ changes.names.Nodup ∧ later.AreKnown ∧ later.names.Nodup) ∧
      (settings.update changes).2 = .ok true ∧
      settings.update changes.reverse = settings.update changes ∧
      ((settings.update changes).1.update later).1 =
        { shell := some (.value "/bin/dash"), onevent := some (.value "true"),
          username := some (.value "ada") } := by
  intro settings changes later
  have known : changes.AreKnown := by
    simpa [Changes.AreKnown, Changes.names, changes] using
      ⟨⟨.onevent, rfl⟩, ⟨.username, rfl⟩, ⟨.shell, rfl⟩⟩
  have knownLater : later.AreKnown := by
    simpa [Changes.AreKnown, Changes.names, later] using ⟨⟨.onevent, rfl⟩, ⟨.username, rfl⟩⟩
  have distinct : changes.names.Nodup := by decide
  have distinctLater : later.names.Nodup := by decide
  obtain ⟨-, -, tells, reorders, -, -, -, merges⟩ :=
    known_update_exact settings known distinct knownLater distinctLater
  refine ⟨⟨known, distinct, knownLater, distinctLater⟩, ?_, reorders _ changes.reverse_perm, ?_⟩
  · rw [tells]
    rfl
  · rw [merges]
    rfl

/-! ## Updates that are refused -/

/-- An update is refused exactly if a name is no setting. If it is the name of the settings
themselves, wherever it stands, nothing is changed. Otherwise the changes before the first such name
have been made, so that the settings are kept exactly if each of these changes has no value or the
one that is there. -/
theorem refused_update_exact (settings : Settings) (changes : Changes) :
    ((∃ fault, (settings.update changes).2 = .error fault) ↔ ¬ changes.AreKnown) ∧
    (ownName ∈ changes.names → settings.update changes = (settings, .error .ownName)) ∧
    ∀ (made : Changes) (name : String) (value : Option (Given String)) (others : Changes),
      changes = made ++ (name, value) :: others → ownName ∉ changes.names → made.AreKnown →
      (∀ setting : Setting, name ≠ setting.name) →
        (settings.update changes).2 = .error (.unknown name) ∧
        (∀ setting, (settings.update changes).1.get setting =
          (made.given setting).or (settings.get setting)) ∧
        ((settings.update changes).1 = settings ↔
          ∀ setting, made.given setting = none ∨ made.given setting = settings.get setting) := by
  have refusedAt {made : Changes} {name : String} {value : Option (Given String)}
      {others : Changes} (split : changes = made ++ (name, value) :: others)
      (unnamed : ownName ∉ changes.names) (known : made.AreKnown)
      (unknown : ∀ setting : Setting, name ≠ setting.name) :
      settings.update changes = ((settings.changeAll made).1, .error (.unknown name)) := by
    obtain ⟨hasChanged, -, appended⟩ :=
      changeAll_append settings known ((name, value) :: others)
    have stops : (settings.changeAll made).1.changeAll ((name, value) :: others) =
        ((settings.changeAll made).1, .error (.unknown name)) := by
      simp only [changeAll, Setting.ofName?_eq_none_iff.2 unknown]
    rw [update_of_unnamed settings unnamed, split, appended, stops]
    rfl
  refine ⟨⟨?_, fun unknown => ?_⟩, fun named => ?_, fun made name value others split unnamed known
    unknown => ?_⟩
  · rintro ⟨fault, refused⟩ known
    obtain ⟨hasChanged, made, -⟩ := changeAll_append settings known []
    rw [update_of_known settings known, made] at refused
    cases refused
  · by_cases named : ownName ∈ changes.names
    · exact ⟨_, by rw [update_of_named settings named]⟩
    · obtain ⟨made, name, value, others, split, known, isUnknown⟩ :=
        Changes.exists_first_unknown unknown
      exact ⟨_, by rw [refusedAt split named known isUnknown]⟩
  · exact update_of_named settings named
  · have refused := refusedAt split unnamed known unknown
    have gives (setting : Setting) : (settings.update changes).1.get setting =
        (made.given setting).or (settings.get setting) := by
      rw [refused, get_changeAll settings known]
    refine ⟨by rw [refused], gives, fun kept setting => ?_, fun idle => ext_get fun setting => ?_⟩
    · have same := gives setting
      rw [kept] at same
      cases given : made.given setting with
      | none => exact .inl rfl
      | some value => exact .inr (by rw [same, given]; rfl)
    · rw [gives]
      rcases idle setting with none | same
      · rw [none]
        rfl
      · rw [same, Option.or_self]

/-- A name that is no setting comes first, and nothing is changed. -/
theorem unknown_first_keeps :
    let changes : Changes := [("volume", some (.value "10")), ("shell", some (.value "/bin/dash"))]
    ({} : Settings).update changes = ({}, .error (.unknown "volume")) := by
  intro changes
  have unknown : ∀ setting : Setting, "volume" ≠ setting.name := by
    intro setting
    cases setting <;> decide
  obtain ⟨refused, -, kept⟩ := (refused_update_exact {} changes).2.2 [] "volume" _ _ rfl
    (by decide) (by simp [Changes.AreKnown, Changes.names]) unknown
  exact Prod.ext (kept.2 fun _ => .inl rfl) refused

/-- A name that is no setting comes second, and the update that it is refused for has changed the
shell. -/
theorem refused_update_changes_shell :
    let changes : Changes := [("shell", some (.value "/bin/dash")), ("volume", some (.value "10"))]
    (({} : Settings).update changes).2 = .error (.unknown "volume") ∧
      ({} : Settings).get .shell = none ∧
      (({} : Settings).update changes).1.get .shell = some (.value "/bin/dash") := by
  decide

end Updates

end Settings

end EventHooks
