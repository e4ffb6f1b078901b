import EventHooks.Options
import Mathlib.Data.List.TakeWhile
import Mathlib.Data.Option.Basic
import Mathlib.Logic.Relation

/-!
# The last text for an option

Arguments may come in any number and order that each give an option a text, or ask for the settings
to be saved, under any beginnings of names that no two options share. Such arguments are always
taken. The last text for an option is its value, and it does not matter how the arguments for
different options stand to each other (`last_text_counts`).
-/
namespace EventHooks

/-- Exactly the beginnings of the long name of an option, from its two dashes on, that no other long
name has. -/
def OptionName.IsNamedBy (name : OptionName) (start : String) : Prop :=
  ['-', '-'] <+: start.toList ∧
    ∀ other : OptionName, start.toList <+: other.long.toList ↔ other = name

/-- The value of an option that has values, as a text. -/
def Options.given? (options : Options) : OptionName → Option (Given String)
  | .onevent => options.onevent
  | .shell => options.shell
  | .configDir => options.configDir
  | .run => options.run
  | .logLevel => options.logLevel.map fun
    | .value level => .value level.name
    | .nothing => .nothing
  | .help | .save => none

/-- An argument that gives an option a text, or that asks for the settings to be saved, with the
beginning of the name in it. -/
inductive Assignment
  | giving (name : OptionName) (start text : String)
  | saving (start : String)

namespace Assignment

/-- The option of an argument. -/
def name : Assignment → OptionName
  | giving name _ _ => name
  | saving _ => .save

/-- The argument as it is written. -/
def argument : Assignment → String
  | giving _ start text => start ++ "=" ++ text
  | saving start => start

/-- The text that an argument gives an option. -/
def textFor? (option : OptionName) : Assignment → Option String
  | giving name _ text => if name = option then some text else none
  | saving _ => none

/-- The option has values and can be told by the beginning of its name, and the text is not two
dashes; for a level it is the name of one. -/
inductive IsProper : Assignment → Prop
  | giving {name : OptionName} {start text : String} (takes : name.takesValue)
    (named : name.IsNamedBy start) (isText : text ≠ "--")
    (isLevel : name = .logLevel → ∃ level : LogLevel, text = level.name) :
    IsProper (.giving name start text)
  | saving {start : String} (named : OptionName.save.IsNamedBy start) : IsProper (.saving start)

/-- Two neighbours for different options have changed places. -/
inductive Swap : List Assignment → List Assignment → Prop
  | swap (front back : List Assignment) {first second : Assignment}
    (different : first.name ≠ second.name) :
    Swap (front ++ first :: second :: back) (front ++ second :: first :: back)

/-- The token of an argument. -/
def token : Assignment → Options.Token
  | giving name _ text => .option name (some text)
  | saving _ => .option .save none

end Assignment

/-! ## Tokens -/

namespace Options

section Names

variable {name : OptionName} {start : String}

theorem bne_of_not_mem {c : Char} {chars : List Char} (absent : c ∉ chars) :
    ∀ x ∈ chars, (x != c) = true :=
  fun _ member => bne_iff_ne.2 fun same => absent (same ▸ member)

theorem splitValue_plain {front : List Char} (plain : '=' ∉ front) :
    splitValue front = (front, none) := by
  rw [splitValue, List.takeWhile_eq_self_iff.2 (bne_of_not_mem plain),
    List.dropWhile_eq_nil_iff.2 (bne_of_not_mem plain)]

theorem splitValue_equals {front : List Char} (plain : '=' ∉ front) (text : String) :
    splitValue (front ++ '=' :: text.toList) = (front, some text) := by
  rw [splitValue, List.takeWhile_append_of_pos (bne_of_not_mem plain),
    List.dropWhile_append_of_pos (bne_of_not_mem plain)]
  simp

/-- A name that is told by its beginning is the only candidate for it. -/
theorem candidates_eq (named : name.IsNamedBy start) : candidates start.toList = [name] := by
  have same : candidates start.toList = OptionName.all.filter (· = name) := by
    refine List.filter_congr fun other _ => ?_
    rw [Bool.eq_iff_iff, List.isPrefixOf_iff_prefix, named.2 other, decide_eq_true_iff]
  rw [same]
  cases name <;> rfl

/-- There is no equals sign in the beginning of a name. -/
theorem plain_of_named (named : name.IsNamedBy start) : '=' ∉ start.toList := by
  intro member
  have inName := ((named.2 name).2 rfl).subset member
  cases name <;> revert inName <;> decide +kernel

/-- An argument that begins with two dashes is split at the equals sign. -/
theorem classify_of_named (named : name.IsNamedBy start) {argument : String}
    {attached : Option String} (dashes : ['-', '-'] <+: argument.toList)
    (split : splitValue argument.toList = (start.toList, attached)) :
    classify argument = .ok (.option name attached) := by
  obtain ⟨rest, isRest⟩ := dashes
  rw [← isRest] at split
  rw [classify, ← isRest]
  simp only [List.cons_append, List.nil_append] at split ⊢
  simp only [split, candidates_eq named]

end Names

theorem classify_argument {assignment : Assignment} (proper : assignment.IsProper) :
    classify assignment.argument = .ok assignment.token := by
  cases proper with
  | @giving name start text takes named isText isLevel =>
    have written : (start ++ "=" ++ text).toList = start.toList ++ '=' :: text.toList := by simp
    rw [Assignment.argument, Assignment.token]
    refine classify_of_named named ?_ ?_
    · rw [written]
      exact named.1.trans (List.prefix_append _ _)
    · rw [written, splitValue_equals (plain_of_named named)]
  | saving named =>
    rw [Assignment.argument, Assignment.token]
    exact classify_of_named named named.1 (splitValue_plain (plain_of_named named))

/-- Two dashes alone could stand for any option. -/
theorem argument_ne_dashes {assignment : Assignment} (proper : assignment.IsProper) :
    assignment.argument ≠ "--" := by
  intro dashes
  have taken := classify_argument proper
  rw [dashes] at taken
  cases taken

theorem tokens_arguments {assignments : List Assignment}
    (proper : ∀ assignment ∈ assignments, assignment.IsProper) :
    tokens (assignments.map Assignment.argument) = .ok (assignments.map Assignment.token) := by
  induction assignments with
  | nil => rfl
  | cons assignment rest ih =>
    obtain ⟨first, others⟩ := List.forall_mem_cons.1 proper
    rw [List.map_cons, tokens, if_neg (argument_ne_dashes first), classify_argument first,
      ih others]
    rfl

/-! ## Values -/

/-- A text that is not two dashes is taken for the value of its option, and nothing else changes. -/
theorem exists_withValue (options : Options) {name : OptionName} {text : String}
    (takes : name.takesValue) (isText : text ≠ "--")
    (isLevel : name = .logLevel → ∃ level : LogLevel, text = level.name) :
    ∃ next, options.withValue name text = .ok next ∧ next.save = options.save ∧
      ∀ other, next.given? other = if name = other then some (.value text)
        else options.given? other := by
  have given : givenText text = .value text := if_neg isText
  unfold withValue
  rw [given]
  cases name with
  | help | save => cases takes
  | onevent | shell | configDir | run =>
    exact ⟨_, rfl, rfl, fun other => by cases other <;> rfl⟩
  | logLevel =>
    obtain ⟨level, rfl⟩ := isLevel rfl
    have found : LogLevel.ofName? level.name = some level := by cases level <;> decide +kernel
    simp only [found]
    exact ⟨_, rfl, rfl, fun other => by cases other <;> rfl⟩

/-- What one argument changes: its option has the text that it gives, or the settings are to be
saved. -/
theorem exists_taken (options : Options) {assignment : Assignment}
    (proper : assignment.IsProper) :
    ∃ next, (∀ rest, take options [] (assignment.token :: rest) = take next [] rest) ∧
      (next.save ↔ options.save ∨ assignment.name = .save) ∧
      ∀ name, next.given? name =
        ((assignment.textFor? name).map .value).or (options.given? name) := by
  cases proper with
  | @giving name start text takes named isText isLevel =>
    obtain ⟨next, isNext, save, given⟩ := exists_withValue options takes isText isLevel
    refine ⟨next, fun rest => ?_, ?_, fun other => ?_⟩
    · simp only [Assignment.token, take, isNext]
    · have notSave : name ≠ .save := by
        rintro rfl
        cases takes
      simp [save, Assignment.name, notSave]
    · rw [given, Assignment.textFor?]
      split_ifs <;> rfl
  | saving named =>
    refine ⟨{ options with save := true }, fun rest => rfl, by simp [Assignment.name],
      fun name => ?_⟩
    cases name <;> rfl

/-- What all arguments change: each option has the last text that is given it. -/
theorem exists_take (options : Options) {assignments : List Assignment}
    (proper : ∀ assignment ∈ assignments, assignment.IsProper) :
    ∃ last, take options [] (assignments.map Assignment.token) = .ok last ∧
      (last.save ↔ options.save ∨ ∃ assignment ∈ assignments, assignment.name = .save) ∧
      ∀ name, last.given? name =
        ((assignments.filterMap (Assignment.textFor? name)).getLast?.map .value).or
          (options.given? name) := by
  induction assignments generalizing options with
  | nil => exact ⟨options, rfl, by simp, fun name => rfl⟩
  | cons assignment rest ih =>
    obtain ⟨first, others⟩ := List.forall_mem_cons.1 proper
    obtain ⟨next, isNext, save, given⟩ := exists_taken options first
    obtain ⟨last, isLast, laterSave, laterGiven⟩ := ih next others
    refine ⟨last, (isNext _).trans isLast, ?_, fun name => ?_⟩
    · simp [laterSave, save, or_assoc]
    · -- The text of this argument counts unless a later one gives its option another.
      rw [laterGiven, given, List.filterMap_cons]
      cases assignment.textFor? name with
      | none => rfl
      | some text =>
        cases later : (rest.filterMap (Assignment.textFor? name)).getLast? <;>
          simp [List.getLast?_cons, later]

/-- Options are known by their values and by whether the settings are to be saved. -/
theorem eq_of_given {options others : Options}
    (given : ∀ name, options.given? name = others.given? name)
    (save : options.save ↔ others.save) : options = others := by
  have level : options.logLevel = others.logLevel := by
    refine Option.map_injective ?_ (given .logLevel)
    rintro (level | _) (other | _) same
    · cases level <;> cases other <;> first | rfl | exact absurd same (by decide +kernel)
    all_goals simp_all
  obtain ⟨onevent, shell, configDir, logLevel, run, saves⟩ := options
  cases given .onevent
  cases given .shell
  cases given .configDir
  cases given .run
  cases level
  cases Bool.eq_iff_iff.2 save
  rfl

end Options

/-! ## Orders -/

namespace Assignment

theorem textFor?_of_ne {assignment : Assignment} {option : OptionName}
    (other : assignment.name ≠ option) : assignment.textFor? option = none := by
  cases assignment with
  | giving name start text => exact if_neg other
  | saving start => rfl

/-- A swap keeps the arguments, and for each option the order of its texts. -/
theorem Swap.keeps {assignments others : List Assignment} (swap : Swap assignments others) :
    others.Perm assignments ∧
      ∀ option, others.filterMap (textFor? option) = assignments.filterMap (textFor? option) := by
  obtain ⟨front, back, different⟩ := swap
  rename_i first second
  refine ⟨(List.Perm.swap first second back).append_left front, fun option => ?_⟩
  rw [List.filterMap_append, List.filterMap_append]
  -- At most one of the two is for the option.
  by_cases own : first.name = option
  · have other := textFor?_of_ne (own ▸ different.symm)
    simp [List.filterMap_cons, other]
  · simp [List.filterMap_cons, textFor?_of_ne own]

theorem keeps_of_swaps {assignments others : List Assignment}
    (swaps : Relation.ReflTransGen Swap assignments others) :
    others.Perm assignments ∧
      ∀ option, others.filterMap (textFor? option) = assignments.filterMap (textFor? option) := by
  induction swaps with
  | refl => exact ⟨.refl _, fun _ => rfl⟩
  | tail _ swap ih =>
    obtain ⟨same, texts⟩ := swap.keeps
    exact ⟨same.trans ih.1, fun option => (texts option).trans (ih.2 option)⟩

end Assignment

/-- What arguments make of the options: each option has the last text that is given it, or no value
if there is none, and the settings are to be saved if an argument asks for it. -/
theorem Options.exists_read {assignments : List Assignment}
    (proper : ∀ assignment ∈ assignments, assignment.IsProper) :
    ∃ options, Options.read (assignments.map Assignment.argument) = .ok options ∧
      (options.save ↔ ∃ assignment ∈ assignments, assignment.name = .save) ∧
      ∀ name, options.given? name =
        (assignments.filterMap (Assignment.textFor? name)).getLast?.map .value := by
  obtain ⟨options, taken, save, given⟩ := Options.exists_take {} proper
  refine ⟨options, ?_, by simp [save], fun name => ?_⟩
  · rw [Options.read, Options.tokens_arguments proper]
    exact taken
  · rw [given]
    cases name <;> exact Option.or_none

/-- Arguments that give texts to options, or ask for the settings to be saved, are taken in any
number and order. Each option has the last text that is given it for its value, and none if no text
is given it; the settings are to be saved if an argument asks for it. Moving arguments for different
options past each other changes nothing. -/
theorem last_text_counts {assignments : List Assignment}
    (proper : ∀ assignment ∈ assignments, assignment.IsProper) :
    ∃ options, Options.read (assignments.map Assignment.argument) = .ok options ∧
      (∀ name : OptionName, name.takesValue → options.given? name =
        (assignments.filterMap (Assignment.textFor? name)).getLast?.map .value) ∧
      (options.save ↔ ∃ assignment ∈ assignments, assignment.name = .save) ∧
      ∀ others, Relation.ReflTransGen Assignment.Swap assignments others →
        Options.read (others.map Assignment.argument) = .ok options := by
  obtain ⟨options, read, save, given⟩ := Options.exists_read proper
  refine ⟨options, read, fun name _ => given name, save, fun others swaps => ?_⟩
  obtain ⟨same, texts⟩ := Assignment.keeps_of_swaps swaps
  obtain ⟨moved, movedRead, movedSave, movedGiven⟩ :=
    Options.exists_read fun assignment member => proper assignment (same.mem_iff.1 member)
  rw [movedRead]
  refine congrArg Except.ok (Options.eq_of_given (fun name => ?_) ?_)
  · rw [movedGiven, given, texts]
  · simp only [movedSave, save, same.mem_iff]

/-- Two shells, a flag and an empty command, the first three of them under beginnings of names. -/
def repeatedShell : List Assignment :=
  [.giving .shell "--sh" "a", .saving "--sav", .giving .run "--r" "",
    .giving .shell "--shell" "-x = --"]

theorem isProper_repeatedShell : ∀ assignment ∈ repeatedShell, assignment.IsProper := by
  have named {name : OptionName} {start : String} (dashes : ['-', '-'] <+: start.toList)
      (unique : ∀ other ∈ OptionName.all, start.toList <+: other.long.toList ↔ other = name) :
      name.IsNamedBy start :=
    ⟨dashes, fun other => unique other (by cases other <;> decide)⟩
  simp only [repeatedShell, List.forall_mem_cons, List.not_mem_nil, false_imp_iff, implies_true,
    and_true]
  refine ⟨.giving rfl (named ?_ ?_) ?_ nofun, .saving (named ?_ ?_),
    .giving rfl (named ?_ ?_) ?_ nofun, .giving rfl (named ?_ ?_) ?_ nofun⟩ <;> decide +kernel

/-- The second shell counts, which looks like an option and has an equals sign in it. It does so too
when the flag comes after it. -/
theorem second_shell_counts :
    let options : Options :=
      { shell := some (.value "-x = --"), run := some (.value ""), save := true }
    Options.read ["--sh=a", "--sav", "--r=", "--shell=-x = --"] = .ok options ∧
      Options.read ["--sh=a", "--r=", "--shell=-x = --", "--sav"] = .ok options := by
  intro options
  obtain ⟨read, isRead, given, save, moved⟩ := last_text_counts isProper_repeatedShell
  have later : Relation.ReflTransGen Assignment.Swap repeatedShell
      [.giving .shell "--sh" "a", .giving .run "--r" "", .giving .shell "--shell" "-x = --",
        .saving "--sav"] :=
    .tail (.single (.swap [.giving .shell "--sh" "a"] _ (by decide)))
      (.swap [.giving .shell "--sh" "a", .giving .run "--r" ""] [] (by decide))
  have saves : read.save ↔ options.save := by
    simp [save, repeatedShell, Assignment.name, options]
  obtain rfl : read = options := by
    refine Options.eq_of_given (fun name => ?_) saves
    cases name with
    | help | save => rfl
    | _ => exact given _ rfl
  exact ⟨isRead, moved _ later⟩

end EventHooks
