import EventHooks.Environment
import Mathlib.Data.List.Nodup

/-!
# Environments as finite maps

What setting, unsetting and overlaying do to the value of each variable.
-/
namespace EventHooks

/-- An entry that is set is found under its name, and any other one as before. -/
theorem find?_set {α : Type} (entries : List (String × α)) (name : String) (value : α)
    (other : String) :
    (if entries.any (·.1 == name) then
        entries.map fun entry => if entry.1 == name then (name, value) else entry
      else entries ++ [(name, value)]).find? (·.1 == other) =
      if other = name then some (name, value) else entries.find? (·.1 == other) := by
  have kept : ((·.1 == other) ∘ fun entry : String × α =>
      if entry.1 == name then (name, value) else entry) = (·.1 == other) := by
    funext entry
    by_cases own : entry.1 = name <;> simp [own]
  by_cases same : other = name
  · subst same
    rw [if_pos rfl]
    split_ifs with present
    · obtain ⟨found, isFound⟩ := Option.isSome_iff_exists.1
        (List.find?_isSome.2 (List.any_eq_true.1 present))
      rw [List.find?_map, kept, isFound, Option.map_some, if_pos (List.find?_some isFound)]
    · have unknown : entries.find? (·.1 == other) = none :=
        List.find?_eq_none.2 fun entry member own =>
          present (List.any_eq_true.2 ⟨entry, member, own⟩)
      simp [List.find?_append, unknown]
  · rw [if_neg same]
    split_ifs with present
    · rw [List.find?_map, kept]
      refine (Option.map_congr fun entry isFound => ?_).trans Option.map_id_apply
      have own : entry.1 = other := by simpa using List.find?_some isFound
      exact if_neg (by simp [own, same])
    · simp [List.find?_append, Ne.symm same]

/-- Under distinct names, every entry is the one that is found under its name. -/
theorem find?_of_mem {α : Type} {entries : List (String × α)} (distinct : (entries.map (·.1)).Nodup)
    {entry : String × α} (member : entry ∈ entries) :
    entries.find? (·.1 == entry.1) = some entry := by
  induction entries with
  | nil => cases member
  | cons first rest ih =>
    obtain ⟨fresh, distinctRest⟩ := List.nodup_cons.1 distinct
    rw [List.find?_cons]
    rcases List.mem_cons.1 member with rfl | later
    · rw [beq_self_eq_true]
    · have apart : first.1 ≠ entry.1 :=
        fun same => fresh (List.mem_map.2 ⟨entry, later, same.symm⟩)
      rw [beq_false_of_ne apart]
      exact ih distinctRest later

namespace Environment

theorem get?_cons (entry : String × String) (rest : Environment) (name : String) :
    get? (entry :: rest) name = if entry.1 = name then some entry.2 else get? rest name := by
  unfold get?
  rw [List.find?_cons]
  by_cases same : entry.1 = name
  · simp [same]
  · rw [beq_false_of_ne same, if_neg same]

theorem get?_append (front back : Environment) (name : String) :
    get? (front ++ back) name = (get? front name).or (get? back name) := by
  simp [get?, List.find?_append, Option.map_or]

theorem get?_eq_none_iff {environment : Environment} {name : String} :
    environment.get? name = none ↔ name ∉ environment.names := by
  induction environment with
  | nil => simp [get?, names]
  | cons entry rest ih =>
    rw [get?_cons]
    simp only [names, List.map_cons, List.mem_cons, not_or] at ih ⊢
    split_ifs with same
    · simp [same]
    · simp [ih, Ne.symm same]

theorem get?_set (environment : Environment) (name value other : String) :
    (environment.set name value).get? other =
      if other = name then some value else environment.get? other := by
  unfold get? set
  rw [find?_set]
  split_ifs <;> rfl

theorem names_set (environment : Environment) (name value : String) :
    (environment.set name value).names =
      if name ∈ environment.names then environment.names else environment.names ++ [name] := by
  have known : environment.any (·.1 == name) = true ↔ name ∈ environment.names := by
    simp [names]
  unfold set
  by_cases present : name ∈ environment.names
  · rw [if_pos (known.2 present), if_pos present, names, List.map_map]
    refine List.map_congr_left fun entry _ => ?_
    by_cases own : entry.1 = name <;> simp [own]
  · rw [if_neg (mt known.1 present), if_neg present, names, List.map_append]
    rfl

/-- Setting keeps the names distinct. -/
theorem nodup_set {environment : Environment} (distinct : environment.names.Nodup)
    (name value : String) : (environment.set name value).names.Nodup := by
  rw [names_set]
  split_ifs with known
  · exact distinct
  · exact List.nodup_append.2 ⟨distinct, List.nodup_singleton _, by
      intro other member single isSingle same
      exact known (List.mem_singleton.1 isSingle ▸ same ▸ member)⟩

theorem nodup_erase {environment : Environment} (distinct : environment.names.Nodup)
    (name : String) : (environment.erase name).names.Nodup :=
  distinct.sublist (List.filter_sublist.map _)

/-- Unsetting takes away one variable and keeps the others. -/
theorem get?_erase (environment : Environment) (name other : String) :
    (environment.erase name).get? other =
      if other = name then none else environment.get? other := by
  unfold erase
  induction environment with
  | nil => simp [get?]
  | cons entry rest ih =>
    rw [List.filter_cons, get?_cons]
    by_cases erased : entry.1 = name
    · rw [if_neg (by simp [erased]), ih]
      by_cases same : other = name
      · simp [same]
      · simp [same, erased, Ne.symm same]
    · rw [if_pos (by simp [erased]), get?_cons, ih]
      by_cases own : entry.1 = other
      · simp [own, own ▸ erased]
      · simp [own]

/-- An overlaid variable has the added value, any other one keeps its own. -/
theorem get?_overlay (environment : Environment) {added : Environment}
    (distinct : added.names.Nodup) (name : String) :
    (environment.overlay added).get? name = (added.get? name).or (environment.get? name) := by
  unfold overlay
  induction added generalizing environment with
  | nil => simp [get?]
  | cons entry rest ih =>
    obtain ⟨fresh, distinctRest⟩ := List.nodup_cons.1 distinct
    rw [List.foldl_cons, ih _ distinctRest, get?_set, get?_cons]
    by_cases own : name = entry.1
    · have absent : get? rest name = none := get?_eq_none_iff.2 (own ▸ fresh)
      rw [if_pos own, if_pos own.symm, absent]
      rfl
    · rw [if_neg own, if_neg (Ne.symm own)]

theorem mem_set {environment : Environment} {name value : String} {entry : String × String}
    (member : entry ∈ environment.set name value) :
    entry ∈ environment ∨ entry = (name, value) := by
  unfold set at member
  split_ifs at member with known
  · obtain ⟨old, isOld, same⟩ := List.mem_map.1 member
    split_ifs at same with own
    · exact .inr same.symm
    · exact .inl (same ▸ isOld)
  · simpa using member

theorem mem_overlay {environment added : Environment} {entry : String × String}
    (member : entry ∈ environment.overlay added) : entry ∈ environment ∨ entry ∈ added := by
  unfold overlay at member
  induction added generalizing environment with
  | nil => exact .inl member
  | cons first rest ih =>
    rcases ih member with earlier | later
    · rcases mem_set earlier with own | rfl
      · exact .inl own
      · exact .inr List.mem_cons_self
    · exact .inr (List.mem_cons_of_mem _ later)

theorem mem_of_get?_eq_some {environment : Environment} {name value : String}
    (found : environment.get? name = some value) : (name, value) ∈ environment := by
  obtain ⟨entry, isFirst, rfl⟩ := Option.map_eq_some_iff.1 found
  have isName := List.find?_some isFirst
  exact beq_iff_eq.1 isName ▸ List.mem_of_find?_eq_some isFirst

theorem get?_of_mem {environment : Environment} (distinct : environment.names.Nodup)
    {name value : String} (member : (name, value) ∈ environment) :
    environment.get? name = some value :=
  Option.map_eq_some_iff.2 ⟨(name, value), find?_of_mem distinct member, rfl⟩

/-- What is overlaid is there afterwards. -/
theorem mem_overlay_of_mem {environment added : Environment} (distinct : added.names.Nodup)
    {entry : String × String} (member : entry ∈ added) : entry ∈ environment.overlay added := by
  apply mem_of_get?_eq_some
  rw [get?_overlay _ distinct, get?_of_mem distinct member, Option.some_or]

end Environment

end EventHooks
