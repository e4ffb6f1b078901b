import EventHooks.System.FileStore
import Mathlib.Tactic.SplitIfs

/-!
# Files that are written

A path that leads to a file after its contents were written there leads to what was written.
-/
namespace EventHooks.FileStore

section Put

variable (store : FileStore) {target : Location} (new : Node)

theorem node?_put_self (inside : target ≠ []) : (store.put target new).node? target = some new := by
  have none : (store.entries.filter (·.1 != target)).find? (·.1 == target) = none := by
    simp
  simp [node?, put, inside, List.find?_append, none]

theorem node?_put_other {location : Location} (other : location ≠ target) :
    (store.put target new).node? location = store.node? location := by
  have kept : (store.entries.filter (·.1 != target)).find? (·.1 == location) =
      store.entries.find? (·.1 == location) := by
    rw [List.find?_filter]
    congr 1
    funext entry
    by_cases same : entry.1 = location
    · simp [same, other]
    · simp [same]
  have notNew : (target == location) = false := beq_false_of_ne (Ne.symm other)
  simp [node?, put, List.find?_append, kept, notNew]

end Put

/-! ## The way to a file -/

section Walks

variable {store : FileStore} {location target : Location} {node old new : Node}

theorem walk_of_not_directory (plain : node ≠ .directory) (names : List String) :
    store.walk location node names =
      if names = [] then .ok (.present location node) else .error .notDirectory := by
  cases names with
  | nil => rfl
  | cons name rest =>
    cases node with
    | directory => exact absurd rfl plain
    | file _ _ | device _ | program _ => rfl

/-- From a directory, a name leads to a directory without a look at the entries, or it is too long,
or its entry decides. -/
theorem walk_cases (location : Location) (name : String) (rest : List String) :
    (∃ next, ∀ store : FileStore,
      store.walk location .directory (name :: rest) = store.walk next .directory rest) ∨
    (∀ store : FileStore,
      store.walk location .directory (name :: rest) = .error .nameTooLong) ∨
    ∀ store : FileStore, store.walk location .directory (name :: rest) =
      match store.node? (location ++ [name]) with
      | some found => store.walk (location ++ [name]) found rest
      | none =>
        if rest.all (· == "") then .ok (.vacant (location ++ [name])) else .error .noEntry := by
  by_cases stay : name = "" ∨ name = "."
  · exact .inl ⟨location, fun store => by rw [walk, if_pos stay]⟩
  by_cases up : name = ".."
  · exact .inl ⟨location.dropLast, fun store => by rw [walk, if_neg stay, if_pos up]⟩
  by_cases long : nameLimit < name.utf8ByteSize
  · exact .inr (.inl fun store => by rw [walk, if_neg stay, if_neg up, if_pos long])
  · exact .inr (.inr fun store => by
      cases found : store.node? (location ++ [name]) <;>
        simp only [walk, if_neg stay, if_neg up, if_neg long, found])

/-- A way that ends at something other than a directory has found its entry. -/
theorem node?_of_walk_present (names : List String) (plain : old ≠ .directory)
    (walked : store.walk location .directory names = .ok (.present target old)) :
    store.node? target = some old := by
  induction names generalizing location with
  | nil =>
    obtain ⟨-, rfl⟩ := Place.present.inj (Except.ok.inj walked)
    exact absurd rfl plain
  | cons name rest ih =>
    rcases walk_cases location name rest with ⟨next, same⟩ | same | same
    · exact ih (same store ▸ walked)
    · rw [same] at walked
      cases walked
    · rw [same] at walked
      cases found : store.node? (location ++ [name]) with
      | none =>
        simp only [found] at walked
        split_ifs at walked
        cases walked
      | some node =>
        simp only [found] at walked
        by_cases directory : node = .directory
        · rw [directory] at walked
          exact ih walked
        · rw [walk_of_not_directory directory] at walked
          split_ifs at walked
          obtain ⟨rfl, rfl⟩ := Place.present.inj (Except.ok.inj walked)
          exact found

/-- A way that ends at a free place has found no entry there. -/
theorem node?_of_walk_vacant (names : List String)
    (walked : store.walk location .directory names = .ok (.vacant target)) :
    store.node? target = none ∧ target ≠ [] := by
  induction names generalizing location with
  | nil => cases walked
  | cons name rest ih =>
    rcases walk_cases location name rest with ⟨next, same⟩ | same | same
    · exact ih (same store ▸ walked)
    · rw [same] at walked
      cases walked
    · rw [same] at walked
      cases found : store.node? (location ++ [name]) with
      | none =>
        simp only [found] at walked
        split_ifs at walked
        obtain rfl := Place.vacant.inj (Except.ok.inj walked)
        exact ⟨found, by simp⟩
      | some node =>
        simp only [found] at walked
        by_cases directory : node = .directory
        · rw [directory] at walked
          exact ih walked
        · rw [walk_of_not_directory directory] at walked
          split_ifs at walked
          cases walked

/-- A way ends at something other than a directory, or at a free place. -/
def EndsAt (result : Except Errno Place) (target : Location) : Prop :=
  (∃ node, node ≠ .directory ∧ result = .ok (.present target node)) ∨ result = .ok (.vacant target)

theorem node?_of_endsAt {names : List String}
    (ends : EndsAt (store.walk location .directory names) target) :
    store.node? target ≠ some .directory ∧ target ≠ [] := by
  rcases ends with ⟨node, plain, walked⟩ | walked
  · have found := node?_of_walk_present names plain walked
    refine ⟨by simp [found, plain], ?_⟩
    rintro rfl
    exact plain (Option.some.inj found).symm
  · obtain ⟨none, inside⟩ := node?_of_walk_vacant names walked
    exact ⟨by simp [none], inside⟩

/-- What is put where a way ends is found on the same way, or the way is wrong for it. -/
theorem walk_put (names : List String) (inside : target ≠ []) (plain : new ≠ .directory)
    (ends : EndsAt (store.walk location .directory names) target) :
    (store.put target new).walk location .directory names = .ok (.present target new) ∨
      (store.put target new).walk location .directory names = .error .notDirectory := by
  induction names generalizing location with
  | nil =>
    rcases ends with ⟨node, isPlain, walked⟩ | walked
    · obtain ⟨-, rfl⟩ := Place.present.inj (Except.ok.inj walked)
      exact absurd rfl isPlain
    · cases walked
  | cons name rest ih =>
    rcases walk_cases location name rest with ⟨next, same⟩ | same | same
    · rw [same] at ends ⊢
      exact ih ends
    · rw [same] at ends
      simp [EndsAt] at ends
    rw [same] at ends ⊢
    by_cases own : location ++ [name] = target
    · -- The new entry is no directory, so the way ends here or is wrong.
      rw [own, node?_put_self store new inside]
      simp only [walk_of_not_directory plain]
      split_ifs
      · exact .inl rfl
      · exact .inr rfl
    · rw [node?_put_other store new own]
      cases found : store.node? (location ++ [name]) with
      | none =>
        simp only [found] at ends
        split_ifs at ends <;> simp [EndsAt, own] at ends
      | some node =>
        simp only [found] at ends ⊢
        by_cases directory : node = .directory
        · rw [directory] at ends ⊢
          exact ih ends
        · rw [walk_of_not_directory directory] at ends
          split_ifs at ends <;> simp [EndsAt, own] at ends

end Walks

/-! ## Contents -/

theorem namesOf_ne_nil (path : String) : Path.namesOf path ≠ [] := by
  have pieces (chars : List Char) : Path.splitOn '/' chars ≠ [] := by
    cases chars with
    | nil => simp [Path.splitOn]
    | cons c rest =>
      simp only [Path.splitOn]
      split_ifs
      · simp
      · split <;> simp
  simp [Path.namesOf, pieces]

section Contents

variable {store after : FileStore} {path : String} {target : Location}

theorem follow_put {new : Node} (plain : new ≠ .directory)
    (ends : EndsAt (store.follow path) target) :
    (store.put target new).follow path = .ok (.present target new) ∨
      (store.put target new).follow path = .error .notDirectory := by
  have working : (store.put target new).workingDirectory = store.workingDirectory := rfl
  unfold follow at ends ⊢
  by_cases empty : path.isEmpty = true
  · simp [empty, EndsAt] at ends
  by_cases long : pathLimit ≤ path.utf8ByteSize
  · simp [empty, long, EndsAt] at ends
  rw [if_neg empty, if_neg long] at ends ⊢
  rw [working]
  generalize (if path.toList.head? = some '/' then [] else store.workingDirectory) = start at ends ⊢
  cases found : store.node? start with
  | none => simp [found, EndsAt] at ends
  | some node =>
    simp only [found] at ends
    by_cases directory : node = .directory
    · rw [directory] at ends found
      obtain ⟨entry, inside⟩ := node?_of_endsAt ends
      have other : start ≠ target := by
        rintro rfl
        exact entry found
      simp only [node?_put_other store new other, found]
      exact walk_put _ inside plain ends
    · rw [walk_of_not_directory directory, if_neg (namesOf_ne_nil path)] at ends
      simp [EndsAt] at ends

/-- A path that leads to a file after contents were written to it leads to these. -/
theorem content_of_writeFile {content other : Bytes} {executable : Bool}
    (wrote : store.writeFile path content = .ok after)
    (isFile : after.status path = .ok (.file other executable)) : other = content := by
  -- Whatever is put at the end of the path is what the path leads to.
  have put_file {target : Location} {new : Node} (plain : new ≠ .directory)
      (ends : EndsAt (store.follow path) target) (same : store.put target new = after) :
      new = .file other executable := by
    subst same
    unfold status at isFile
    rcases follow_put plain ends with followed | followed
    · simpa [followed] using isFile
    · simp [followed] at isFile
  have unchanged {target : Location} {node : Node}
      (followed : store.follow path = .ok (.present target node)) (same : store = after) :
      node = .file other executable := by
    subst same
    simpa [status, followed] using isFile
  unfold writeFile updateFile at wrote
  split at wrote
  · rename_i location old mode followed
    have new := put_file (by simp) (.inl ⟨_, by simp, followed⟩) (Except.ok.inj wrote)
    exact (Node.file.inj new).1.symm
  · cases wrote
  · rename_i location followed
    split_ifs at wrote
    cases unchanged followed (Except.ok.inj wrote)
  · rename_i location node notFile _ _ followed
    exact (notFile _ _ (unchanged followed (Except.ok.inj wrote))).elim
  · rename_i location followed
    have new := put_file (by simp) (.inr followed) (Except.ok.inj wrote)
    exact (Node.file.inj new).1.symm
  · cases wrote

end Contents

end EventHooks.FileStore
