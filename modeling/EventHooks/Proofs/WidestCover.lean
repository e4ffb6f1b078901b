import EventHooks.Event.Variables
import Mathlib.Data.List.Basic

/-!
# The first of the widest pictures

What the choice among pictures finds, as a condition on the places before and after it. There is
such a picture exactly if there is any, and only one. It stays the choice under other heights, with
pictures at the end that are no wider, and with narrower pictures anywhere.
-/
namespace EventHooks

/-- Exactly the first of the widest pictures: wider than any before it, no narrower than any after
it. -/
def IsFirstWidest (covers : List Cover) (cover : Cover) : Prop :=
  ∃ front back, covers = front ++ cover :: back ∧
    (∀ earlier ∈ front, earlier.width < cover.width) ∧
    ∀ later ∈ back, later.width ≤ cover.width

section Covers

variable {covers rest : List Cover} {best next cover other : Cover}

theorem IsFirstWidest.ne_nil (first : IsFirstWidest covers cover) : covers ≠ [] := by
  obtain ⟨front, back, rfl, -, -⟩ := first
  simp

theorem IsFirstWidest.bound (first : IsFirstWidest covers cover) (member : other ∈ covers) :
    other.width ≤ cover.width := by
  obtain ⟨front, back, rfl, before, after⟩ := first
  rcases List.mem_append.1 member with earlier | later
  · exact Int.le_of_lt (before other earlier)
  · rcases List.mem_cons.1 later with rfl | later
    · exact Int.le_refl _
    · exact after other later

/-- A narrower picture in front is passed over. -/
theorem IsFirstWidest.cons_narrower (first : IsFirstWidest covers cover)
    (narrower : next.width < cover.width) : IsFirstWidest (next :: covers) cover := by
  obtain ⟨front, back, rfl, before, after⟩ := first
  exact ⟨next :: front, back, rfl, List.forall_mem_cons.2 ⟨narrower, before⟩, after⟩

/-- A picture that is no wider than the one before it changes nothing. -/
theorem IsFirstWidest.insert_no_wider (first : IsFirstWidest (best :: rest) cover)
    (noWider : next.width ≤ best.width) : IsFirstWidest (best :: next :: rest) cover := by
  obtain ⟨front, back, split, before, after⟩ := first
  cases front with
  | nil =>
    obtain ⟨rfl, rfl⟩ := List.cons.inj split
    exact ⟨[], next :: rest, rfl, by simp, List.forall_mem_cons.2 ⟨noWider, after⟩⟩
  | cons head front =>
    obtain ⟨rfl, rfl⟩ := List.cons.inj split
    obtain ⟨narrower, earlier⟩ := List.forall_mem_cons.1 before
    refine ⟨best :: next :: front, back, rfl, ?_, after⟩
    exact List.forall_mem_cons.2 ⟨narrower, List.forall_mem_cons.2 ⟨by omega, earlier⟩⟩

/-- In the choice, the best picture so far stands for all that come before. -/
theorem isFirstWidest_foldl (best : Cover) (covers : List Cover) :
    IsFirstWidest (best :: covers) (covers.foldl
      (fun best next => if best.width < next.width then next else best) best) := by
  induction covers generalizing best with
  | nil => exact ⟨[], [], rfl, by simp, by simp⟩
  | cons next rest ih =>
    rw [List.foldl_cons]
    split_ifs with wider
    · have chosen := ih next
      exact chosen.cons_narrower (Int.lt_of_lt_of_le wider (chosen.bound List.mem_cons_self))
    · exact (ih best).insert_no_wider (Int.not_lt.1 wider)

theorem IsFirstWidest.unique (first : IsFirstWidest covers cover)
    (second : IsFirstWidest covers other) : cover = other := by
  obtain ⟨front, back, rfl, before, after⟩ := first
  obtain ⟨front', back', split, before', after'⟩ := second
  rcases List.append_eq_append_iff.1 split with ⟨middle, rfl, rest⟩ | ⟨middle, rfl, rest⟩
  · cases middle with
    | nil => exact (List.cons.inj rest).1
    | cons head middle =>
      obtain ⟨rfl, rfl⟩ := List.cons.inj rest
      have wider := before' cover (by simp)
      have narrower := after other (by simp)
      omega
  · cases middle with
    | nil => exact (List.cons.inj rest).1.symm
    | cons head middle =>
      obtain ⟨rfl, rfl⟩ := List.cons.inj rest
      have wider := before other (by simp)
      have narrower := after' cover (by simp)
      omega

theorem widest?_eq_some_iff : widest? covers = some cover ↔ IsFirstWidest covers cover := by
  cases covers with
  | nil => simp [widest?, IsFirstWidest]
  | cons best rest =>
    have found := isFirstWidest_foldl best rest
    rw [widest?, Option.some.injEq]
    exact ⟨fun same => same ▸ found, found.unique⟩

theorem widest?_eq_none_iff : widest? covers = none ↔ covers = [] := by
  cases covers <;> simp [widest?]

/-! ## Its place -/

/-- Exactly the place of the first of the widest pictures: none in the list is wider, and each one
at an earlier place is narrower. -/
structure IsWidestAt (covers : List Cover) (index : Nat) (cover : Cover) : Prop where
  place : covers[index]? = some cover
  widest : ∀ other ∈ covers, other.width ≤ cover.width
  first : ∀ earlier < index, ∀ other, covers[earlier]? = some other → other.width < cover.width

theorem IsFirstWidest.exists_place (first : IsFirstWidest covers cover) :
    ∃ index, IsWidestAt covers index cover := by
  have widest : ∀ other ∈ covers, other.width ≤ cover.width := fun other => first.bound
  obtain ⟨front, back, rfl, before, -⟩ := first
  refine ⟨front.length, by simp, widest, ?_⟩
  intro earlier inFront other place
  rw [List.getElem?_append_left inFront] at place
  exact before other (List.mem_of_getElem? place)

/-- No two places are that of the first widest picture. -/
theorem IsWidestAt.unique {place another : Nat} (chosen : IsWidestAt covers place cover)
    (found : IsWidestAt covers another other) : another = place := by
  have bounded := chosen.widest other (List.mem_of_getElem? found.place)
  have bounding := found.widest cover (List.mem_of_getElem? chosen.place)
  rcases Nat.lt_trichotomy another place with before | same | after
  · have narrower := chosen.first another before other found.place
    omega
  · exact same
  · have narrower := found.first place after cover chosen.place
    omega

/-! ## Lists with the same choice -/

theorem IsFirstWidest.append_no_wider (first : IsFirstWidest covers cover)
    (noWider : ∀ other ∈ rest, other.width ≤ cover.width) :
    IsFirstWidest (covers ++ rest) cover := by
  obtain ⟨front, back, rfl, before, after⟩ := first
  refine ⟨front, back ++ rest, by simp, before, ?_⟩
  exact List.forall_mem_append.2 ⟨after, noWider⟩

/-- Exactly the lists that some pictures become when others that meet a condition are put in, at
any places. -/
inductive Inserted (extra : Cover → Prop) : List Cover → List Cover → Prop
  | nil : Inserted extra [] []
  | kept {covers others : List Cover} (cover : Cover) (inserted : Inserted extra covers others) :
    Inserted extra (cover :: covers) (cover :: others)
  | put {covers others : List Cover} (cover : Cover) (meets : extra cover)
    (inserted : Inserted extra covers others) : Inserted extra covers (cover :: others)

theorem Inserted.mem {extra : Cover → Prop} {others : List Cover}
    (inserted : Inserted extra covers others) (member : cover ∈ others) :
    cover ∈ covers ∨ extra cover := by
  induction inserted with
  | nil => cases member
  | kept head _ ih =>
    rcases List.mem_cons.1 member with rfl | later
    · exact .inl List.mem_cons_self
    · exact (ih later).imp_left (List.mem_cons_of_mem _)
  | put head meets _ ih =>
    rcases List.mem_cons.1 member with rfl | later
    · exact .inr meets
    · exact ih later

/-- Narrower pictures change nothing, wherever they are put in. -/
theorem IsFirstWidest.insert_narrower {others : List Cover} (first : IsFirstWidest covers cover)
    (inserted : Inserted (·.width < cover.width) covers others) : IsFirstWidest others cover := by
  induction inserted with
  | nil => exact first
  | put head narrower _ ih => exact (ih first).cons_narrower narrower
  | @kept covers others head inserted ih =>
    obtain ⟨front, back, split, before, after⟩ := first
    cases front with
    | nil =>
      -- The chosen picture comes first, and what is put in stands behind it.
      obtain ⟨rfl, rfl⟩ := List.cons.inj split
      refine ⟨[], others, rfl, by simp, ?_⟩
      intro other member
      rcases inserted.mem member with own | narrower
      · exact after other own
      · exact Int.le_of_lt narrower
    | cons earlier front =>
      obtain ⟨rfl, rfl⟩ := List.cons.inj split
      obtain ⟨narrower, rest⟩ := List.forall_mem_cons.1 before
      exact (ih ⟨front, back, rfl, rest, after⟩).cons_narrower narrower

/-- Without regard to heights. -/
def Cover.flat (cover : Cover) : String × Int :=
  (cover.url, cover.width)

/-- Pictures of other heights have their first widest one at the same address. -/
theorem IsFirstWidest.resize {others : List Cover} (first : IsFirstWidest covers cover)
    (same : others.map Cover.flat = covers.map Cover.flat) :
    ∃ other, IsFirstWidest others other ∧ other.url = cover.url := by
  obtain ⟨front, back, rfl, before, after⟩ := first
  rw [List.map_append, List.map_cons, List.map_eq_append_iff] at same
  obtain ⟨front', tail, rfl, sameFront, sameTail⟩ := same
  obtain ⟨other, back', rfl, sameCover, sameBack⟩ := List.map_eq_cons_iff.1 sameTail
  have width : other.width = cover.width := congrArg Prod.snd sameCover
  have widths {own given : List Cover} (alike : own.map Cover.flat = given.map Cover.flat) :
      ∀ picture ∈ own, ∃ counterpart ∈ given, counterpart.width = picture.width := by
    intro picture member
    have isFlat : picture.flat ∈ given.map Cover.flat := alike ▸ List.mem_map_of_mem member
    obtain ⟨counterpart, isGiven, flat⟩ := List.mem_map.1 isFlat
    exact ⟨counterpart, isGiven, congrArg Prod.snd flat⟩
  refine ⟨other, ⟨front', back', rfl, ?_, ?_⟩, congrArg Prod.fst sameCover⟩
  · intro picture member
    obtain ⟨counterpart, isGiven, alike⟩ := widths sameFront picture member
    rw [width, ← alike]
    exact before counterpart isGiven
  · intro picture member
    obtain ⟨counterpart, isGiven, alike⟩ := widths sameBack picture member
    rw [width, ← alike]
    exact after counterpart isGiven

end Covers

end EventHooks
