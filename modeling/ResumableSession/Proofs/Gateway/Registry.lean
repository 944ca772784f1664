import ResumableSession.Gateway.Registry
import Mathlib.Data.Finset.Card
import Mathlib.Data.Finset.Image
import Mathlib.Data.Finset.Range
import Mathlib.Data.List.Nodup

/-!
# Ids of live sessions

An id that is issued is not zero and not that of a live session.  The search for one needs no
bound: it tries one id after another, past zero, and comes to an end if any is free, at the
first that is free behind the last one.  The bound on its tries is never in the way.
-/

namespace ResumableSession

/-! ## The round of ids -/

/-- How many ids lie between `last` and `id`.  Zero follows the largest id, so `last` itself
comes at the end of the round. -/
def idsBetween (last id : UInt32) : Nat := (id - last - 1).toNat

section

variable {last id other : UInt32}

theorem idsBetween_lt (last id : UInt32) : idsBetween last id < UInt32.size :=
  (id - last - 1).toNat_lt_size

theorem idsBetween_next (last : UInt32) : idsBetween last (last + 1) = 0 := by
  rw [idsBetween, UInt32.add_comm, UInt32.add_sub_cancel, UInt32.sub_self]
  rfl

theorem idsBetween_inj : idsBetween last id = idsBetween last other ↔ id = other := by
  rw [idsBetween, idsBetween, UInt32.toNat_inj, UInt32.sub_left_inj, UInt32.sub_left_inj]

theorem add_idsBetween (last id : UInt32) : last + UInt32.ofNat (idsBetween last id + 1) = id := by
  rw [idsBetween, UInt32.ofNat_add, UInt32.ofNat_toNat, UInt32.ofNat_one]
  grind

private theorem idsBetween_of_lt {count : Nat} (bounded : count < UInt32.size) (last : UInt32) :
    idsBetween last (last + UInt32.ofNat (count + 1)) = count := by
  have onward : last + UInt32.ofNat (count + 1) - last - 1 = UInt32.ofNat count := by
    rw [UInt32.ofNat_add, UInt32.ofNat_one]
    grind
  rw [idsBetween, onward, UInt32.toNat_ofNat_of_lt' bounded]

theorem idsBetween_add (start id : UInt32) (passed : Nat) :
    idsBetween start id =
      (passed + idsBetween (start + UInt32.ofNat passed) id) % UInt32.size := by
  have onward : id - start - 1 =
      UInt32.ofNat passed + (id - (start + UInt32.ofNat passed) - 1) := by
    grind
  rw [idsBetween, onward, UInt32.toNat_add, UInt32.toNat_ofNat', Nat.mod_add_mod]
  rfl

private theorem idsBetween_of_ne (further : id ≠ last + 1) :
    idsBetween last id = idsBetween (last + 1) id + 1 := by
  have positive : idsBetween last id ≠ 0 := by
    rw [← idsBetween_next last, ne_eq, idsBetween_inj]
    exact further
  have onward := idsBetween_add last id 1
  have bound := idsBetween_lt (last + 1) id
  rw [UInt32.ofNat_one] at onward
  simp only [UInt32.size] at onward bound
  omega

/-- Of `count` ids behind `last` one is missing from any smaller set. -/
theorem exists_notMem_of_card_lt {ids : Finset UInt32} {count : Nat} (few : ids.card < count)
    (bounded : count ≤ UInt32.size) (last : UInt32) :
    ∃ id, id ∉ ids ∧ idsBetween last id < count := by
  let behind := (Finset.range count).image fun place => last + UInt32.ofNat (place + 1)
  have every : behind.card = count := by
    rw [Finset.card_image_of_injOn, Finset.card_range]
    intro first firstBound second secondBound same
    rw [Finset.coe_range, Set.mem_Iio] at firstBound secondBound
    have between := congrArg (idsBetween last) same
    rwa [idsBetween_of_lt (by omega), idsBetween_of_lt (by omega)] at between
  obtain ⟨id, member, missing⟩ := Finset.exists_mem_notMem_of_card_lt_card (few.trans_eq every.symm)
  obtain ⟨place, inside, rfl⟩ := Finset.mem_image.mp member
  rw [Finset.mem_range] at inside
  refine ⟨_, missing, ?_⟩
  rwa [idsBetween_of_lt (by omega)]

end

namespace Registry

variable {T : Type} {registry : Registry T} {last id : UInt32}

/-! ## Live ids -/

/-- The ids of the live sessions, newest first. -/
def liveIds (registry : Registry T) : List UInt32 := registry.sessions.map (·.1)

theorem isLive_eq_false_iff : registry.isLive id = false ↔ id ∉ registry.liveIds := by
  simp only [isLive, liveIds, List.any_eq_false, beq_iff_eq, List.mem_map, not_exists, not_and]

theorem get?_eq_none_iff : registry.get? id = none ↔ id ∉ registry.liveIds := by
  simp only [get?, liveIds, Option.map_eq_none_iff, List.find?_eq_none, beq_iff_eq, List.mem_map,
    not_exists, not_and]

theorem isEmpty_iff : registry.isEmpty = true ↔ registry.liveIds = [] := by
  simp [isEmpty, liveIds]

@[simp] theorem liveIds_takeBinding (registry : Registry T) (token : String) :
    (registry.takeBinding token).1.liveIds = registry.liveIds := rfl

@[simp] theorem liveIds_openBinding (registry : Registry T) (token tag : String) (now : Duration) :
    (registry.openBinding token tag now).liveIds = registry.liveIds := rfl

@[simp] theorem liveIds_sweepBindings (registry : Registry T) (now timeout : Duration) :
    (registry.sweepBindings now timeout).1.liveIds = registry.liveIds := rfl

theorem register_of_not_mem (free : id ∉ registry.liveIds) (session : T) :
    (registry.register id session).1.liveIds = id :: registry.liveIds ∧
      (registry.register id session).2 = none := by
  refine ⟨?_, get?_eq_none_iff.mpr free⟩
  have kept : registry.sessions.filter (fun entry => entry.1 != id) = registry.sessions := by
    rw [List.filter_eq_self]
    intro entry member
    have other : entry.1 ≠ id := by
      rintro rfl
      exact free (List.mem_map_of_mem member)
    simpa using other
  rw [register, kept]
  rfl

theorem liveIds_unregister (distinct : registry.liveIds.Nodup) (id : UInt32) :
    (registry.unregister id).1.liveIds = registry.liveIds.erase id := by
  rw [distinct.erase_eq_filter, liveIds, liveIds, unregister, List.filter_map]
  rfl

/-! ## The search -/

/-- An id that may be issued. -/
def IsFree (registry : Registry T) (id : UInt32) : Prop := id ≠ 0 ∧ id ∉ registry.liveIds

/-- Whoever tries the ids behind `last` one after another, for as long as it takes, stops at
`id`. -/
inductive Finds (registry : Registry T) : (last id : UInt32) → Prop where
  | stop {last : UInt32} (free : registry.IsFree (last + 1)) : Finds registry last (last + 1)
  | further {last id : UInt32} (taken : ¬registry.IsFree (last + 1))
      (later : Finds registry (last + 1) id) : Finds registry last id

/-- The first free id behind `last`. -/
def IsNext (registry : Registry T) (last id : UInt32) : Prop :=
  registry.IsFree id ∧
    ∀ other, registry.IsFree other → idsBetween last id ≤ idsBetween last other

private theorem IsFree.ne {other : UInt32} (free : registry.IsFree id)
    (taken : ¬registry.IsFree other) :
    id ≠ other := by
  rintro rfl
  exact taken free

theorem Finds.isNext (finds : registry.Finds last id) : registry.IsNext last id := by
  induction finds with
  | @stop last free =>
      refine ⟨free, fun other _ => ?_⟩
      rw [idsBetween_next]
      exact Nat.zero_le _
  | @further last id taken later induction =>
      obtain ⟨free, first⟩ := induction
      refine ⟨free, fun other otherFree => ?_⟩
      rw [idsBetween_of_ne (free.ne taken), idsBetween_of_ne (otherFree.ne taken)]
      exact Nat.succ_le_succ (first other otherFree)

theorem IsNext.unique {other : UInt32} (next : registry.IsNext last id)
    (otherNext : registry.IsNext last other) : id = other :=
  idsBetween_inj.mp (Nat.le_antisymm (next.2 other otherNext.1) (otherNext.2 id next.1))

/-- The search comes closer to a free id with every one that is taken. -/
theorem finds_of_isFree (free : registry.IsFree id) :
    ∀ last, ∃ found, registry.Finds last found := by
  intro last
  generalize between : idsBetween last id = count
  induction count generalizing last with
  | zero =>
      rw [← idsBetween_next last, idsBetween_inj] at between
      exact ⟨last + 1, .stop (between ▸ free)⟩
  | succ count induction =>
      by_cases here : registry.IsFree (last + 1)
      · exact ⟨last + 1, .stop here⟩
      · have onward := idsBetween_of_ne (free.ne here)
        obtain ⟨found, finds⟩ := induction (last + 1) (by omega)
        exact ⟨found, .further here finds⟩

theorem finds_iff_isNext : registry.Finds last id ↔ registry.IsNext last id := by
  constructor
  · exact Finds.isNext
  · intro next
    obtain ⟨found, finds⟩ := finds_of_isFree next.1 last
    rwa [next.unique finds.isNext]

/-- With a bound on the tries the same id is found, or none. -/
theorem nextFree_eq_some_iff {tries : Nat} : ∀ {last : UInt32},
    registry.nextFree tries last = some id ↔
      registry.Finds last id ∧ idsBetween last id < tries := by
  induction tries with
  | zero => simp [nextFree]
  | succ tries induction =>
      intro last
      have tried : last + 1 ≠ 0 ∧ registry.isLive (last + 1) = false ↔ registry.IsFree (last + 1) :=
        and_congr_right fun _ => isLive_eq_false_iff
      by_cases here : registry.IsFree (last + 1)
      · rw [Registry.nextFree, if_pos (tried.mpr here)]
        constructor
        · rintro ⟨⟩
          exact ⟨.stop here, by rw [idsBetween_next]; exact Nat.succ_pos tries⟩
        · rintro ⟨finds, _⟩
          rw [(Finds.stop here).isNext.unique finds.isNext]
      · rw [Registry.nextFree, if_neg (mt tried.mp here), induction]
        constructor
        · rintro ⟨finds, early⟩
          have onward := idsBetween_of_ne (finds.isNext.1.ne here)
          exact ⟨.further here finds, by omega⟩
        · rintro ⟨finds, early⟩
          cases finds with
          | stop free => exact (here free).elim
          | further _ later =>
              have onward := idsBetween_of_ne (later.isNext.1.ne here)
              exact ⟨later, by omega⟩

/-- A free id is not farther on than zero and the live ones can keep it. -/
theorem exists_isFree_of_lt {count : Nat} (many : registry.size + 1 < count)
    (bounded : count ≤ UInt32.size) (last : UInt32) :
    ∃ id, registry.IsFree id ∧ idsBetween last id < count := by
  have few : (insert 0 registry.liveIds.toFinset).card < count := by
    have whole := Finset.card_insert_le 0 registry.liveIds.toFinset
    have live := List.toFinset_card_le registry.liveIds
    rw [liveIds, List.length_map] at live
    rw [size] at many
    exact lt_of_le_of_lt (whole.trans (Nat.succ_le_succ live)) many
  obtain ⟨id, missing, early⟩ := exists_notMem_of_card_lt few bounded last
  rw [Finset.mem_insert, List.mem_toFinset, not_or] at missing
  exact ⟨id, missing, early⟩

/-- Two tries more than there are sessions are as good as any number. -/
theorem Finds.nextFree (finds : registry.Finds last id) :
    registry.nextFree (registry.sessions.length + 2) last = some id := by
  rw [nextFree_eq_some_iff]
  refine ⟨finds, ?_⟩
  by_contra late
  have bound := idsBetween_lt last id
  obtain ⟨other, free, early⟩ := registry.exists_isFree_of_lt
    (Nat.lt_succ_self (registry.size + 1)) (by rw [size]; omega) last
  have first := finds.isNext.2 other free
  rw [size] at early
  omega

theorem issueSessionId_eq_some_iff {issued : Registry T} :
    registry.issueSessionId = some (id, issued) ↔
      registry.Finds registry.lastSessionId id ∧
        issued = { registry with lastSessionId := id } := by
  unfold issueSessionId
  constructor
  · intro found
    split at found
    · next search =>
        cases found
        exact ⟨(nextFree_eq_some_iff.mp search).1, rfl⟩
    · cases found
  · rintro ⟨finds, rfl⟩
    rw [finds.nextFree]

theorem issueSessionId_eq_some {issued : Registry T}
    (found : registry.issueSessionId = some (id, issued)) :
    id ≠ 0 ∧ id ∉ registry.liveIds ∧ issued.liveIds = registry.liveIds := by
  obtain ⟨finds, rfl⟩ := issueSessionId_eq_some_iff.mp found
  exact ⟨finds.isNext.1.1, finds.isNext.1.2, rfl⟩

theorem issueSessionId_isSome (few : registry.size + 1 < UInt32.size) :
    ∃ id issued, registry.issueSessionId = some (id, issued) := by
  obtain ⟨free, isFree, _⟩ := registry.exists_isFree_of_lt few (Nat.le_refl _) 0
  obtain ⟨id, finds⟩ := finds_of_isFree isFree registry.lastSessionId
  exact ⟨id, _, issueSessionId_eq_some_iff.mpr ⟨finds, rfl⟩⟩

end Registry

end ResumableSession
