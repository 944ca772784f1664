import ResumableSession.Proofs.Gateway.Registry

/-!
# Ids in turn

Ids are issued in turn, whatever becomes of sessions meanwhile.  One is issued again only after
a whole round, in which every other id was issued too or was held by a session.
-/

namespace ResumableSession

namespace Registry

variable {T : Type} {registry : Registry T} {id : UInt32}

/-! ## Calls -/

/-- What is done with the ids of a registry. -/
inductive Call (T : Type) where
  | issue
  | register (id : UInt32) (session : T)
  | unregister (id : UInt32)
deriving DecidableEq, Repr

/-- The ids that calls issue, oldest first, and each with the registry that issues it.  There
are none if a search does not end. -/
def issuedBy? (registry : Registry T) : List (Call T) → Option (List (Registry T × UInt32))
  | [] => some []
  | .issue :: calls =>
      match registry.issueSessionId with
      | some (id, issued) => (issued.issuedBy? calls).map ((registry, id) :: ·)
      | none => none
  | .register id session :: calls => (registry.register id session).1.issuedBy? calls
  | .unregister id :: calls => (registry.unregister id).1.issuedBy? calls

/-- How many ids are asked for. -/
def issuesIn (calls : List (Call T)) : Nat :=
  calls.countP fun
    | .issue => true
    | _ => false

/-- The ids that are given to a session. -/
def registeredIn (calls : List (Call T)) : List UInt32 :=
  calls.filterMap fun
    | .register id _ => some id
    | _ => none

/-- The ids, other than zero, that a session has before the calls or is given by one.  An id
that is taken from its session on the way is among them: its turn may have come before. -/
def heldIn (registry : Registry T) (calls : List (Call T)) : Finset UInt32 :=
  (registry.liveIds ++ registeredIn calls).toFinset.erase 0

private theorem mem_liveIds_register {other : UInt32} {session : T}
    (member : other ∈ (registry.register id session).1.liveIds) :
    other = id ∨ other ∈ registry.liveIds := by
  simp only [liveIds, register, List.map_cons, List.mem_cons] at member
  exact member.imp_right fun kept => (List.filter_sublist.map _).subset kept

private theorem mem_liveIds_unregister {other : UInt32}
    (member : other ∈ (registry.unregister id).1.liveIds) : other ∈ registry.liveIds :=
  (List.filter_sublist.map _).subset member

/-- Part of a round from `start`: so many ids were passed, and each was issued then unless it
is zero or held. -/
structure Tour (start : UInt32) (held : Finset UInt32) (given : List UInt32) (passed : Nat)
    (registry : Registry T) : Prop where
  bounded : passed ≤ UInt32.size
  arrived : registry.lastSessionId = start + UInt32.ofNat passed
  live : ∀ id ∈ registry.liveIds, id ≠ 0 → id ∈ held
  distinct : given.Nodup
  behind : ∀ id ∈ given, idsBetween start id < passed
  covered : ∀ id, idsBetween start id < passed → id = 0 ∨ id ∈ held ∨ id ∈ given

namespace Tour

variable {start : UInt32} {held : Finset UInt32} {given : List UInt32} {passed : Nat}

/-- As long as an id is left that was neither issued nor held, one that is not behind is
free. -/
theorem exists_isFree (tour : Tour start held given passed registry)
    (room : given.length + 1 + held.card < UInt32.size) :
    ∃ fresh, registry.IsFree fresh ∧ passed ≤ idsBetween start fresh := by
  have few : (insert 0 (held ∪ given.toFinset)).card < UInt32.size := by
    have whole := Finset.card_insert_le 0 (held ∪ given.toFinset)
    have joined := Finset.card_union_le held given.toFinset
    have issued := List.toFinset_card_le given
    omega
  obtain ⟨fresh, missing, _⟩ := exists_notMem_of_card_lt few (Nat.le_refl _) start
  simp only [Finset.mem_insert, Finset.mem_union, List.mem_toFinset, not_or] at missing
  obtain ⟨nonzero, unheld, ungiven⟩ := missing
  refine ⟨fresh, ⟨nonzero, fun member => unheld (tour.live fresh member nonzero)⟩, ?_⟩
  by_contra early
  rcases tour.covered fresh (Nat.lt_of_not_le early) with rfl | member | member
  · exact nonzero rfl
  · exact unheld member
  · exact ungiven member

private theorem idsBetween_eq (tour : Tour start held given passed registry) (id : UInt32) :
    idsBetween start id = (passed + idsBetween registry.lastSessionId id) % UInt32.size :=
  tour.arrived ▸ idsBetween_add start id passed

theorem idsBetween_next (tour : Tour start held given passed registry)
    (next : registry.IsNext registry.lastSessionId id) {fresh : UInt32}
    (free : registry.IsFree fresh) (ahead : passed ≤ idsBetween start fresh) :
    idsBetween start id = passed + idsBetween registry.lastSessionId id := by
  have sooner := next.2 fresh free
  have bounded := tour.bounded
  have freshBound := idsBetween_lt registry.lastSessionId fresh
  have freshEq := tour.idsBetween_eq fresh
  rw [tour.idsBetween_eq id, Nat.mod_eq_of_lt]
  simp only [UInt32.size] at *
  omega

private theorem covered_next (tour : Tour start held given passed registry)
    (next : registry.IsNext registry.lastSessionId id)
    (reached : idsBetween start id = passed + idsBetween registry.lastSessionId id)
    {other : UInt32} (early : idsBetween start other < idsBetween start id) :
    other = 0 ∨ other ∈ held ∨ other ∈ given := by
  rcases Nat.lt_or_ge (idsBetween start other) passed with behind | ahead
  · exact tour.covered other behind
  · have taken : ¬registry.IsFree other := by
      intro free
      have later := next.2 other free
      have bounded := tour.bounded
      have otherBound := idsBetween_lt registry.lastSessionId other
      have otherEq := tour.idsBetween_eq other
      simp only [UInt32.size] at *
      omega
    by_cases zero : other = 0
    · exact .inl zero
    · refine .inr (.inl (tour.live other ?_ zero))
      by_contra unused
      exact taken ⟨zero, unused⟩

/-- The next id was not issued yet, as long as there is room in the round. -/
theorem issue (tour : Tour start held given passed registry)
    (room : given.length + 1 + held.card < UInt32.size) :
    ∃ id, registry.Finds registry.lastSessionId id ∧
      Tour start held (given ++ [id]) (idsBetween start id + 1)
        { registry with lastSessionId := id } := by
  obtain ⟨fresh, free, ahead⟩ := tour.exists_isFree room
  obtain ⟨id, finds⟩ := finds_of_isFree free registry.lastSessionId
  have reached := tour.idsBetween_next finds.isNext free ahead
  refine ⟨id, finds, ?_⟩
  constructor
  case bounded => exact idsBetween_lt start id
  case arrived => exact (add_idsBetween start id).symm
  case live => exact tour.live
  case distinct =>
    have new : id ∉ given := by
      intro member
      have early := tour.behind id member
      omega
    exact (List.perm_append_singleton id given).nodup_iff.mpr (.cons new tour.distinct)
  case behind =>
    intro other member
    rcases List.mem_append.mp member with old | last
    · have early := tour.behind other old
      omega
    · rw [List.mem_singleton.mp last]
      exact Nat.lt_succ_self _
  case covered =>
    intro other early
    rcases Nat.lt_or_eq_of_le (Nat.le_of_lt_succ early) with before | same
    · exact (tour.covered_next finds.isNext reached before).imp_right
        (Or.imp_right (List.mem_append_left _))
    · rw [idsBetween_inj.mp same]
      exact .inr (.inr (List.mem_append_right _ (List.mem_singleton_self id)))

private theorem resettle (tour : Tour start held given passed registry) {after : Registry T}
    (stays : after.lastSessionId = registry.lastSessionId)
    (live : ∀ id ∈ after.liveIds, id ∈ registry.liveIds ∨ (id ≠ 0 → id ∈ held)) :
    Tour start held given passed after := by
  refine { tour with arrived := stays.trans tour.arrived, live := ?_ }
  intro id member nonzero
  rcases live id member with old | new
  · exact tour.live id old nonzero
  · exact new nonzero

/-- What is issued while there is room is free and was not issued before. -/
theorem calls (calls : List (Call T)) : ∀ {given : List UInt32} {passed : Nat}
    {registry : Registry T}, Tour start held given passed registry →
    (∀ id ∈ registeredIn calls, id ≠ 0 → id ∈ held) →
    given.length + issuesIn calls + held.card < UInt32.size →
    ∃ issued, registry.issuedBy? calls = some issued ∧ issued.length = issuesIn calls ∧
      (given ++ issued.map (·.2)).Nodup ∧ ∀ grant ∈ issued, grant.1.IsFree grant.2 := by
  -- For any tour so far, since every call carries it on.
  induction calls with
  | nil =>
      intro given passed registry tour _ _
      exact ⟨[], rfl, rfl, by simpa using tour.distinct, by simp⟩
  | cons call calls induction =>
      intro given passed registry tour known room
      cases call with
      | issue =>
          have more : issuesIn (.issue :: calls) = issuesIn calls + 1 :=
            List.countP_cons_of_pos rfl
          obtain ⟨id, finds, onward⟩ := tour.issue (by omega)
          have room : (given ++ [id]).length + issuesIn calls + held.card < UInt32.size := by
            rw [List.length_append, List.length_singleton]
            omega
          obtain ⟨later, issued, count, distinct, free⟩ := induction onward known room
          refine ⟨(registry, id) :: later, ?_, ?_, ?_, ?_⟩
          · rw [issuedBy?, issueSessionId_eq_some_iff.mpr ⟨finds, rfl⟩]
            dsimp only
            rw [issued, Option.map_some]
          · rw [List.length_cons, count, more]
          · rwa [List.map_cons, List.append_cons]
          · exact List.forall_mem_cons.mpr ⟨finds.isNext.1, free⟩
      | register id session =>
          have others (other : UInt32) (member : other ∈ registeredIn calls) :=
            known other (List.mem_cons_of_mem id member)
          refine induction (tour.resettle rfl fun other member => ?_) others room
          rcases mem_liveIds_register member with rfl | old
          · exact .inr (known other List.mem_cons_self)
          · exact .inl old
      | unregister id =>
          exact induction (tour.resettle rfl fun _ member => .inl (mem_liveIds_unregister member))
            known room

end Tour

private theorem tour_start (registry : Registry T) (calls : List (Call T)) :
    Tour registry.lastSessionId (registry.heldIn calls) [] 0 registry where
  bounded := Nat.zero_le _
  arrived := (UInt32.add_zero _).symm
  live := by
    intro id member nonzero
    simp [heldIn, nonzero, member]
  distinct := List.nodup_nil
  behind := nofun
  covered := nofun

/-- How the ids of a registry are issued. -/
structure InTurn (registry : Registry T) : Prop where
  /-- The search ends if there is anything to be found. -/
  ends : (∃ id, registry.Finds registry.lastSessionId id) ↔ ∃ id, registry.IsFree id
  /-- It ends at the first free id. -/
  first : ∀ id, registry.Finds registry.lastSessionId id ↔
    registry.IsNext registry.lastSessionId id
  /-- That id is issued, and noted as the last one. -/
  issues : ∀ id issued, registry.issueSessionId = some (id, issued) ↔
    registry.Finds registry.lastSessionId id ∧
      issued = { registry with lastSessionId := id }
  /-- In a row of calls in which sessions hold `k` ids, no two of the ids issued are the same,
  if these are 2^32 - 1 - k at most, and each was free when it was issued. -/
  differ : ∀ calls, issuesIn calls + (registry.heldIn calls).card < UInt32.size →
    ∃ issued, registry.issuedBy? calls = some issued ∧ issued.length = issuesIn calls ∧
      (issued.map (·.2)).Nodup ∧ ∀ grant ∈ issued, grant.1.IsFree grant.2

/-- Whatever id was issued last and whichever are live, the first free one is next, and none
is issued again before the round is over. -/
theorem issues_in_turn (registry : Registry T) : registry.InTurn where
  ends := by
    constructor
    · rintro ⟨id, finds⟩
      exact ⟨id, finds.isNext.1⟩
    · rintro ⟨id, free⟩
      exact finds_of_isFree free registry.lastSessionId
  first := fun _ => finds_iff_isNext
  issues := fun _ _ => issueSessionId_eq_some_iff
  differ := by
    intro calls room
    have known (id : UInt32) (member : id ∈ registeredIn calls) (nonzero : id ≠ 0) :
        id ∈ registry.heldIn calls := by
      simp [heldIn, nonzero, member]
    have roomy : ([] : List UInt32).length + issuesIn calls + (registry.heldIn calls).card <
        UInt32.size := by
      rwa [List.length_nil, Nat.zero_add]
    exact (registry.tour_start calls).calls calls known roomy

/-- Zero is passed over, and so is an id that is live when its turn comes. -/
example :
    (issuedBy? { lastSessionId := 0xFFFFFFFE, sessions := [(1, ())] }
      [.issue, .issue, .unregister 1, .issue]).map (·.map (·.2)) = some [0xFFFFFFFF, 2, 3] := by
  decide

/-! ## A session that ends on the way -/

/-- The ids that some session has all along, before the calls and after each of them. -/
def heldThroughout (registry : Registry T) : List (Call T) → Finset UInt32
  | [] => registry.liveIds.toFinset
  | .issue :: calls => registry.heldThroughout calls
  | .register id session :: calls =>
      registry.liveIds.toFinset ∩ (registry.register id session).1.heldThroughout calls
  | .unregister id :: calls =>
      registry.liveIds.toFinset ∩ (registry.unregister id).1.heldThroughout calls

private theorem heldThroughout_subset (calls : List (Call T)) : ∀ registry : Registry T,
    registry.heldThroughout calls ⊆ registry.liveIds.toFinset := by
  induction calls with
  | nil => exact fun _ => Finset.Subset.refl _
  | cons call calls induction =>
      intro registry
      cases call with
      | issue => exact induction registry
      | register id session => exact Finset.inter_subset_left
      | unregister id => exact Finset.inter_subset_left

private theorem issueSessionId_of_vacant (vacant : registry.liveIds = [])
    (nonzero : registry.lastSessionId + 1 ≠ 0) :
    registry.issueSessionId = some (registry.lastSessionId + 1,
      { registry with lastSessionId := registry.lastSessionId + 1 }) := by
  have free : registry.IsFree (registry.lastSessionId + 1) := by
    rw [IsFree, vacant]
    exact ⟨nonzero, List.not_mem_nil⟩
  exact issueSessionId_eq_some_iff.mpr ⟨.stop free, rfl⟩

private theorem issuedBy?_replicate {calls : List (Call T)}
    {later : List (Registry T × UInt32)} (count : Nat) : ∀ registry : Registry T,
    registry.liveIds = [] → registry.lastSessionId.toNat + count < UInt32.size →
      issuedBy? { registry with
        lastSessionId := registry.lastSessionId + UInt32.ofNat count } calls = some later →
        ∃ earlier, registry.issuedBy? (List.replicate count .issue ++ calls) =
          some (earlier ++ later) := by
  induction count with
  | zero =>
      intro registry _ _ rest
      have stays : registry.lastSessionId + UInt32.ofNat 0 = registry.lastSessionId :=
        UInt32.add_zero _
      rw [stays] at rest
      exact ⟨[], rest⟩
  | succ count induction =>
      intro registry vacant room rest
      have next : (registry.lastSessionId + 1).toNat = registry.lastSessionId.toNat + 1 := by
        rw [UInt32.toNat_add, UInt32.toNat_one]
        exact Nat.mod_eq_of_lt (by simp only [UInt32.size] at room; omega)
      have nonzero : registry.lastSessionId + 1 ≠ 0 := by
        rw [ne_eq, ← UInt32.toNat_inj, next]
        exact Nat.succ_ne_zero _
      have onward : registry.lastSessionId + 1 + UInt32.ofNat count =
          registry.lastSessionId + UInt32.ofNat (count + 1) := by
        rw [UInt32.ofNat_add, UInt32.ofNat_one]
        grind
      rw [← onward] at rest
      have room : (registry.lastSessionId + 1).toNat + count < UInt32.size := by omega
      obtain ⟨earlier, issued⟩ := induction
        { registry with lastSessionId := registry.lastSessionId + 1 } vacant room rest
      refine ⟨(registry, registry.lastSessionId + 1) :: earlier, ?_⟩
      rw [List.replicate_succ, List.cons_append, issuedBy?, issueSessionId_of_vacant vacant nonzero]
      dsimp only
      rw [issued, Option.map_some, List.cons_append]

/-- Two ids are issued, the session whose id lies between them ends, and `count` more are
issued. -/
def departing (count : Nat) : List (Call Unit) :=
  .issue :: .issue :: .unregister 2 :: List.replicate count .issue

private theorem registeredIn_departing (count : Nat) : registeredIn (departing count) = [] := by
  rw [registeredIn, List.filterMap_eq_nil_iff]
  intro call member
  simp only [departing, List.mem_cons, List.mem_replicate] at member
  rcases member with rfl | rfl | rfl | ⟨_, rfl⟩ <;> rfl

private theorem issuesIn_departing (count : Nat) : issuesIn (departing count) = count + 2 := by
  simp [issuesIn, departing, List.countP_replicate]

private theorem heldThroughout_departing (count : Nat) :
    heldThroughout { sessions := [(2, ())] } (departing count) = ∅ := by
  rw [← Finset.subset_empty]
  simp only [departing, heldThroughout]
  exact Finset.inter_subset_right.trans (heldThroughout_subset _ _)

private theorem issuedBy?_departing {count : Nat} {later : List (Registry Unit × UInt32)}
    (issued : issuedBy? { lastSessionId := 3 } (List.replicate count .issue) = some later) :
    issuedBy? { sessions := [(2, ())] } (departing count) =
      some (({ sessions := [(2, ())] }, 1) ::
        ({ lastSessionId := 1, sessions := [(2, ())] }, 3) :: later) := by
  have first : issueSessionId { sessions := [(2, ())] } =
      some (1, { lastSessionId := 1, sessions := [(2, ())] }) := rfl
  have second : issueSessionId { lastSessionId := 1, sessions := [(2, ())] } =
      some (3, { lastSessionId := 3, sessions := [(2, ())] }) := rfl
  have ended : (unregister { lastSessionId := 3, sessions := [(2, ())] } 2).1 =
      { lastSessionId := 3 } := rfl
  simp only [departing, issuedBy?, first, second, ended, issued, Option.map_some]

/-- An id that a session had when its turn came is missing from the round, even if the session
is gone before the round is over: so it does not do to count the sessions that stay. -/
theorem reissued_departing :
    registeredIn (departing (UInt32.size - 3)) = [] ∧
      issuesIn (departing (UInt32.size - 3)) = UInt32.size - 1 -
        (heldThroughout { sessions := [(2, ())] } (departing (UInt32.size - 3))).card ∧
      ∃ issued, issuedBy? { sessions := [(2, ())] } (departing (UInt32.size - 3)) = some issued ∧
        ¬(issued.map (·.2)).Nodup := by
  refine ⟨registeredIn_departing _, ?_, ?_⟩
  · rw [heldThroughout_departing, issuesIn_departing, Finset.card_empty]
    rfl
  · have last : issuedBy? { lastSessionId := 3 + UInt32.ofNat (UInt32.size - 4) }
        ([.issue] : List (Call Unit)) = some [({ lastSessionId := 0xFFFFFFFF }, 1)] := rfl
    obtain ⟨earlier, issued⟩ := issuedBy?_replicate (UInt32.size - 4) { lastSessionId := 3 } rfl
      (by decide) last
    rw [← List.replicate_succ'] at issued
    exact ⟨_, issuedBy?_departing issued, by simp⟩

end Registry

end ResumableSession
