import ResumableSession.Proofs.Exchange.Farewell
import ResumableSession.Proofs.Session.Overrun
import ResumableSession.Proofs.Session.Shifts

/-!
# Where the FinAck is

The close machine waits for the ack of its FinAck, and learns of it from acks that drop
something from the send buffer.  It decides before ids are known, which are recorded
while its actions are taken; still it never waits for a FinAck that is gone from the
buffer, and always notices when it goes.
-/

namespace ResumableSession

variable {P : Type}

/-- The ids in the send buffer, each with its body. -/
def Delivery.contents (delivery : Delivery P) : List (UInt32 × ReliableBody P) :=
  delivery.buffer.map fun packet => (packet.id, packet.body)

/-- The close machine knows which of the buffered packets is its FinAck, and whether that
one was there and is gone. -/
structure CloseMachine.Tracks (machine : CloseMachine) (delivery : Delivery P) : Prop where
  below : ∀ entry ∈ delivery.contents, entry.1 ≤ delivery.lastSendId
  numbered : ∀ id, machine.finAckId = some id → id ≤ delivery.lastSendId
  marked : ∀ entry ∈ delivery.contents, entry.2 = .finAck ↔ machine.finAckId = some entry.1
  crossed : machine.peerFinAcked = true ↔
    machine.finAckId.isSome ∧ ∀ entry ∈ delivery.contents, entry.2 ≠ .finAck
  unanswered : machine.state.heardFin = false → machine.finAckId = none
  waits : machine.state = .timeWait → machine.peerFinAcked = false

namespace Delivery

variable {delivery : Delivery P}

private theorem contents_push (delivery : Delivery P) (body : ReliableBody P) :
    (delivery.push body).1.contents = delivery.contents ++ [(delivery.lastSendId + 1, body)] := by
  simp [push, contents]

private theorem InOrder.mem_contents_removeAcked (inOrder : delivery.InOrder) (ack : UInt32)
    (entry : UInt32 × ReliableBody P) :
    entry ∈ (delivery.removeAcked ack).1.contents ↔
      entry ∈ delivery.contents ∧ ack < entry.1 := by
  rw [contents, contents, inOrder.buffer_removeAcked]
  constructor
  · intro member
    obtain ⟨packet, among, rfl⟩ := List.mem_map.mp member
    obtain ⟨index, inside, rfl⟩ := List.getElem_of_mem among
    rw [List.getElem_drop]
    rw [List.length_drop] at inside
    refine ⟨List.mem_map_of_mem (List.getElem_mem _), ?_⟩
    rw [UInt32.lt_iff_toNat_lt, inOrder.id_getElem (by omega)]
    omega
  · rintro ⟨member, beyond⟩
    obtain ⟨packet, among, rfl⟩ := List.mem_map.mp member
    obtain ⟨index, inside, rfl⟩ := List.getElem_of_mem among
    rw [UInt32.lt_iff_toNat_lt, inOrder.id_getElem inside] at beyond
    refine List.mem_map_of_mem (List.mem_drop_iff_getElem.mpr ?_)
    refine ⟨index - (ack.toNat - delivery.acked), by omega, ?_⟩
    congr 1
    omega

private theorem contents_of_removed_zero {ack : UInt32} (none : (delivery.removeAcked ack).2 = 0) :
    (delivery.removeAcked ack).1.contents = delivery.contents := by
  have suffix : (delivery.buffer.dropWhile fun packet => packet.id ≤ ack) <:+ delivery.buffer :=
    List.dropWhile_suffix _
  have whole := suffix.eq_of_length (by
    have shorter := suffix.length_le
    simp only [removeAcked] at none
    omega)
  simp only [contents, removeAcked, whole]

private theorem accept_next {id : UInt32} (next : id.toNat = delivery.lastRecvId.toNat + 1) :
    delivery.accept id = .ok ({ delivery with lastRecvId := id }, .accepted) := by
  have fresh : ¬id ≤ delivery.lastRecvId := by
    rw [UInt32.le_iff_toNat_le]
    omega
  have small := id.toNat_lt_size
  have expected : id = delivery.lastRecvId + 1 := by
    apply UInt32.toNat_inj.mp
    rw [next, toNat_succ (by omega)]
  unfold accept
  rw [if_neg fresh]
  simp only [if_neg (Classical.not_not.mpr expected)]

end Delivery

namespace CloseMachine

variable {delivery delivery' : Delivery P} {machine next : CloseMachine}
  {actions : List CloseAction}

namespace Tracks

theorem of_same (tracks : machine.Tracks delivery) (contents : delivery'.contents = delivery.contents)
    (last : delivery'.lastSendId = delivery.lastSendId) : machine.Tracks delivery' := by
  constructor
  · rw [contents, last]
    exact tracks.below
  · rw [last]
    exact tracks.numbered
  · rw [contents]
    exact tracks.marked
  · rw [contents]
    exact tracks.crossed
  · exact tracks.unanswered
  · exact tracks.waits

theorem moved (tracks : machine.Tracks delivery) {state : CloseState}
    (unanswered : state.heardFin = false → machine.finAckId = none)
    (waits : state = .timeWait → machine.peerFinAcked = false) :
    { machine with state }.Tracks delivery :=
  { below := tracks.below
    numbered := tracks.numbered
    marked := tracks.marked
    crossed := tracks.crossed
    unanswered
    waits }

theorem recordFin (tracks : machine.Tracks delivery) (id : UInt32) :
    (machine.recordFin id).Tracks delivery :=
  { below := tracks.below
    numbered := tracks.numbered
    marked := tracks.marked
    crossed := tracks.crossed
    unanswered := tracks.unanswered
    waits := tracks.waits }

private theorem not_acked (tracks : machine.Tracks delivery) (unsent : machine.finAckId = none) :
    machine.peerFinAcked = false := by
  rw [← Bool.not_eq_true, tracks.crossed, unsent]
  simp

private theorem below_push (tracks : machine.Tracks delivery)
    (room : delivery.lastSendId.toNat + 1 < UInt32.size) (body : ReliableBody P) :
    (∀ id, id ≤ delivery.lastSendId → id < delivery.lastSendId + 1) ∧
      ∀ entry ∈ (delivery.push body).1.contents, entry.1 ≤ (delivery.push body).1.lastSendId := by
  have higher : ∀ id, id ≤ delivery.lastSendId → id < delivery.lastSendId + 1 := by
    intro id below
    rw [UInt32.le_iff_toNat_le] at below
    rw [UInt32.lt_iff_toNat_lt, Delivery.toNat_succ room]
    omega
  refine ⟨higher, fun entry member => ?_⟩
  rw [Delivery.contents_push] at member
  rcases List.mem_append.mp member with old | new
  · exact UInt32.le_of_lt (higher _ (tracks.below entry old))
  · rw [List.mem_singleton.mp new]
    exact UInt32.le_refl _

theorem push (tracks : machine.Tracks delivery) {body : ReliableBody P} (other : body ≠ .finAck)
    (room : delivery.lastSendId.toNat + 1 < UInt32.size) :
    machine.Tracks (delivery.push body).1 := by
  obtain ⟨higher, below⟩ := tracks.below_push room body
  have fresh : machine.finAckId ≠ some (delivery.lastSendId + 1) := by
    intro same
    exact UInt32.lt_irrefl _ (higher _ (tracks.numbered _ same))
  constructor
  · exact below
  · exact fun id sent => UInt32.le_of_lt (higher id (tracks.numbered id sent))
  · intro entry member
    rw [Delivery.contents_push] at member
    rcases List.mem_append.mp member with old | new
    · exact tracks.marked entry old
    · rw [List.mem_singleton.mp new]
      exact iff_of_false other fresh
  · rw [Delivery.contents_push, tracks.crossed, List.forall_mem_append]
    simp [other]
  · exact tracks.unanswered
  · exact tracks.waits

private theorem pushFinAck (tracks : machine.Tracks delivery) (unsent : machine.finAckId = none)
    (heard : machine.state.heardFin = true)
    (room : delivery.lastSendId.toNat + 1 < UInt32.size) :
    (machine.recordFinAck (delivery.push .finAck).2).Tracks (delivery.push .finAck).1 := by
  obtain ⟨higher, below⟩ := tracks.below_push room .finAck
  have recorded : (machine.recordFinAck (delivery.push .finAck).2).finAckId =
      some (delivery.lastSendId + 1) := rfl
  constructor
  · exact below
  · intro id sent
    cases recorded.symm.trans sent
    exact UInt32.le_refl _
  · intro entry member
    rw [recorded, Option.some.injEq]
    rw [Delivery.contents_push] at member
    rcases List.mem_append.mp member with old | new
    · refine iff_of_false ?_ ?_
      · rw [tracks.marked entry old, unsent]
        simp
      · intro same
        exact UInt32.lt_irrefl _ (same ▸ higher _ (tracks.below entry old))
    · rw [List.mem_singleton.mp new]
      exact iff_of_true rfl rfl
  · have open_ : (machine.recordFinAck (delivery.push .finAck).2).peerFinAcked = false :=
      tracks.not_acked unsent
    rw [open_, Delivery.contents_push]
    simp
  · intro unheard
    rw [show (machine.recordFinAck (delivery.push .finAck).2).state = machine.state from rfl,
      heard] at unheard
    cases unheard
  · exact fun _ => tracks.not_acked unsent

theorem onAcked (tracks : machine.Tracks delivery) (inOrder : delivery.InOrder) (ack : UInt32) :
    (machine.onAcked ack).1.Tracks (delivery.removeAcked ack).1 := by
  have remains := inOrder.mem_contents_removeAcked ack
  have below : ∀ entry ∈ (delivery.removeAcked ack).1.contents,
      entry.1 ≤ (delivery.removeAcked ack).1.lastSendId :=
    fun entry member => tracks.below entry ((remains entry).mp member).1
  have marked : ∀ entry ∈ (delivery.removeAcked ack).1.contents,
      entry.2 = .finAck ↔ machine.finAckId = some entry.1 :=
    fun entry member => tracks.marked entry ((remains entry).mp member).1
  have gone : machine.finAckId.any (fun id => decide (id ≤ ack)) = true →
      ∀ entry ∈ (delivery.removeAcked ack).1.contents, entry.2 ≠ .finAck := by
    intro covered entry member finAck
    have sent := (marked entry member).mp finAck
    rw [sent] at covered
    have beyond := ((remains entry).mp member).2
    simp only [Option.any_some, decide_eq_true_eq] at covered
    exact absurd beyond (UInt32.not_lt.mpr covered)
  unfold CloseMachine.onAcked
  simp only
  split
  · next noticed =>
      rw [Bool.and_eq_true] at noticed
      have crossed : machine.finAckId.isSome ∧
          ∀ entry ∈ (delivery.removeAcked ack).1.contents, entry.2 ≠ .finAck := by
        refine ⟨?_, gone noticed.1⟩
        cases sent : machine.finAckId with
        | none => simp [sent] at noticed
        | some id => rfl
      split
      · exact
          { below
            numbered := tracks.numbered
            marked
            crossed := iff_of_true rfl crossed
            unanswered := nofun
            waits := nofun }
      · next elsewhere =>
          exact
            { below
              numbered := tracks.numbered
              marked
              crossed := iff_of_true rfl crossed
              unanswered := tracks.unanswered
              waits := fun waiting => absurd waiting elsewhere }
  · next unnoticed =>
      refine
        { below
          numbered := tracks.numbered
          marked
          crossed := ?_
          unanswered := tracks.unanswered
          waits := tracks.waits }
      rw [tracks.crossed]
      refine and_congr_right fun sent => ⟨fun none entry member => ?_, fun none entry member => ?_⟩
      · exact none entry ((remains entry).mp member).1
      · intro finAck
        refine none entry ((remains entry).mpr ⟨member, ?_⟩) finAck
        have ours := (tracks.marked entry member).mp finAck
        have unacked : machine.peerFinAcked = false := by
          rw [← Bool.not_eq_true, tracks.crossed]
          exact fun crossed => crossed.2 entry member finAck
        rw [ours, unacked] at unnoticed
        simpa using unnoticed

theorem localClose (tracks : machine.Tracks delivery) :
    machine.localClose.1.Tracks delivery ∧ .sendFinAck ∉ machine.localClose.2 := by
  unfold CloseMachine.localClose
  split
  · next active =>
      refine ⟨tracks.moved (fun _ => tracks.unanswered (by rw [active]; rfl)) nofun, by simp⟩
  · next waiting => exact ⟨tracks.moved nofun nofun, by simp⟩
  · exact ⟨tracks, by simp⟩

/-- A Fin that has a place is answered, with a FinAck and no second one. -/
theorem onFin (tracks : machine.Tracks delivery) (decided : machine.onFin = .ok (next, actions)) :
    next.Tracks delivery ∧ next.finAckId = none ∧ next.state.heardFin = true ∧
      ∃ rest, actions = .sendFinAck :: rest ∧ .sendFinAck ∉ rest := by
  have owed (unheard : machine.state.heardFin = false) : machine.owedFinAck = [.sendFinAck] := by
    rw [CloseMachine.owedFinAck, tracks.unanswered unheard]
    rfl
  unfold CloseMachine.onFin at decided
  split at decided <;> simp only [Except.ok.injEq, Prod.mk.injEq, reduceCtorEq] at decided
  all_goals
    next was =>
      obtain ⟨rfl, rfl⟩ := decided
      have unheard : machine.state.heardFin = false := by rw [was]; rfl
      have unsent := tracks.unanswered unheard
      refine ⟨tracks.moved (by simp [CloseState.heardFin]) fun _ => tracks.not_acked unsent,
        unsent, rfl, ?_⟩
      rw [owed unheard]
      exact ⟨_, rfl, by simp⟩

theorem onFinAck (tracks : machine.Tracks delivery)
    (decided : machine.onFinAck = .ok (next, actions)) :
    next.Tracks delivery ∧ .sendFinAck ∉ actions := by
  unfold CloseMachine.onFinAck at decided
  split at decided <;> simp only [Except.ok.injEq, Prod.mk.injEq, reduceCtorEq] at decided
  all_goals obtain ⟨rfl, rfl⟩ := decided
  · next was =>
      exact ⟨tracks.moved (fun _ => tracks.unanswered (by rw [was]; rfl)) nofun, by simp⟩
  · next was =>
      refine ⟨tracks.moved ?_ ?_, by simp⟩
      · split <;> nofun
      · split
        · nofun
        · next early => exact fun _ => by simpa using early
  · next was => exact ⟨tracks.moved nofun nofun, by simp⟩

theorem timeWaitExpired (tracks : machine.Tracks delivery) :
    machine.timeWaitExpired.1.Tracks delivery := by
  unfold CloseMachine.timeWaitExpired
  split
  · exact tracks.moved nofun nofun
  · exact tracks

end Tracks

end CloseMachine

namespace Session

/-- The close machine of a session tracks its FinAck. -/
def Tracked (session : Session P) : Prop := session.closing.Tracks session.delivery

/-- The ids that were given out in between fit. -/
def Fits (before after : Session P) : Prop :=
  before.delivery.lastSendId.toNat +
    (after.delivery.lastSendId - before.delivery.lastSendId).toNat < UInt32.size

/-- What was heeded in between is all that dropped anything from the send buffer, and the
FinAck is tracked. -/
structure Sifts (heeded : Option UInt32) (before after : Session P) : Prop where
  kept : ∀ entry ∈ before.delivery.contents, (∀ ack, heeded = some ack → ack < entry.1) →
    entry ∈ after.delivery.contents
  tracked : after.Tracked

variable {heeded : Option UInt32} {first second third session after : Session P}

namespace Sifts

theorem trans (earlier : Sifts heeded first second) (later : Sifts heeded second third) :
    Sifts heeded first third where
  kept := fun entry member spared =>
    later.kept entry (earlier.kept entry member spared) spared
  tracked := later.tracked

theorem mono (sifts : Sifts none first second) : Sifts heeded first second where
  kept := fun entry member _ => sifts.kept entry member nofun
  tracked := sifts.tracked

theorem of_same (tracked : first.Tracked)
    (contents : second.delivery.contents = first.delivery.contents)
    (last : second.delivery.lastSendId = first.delivery.lastSendId)
    (closing : second.closing = first.closing) : Sifts heeded first second where
  kept := by
    intro entry member _
    rw [contents]
    exact member
  tracked := by
    rw [Tracked, closing]
    exact tracked.of_same contents last

theorem refl (tracked : session.Tracked) : Sifts heeded session session :=
  .of_same tracked rfl rfl rfl

end Sifts

/-- How many ids were given out, unless they wrap, is what the last one says. -/
theorem fits_iff {given : Nat} (few : given < UInt32.size)
    (counted : second.delivery.lastSendId = first.delivery.lastSendId + UInt32.ofNat given) :
    Fits first second ↔ first.delivery.lastSendId.toNat + given < UInt32.size := by
  rw [Fits, counted, UInt32.add_comm, UInt32.add_sub_cancel, UInt32.toNat_ofNat_of_lt' few]

theorem Fits.actions {action : CloseAction} {actions : List CloseAction}
    (few : (CloseAction.bodies (P := P) (action :: actions)).length < UInt32.size)
    (fits : Fits session ((action :: actions).foldl applyAction session)) :
    Fits session (session.applyAction action) ∧
      Fits (session.applyAction action)
        (actions.foldl applyAction (session.applyAction action)) := by
  obtain ⟨later, laterBound, laterCounted⟩ :=
    lastSendId_foldl_applyAction actions (session.applyAction action)
  obtain ⟨given, bound, counted⟩ := lastSendId_foldl_applyAction [action] session
  rw [CloseAction.bodies_cons, List.length_append] at few
  rw [CloseAction.bodies_cons, CloseAction.bodies_nil, List.append_nil] at bound
  rw [List.foldl_cons, List.foldl_nil] at counted
  have all : ((action :: actions).foldl applyAction session).delivery.lastSendId =
      session.delivery.lastSendId + UInt32.ofNat (given + later) := by
    rw [List.foldl_cons, laterCounted, counted, UInt32.ofNat_add, UInt32.add_assoc]
  have room := (fits_iff (by omega) all).mp fits
  have firstId : (session.applyAction action).delivery.lastSendId.toNat =
      session.delivery.lastSendId.toNat + given := by
    have inside : session.delivery.lastSendId.toNat + given < UInt32.size := by omega
    rw [counted, UInt32.toNat_add, UInt32.toNat_ofNat_of_lt' (by omega)]
    exact Nat.mod_eq_of_lt inside
  refine ⟨(fits_iff (by omega) counted).mpr (by omega),
    (fits_iff (by omega) laterCounted).mpr ?_⟩
  omega

/-! ## The parts of a step -/

private theorem contents_flush (session : Session P) :
    session.flush.delivery.contents = session.delivery.contents ∧
      session.flush.closing = session.closing := by
  unfold flush
  split
  · exact ⟨rfl, rfl⟩
  split
  · next delivery packets flushed =>
      rw [foldl_sendOnCurrent]
      refine ⟨?_, rfl⟩
      unfold Delivery.flush at flushed
      split at flushed
      · simp at flushed
      · simp only [Except.ok.injEq, Prod.mk.injEq] at flushed
        obtain ⟨rfl, -⟩ := flushed
        simp only [Delivery.contents, List.map_append, List.map_map, Function.comp_def]
        rw [← List.map_append, List.take_append_drop]
  · rw [terminate_eq]
    exact ⟨rfl, rfl⟩

private theorem sifts_flush (tracked : session.Tracked) : Sifts none session session.flush :=
  .of_same tracked session.contents_flush.1 session.lastSendId_flush session.contents_flush.2

private theorem sifts_terminate (tracked : session.Tracked) (reason : CloseReason) :
    Sifts none session (session.terminate reason) := by
  rw [terminate_eq]
  exact .of_same tracked rfl rfl rfl

private theorem sifts_discard (tracked : session.Tracked) (line : Option Line) :
    Sifts none session (session.discard line) := by
  rw [discard_eq]
  exact .of_same tracked rfl rfl rfl

private theorem sifts_sendAck (tracked : session.Tracked) : Sifts none session session.sendAck := by
  rw [sendAck_eq]
  refine .of_same tracked ?_ ?_ rfl
  · dsimp only
    split <;> rfl
  · dsimp only
    split <;> rfl

private theorem sifts_dropLine (tracked : session.Tracked) :
    Sifts none session session.dropLine := by
  rw [dropLine_eq]
  split
  · exact .refl tracked
  · exact .of_same tracked rfl rfl rfl

private theorem kept_push (body : ReliableBody P) :
    ∀ entry ∈ session.delivery.contents, entry ∈ (session.pushReliable body).1.delivery.contents := by
  intro entry member
  have unfolded : (session.pushReliable body).1 =
      flush { session with delivery := (session.delivery.push body).1 } := rfl
  rw [unfolded, (contents_flush _).1, Delivery.contents_push]
  exact List.mem_append_left _ member

private theorem sifts_pushReliable (tracked : session.Tracked) {body : ReliableBody P}
    (other : body ≠ .finAck) (fits : Fits session (session.pushReliable body).1) :
    Sifts none session (session.pushReliable body).1 where
  kept := fun entry member _ => kept_push body entry member
  tracked := by
    have room := (fits_iff (by decide) (session.lastSendId_pushReliable body)).mp fits
    have numbered : Tracked { session with delivery := (session.delivery.push body).1 } :=
      CloseMachine.Tracks.push tracked other room
    exact (sifts_flush numbered).tracked

private theorem sifts_sendFinAck (tracked : session.Tracked)
    (unsent : session.closing.finAckId = none)
    (heard : session.closing.state.heardFin = true)
    (fits : Fits session (session.applyAction .sendFinAck)) :
    Sifts none session (session.applyAction .sendFinAck) := by
  by_cases isOver : session.phase = .closed
  · have idle : session.applyAction .sendFinAck = session := if_pos isOver
    rw [idle]
    exact .refl tracked
  · have sent : session.applyAction .sendFinAck =
        { (session.pushReliable .finAck).1 with
          closing := (session.pushReliable .finAck).1.closing.recordFinAck
            (session.pushReliable .finAck).2 } := if_neg isOver
    rw [sent] at fits ⊢
    have room := (fits_iff (by decide) (session.lastSendId_pushReliable .finAck)).mp fits
    have pushed := CloseMachine.Tracks.pushFinAck tracked unsent heard room
    have unfolded : (session.pushReliable .finAck).1 =
        flush { session with delivery := (session.delivery.push .finAck).1 } := rfl
    constructor
    · exact fun entry member _ => kept_push .finAck entry member
    · rw [Tracked, unfolded, (contents_flush _).2]
      exact pushed.of_same (contents_flush _).1 (lastSendId_flush _)

private theorem sifts_enter (tracked : session.Tracked) (state : CloseState) :
    Sifts none session (session.applyAction (.enter state)) := by
  unfold applyAction
  split
  · exact .refl tracked
  · have told : Sifts none session (session.emit (.closeStateChanged state)) :=
      .of_same tracked rfl rfl rfl
    cases state with
    | timeWait => exact .of_same tracked rfl rfl rfl
    | closed => exact told.trans (sifts_terminate told.tracked _)
    | _ => exact told

private theorem sifts_applyAction (tracked : session.Tracked) {action : CloseAction}
    (other : action ≠ .sendFinAck) (fits : Fits session (session.applyAction action)) :
    Sifts none session (session.applyAction action) := by
  cases action with
  | sendFinAck => exact (other rfl).elim
  | enter state => exact sifts_enter tracked state
  | sendFin =>
      unfold applyAction at fits ⊢
      split
      · exact .refl tracked
      · next running =>
          rw [if_neg running] at fits
          have pushed : Sifts none session (session.pushReliable .fin).1 :=
            sifts_pushReliable tracked nofun fits
          exact
            { kept := pushed.kept
              tracked := pushed.tracked.recordFin _ }
  | sendAck =>
      unfold applyAction
      split
      · exact .refl tracked
      · exact sifts_sendAck tracked

private theorem sifts_foldl_applyAction (actions : List CloseAction)
    (other : .sendFinAck ∉ actions) :
    ∀ {session : Session P}, session.Tracked →
      (CloseAction.bodies (P := P) actions).length < UInt32.size →
      Fits session (actions.foldl applyAction session) →
      Sifts none session (actions.foldl applyAction session) := by
  induction actions with
  | nil => exact fun tracked _ _ => .refl tracked
  | cons action actions induction =>
      intro session tracked few fits
      rw [List.mem_cons, not_or] at other
      obtain ⟨first, later⟩ := fits.actions few
      have head := sifts_applyAction tracked (Ne.symm other.1) first
      refine head.trans (induction other.2 head.tracked ?_ later)
      rw [CloseAction.bodies_cons, List.length_append] at few
      omega

private theorem sifts_applyClose {machine : CloseMachine} {actions : List CloseAction}
    (tracks : machine.Tracks session.delivery)
    (owes : .sendFinAck ∉ actions ∨ machine.finAckId = none ∧ machine.state.heardFin = true ∧
      ∃ rest, actions = .sendFinAck :: rest ∧ .sendFinAck ∉ rest)
    (few : (CloseAction.bodies (P := P) actions).length < UInt32.size)
    (fits : Fits session (session.applyClose (machine, actions))) :
    Sifts none session (session.applyClose (machine, actions)) := by
  have moved : Sifts none session { session with closing := machine } :=
    ⟨fun _ member _ => member, tracks⟩
  rcases owes with none | ⟨unsent, heard, rest, rfl, once⟩
  · exact moved.trans (sifts_foldl_applyAction actions none tracks few fits)
  · have fits : Fits { session with closing := machine }
        ((.sendFinAck :: rest).foldl applyAction { session with closing := machine }) := fits
    obtain ⟨first, later⟩ := fits.actions few
    have answered := sifts_sendFinAck moved.tracked unsent heard first
    refine moved.trans (answered.trans (sifts_foldl_applyAction rest once answered.tracked ?_ later))
    rw [CloseAction.bodies_cons, List.length_append] at few
    omega

private theorem sifts_removeAcked (tracked : session.Tracked) (inOrder : session.delivery.InOrder)
    (ack : UInt32) : Sifts (some ack) session (session.removeAcked ack) := by
  have tracks := CloseMachine.Tracks.onAcked tracked inOrder ack
  have dropped (after : Session P)
      (contents : after.delivery.contents = (session.delivery.removeAcked ack).1.contents)
      (tracked : after.Tracked) : Sifts (some ack) session after := by
    refine ⟨fun entry member spared => ?_, tracked⟩
    rw [contents]
    exact (inOrder.mem_contents_removeAcked ack entry).mpr ⟨member, spared ack rfl⟩
  unfold removeAcked
  simp only
  split
  · next none =>
      exact dropped _ rfl (tracked.of_same (Delivery.contents_of_removed_zero none) rfl)
  · rcases session.closing.onAcked_cases ack with ⟨closing, _, noted⟩ | ⟨closing, _, ends⟩
    · rw [noted] at tracks ⊢
      exact dropped _ rfl tracks
    · rw [ends] at tracks ⊢
      have moved : Sifts (some ack) session
          { session with delivery := (session.delivery.removeAcked ack).1, closing } :=
        dropped _ rfl tracks
      exact moved.trans (sifts_enter moved.tracked .closed).mono

private theorem sifts_resync (tracked : session.Tracked) (inOrder : session.delivery.InOrder)
    (ack : UInt32) : Sifts (some ack) session (session.resync ack) := by
  have removed := sifts_removeAcked tracked inOrder ack
  unfold resync
  simp only
  split
  · exact removed
  · have rewound : Sifts none (session.removeAcked ack)
        { session.removeAcked ack with
          delivery := (session.removeAcked ack).delivery.rewindLine ack } :=
      .of_same removed.tracked rfl rfl rfl
    exact removed.trans (rewound.trans (sifts_flush rewound.tracked)).mono

private theorem sifts_onDue (tracked : session.Tracked) (clock : UInt32) (event : LivenessEvent) :
    Sifts none session (onDue clock session event) := by
  unfold onDue
  split
  · exact .refl tracked
  · cases event with
    | offlineExpired => exact sifts_terminate tracked _
    | rebindDue =>
        rw [startRebind_eq]
        exact .of_same tracked rfl rfl rfl
    | sendPing =>
        rw [sendPing_eq]
        exact .of_same tracked rfl rfl rfl
    | aliveWaitExpired => exact sifts_dropLine tracked
    | timeWaitExpired =>
        have expired := tracked.timeWaitExpired
        rcases session.closing.timeWaitExpired_cases with same | ⟨closing, _, ends⟩
        · rw [same]
          exact .of_same tracked rfl rfl rfl
        · rw [ends] at expired ⊢
          have moved : Sifts none session { session with closing } :=
            ⟨fun _ member _ => member, expired⟩
          exact moved.trans (sifts_enter moved.tracked .closed)

private theorem sifts_foldl_onDue (clock : UInt32) (due : List LivenessEvent) :
    ∀ {session : Session P}, session.Tracked →
      Sifts none session (due.foldl (onDue clock) session) := by
  induction due with
  | nil => exact .refl
  | cons event due induction =>
      intro session tracked
      have head := sifts_onDue tracked clock event
      exact head.trans (induction head.tracked)

private theorem sifts_update (tracked : session.Tracked) (time : Duration) (clock : UInt32) :
    Sifts none session (session.update time clock) := by
  unfold update
  split
  · exact .refl tracked
  · have ticked : Sifts none session
        { session with liveness := (session.liveness.tick time).1 } :=
      .of_same tracked rfl rfl rfl
    have acted := ticked.trans
      (sifts_foldl_onDue clock (session.liveness.tick time).2 ticked.tracked)
    simp only
    split
    · exact acted.trans (sifts_sendAck acted.tracked)
    · exact acted

/-! ## Steps -/

/-- The ack that a packet on the bound line carries, if the session takes it: a reliable
packet's counts only with the next id. -/
def heededIn? (session : Session P) : Packet P → Option UInt32
  | .ack latest => some latest
  | .reliable packet =>
      if packet.id.toNat = session.delivery.lastRecvId.toNat + 1 then some packet.ack else none
  | _ => none

/-- The ack that an input carries, if the session takes it: in a packet, or in the
handshake of a line that is bound. -/
def heeded? (session : Session P) : Input P → Option UInt32
  | .packet line packet _ =>
      if session.phase ≠ .closed ∧ session.current.map (·.id) = some line then
        session.heededIn? packet
      else none
  | .lineRebound line serverAck => (session.binding? (.lineRebound line serverAck)).map (·.2)
  | .attachRebind line clientAck => (session.binding? (.attachRebind line clientAck)).map (·.2)
  | _ => none

/-- A decision about the body of a packet sends no FinAck but the first. -/
theorem BodyOutcome.sifts {body : ReliableBody P} (outcome : BodyOutcome session body after)
    (tracked : session.Tracked) (fits : Fits session after) : Sifts none session after := by
  cases outcome with
  | delivered => exact .of_same tracked rfl rfl rfl
  | fin decided =>
      obtain ⟨tracks, unsent, heard, once⟩ := tracked.onFin decided
      have few := (CloseMachine.onFin_cases (P := P) decided).2.1
      exact sifts_applyClose tracks (.inr ⟨unsent, heard, once⟩)
        (Nat.lt_of_le_of_lt few (by decide)) fits
  | finAck decided =>
      obtain ⟨tracks, none⟩ := tracked.onFinAck decided
      refine sifts_applyClose tracks (.inl none) ?_ fits
      rcases CloseMachine.onFinAck_cases decided with ⟨_, rfl⟩ | ⟨_, rfl | rfl⟩ <;>
        simp [CloseAction.body?, UInt32.size]
  | unexpectedFin refused => exact sifts_terminate tracked _
  | unexpectedFinAck refused => exact sifts_terminate tracked _

theorem PacketOutcome.sifts {packet : Packet P} (outcome : PacketOutcome session packet after)
    (tracked : session.Tracked) (inOrder : session.delivery.InOrder) (fits : Fits session after) :
    Sifts (session.heededIn? packet) session after := by
  have removed {packet : ReliablePacket P} {delivery : Delivery P}
      (accepted : session.delivery.accept packet.id = .ok (delivery, .accepted)) :
      Sifts (session.heededIn? (.reliable packet)) session
        (removeAcked { session with delivery } packet.ack) := by
    obtain ⟨rfl, next⟩ := Delivery.accept_accepted accepted
    have received : (session.received packet.id).Tracked := tracked.of_same rfl rfl
    have ordered : (session.received packet.id).delivery.InOrder :=
      ⟨inOrder.buffered_le, inOrder.ids, inOrder.acked_le_line, inOrder.line_le_last⟩
    have taken := sifts_removeAcked received ordered packet.ack
    have heeds : session.heededIn? (.reliable packet) = some packet.ack := if_pos next
    rw [heeds]
    exact ⟨taken.kept, taken.tracked⟩
  cases outcome with
  | gap refused => exact (sifts_dropLine tracked).mono
  | misplaced strange => exact (sifts_dropLine tracked).mono
  | duplicate known => exact .refl tracked
  | ended accepted isOver => exact removed accepted
  | taken accepted open_ body =>
      refine (removed accepted).trans (body.sifts (removed accepted).tracked ?_).mono
      obtain ⟨rfl, -⟩ := Delivery.accept_accepted accepted
      rw [Fits, lastSendId_removeAcked]
      exact fits
  | acked => exact sifts_removeAcked tracked inOrder _
  | echoed =>
      rw [sendOnCurrent_eq]
      exact .of_same tracked rfl rfl rfl
  | measured => exact .of_same tracked rfl rfl rfl
  | unmeasured => exact .refl tracked

theorem Outcome.sifts {input : Input P} (outcome : Outcome session input after)
    (tracked : session.Tracked) (inOrder : session.delivery.InOrder) (fits : Fits session after) :
    Sifts (session.heeded? input) session after := by
  have relined {heeded : Option UInt32} (relined : Session P)
      (delivery : relined.delivery = session.delivery)
      (closing : relined.closing = session.closing) : Sifts heeded session relined :=
    .of_same tracked (by rw [delivery]) (by rw [delivery]) closing
  have flushes {opened : Session P} (sifts : Sifts none session opened) :
      Sifts (session.heeded? input) session opened.flush :=
    (sifts.trans (sifts_flush sifts.tracked)).mono
  have terminates {ending : Session P} {reason : CloseReason}
      (sifts : Sifts none session ending) :
      Sifts (session.heeded? input) session (ending.terminate reason) :=
    (sifts.trans (sifts_terminate sifts.tracked reason)).mono
  have resyncs {opened : Session P} {ack : UInt32} (sifts : Sifts none session opened)
      (delivery : opened.delivery = session.delivery)
      (heeds : session.heeded? input = some ack) :
      Sifts (session.heeded? input) session (opened.resync ack) := by
    rw [heeds]
    exact sifts.mono.trans (sifts_resync sifts.tracked (delivery ▸ inOrder) ack)
  cases outcome with
  | unchanged unoffered silent => exact .refl tracked
  | pushed running unsent => exact (sifts_pushReliable tracked (by simp) fits).mono
  | aborted connecting => exact terminates (.refl tracked)
  | closes connected =>
      obtain ⟨tracks, none⟩ := tracked.localClose
      exact (sifts_applyClose tracks (.inl none) session.closing.few_localClose fits).mono
  | ended running => exact terminates (.refl tracked)
  | elapsed running => exact (sifts_update tracked _ _).mono
  | dialed running =>
      rw [discard_eq]
      exact relined _ rfl rfl
  | turnedAway offered => exact (sifts_discard tracked _).mono
  | givenUp unoffered silent shaking =>
      rw [discard_eq]
      exact relined _ rfl rfl
  | created shaking connecting =>
      rw [bindCurrent_eq]
      exact flushes (relined _ rfl rfl)
  | accepted connecting =>
      rw [bindCurrent_eq]
      exact flushes (relined _ rfl rfl)
  | rebound shaking connected checked =>
      rw [bindCurrent_eq]
      refine resyncs (relined _ rfl rfl) rfl ?_
      simp [heeded?, binding?, shaking, connected, checked, Except.isOk, Except.toBool]
  | resumed connected current checked =>
      rw [bindCurrent_eq]
      refine resyncs (relined _ rfl rfl) rfl ?_
      simp [heeded?, binding?, connected, current, checked, Except.isOk, Except.toBool]
  | unresumable shaking connected refused =>
      rw [discard_eq]
      exact terminates (relined _ rfl rfl)
  | rejected connected current refused =>
      rw [discard_eq]
      exact terminates (relined _ rfl rfl)
  | unreachable shaking connecting => exact terminates (relined _ rfl rfl)
  | failed shaking connected => exact relined _ rfl rfl
  | lost bound running => exact relined _ rfl rfl
  | lostPending shaking isOver => exact relined _ rfl rfl
  | lostCurrent bound isOver => exact relined _ rfl rfl
  | @heard line packet clock after running bound arrives =>
      have heeds : session.heeded? (.packet line packet clock) = session.heededIn? packet :=
        if_pos ⟨running, bound⟩
      rw [heeds]
      exact arrives.sifts tracked inOrder fits

/-- Whatever happens, the FinAck is tracked, and only heeded acks drop anything. -/
theorem sifts_step (tracked : session.Tracked) (inOrder : session.delivery.InOrder)
    (input : Input P) (fits : Fits session (session.step input)) :
    Sifts (session.heeded? input) session (session.step input) :=
  (session.outcome_step input).sifts tracked inOrder fits

/-! ## The ack of the FinAck -/

theorem Tracked.lingering (tracked : session.Tracked)
    (waiting : session.closing.state = .timeWait) {id : UInt32}
    (sent : session.closing.finAckId = some id) :
    (id, .finAck) ∈ session.delivery.contents := by
  have unacked := tracked.waits waiting
  rw [← Bool.not_eq_true, tracked.crossed, sent] at unacked
  have buffered : ¬∀ entry ∈ session.delivery.contents, entry.2 ≠ .finAck :=
    fun none => unacked ⟨rfl, none⟩
  obtain ⟨⟨other, body⟩, among⟩ := Classical.not_forall.mp buffered
  obtain ⟨member, finAck⟩ := Classical.not_imp.mp among
  obtain rfl : body = .finAck := Classical.not_not.mp finAck
  have ours := (tracked.marked _ member).mp rfl
  rw [sent] at ours
  cases ours
  exact member

/-- An ack of the FinAck ends a session that lingers. -/
theorem removeAcked_lingering (tracked : session.Tracked) (inOrder : session.delivery.InOrder)
    (running : session.phase ≠ .closed) (waiting : session.closing.state = .timeWait)
    {id ack : UInt32} (sent : session.closing.finAckId = some id) (covers : id ≤ ack) :
    ∃ closing, session.removeAcked ack =
      endGracefully { session with delivery := (session.delivery.removeAcked ack).1 } closing := by
  have member := tracked.lingering waiting sent
  have dropped : (session.delivery.removeAcked ack).2 ≠ 0 := by
    intro none
    rw [← Delivery.contents_of_removed_zero none] at member
    exact UInt32.not_lt.mpr covers ((inOrder.mem_contents_removeAcked ack _).mp member).2
  have ends : session.closing.onAcked ack =
      ({ session.closing with peerFinAcked := true, state := .closed }, [.enter .closed]) := by
    simp [CloseMachine.onAcked, sent, covers, tracked.waits waiting, waiting]
  refine ⟨{ session.closing with peerFinAcked := true, state := .closed }, ?_⟩
  have unfolded : session.removeAcked ack =
      applyClose { session with delivery := (session.delivery.removeAcked ack).1 }
        (session.closing.onAcked ack) := if_neg dropped
  rw [unfolded, ends]
  apply applyClose_enter_closed
  exact running

/-- An ack is taken from a session to which little happened before, and nothing happens
after it if it ends the session. -/
structure Heeds (session : Session P) (input : Input P) (ack : UInt32) (prepared : Session P) :
    Prop where
  running : prepared.phase ≠ .closed
  delivery : ∃ received, prepared.delivery = { session.delivery with lastRecvId := received }
  closing : prepared.closing = session.closing
  outputs : prepared.outputs = session.outputs
  ends : (prepared.removeAcked ack).phase = .closed →
    session.step input = prepared.removeAcked ack

private theorem heeds_packet {line : LineId} {packet : Packet P} {clock : UInt32} {ack : UInt32}
    (running : session.phase ≠ .closed) (bound : session.current.map (·.id) = some line)
    (heeds : session.heededIn? packet = some ack) :
    ∃ prepared, Heeds session (.packet line packet clock) ack prepared := by
  have arrives : ¬(session.phase = .closed ∨ session.current.map (·.id) ≠ some line) := by
    simp [running, bound]
  cases packet with
  | ack latest =>
      cases heeds
      refine ⟨session, running, ⟨_, rfl⟩, rfl, rfl, fun _ => ?_⟩
      simp only [step, onPacket, if_neg arrives]
  | reliable packet =>
      rw [heededIn?] at heeds
      split at heeds
      · next next =>
          cases heeds
          refine ⟨session.received packet.id, running, ⟨_, rfl⟩, rfl, rfl, fun isOver => ?_⟩
          simp only [step, onPacket, if_neg arrives, onReliable, Delivery.accept_next next]
          exact if_pos isOver
      · cases heeds
  | _ => cases heeds

private theorem resync_ended {ack : UInt32} (isOver : (session.removeAcked ack).phase = .closed) :
    session.resync ack = session.removeAcked ack := by
  unfold resync
  simp only [if_pos isOver]

private theorem heeds_rebound {line : Line} {serverAck : UInt32}
    (shaking : session.pending = some line)
    (connected : session.phase = .connected)
    (checked : session.delivery.checkResync serverAck = .ok ()) :
    ∃ prepared, Heeds session (.lineRebound line.id serverAck) serverAck prepared := by
  have rebound := step_rebound shaking connected checked
  rw [bindCurrent_eq] at rebound
  refine ⟨_, ?_, ⟨session.delivery.lastRecvId, ?_⟩, ?_, ?_,
    fun isOver => rebound.trans (resync_ended isOver)⟩
  · simp [connected]
  · rfl
  · rfl
  · rfl

private theorem heeds_attachRebind {line : Line} {clientAck : UInt32}
    (connected : session.phase = .connected)
    (current : ¬line.index < session.lastLineIndex)
    (checked : session.delivery.checkResync clientAck = .ok ()) :
    ∃ prepared, Heeds session (.attachRebind line clientAck) clientAck prepared := by
  have resumed := step_attachRebind connected current checked
  rw [bindCurrent_eq] at resumed
  refine ⟨_, ?_, ⟨session.delivery.lastRecvId, ?_⟩, ?_, ?_,
    fun isOver => resumed.trans (resync_ended isOver)⟩
  · simp [act, connected]
  · rfl
  · rfl
  · rfl

theorem heeded_step {input : Input P} {ack : UInt32} (heeds : session.heeded? input = some ack) :
    ∃ prepared, Heeds session input ack prepared := by
  cases input with
  | packet line packet clock =>
      rw [heeded?] at heeds
      split at heeds
      · next bound => exact heeds_packet bound.1 bound.2 heeds
      · cases heeds
  | lineRebound line serverAck =>
      simp only [heeded?, binding?] at heeds
      split at heeds
      · next accepted =>
          obtain ⟨shaking, connected, checked⟩ := accepted
          obtain ⟨dialed, pending, rfl⟩ := Option.map_eq_some_iff.mp shaking
          cases heeds
          exact heeds_rebound pending connected (eq_ok_of_isOk checked)
      · cases heeds
  | attachRebind line clientAck =>
      simp only [heeded?, binding?] at heeds
      split at heeds
      · next accepted =>
          obtain ⟨connected, current, checked⟩ := accepted
          cases heeds
          exact heeds_attachRebind connected current (eq_ok_of_isOk checked)
      · cases heeds
  | _ => cases heeds

/-- A heeded ack of the FinAck takes it from the buffer of a session that lingers, and ends
the session. -/
theorem ends_of_heeded (tracked : session.Tracked) (inOrder : session.delivery.InOrder)
    (waiting : session.closing.state = .timeWait) {input : Input P} {id ack : UInt32}
    (heeds : session.heeded? input = some ack) (sent : session.closing.finAckId = some id)
    (covers : id ≤ ack) :
    (session.step input).phase = .closed ∧
      session.toldBy input = [.closeStateChanged .closed, .closed .graceful] ∧
      ∀ entry ∈ (session.step input).delivery.contents, entry.2 ≠ .finAck := by
  obtain ⟨prepared, heeded⟩ := heeded_step heeds
  obtain ⟨received, delivery⟩ := heeded.delivery
  have tracked' : prepared.Tracked := by
    rw [Tracked, delivery, heeded.closing]
    exact tracked.of_same rfl rfl
  have inOrder' : prepared.delivery.InOrder := by
    rw [delivery]
    exact ⟨inOrder.buffered_le, inOrder.ids, inOrder.acked_le_line, inOrder.line_le_last⟩
  obtain ⟨machine, gracefully⟩ := removeAcked_lingering tracked' inOrder' heeded.running
    (by rw [heeded.closing]; exact waiting) (by rw [heeded.closing]; exact sent) covers
  have isOver : (prepared.removeAcked ack).phase = .closed := by
    rw [gracefully, endGracefully_eq, terminate_eq]
  rw [toldBy, heeded.ends isOver, gracefully, endGracefully_eq, terminate_eq]
  refine ⟨rfl, ?_, ?_⟩
  · simp only [heeded.outputs]
    exact List.drop_left
  · intro entry member finAck
    obtain ⟨buffered, beyond⟩ := (inOrder'.mem_contents_removeAcked ack entry).mp member
    have ours := (tracked'.marked entry buffered).mp finAck
    rw [heeded.closing, sent] at ours
    cases ours
    exact UInt32.not_lt.mpr covers beyond

end Session

end ResumableSession
