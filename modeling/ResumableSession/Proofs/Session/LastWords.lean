import ResumableSession.Proofs.Session.Tenure
import ResumableSession.Proofs.Session.Tracking

/-!
# The last words of a session

Whatever the peer does, a session says farewell once: one Fin, one FinAck that answers
the peer's Fin, and no payload after its own.  It lingers while the FinAck is not
acknowledged, and the ack of it is its end.
-/

namespace ResumableSession

variable {P : Type}

namespace Session

/-- What was pushed ends in a farewell that fits to how far closing has come. -/
structure Leaves (pushed : List (ReliableBody P)) (machine : CloseMachine) : Prop where
  farewell : ∃ payloads : List P, ∃ farewell ∈ machine.state.farewells,
    pushed = payloads.map .data ++ farewell
  fin : machine.finId.isSome ↔ .fin ∈ pushed
  finAck : machine.finAckId.isSome ↔ .finAck ∈ pushed

namespace Leaves

variable {pushed fresh taken : List (ReliableBody P)} {machine noted next : CloseMachine}
  {actions : List CloseAction} {before after : Session P} {body : ReliableBody P}

theorem mannered (leaves : Leaves pushed machine) : Mannered pushed := by
  obtain ⟨payloads, farewell, farewells, rfl⟩ := leaves.farewell
  refine ⟨payloads, farewell, ?_, rfl⟩
  cases state : machine.state <;>
    simp only [state, CloseState.farewells, List.mem_cons, List.not_mem_nil, or_false]
      at farewells <;>
    simp [farewells]

theorem moved (leaves : Leaves pushed machine)
    (farewells : ∀ farewell : List (ReliableBody P), farewell ∈ machine.state.farewells →
      farewell ++ fresh ∈ next.state.farewells)
    (fin : next.finId.isSome ↔ machine.finId.isSome ∨ .fin ∈ fresh)
    (finAck : next.finAckId.isSome ↔ machine.finAckId.isSome ∨ .finAck ∈ fresh) :
    Leaves (pushed ++ fresh) next where
  farewell := by
    obtain ⟨payloads, farewell, member, rfl⟩ := leaves.farewell
    exact ⟨payloads, farewell ++ fresh, farewells farewell member, List.append_assoc _ _ _⟩
  fin := by rw [fin, leaves.fin, List.mem_append]
  finAck := by rw [finAck, leaves.finAck, List.mem_append]

theorem quiet (leaves : Leaves pushed machine)
    (farewells : ∀ farewell : List (ReliableBody P), farewell ∈ machine.state.farewells →
      farewell ∈ next.state.farewells)
    (fin : next.finId.isSome ↔ machine.finId.isSome)
    (finAck : next.finAckId.isSome ↔ machine.finAckId.isSome) : Leaves pushed next := by
  have moved : Leaves (pushed ++ []) next := leaves.moved (by simpa using farewells)
    (by simpa using fin) (by simpa using finAck)
  rwa [List.append_nil] at moved

theorem recorded (leaves : Leaves pushed machine)
    (same : CloseMachine.Recorded [] machine next) : Leaves pushed next :=
  leaves.quiet (by simp [same.state]) (by simp [same.fin]) (by simp [same.finAck])

theorem lingered (leaves : Leaves pushed machine)
    (ended : CloseMachine.Lingered machine next) : Leaves pushed next :=
  leaves.quiet (by simp [ended.state, ended.timeWait, CloseState.farewells]) ended.fin ended.finAck

theorem fin_pushed (leaves : Leaves pushed machine) :
    .fin ∈ pushed ↔ machine.state ≠ .active := by
  obtain ⟨payloads, farewell, farewells, rfl⟩ := leaves.farewell
  cases state : machine.state <;>
    simp only [state, CloseState.farewells, List.mem_cons, List.not_mem_nil, or_false]
      at farewells <;>
    simp [farewells]
  rcases farewells with rfl | rfl <;> simp

theorem sent (leaves : Leaves pushed machine) (unsent : machine.finSent = false) (payload : P) :
    Leaves (pushed ++ [.data payload]) machine := by
  have unfinished : .fin ∉ pushed := by
    rw [← leaves.fin]
    simpa [CloseMachine.finSent] using unsent
  have active : machine.state = .active := by
    rw [leaves.fin_pushed] at unfinished
    exact Classical.not_not.mp unfinished
  refine ⟨?_, ?_, ?_⟩
  · obtain ⟨payloads, farewell, farewells, rfl⟩ := leaves.farewell
    rw [active] at farewells ⊢
    refine ⟨payloads ++ [payload], [], List.mem_singleton.mpr rfl, ?_⟩
    rw [List.mem_singleton.mp farewells]
    simp
  · rw [leaves.fin]
    simp
  · rw [leaves.finAck]
    simp

theorem not_closeWait (leaves : Leaves pushed machine) : machine.state ≠ .closeWait := by
  intro waiting
  obtain ⟨payloads, farewell, farewells, _⟩ := leaves.farewell
  simp [waiting, CloseState.farewells] at farewells

theorem closes (leaves : Leaves pushed machine)
    (recorded : CloseMachine.Recorded machine.localClose.2 machine.localClose.1 next) :
    Leaves (pushed ++ CloseAction.bodies machine.localClose.2) next := by
  by_cases active : machine.state = .active
  · rw [CloseMachine.localClose_active active] at recorded ⊢
    exact leaves.moved (by simp [active, recorded.state, CloseState.farewells, CloseAction.body?])
      (by simp [recorded.fin, CloseAction.body?]) (by simp [recorded.finAck, CloseAction.body?])
  · rw [CloseMachine.localClose_begun active leaves.not_closeWait] at recorded ⊢
    rw [CloseAction.bodies_nil, List.append_nil]
    exact leaves.recorded recorded

/-- A Fin that has a place is the first one, and no FinAck was sent before. -/
theorem onFin (leaves : Leaves pushed machine) {decision : CloseMachine}
    (decided : machine.onFin = .ok (decision, actions))
    (recorded : CloseMachine.Recorded actions decision next) :
    Leaves (pushed ++ CloseAction.bodies actions) next := by
  have owed (unheard : machine.state.heardFin = false) : machine.owedFinAck = [.sendFinAck] := by
    have unsent : .finAck ∉ pushed := by
      obtain ⟨payloads, farewell, farewells, rfl⟩ := leaves.farewell
      cases state : machine.state <;>
        simp_all [CloseState.farewells, CloseState.heardFin]
    rw [← leaves.finAck] at unsent
    rw [CloseMachine.owedFinAck, if_pos (by simpa using unsent)]
  have state := recorded.state
  have fin := recorded.fin
  have finAck := recorded.finAck
  unfold CloseMachine.onFin at decided
  split at decided <;> simp only [Except.ok.injEq, Prod.mk.injEq, reduceCtorEq] at decided
  all_goals
    next was =>
      obtain ⟨rfl, rfl⟩ := decided
      rw [owed (by rw [was]; rfl)] at fin finAck ⊢
      exact leaves.moved (by simp [was, state, CloseState.farewells, CloseAction.body?])
        (by simp [fin, CloseAction.body?]) (by simp [finAck, CloseAction.body?])

theorem onFinAck (leaves : Leaves pushed machine) {decision : CloseMachine}
    (decided : machine.onFinAck = .ok (decision, actions))
    (recorded : CloseMachine.Recorded [] decision next) : Leaves pushed next := by
  have state := recorded.state
  have fin := recorded.fin
  have finAck := recorded.finAck
  unfold CloseMachine.onFinAck at decided
  split at decided <;> simp only [Except.ok.injEq, Prod.mk.injEq, reduceCtorEq] at decided
  all_goals
    next was =>
      obtain ⟨rfl, rfl⟩ := decided
      cases early : machine.peerFinAcked <;> simp only [early, if_true] at state <;>
        exact leaves.quiet (by simp [was, state, CloseState.farewells]) (by simp [fin])
          (by simp [finAck])

theorem hears (leaves : Leaves pushed before.closing) (hears : Hears before after body fresh) :
    Leaves (pushed ++ fresh) after.closing := by
  cases hears with
  | payload same delivered =>
      rw [List.append_nil]
      exact leaves.recorded same
  | fin same decided recorded delivered => exact (leaves.recorded same).onFin decided recorded
  | finAck same decided recorded isOver delivered =>
      rw [List.append_nil]
      exact (leaves.recorded same).onFinAck decided recorded
  | lingered ended isOver delivered =>
      rw [List.append_nil]
      exact leaves.lingered ended
  | violated same unexpected unchanged isOver delivered =>
      rw [List.append_nil, unchanged]
      exact leaves.recorded same

/-- Every turn leaves as closing says. -/
theorem turn (leaves : Leaves pushed before.closing) (turn : Turn before after fresh taken) :
    Leaves (pushed ++ fresh) after.closing := by
  cases turn with
  | quiet deaf same =>
      rw [List.append_nil]
      exact leaves.recorded same
  | expired deaf ended isOver =>
      rw [List.append_nil]
      exact leaves.lingered ended
  | sent deaf running unfinished same =>
      rw [same]
      exact leaves.sent unfinished _
  | closes deaf connected recorded => exact leaves.closes recorded
  | hears bound next hears => exact leaves.hears hears

end Leaves

/-- What is kept of a session through every run: its books, how it takes its leave, and
where its FinAck is. -/
structure Keeping (pushed : List (ReliableBody P)) (session : Session P) : Prop where
  books : Books pushed session
  guarded : session.Guarded
  leaves : Leaves pushed session.closing
  tracked : session.Tracked

variable {pushed : List (ReliableBody P)} {session : Session P}

theorem Starts.keeping {start : Session P} (starts : start.Starts) : Keeping [] start where
  books := starts.books
  guarded := starts.guarded
  leaves := by
    cases starts <;>
      exact
        { farewell := ⟨[], [], List.mem_singleton.mpr rfl, rfl⟩
          fin := iff_of_false Bool.false_ne_true List.not_mem_nil
          finAck := iff_of_false Bool.false_ne_true List.not_mem_nil }
  tracked := by
    cases starts <;>
      exact
        { below := nofun
          numbered := nofun
          marked := nofun
          crossed := iff_of_false nofun (fun sent => nomatch sent.1)
          unanswered := fun _ => rfl
          waits := fun _ => rfl }

namespace Keeping

theorem fits (keeping : Keeping pushed session) {input : Input P}
    (room : pushed.length + session.assignedBy input < UInt32.size) :
    Fits session (session.step input) := by
  rw [Fits, keeping.books.keeps.counted]
  exact room

theorem step (keeping : Keeping pushed session) (input : Input P)
    (room : pushed.length + session.assignedBy input < UInt32.size) :
    Keeping (pushed ++ session.pushedBy input) (session.step input) ∧
      (session.pushedBy input).length = session.assignedBy input := by
  obtain ⟨fresh, taken, accounts⟩ := accounts_step keeping.books keeping.guarded input room
  have given := accounts.length_fresh keeping.books
  rw [accounts.pushedBy_eq keeping.books]
  exact ⟨
    { books := accounts.books
      guarded := accounts.turn.guarded keeping.guarded
      leaves := keeping.leaves.turn accounts.turn
      tracked := (sifts_step keeping.tracked keeping.books.keeps.inOrder input
        (keeping.fits room)).tracked },
    given⟩

/-- A FinAck answers the peer's Fin, in the step that takes it in. -/
theorem answers (keeping : Keeping pushed session) {input : Input P}
    (room : pushed.length + session.assignedBy input < UInt32.size)
    (answered : .finAck ∈ session.pushedBy input) :
    session.Brings input .fin ∧
      (session.step input).delivery.lastRecvId.toNat = session.delivery.lastRecvId.toNat + 1 := by
  obtain ⟨fresh, taken, accounts⟩ := accounts_step keeping.books keeping.guarded input room
  rw [accounts.pushedBy_eq keeping.books] at answered
  have turn := accounts.turn
  have brought := accounts.brought
  cases turn with
  | closes deaf connected recorded =>
      exfalso
      unfold CloseMachine.localClose at answered
      split at answered <;> simp [CloseAction.body?] at answered
  | hears bound next hears =>
      cases hears with
      | fin same decided recorded delivered => exact ⟨brought .fin (by simp), next⟩
      | _ => simp at answered
  | _ => simp at answered

/-- The peer has acknowledged the FinAck if it was sent and is gone from the buffer. -/
theorem acked (keeping : Keeping pushed session) :
    session.closing.peerFinAcked = true ↔
      .finAck ∈ pushed ∧ .finAck ∉ session.delivery.buffer.map (·.body) := by
  rw [keeping.tracked.crossed, keeping.leaves.finAck]
  refine and_congr_right fun _ => ⟨fun none member => ?_, fun none entry member finAck => ?_⟩
  · obtain ⟨packet, among, finAck⟩ := List.mem_map.mp member
    exact none (packet.id, packet.body) (List.mem_map_of_mem among) finAck
  · obtain ⟨packet, among, rfl⟩ := List.mem_map.mp member
    exact none (List.mem_map.mpr ⟨packet, among, finAck⟩)

/-- A session that lingers has sent its FinAck, and has it in the buffer. -/
theorem lingering (keeping : Keeping pushed session)
    (waiting : session.closing.state = .timeWait) :
    ∃ id, session.closing.finAckId = some id ∧ (id, .finAck) ∈ session.delivery.contents := by
  obtain ⟨payloads, farewell, farewells, said⟩ := keeping.leaves.farewell
  rw [waiting] at farewells
  obtain rfl := List.mem_singleton.mp farewells
  obtain ⟨id, sent⟩ :=
    Option.isSome_iff_exists.mp (keeping.leaves.finAck.mpr (by simp [said]))
  exact ⟨id, sent, keeping.tracked.lingering waiting sent⟩

theorem leaving (keeping : Keeping pushed session)
    (waiting : session.closing.state = .timeWait) {input : Input P}
    (room : pushed.length + session.assignedBy input < UInt32.size)
    (gone : .finAck ∉ (session.step input).delivery.buffer.map (·.body)) :
    ∃ ack id, session.heeded? input = some ack ∧ session.closing.finAckId = some id ∧
      id ≤ ack := by
  obtain ⟨id, sent, member⟩ := keeping.lingering waiting
  have sifts := sifts_step keeping.tracked keeping.books.keeps.inOrder input (keeping.fits room)
  have covered : ¬∀ ack, session.heeded? input = some ack → ack < id := by
    intro spared
    obtain ⟨packet, among, same⟩ := List.mem_map.mp (sifts.kept _ member spared)
    exact gone (List.mem_map.mpr ⟨packet, among, congrArg Prod.snd same⟩)
  obtain ⟨ack, among⟩ := Classical.not_forall.mp covered
  obtain ⟨heeds, covers⟩ := Classical.not_imp.mp among
  exact ⟨ack, id, heeds, sent, UInt32.not_lt.mp covers⟩

theorem ending (keeping : Keeping pushed session)
    (waiting : session.closing.state = .timeWait) {input : Input P}
    (room : pushed.length + session.assignedBy input < UInt32.size) :
    (.finAck ∉ (session.step input).delivery.buffer.map (·.body) ↔
        ∃ ack, session.heeded? input = some ack ∧
          ∃ packet ∈ session.delivery.buffer, packet.body = .finAck ∧ packet.id ≤ ack) ∧
      (.finAck ∉ (session.step input).delivery.buffer.map (·.body) →
        (session.step input).phase = .closed ∧
          session.toldBy input = [.closeStateChanged .closed, .closed .graceful]) := by
  have ends {ack id : UInt32} (heeds : session.heeded? input = some ack)
      (sent : session.closing.finAckId = some id) (covers : id ≤ ack) :=
    ends_of_heeded keeping.tracked keeping.books.keeps.inOrder waiting heeds sent covers
  refine ⟨⟨fun gone => ?_, ?_⟩, fun gone => ?_⟩
  · obtain ⟨ack, id, heeds, sent, covers⟩ := keeping.leaving waiting room gone
    obtain ⟨packet, among, same⟩ :=
      List.mem_map.mp (keeping.tracked.lingering waiting sent)
    obtain ⟨rfl, finAck⟩ := Prod.mk.inj same
    exact ⟨ack, heeds, packet, among, finAck, covers⟩
  · rintro ⟨ack, heeds, packet, among, finAck, covers⟩ member
    have sent := (keeping.tracked.marked _ (List.mem_map_of_mem among)).mp finAck
    obtain ⟨other, left, same⟩ := List.mem_map.mp member
    exact (ends heeds sent covers).2.2 _ (List.mem_map_of_mem left) same
  · obtain ⟨ack, id, heeds, sent, covers⟩ := keeping.leaving waiting room gone
    exact ⟨(ends heeds sent covers).1, (ends heeds sent covers).2.1⟩

end Keeping

private theorem keeping_run (inputs : List (Input P)) :
    ∀ {pushed : List (ReliableBody P)} {session : Session P}, Keeping pushed session →
      pushed.length + session.assigned inputs < UInt32.size →
      Keeping (pushed ++ session.history inputs) (session.run inputs) ∧
        (session.history inputs).length = session.assigned inputs := by
  induction inputs with
  | nil =>
      intro pushed session keeping _
      have unpushed : pushed ++ session.history [] = pushed := List.append_nil _
      rw [unpushed]
      exact ⟨keeping, rfl⟩
  | cons input inputs induction =>
      intro pushed session keeping room
      rw [assigned] at room
      obtain ⟨kept, given⟩ := keeping.step input (by omega)
      obtain ⟨rest, counted⟩ := induction kept (by rw [List.length_append]; omega)
      rw [List.append_assoc] at rest
      have pushes : session.history (input :: inputs) =
          session.pushedBy input ++ (session.step input).history inputs := rfl
      rw [pushes, List.length_append, given, counted]
      exact ⟨rest, rfl⟩

theorem assigned_append (earlier later : List (Input P)) :
    ∀ session : Session P, session.assigned (earlier ++ later) =
      session.assigned earlier + (session.run earlier).assigned later := by
  induction earlier with
  | nil => exact fun session => (Nat.zero_add _).symm
  | cons first earlier induction =>
      intro session
      rw [List.cons_append, assigned, assigned, induction, Nat.add_assoc]
      rfl

/-- How a session takes its leave in a run. -/
structure Disciplined (start : Session P) (inputs : List (Input P)) : Prop where
  once : ∀ body : ReliableBody P, body = .fin ∨ body = .finAck →
    ∀ first second : Nat, (start.history inputs)[first]? = some body →
      (start.history inputs)[second]? = some body → first = second
  last : ∀ earlier later, start.history inputs = earlier ++ .fin :: later →
    ∀ payload, .data payload ∉ later
  answers : ∀ earlier input later, inputs = earlier ++ input :: later →
    .finAck ∈ (start.run earlier).pushedBy input →
      (start.run earlier).Brings input .fin ∧
        ((start.run earlier).step input).delivery.lastRecvId.toNat =
          (start.run earlier).delivery.lastRecvId.toNat + 1
  tracked : (start.run inputs).closing.peerFinAcked = true ↔
    .finAck ∈ start.history inputs ∧
      .finAck ∉ (start.run inputs).delivery.buffer.map (·.body)
  lingering : (start.run inputs).closing.state = .timeWait →
    .finAck ∈ (start.run inputs).delivery.buffer.map (·.body)
  ending : ∀ earlier input later, inputs = earlier ++ input :: later →
    (start.run earlier).closing.state = .timeWait →
      (.finAck ∉ ((start.run earlier).step input).delivery.buffer.map (·.body) ↔
        ∃ ack, (start.run earlier).heeded? input = some ack ∧
          ∃ packet ∈ (start.run earlier).delivery.buffer,
            packet.body = .finAck ∧ packet.id ≤ ack) ∧
      (.finAck ∉ ((start.run earlier).step input).delivery.buffer.map (·.body) →
        ((start.run earlier).step input).phase = .closed ∧
          (start.run earlier).toldBy input = [.closeStateChanged .closed, .closed .graceful])

/-- After a Fin there are no payloads. -/
theorem silent_after_fin {pushed earlier later : List (ReliableBody P)}
    (mannered : Mannered pushed) (split : pushed = earlier ++ .fin :: later) (payload : P) :
    .data payload ∉ later := by
  intro member
  obtain ⟨index, inside, found⟩ := List.getElem_of_mem member
  have atFin : pushed[earlier.length]? = some .fin := by simp [split]
  have atData : pushed[earlier.length + (index + 1)]? = some (.data payload) := by
    rw [split, List.getElem?_append_right (Nat.le_add_right _ _), Nat.add_sub_cancel_left,
      List.getElem?_cons_succ, List.getElem?_eq_getElem inside, found]
  obtain ⟨payloads, farewell, farewells, rfl⟩ := mannered
  obtain ⟨bound, _⟩ := Mannered.in_farewell atFin rfl
  rw [List.getElem?_append_right (by rw [List.length_map]; omega)] at atData
  have among := List.mem_of_getElem? atData
  simp only [List.mem_cons, List.not_mem_nil, or_false] at farewells
  rcases farewells with rfl | rfl | rfl | rfl <;> simp at among

/-- Whatever happens to a session, it says farewell once and lingers for the ack of its
FinAck, which it never misses, as long as ids do not wrap. -/
theorem run_disciplined {start : Session P} (starts : start.Starts) (inputs : List (Input P))
    (fits : start.assigned inputs < UInt32.size) : start.Disciplined inputs := by
  have keeping : Keeping (start.history inputs) (start.run inputs) :=
    (keeping_run inputs starts.keeping (by simpa using fits)).1
  have before (earlier : List (Input P)) (input : Input P) (later : List (Input P))
      (split : inputs = earlier ++ input :: later) :
      Keeping (start.history earlier) (start.run earlier) ∧
        (start.history earlier).length + (start.run earlier).assignedBy input <
          UInt32.size := by
    rw [split, assigned_append, assigned] at fits
    obtain ⟨keeping, counted⟩ := keeping_run earlier starts.keeping
      (by rw [List.length_nil]; omega)
    rw [counted]
    exact ⟨keeping, by omega⟩
  constructor
  · intro body closing first second atFirst atSecond
    refine keeping.leaves.mannered.unique ?_ atFirst atSecond
    rcases closing with rfl | rfl <;> rfl
  · exact fun earlier later split => silent_after_fin keeping.leaves.mannered split
  · intro earlier input later split answered
    obtain ⟨keeping, room⟩ := before earlier input later split
    exact keeping.answers room answered
  · exact keeping.acked
  · intro waiting
    obtain ⟨id, _, member⟩ := keeping.lingering waiting
    obtain ⟨packet, among, same⟩ := List.mem_map.mp member
    exact List.mem_map.mpr ⟨packet, among, congrArg Prod.snd same⟩
  · intro earlier input later split waiting
    obtain ⟨keeping, room⟩ := before earlier input later split
    exact keeping.ending waiting room

/-- The end of a session that closes first: it answers the peer's Fin, and lingers until
its own FinAck is acknowledged. -/
def parting : List (Input Nat) :=
  [.lineCreated ⟨0⟩ 7, .send 5, .close, .packet ⟨0⟩ (.reliable ⟨1, 2, .finAck⟩) 0,
    .packet ⟨0⟩ (.reliable ⟨2, 2, .fin⟩) 0, .packet ⟨0⟩ (.ack 3) 0]

theorem parting_disciplined :
    (initiator {} {} ⟨⟨0⟩, 0⟩).assigned parting < UInt32.size ∧
      (initiator {} {} ⟨⟨0⟩, 0⟩).history parting = [.data 5, .fin, .finAck] ∧
      ((initiator {} {} ⟨⟨0⟩, 0⟩).run parting).closing.peerFinAcked = true ∧
      ((initiator {} {} ⟨⟨0⟩, 0⟩).run (parting.take 5)).toldBy (.packet ⟨0⟩ (.ack 3) 0) =
        [.closeStateChanged .closed, .closed .graceful] := by
  have fits : (initiator {} {} ⟨⟨0⟩, 0⟩).assigned parting < UInt32.size := by decide +kernel
  have disciplined := run_disciplined (.initiator {} {} ⟨⟨0⟩, 0⟩) parting fits
  have ending := disciplined.ending (parting.take 5) (.packet ⟨0⟩ (.ack 3) 0) [] rfl
    (by decide +kernel)
  exact ⟨fits, by decide +kernel, disciplined.tracked.mpr (by decide +kernel),
    (ending.2 (by decide +kernel)).2⟩

end Session

end ResumableSession
