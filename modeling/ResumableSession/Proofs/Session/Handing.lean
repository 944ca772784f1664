import ResumableSession.Proofs.Session.Bookkeeping
import ResumableSession.Proofs.Session.Issuing

/-!
# What a step sends

The reliable packets that a step sends go to one line.  While the line stays bound
they are the bodies that the step pushes, and when it has just been bound they are
the send buffer.
-/

namespace ResumableSession

variable {P : Type}

/-- The packet, if it is a reliable one. -/
def Packet.reliable? : Packet P → Option (ReliablePacket P)
  | .reliable packet => some packet
  | _ => none

/-- The reliable packets that were sent, oldest first, each with its line. -/
def reliablesIn (actions : List (LineAction P)) : List (LineId × ReliablePacket P) :=
  actions.filterMap fun
    | .send line (.reliable packet) => some (line, packet)
    | _ => none

theorem reliablesIn_append (earlier later : List (LineAction P)) :
    reliablesIn (earlier ++ later) = reliablesIn earlier ++ reliablesIn later :=
  List.filterMap_append

private theorem mem_of_reliablesIn {actions : List (LineAction P)} {line : LineId}
    {packet : ReliablePacket P} (among : (line, packet) ∈ reliablesIn actions) :
    .send line (.reliable packet) ∈ actions := by
  obtain ⟨action, member, same⟩ := List.mem_filterMap.mp among
  cases action with
  | close target graceful => cases same
  | send target sent =>
      cases sent <;> cases same
      exact member

private theorem reliablesIn_eq {line : LineId} {actions : List (LineAction P)} :
    ∀ {packets : List (Packet P)},
      (∀ target, packetsOn target actions = if line = target then packets else []) →
      reliablesIn actions = (packets.filterMap Packet.reliable?).map (Prod.mk line) := by
  induction actions with
  | nil =>
      intro packets only
      have none : [] = packets := by simpa using only line
      rw [← none]
      rfl
  | cons action actions induction =>
      intro packets only
      cases action with
      | close target graceful => exact induction only
      | send target packet =>
          simp only [packetsOn_send] at only
          have ours := only line
          have theirs := only target
          by_cases same : target = line
          · subst same
            simp only [if_true, List.singleton_append] at ours
            subst ours
            have later : ∀ other, packetsOn other actions =
                if target = other then packetsOn target actions else [] := by
              intro other
              by_cases same : target = other
              · simp [same]
              · simpa [same] using only other
            have rest := induction later
            cases packet with
            | reliable packet => exact congrArg (List.cons (target, packet)) rest
            | _ => exact rest
          · have apart : line ≠ target := fun equal => same equal.symm
            simp [apart] at theirs

namespace Session

/-- The line that an input binds, if any, with the id up to which its peer has
everything. -/
def binding? (session : Session P) : Input P → Option (LineId × UInt32)
  | .lineCreated line _ =>
      if session.pending.map (·.id) = some line ∧ session.phase = .connecting then some (line, 0)
      else none
  | .lineRebound line serverAck =>
      if session.pending.map (·.id) = some line ∧ session.phase = .connected ∧
          (session.delivery.checkResync serverAck).isOk then some (line, serverAck)
      else none
  | .attachCreated line => if session.phase = .connecting then some (line.id, 0) else none
  | .attachRebind line clientAck =>
      if session.phase = .connected ∧ ¬line.index < session.lastLineIndex ∧
          (session.delivery.checkResync clientAck).isOk then some (line.id, clientAck)
      else none
  | _ => none

/-- The reliable packets that an input makes a session send, each with its line. -/
def handedBy (session : Session P) (input : Input P) : List (LineId × ReliablePacket P) :=
  reliablesIn ((session.step input).actions.drop session.actions.length)

/-- The bodies that an input makes a session push: those in the buffer that follow
the ids given out before. -/
def pushedBy (session : Session P) (input : Input P) : List (ReliableBody P) :=
  ((session.step input).delivery.buffer.dropWhile fun packet =>
    packet.id ≤ session.delivery.lastSendId).map (·.body)

theorem Serves.reliables {before after : Session P} (serves : Serves before after) :
    reliablesIn after.actions =
      reliablesIn before.actions ++ reliablesIn (after.actions.drop before.actions.length) := by
  obtain ⟨actions, extended, _⟩ := serves.stamped
  rw [extended, List.drop_left, reliablesIn_append]

theorem Serves.packets {before after : Session P} (serves : Serves before after)
    {line : LineId} {packets : List (Packet P)}
    (sent : packetsOn line after.actions = packetsOn line before.actions ++ packets) :
    packetsOn line (after.actions.drop before.actions.length) = packets := by
  obtain ⟨actions, extended, _⟩ := serves.stamped
  rw [extended, packetsOn_append] at sent
  rw [extended, List.drop_left]
  exact List.append_cancel_left sent

/-- A step handed a line the packets with the ids behind `start`, all there are if
the line is still bound. -/
structure Hands (history : List (ReliableBody P)) (line : LineId) (start : Nat)
    (before after : Session P) (packets : List (ReliablePacket P)) : Prop where
  sent : reliablesIn (after.actions.drop before.actions.length) = packets.map (Prod.mk line)
  ids : packets.map (·.id.toNat) = List.range' (start + 1) packets.length
  bodies : ∀ packet ∈ packets, history[packet.id.toNat - 1]? = some packet.body
  acks : ∀ packet ∈ packets, packet.ack = after.delivery.lastRecvId
  reached : after.current.isSome → start + packets.length = history.length

theorem Serves.hands {before after : Session P} (serves : Serves before after)
    {history : List (ReliableBody P)} {received start finish : Nat} {line : LineId}
    {response packets : List (Packet P)}
    (stream : Stream history received start finish packets)
    (sent : ∀ target, packetsOn target after.actions = packetsOn target before.actions ++
      if line = target then response ++ packets else [])
    (unreliable : response.filterMap Packet.reliable? = [])
    (reached : after.current.isSome → finish = history.length) :
    Hands history line start before after (packets.filterMap Packet.reliable?) := by
  have numbered : (packets.filterMap Packet.reliable?).map (·.id.toNat) =
      packets.filterMap Packet.reliableId? := by
    have same : (fun packet : Packet P => packet.reliable?.map (·.id.toNat)) =
        Packet.reliableId? := by
      funext packet
      cases packet <;> rfl
    rw [List.map_filterMap, same]
  have count : (packets.filterMap Packet.reliable?).length = finish - start := by
    have lengths := congrArg List.length numbered
    rw [List.length_map, stream.ids, List.length_range'] at lengths
    exact lengths
  have handed : reliablesIn (after.actions.drop before.actions.length) =
      (packets.filterMap Packet.reliable?).map (Prod.mk line) := by
    rw [reliablesIn_eq (fun target => serves.packets (sent target)), List.filterMap_append,
      unreliable, List.nil_append]
  constructor
  · exact handed
  · rw [numbered, stream.ids, count]
  · intro packet member
    obtain ⟨sent, inPackets, reliable⟩ := List.mem_filterMap.mp member
    have truthful := stream.truthful sent inPackets
    cases sent <;> cases reliable
    exact truthful.2.1
  · intro packet member
    obtain ⟨actions, extended, stamped⟩ := serves.stamped
    rw [extended, List.drop_left] at handed
    have among : (line, packet) ∈ reliablesIn actions := by
      rw [handed]
      exact List.mem_map_of_mem member
    exact stamped line packet (mem_of_reliablesIn among)
  · intro bound
    have startBound := stream.start_le
    rw [count, ← reached bound]
    omega

section

variable {pushed fresh taken : List (ReliableBody P)} {session after : Session P}
  {input : Input P}

/-- What a step pushes is buffered after it, behind what had an id before. -/
theorem Accounts.pushedBy_eq (books : Books pushed session)
    (accounts : Accounts input pushed fresh taken session (session.step input)) :
    session.pushedBy input = fresh := by
  have serves : Serves session (session.step input) := serves_step input
  obtain ⟨given, buffered, lastId⟩ := serves.buffered
  have keeps := accounts.books.keeps
  have before := books.keeps.counted
  have counted := keeps.counted
  rw [List.length_append] at counted
  have total := keeps.inOrder.acked_add_length
  have gone := keeps.inOrder.acked_removeAcked session.delivery.lastSendId
  have kept := keeps.bodies_removeAcked session.delivery.lastSendId
  have small := (session.step input).delivery.lastSendId.toNat_lt_size
  have count : fresh.length = given := by
    rw [accounts.length_fresh books, assignedBy, lastId, UInt32.add_comm, UInt32.add_sub_cancel]
    exact UInt32.toNat_ofNat_of_lt' (by omega)
  have reached : ((session.step input).delivery.removeAcked
      session.delivery.lastSendId).1.acked = pushed.length := by
    rw [gone]
    omega
  rw [reached, List.drop_left] at kept
  exact kept

theorem eq_ok_of_isOk {ε : Type} {result : Except ε Unit} (passed : result.isOk) :
    result = .ok () := by
  cases result with
  | error cause => cases passed
  | ok value => rfl

theorem Greets.binding?_eq {line : Line} {start : Nat} {response : List (Packet P)}
    {pending : Option Line} {index : UInt32}
    (greets : Greets session input line start response pending index) :
    ∃ origin : UInt32, origin.toNat = start ∧ session.binding? input = some (line.id, origin) := by
  cases greets with
  | created shaking connecting => exact ⟨0, rfl, by simp [binding?, shaking, connecting]⟩
  | rebound shaking connected checked =>
      exact ⟨_, rfl, by simp [binding?, shaking, connected, checked, Except.isOk, Except.toBool]⟩
  | attachCreated connecting => exact ⟨0, rfl, by simp [binding?, connecting]⟩
  | attachRebind connected current checked =>
      exact ⟨_, rfl, by simp [binding?, connected, current, checked, Except.isOk, Except.toBool]⟩

theorem greets_of_binding? {line : LineId} {origin : UInt32}
    (binds : session.binding? input = some (line, origin)) :
    ∃ bound response pending index, bound.id = line ∧
      Greets session input bound origin.toNat response pending index := by
  unfold binding? at binds
  split at binds
  · split at binds
    · next accepted =>
        cases binds
        obtain ⟨shaking, connecting⟩ := accepted
        obtain ⟨bound, pending, rfl⟩ := Option.map_eq_some_iff.mp shaking
        exact ⟨bound, _, _, _, rfl, .created pending connecting⟩
    · cases binds
  · split at binds
    · next accepted =>
        cases binds
        obtain ⟨shaking, connected, checked⟩ := accepted
        obtain ⟨bound, pending, rfl⟩ := Option.map_eq_some_iff.mp shaking
        exact ⟨bound, _, _, _, rfl, .rebound pending connected (eq_ok_of_isOk checked)⟩
    · cases binds
  · split at binds
    · next connecting =>
        cases binds
        exact ⟨_, _, _, _, rfl, .attachCreated connecting⟩
    · cases binds
  · split at binds
    · next accepted =>
        cases binds
        obtain ⟨connected, current, checked⟩ := accepted
        exact ⟨_, _, _, _, rfl, .attachRebind connected current (eq_ok_of_isOk checked)⟩
    · cases binds
  · cases binds

private theorem continues_silent
    (silent : ∀ line, packetsOn line after.actions = packetsOn line session.actions) :
    Continues pushed pushed session after := by
  refine ⟨[], pushed.length, .nil _, ?_, fun _ => rfl⟩
  intro line
  simp [silent]

private theorem continues_sendAck {rebinding : Session P}
    (silent : ∀ line, packetsOn line rebinding.actions = packetsOn line session.actions)
    (current : rebinding.current = session.current) :
    Continues pushed pushed session rebinding.sendAck := by
  refine ⟨[.ack rebinding.delivery.lastRecvId], pushed.length,
    .control _ rfl (Nat.le_of_eq ?_) rfl, ?_, fun _ => rfl⟩
  · rw [(deaf_sendAck rebinding).recvId]
  · intro line
    rw [sendAck_eq, ← current, packetsOn_append, silent]
    cases rebinding.current <;> simp [packetsOn_send]

/-- A step that binds no line goes on sending on the one that is bound. -/
theorem Course.continues (course : Course pushed session input fresh taken after)
    (unbinding : session.binding? input = none) :
    Continues pushed (pushed ++ fresh) session after ∧
      (after.current = session.current ∨ after.current = none) := by
  cases course with
  | moves moves =>
      obtain ⟨reasons, advances, _⟩ := moves.advances
      exact ⟨advances.sends, advances.current⟩
  | binds greets binds =>
      obtain ⟨origin, _, bound⟩ := greets.binding?_eq
      rw [unbinding] at bound
      cases bound
  | @rebinds time clock running due =>
      rw [List.append_nil]
      rcases update_rebindDue running time clock due with silent | told
      · rw [silent, startRebind_eq]
        exact ⟨continues_silent (by simp), .inl rfl⟩
      · rw [told]
        refine ⟨continues_sendAck ?_ ?_, .inl ?_⟩
        · simp [startRebind_eq]
        · rw [startRebind_eq]
        · rw [(untouched_sendAck _).current, startRebind_eq]
  | @dials line =>
      rw [List.append_nil]
      unfold bindPending
      split
      · rw [discard_eq]
        exact ⟨continues_silent (by simp), .inl rfl⟩
      · rw [discard_eq]
        exact ⟨continues_silent (by simp), .inl rfl⟩

theorem Greets.unreliable {line : Line} {start : Nat} {response : List (Packet P)}
    {pending : Option Line} {index : UInt32}
    (greets : Greets session input line start response pending index) :
    response.filterMap Packet.reliable? = [] := by
  cases greets <;> rfl

/-- A line whose peer has everything before the buffer is handed the buffer. -/
theorem hands_buffer {rewound : Session P} {line : Line} {response : List (Packet P)}
    (serves : Serves session rewound.flush) (keeps : rewound.delivery.Keeps pushed)
    (current : rewound.current = some line)
    (rewinds : rewound.delivery.lastSendIdOfLine.toNat = rewound.delivery.acked)
    (sent : ∀ target, packetsOn target rewound.actions = packetsOn target session.actions ++
      if line.id = target then response else [])
    (unreliable : response.filterMap Packet.reliable? = []) :
    Hands pushed line.id rewound.delivery.acked session rewound.flush
        rewound.flush.delivery.buffer ∧
      rewound.flush.current = some line := by
  have whole : rewound.flush.delivery.buffer = rewound.delivery.unhanded := by
    rw [flush_eq _ keeps.inOrder]
    simp [current, Delivery.handed, Delivery.unhanded, rewinds]
  have stream := keeps.stream_unhanded
  have reliable : (rewound.delivery.unhanded.map Packet.reliable).filterMap Packet.reliable? =
      rewound.delivery.unhanded := by
    rw [List.filterMap_map]
    exact List.filterMap_some
  have hands : Hands pushed line.id rewound.delivery.acked session rewound.flush
      ((rewound.delivery.unhanded.map Packet.reliable).filterMap Packet.reliable?) := by
    rw [rewinds] at stream
    refine serves.hands stream ?_ unreliable (fun _ => keeps.counted)
    intro target
    rw [flush_eq _ keeps.inOrder]
    simp only [current, Option.toList_some, List.flatMap_cons, List.flatMap_nil,
      List.append_nil, packetsOn_append, packetsOn_map_send, sent, List.append_assoc]
    by_cases same : line.id = target <;> simp [same]
  rw [reliable, ← whole] at hands
  refine ⟨hands, ?_⟩
  rw [flush_eq _ keeps.inOrder]
  exact current

/-- A step that binds a line hands it what follows the ack of its peer. -/
theorem Greets.hands {line : Line} {start : Nat} {response : List (Packet P)}
    {pending : Option Line} {index : UInt32} (books : Books pushed session)
    (greets : Greets session input line start response pending index) :
    ∃ packets, Hands pushed line.id start session (session.step input) packets ∧
      ((session.step input).current.isSome →
        (session.step input).current = some line ∧
          packets = (session.step input).delivery.buffer) := by
  have serves : Serves session (session.step input) := serves_step input
  obtain ⟨opened, opens, ⟨connecting, rfl, flushes⟩ | ⟨ack, checked, rfl, heardIt, resyncs⟩⟩ :=
    greets.opens
  · rw [flushes] at serves ⊢
    have keeps : opened.delivery.Keeps pushed := opens.delivery ▸ books.keeps
    have rewinds : opened.delivery.lastSendIdOfLine = 0 := by
      rw [opens.delivery]
      exact books.untouched connecting
    have acked : opened.delivery.acked = 0 := by
      have bound := keeps.inOrder.acked_le_line
      rw [rewinds] at bound
      exact Nat.le_zero.mp bound
    obtain ⟨hands, bound⟩ := hands_buffer serves keeps opens.current
      (by rw [rewinds, acked]; rfl) opens.sent greets.unreliable
    rw [acked] at hands
    exact ⟨_, hands, fun _ => ⟨bound, rfl⟩⟩
  · have running : opened.phase ≠ .closed := by simp [opens.phase]
    rcases resync_cases running ack with ⟨closing, _, handsOver⟩ | ⟨closing, _, ends⟩
    · rw [resyncs, handsOver] at serves ⊢
      obtain ⟨lower, upper⟩ := (books.keeps.inOrder.checkResync_eq_ok_iff ack).mp checked
      rw [← opens.delivery] at lower upper
      have keeps : opened.delivery.Keeps pushed := opens.delivery ▸ books.keeps
      have acked : (opened.delivery.removeAcked ack).1.acked = ack.toNat :=
        acked_resync keeps lower (by rw [← keeps.counted]; exact upper)
      have rewound := keeps.rewindLine_removeAcked lower upper
      obtain ⟨hands, bound⟩ := hands_buffer serves rewound opens.current acked.symm opens.sent
        greets.unreliable
      exact ⟨_, acked ▸ hands, fun _ => ⟨bound, rfl⟩⟩
    · -- The ack was the last thing that a lingering session waited for: nothing is sent.
      rw [resyncs, ends] at serves ⊢
      have unbound : (endGracefully { opened with delivery := (opened.delivery.removeAcked ack).1 }
          closing).current = none := by
        rw [endGracefully_eq, terminate_eq]
      have stream : Stream pushed 0 ack.toNat ack.toNat ([] : List (Packet P)) := .nil _
      refine ⟨_, serves.hands stream ?_ greets.unreliable (by simp [unbound]), by simp [unbound]⟩
      intro target
      simp [endGracefully_eq, terminate_eq, opens.sent]

theorem hands_step (books : Books pushed session) (guarded : session.Guarded)
    (room : pushed.length + session.assignedBy input < UInt32.size) {line : Line}
    (current : session.current = some line) (unbinding : session.binding? input = none) :
    ∃ packets, Hands (pushed ++ session.pushedBy input) line.id pushed.length session
        (session.step input) packets ∧
      ((session.step input).current = some line ∨ (session.step input).current = none) := by
  obtain ⟨fresh, taken, course⟩ := course_step books guarded input room
  rw [(course.accounts books).pushedBy_eq books]
  obtain ⟨⟨packets, finish, stream, sent, reached⟩, stays⟩ := course.continues unbinding
  rw [current] at sent stays
  refine ⟨_, (serves_step input).hands stream ?_ List.filterMap_nil reached, stays⟩
  intro target
  simpa using sent target

theorem silent_step (books : Books pushed session) (guarded : session.Guarded)
    (room : pushed.length + session.assignedBy input < UInt32.size)
    (current : session.current = none) (unbinding : session.binding? input = none) :
    session.handedBy input = [] ∧ (session.step input).current = none := by
  obtain ⟨fresh, taken, course⟩ := course_step books guarded input room
  obtain ⟨⟨packets, finish, stream, sent, reached⟩, stays⟩ := course.continues unbinding
  rw [current] at sent stays
  refine ⟨?_, stays.elim id id⟩
  have none (target : LineId) : packetsOn target
      ((session.step input).actions.drop session.actions.length) =
        if (⟨0⟩ : LineId) = target then [] else [] := by
    rw [(serves_step input).packets (sent target)]
    simp
  exact reliablesIn_eq none

end

end Session

end ResumableSession
