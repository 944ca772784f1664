import ResumableSession.Proofs.Session.Binding

/-!
# The course of a step

A step binds a line, starts a rebind attempt, takes a dialed line as the pending
one, or does none of these.  Everything that is to hold across any step is proved
for these courses and not for each input.
-/

namespace ResumableSession

namespace Session

variable {P : Type}

/-- Closing has begun only if the local Fin was sent. -/
def Guarded (session : Session P) : Prop :=
  session.closing.state = .active ∨ session.closing.finSent

theorem Guarded.not_timeWait {session : Session P} (guarded : session.Guarded)
    (unfinished : session.closing.finSent = false) : session.closing.state ≠ .timeWait := by
  rcases guarded with active | finSent
  · simp [active]
  · simp [unfinished] at finSent

/-- A handshake that a session binds its line for: whose peer has how much of the
history, what is answered, and which line is pending and which index is the last
one from then on. -/
inductive Greets (before : Session P) :
    Input P → Line → Nat → List (Packet P) → Option Line → UInt32 → Prop where
  | created {line : Line} {sessionId : UInt32} (shaking : before.pending = some line)
      (connecting : before.phase = .connecting) :
      Greets before (.lineCreated line.id sessionId) line 0 [] none before.lastLineIndex
  | rebound {line : Line} {serverAck : UInt32} (shaking : before.pending = some line)
      (connected : before.phase = .connected)
      (checked : before.delivery.checkResync serverAck = .ok ()) :
      Greets before (.lineRebound line.id serverAck) line serverAck.toNat [] none
        before.lastLineIndex
  | attachCreated {line : Line} (connecting : before.phase = .connecting) :
      Greets before (.attachCreated line) line 0 [.createResponse before.sessionId]
        before.pending line.index
  | attachRebind {line : Line} {clientAck : UInt32} (connected : before.phase = .connected)
      (current : ¬line.index < before.lastLineIndex)
      (checked : before.delivery.checkResync clientAck = .ok ()) :
      Greets before (.attachRebind line clientAck) line clientAck.toNat
        [.rebindResponse before.delivery.lastRecvId] before.pending line.index

/-- What a step did, with the bodies that it pushed and took in. -/
inductive Course (pushed : List (ReliableBody P)) (before : Session P) :
    Input P → List (ReliableBody P) → List (ReliableBody P) → Session P → Prop where
  | moves {input : Input P} {fresh taken : List (ReliableBody P)} {after : Session P}
      (moves : Moves input pushed fresh taken before after) :
      Course pushed before input fresh taken after
  | binds {input : Input P} {line : Line} {start : Nat} {response : List (Packet P)}
      {pending : Option Line} {index : UInt32} {after : Session P}
      (greets : Greets before input line start response pending index)
      (binds : Binds input.ack pushed line start response pending index before after) :
      Course pushed before input [] [] after
  | rebinds {time : Duration} {clock : UInt32} (running : before.phase ≠ .closed)
      (due : (before.liveness.tick time).2 = [.rebindDue]) :
      Course pushed before (.update time clock) [] [] (before.update time clock)
  | dials {line : Line} : Course pushed before (.bindPending line) [] [] (before.bindPending line)

variable {pushed : List (ReliableBody P)} {session : Session P}

theorem Greets.running {input : Input P} {line : Line} {start : Nat}
    {response : List (Packet P)} {pending : Option Line} {index : UInt32}
    (greets : Greets session input line start response pending index) :
    session.phase ≠ .closed := by
  cases greets <;> simp_all

theorem step_rebound {line : Line} {serverAck : UInt32} (shaking : session.pending = some line)
    (connected : session.phase = .connected)
    (checked : session.delivery.checkResync serverAck = .ok ()) :
    session.step (.lineRebound line.id serverAck) =
      resync (bindCurrent { session with pending := none } line) serverAck := by
  simp only [step, onLineRebound, shaking, checked]
  rw [if_neg (by simp), if_neg (by simp [connected])]

theorem step_attachRebind {line : Line} {clientAck : UInt32} (connected : session.phase = .connected)
    (current : ¬line.index < session.lastLineIndex)
    (checked : session.delivery.checkResync clientAck = .ok ()) :
    session.step (.attachRebind line clientAck) =
      resync
        (bindCurrent
          { session.act (.send line.id (.rebindResponse session.delivery.lastRecvId)) with
            lastLineIndex := line.index }
          line)
        clientAck := by
  simp only [step, Session.attachRebind, checked]
  rw [if_neg (by simp [connected]), if_neg current]

/-- What a usable handshake does: its line is opened, and is then handed the whole
history or what follows the ack that it was checked with. -/
theorem Greets.opens {input : Input P} {line : Line} {start : Nat}
    {response : List (Packet P)} {pending : Option Line} {index : UInt32}
    (greets : Greets session input line start response pending index) :
    ∃ opened, Opens line response pending index session opened ∧
      (session.phase = .connecting ∧ start = 0 ∧ session.step input = opened.flush ∨
        ∃ ack, session.delivery.checkResync ack = .ok () ∧ start = ack.toNat ∧
          ack.toNat ≤ input.ack ∧ session.step input = opened.resync ack) := by
  cases greets with
  | @created line sessionId shaking connecting =>
      have flushes : session.step (.lineCreated line.id sessionId) =
          flush (emit
            { bindCurrent { session with pending := none, sessionId } line with
              phase := .connected }
            (.connected sessionId)) := by
        simp only [step, onLineCreated, shaking]
        rw [if_neg (by simp), if_neg (by simp [connecting])]
      refine ⟨_, ?_, .inl ⟨connecting, rfl, flushes⟩⟩
      rw [bindCurrent_eq]
      exact
        { current := rfl
          phase := rfl
          pending := rfl
          index := rfl
          delivery := rfl
          closing := rfl
          limits := rfl
          resting := ⟨rfl, rfl⟩
          delivered := by simp [emit, deliveredIn]
          dials := by simp [emit, dialedIn]
          prefixed := List.prefix_append _ _
          ends := by simp [emit]
          sent := fun target => by simp [emit] }
  | @rebound line serverAck shaking connected checked =>
      refine ⟨_, ?_, .inr ⟨serverAck, checked, rfl, Nat.le_refl _,
        step_rebound shaking connected checked⟩⟩
      rw [bindCurrent_eq]
      exact
        { current := rfl
          phase := connected
          pending := rfl
          index := rfl
          delivery := rfl
          closing := rfl
          limits := rfl
          resting := ⟨rfl, rfl⟩
          delivered := rfl
          dials := rfl
          prefixed := List.prefix_refl _
          ends := fun _ => id
          sent := fun target => by simp }
  | @attachCreated line connecting =>
      have flushes : session.step (.attachCreated line) =
          flush (emit
            { bindCurrent
                { session.act (.send line.id (.createResponse session.sessionId)) with
                  lastLineIndex := line.index }
                line with
              phase := .connected }
            (.connected session.sessionId)) := by
        simp only [step, Session.attachCreated]
        rw [if_neg (by simp [connecting])]
      refine ⟨_, ?_, .inl ⟨connecting, rfl, flushes⟩⟩
      rw [bindCurrent_eq]
      exact
        { current := rfl
          phase := rfl
          pending := rfl
          index := rfl
          delivery := rfl
          closing := rfl
          limits := rfl
          resting := ⟨rfl, rfl⟩
          delivered := by simp [emit, act, deliveredIn]
          dials := by simp [emit, act, dialedIn]
          prefixed := List.prefix_append _ _
          ends := by simp [emit, act]
          sent := fun target => by simp [emit, act, packetsOn_send] }
  | @attachRebind line clientAck connected current checked =>
      refine ⟨_, ?_, .inr ⟨clientAck, checked, rfl, Nat.le_refl _,
        step_attachRebind connected current checked⟩⟩
      rw [bindCurrent_eq]
      exact
        { current := rfl
          phase := connected
          pending := rfl
          index := rfl
          delivery := rfl
          closing := rfl
          limits := rfl
          resting := ⟨rfl, rfl⟩
          delivered := rfl
          dials := rfl
          prefixed := List.prefix_refl _
          ends := fun _ => id
          sent := fun target => by simp [act, packetsOn_send] }

theorem Greets.binds {input : Input P} {line : Line} {start : Nat}
    {response : List (Packet P)} {pending : Option Line} {index : UInt32}
    (books : Books pushed session)
    (greets : Greets session input line start response pending index) :
    Binds input.ack pushed line start response pending index session (session.step input) := by
  obtain ⟨opened, opens, ⟨connecting, rfl, flushes⟩ | ⟨ack, checked, rfl, heardIt, resyncs⟩⟩ :=
    greets.opens
  · rw [flushes]
    exact opens.created books connecting
  · rw [resyncs]
    exact opens.rebound books heardIt checked

private theorem course_update (books : Books pushed session) (running : session.phase ≠ .closed)
    (time : Duration) (clock : UInt32) :
    Course pushed session (.update time clock) [] [] (session.update time clock) := by
  by_cases undialed : .rebindDue ∉ (session.liveness.tick time).2
  · exact .moves (moves_update books time clock undialed)
  · obtain ⟨_, ⟨due, _⟩ | ⟨idle, _⟩⟩ := session.liveness.tick_cases time
    · exact .rebinds running due
    · exact absurd idle undialed

/-- Every step takes one of the courses. -/
theorem course_step (books : Books pushed session) (guarded : session.Guarded)
    (input : Input P) (room : pushed.length + session.assignedBy input < UInt32.size) :
    ∃ fresh taken, Course pushed session input fresh taken (session.step input) := by
  have outcome := session.outcome_step input
  rw [assignedBy] at room
  generalize stepped : session.step input = after at outcome room ⊢
  have forgotten : Advances input.ack [] pushed pushed session { session with pending := none } :=
    advances_forget books
  cases outcome with
  | unchanged unoffered silent => exact ⟨[], [], .moves (moves_still books silent)⟩
  | pushed running unsent =>
      exact ⟨_, [], .moves (moves_pushed books (fun finSent => guarded.not_timeWait finSent)
        running unsent room)⟩
  | aborted connecting =>
      exact ⟨[], [], .moves (moves_terminate (.refl books) (.inr trivial) (.refl session) rfl rfl)⟩
  | closes connected =>
      obtain ⟨fresh, moves⟩ := moves_closes books connected room
      exact ⟨fresh, [], .moves moves⟩
  | ended running =>
      exact ⟨[], [], .moves (moves_terminate (.refl books) (.inl rfl) (.refl session) rfl rfl)⟩
  | elapsed running => exact ⟨[], [], course_update books running _ _⟩
  | dialed running => exact ⟨[], [], stepped ▸ .dials⟩
  | turnedAway offered => exact ⟨[], [], .moves (moves_discard books (silent_of_offered offered))⟩
  | givenUp unoffered silent shaking => exact ⟨[], [], .moves (moves_giveUp books silent)⟩
  | @created line sessionId shaking connecting =>
      have greets : Greets session (.lineCreated line.id sessionId) line 0 [] none
          session.lastLineIndex := .created shaking connecting
      exact ⟨[], [], .binds greets (stepped ▸ greets.binds books)⟩
  | @accepted line connecting =>
      have greets : Greets session (.attachCreated line) line 0
          [.createResponse session.sessionId] session.pending line.index :=
        .attachCreated connecting
      exact ⟨[], [], .binds greets (stepped ▸ greets.binds books)⟩
  | rebound shaking connected checked =>
      have greets := Greets.rebound shaking connected checked
      exact ⟨[], [], .binds greets (stepped ▸ greets.binds books)⟩
  | resumed connected current checked =>
      have greets := Greets.attachRebind connected current checked
      exact ⟨[], [], .binds greets (stepped ▸ greets.binds books)⟩
  | unresumable shaking connected refused =>
      exact ⟨[], [], .moves (moves_unresumable books shaking connected refused)⟩
  | rejected connected current refused =>
      exact ⟨[], [], .moves (moves_rejected books connected current refused)⟩
  | unreachable shaking connecting =>
      exact ⟨[], [], .moves (moves_terminate forgotten (.inr trivial) ⟨rfl, rfl, id⟩ rfl rfl)⟩
  | failed shaking connected => exact ⟨[], [], .moves (moves_failed books shaking connected)⟩
  | lost bound running =>
      exact ⟨[], [], .moves (moves_quiet (advances_lineLost books (isSome_of_id bound))
        ⟨rfl, rfl, id⟩ rfl rfl)⟩
  | lostPending shaking isOver =>
      exact ⟨[], [], .moves (moves_quiet forgotten ⟨rfl, rfl, id⟩ rfl rfl)⟩
  | lostCurrent bound isOver =>
      have connected := books.connected (isSome_of_id bound)
      simp [connected] at isOver
  | heard running bound arrives =>
      obtain ⟨fresh, taken, moves⟩ := arrives.moves books running bound room
      exact ⟨fresh, taken, .moves moves⟩

end Session

end ResumableSession
