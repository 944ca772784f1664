import ResumableSession.Proofs.Session.Books

/-!
# How a session moves on

Apart from binding a line and starting a rebind attempt, everything that a
session does moves it on in the same way: the bound line stays or is given up,
what is sent continues the stream of the bound line, histories and outputs grow.
The relation is kept by every part of a step and composes, so that a step needs
no case of its own.
-/

namespace ResumableSession

namespace Session

variable {P : Type}

/-- While a line is bound or the session is being created, no rebind attempt
is due. -/
def Idle (session : Session P) : Prop :=
  session.current.isSome ∨ session.phase = .connecting →
    session.liveness.rebind = .stopped ∧ session.liveness.cooltime = .stopped

/-- No line shakes hands while one is bound. -/
def Alone (session : Session P) : Prop :=
  session.current.isSome → session.pending = none

/-- What holds between a session and a later one in between which no line was
bound; `reasons` are the ends that it may have come to. -/
structure Frame (reasons : List CloseReason) (before after : Session P) : Prop where
  current : after.current = before.current ∨ after.current = none
  phase : after.phase = before.phase ∨ after.phase = .closed
  alive : after.current.isSome → after.phase = before.phase
  pending : after.pending = before.pending ∨ after.pending = none
  index : after.lastLineIndex = before.lastLineIndex
  limits : after.liveness.rebindLimits = before.liveness.rebindLimits
  outputs : before.outputs <+: after.outputs
  dials : dialedIn after.outputs = dialedIn before.outputs
  ends : ∀ reason, .closed reason ∈ after.outputs →
    .closed reason ∈ before.outputs ∨ reason ∈ reasons
  idle : before.Alone → before.Idle → after.Idle

namespace Frame

variable {reasons : List CloseReason} {first second third : Session P}

theorem refl (session : Session P) : Frame reasons session session :=
  { current := .inl rfl
    phase := .inl rfl
    alive := fun _ => rfl
    pending := .inl rfl
    index := rfl
    limits := rfl
    outputs := List.prefix_refl _
    dials := rfl
    ends := fun _ member => .inl member
    idle := fun _ => id }

theorem alone (frame : Frame reasons first second) (alone : first.Alone) : second.Alone := by
  intro bound
  have wasBound : first.current.isSome := by
    rcases frame.current with same | none
    · exact same ▸ bound
    · simp [none] at bound
  rcases frame.pending with same | none
  · rw [same]
    exact alone wasBound
  · exact none

theorem trans (earlier : Frame reasons first second) (later : Frame reasons second third) :
    Frame reasons first third where
  current := by
    rcases later.current with same | none
    · rw [same]
      exact earlier.current
    · exact .inr none
  phase := by
    rcases later.phase with same | closed
    · rw [same]
      exact earlier.phase
    · exact .inr closed
  alive := by
    intro bound
    rcases later.current with same | none
    · exact (later.alive bound).trans (earlier.alive (same ▸ bound))
    · simp [none] at bound
  pending := by
    rcases later.pending with same | none
    · rw [same]
      exact earlier.pending
    · exact .inr none
  index := later.index.trans earlier.index
  limits := later.limits.trans earlier.limits
  outputs := earlier.outputs.trans later.outputs
  dials := later.dials.trans earlier.dials
  ends := by
    intro reason member
    rcases later.ends reason member with before | new
    · exact earlier.ends reason before
    · exact .inr new
  idle := fun alone resting => later.idle (earlier.alone alone) (earlier.idle alone resting)

theorem mono {reasons' : List CloseReason} (frame : Frame reasons first second)
    (wider : reasons ⊆ reasons') : Frame reasons' first second :=
  { frame with
    ends := fun reason member => (frame.ends reason member).imp_right (wider ·) }

end Frame

/-- What was sent in between continues the stream of the bound line, and keeps
up with the history as long as the line stays bound. -/
def Continues (pushed pushed' : List (ReliableBody P)) (before after : Session P) : Prop :=
  ∃ packets finish,
    Stream pushed' after.delivery.lastRecvId.toNat pushed.length finish packets ∧
    (∀ line, packetsOn line after.actions = packetsOn line before.actions ++
      if before.current.map (·.id) = some line then packets else []) ∧
    (after.current.isSome → finish = pushed'.length)

/-- A session moves on: its history grows from `pushed` to `pushed'`, and it has
heard of no ack above `heard`. -/
structure Advances (heard : Nat) (reasons : List CloseReason)
    (pushed pushed' : List (ReliableBody P)) (before after : Session P) : Prop
    extends Frame reasons before after where
  books : Books pushed' after
  grows : pushed <+: pushed'
  received : before.delivery.lastRecvId.toNat ≤ after.delivery.lastRecvId.toNat
  acked : before.delivery.acked ≤ after.delivery.acked
  acked_le : after.delivery.acked ≤ max before.delivery.acked heard
  unheard : before.current = none → after.delivery.acked = before.delivery.acked
  sends : Continues pushed pushed' before after

namespace Advances

variable {heard : Nat} {reasons : List CloseReason}
  {pushed pushed' pushed'' : List (ReliableBody P)} {first second third : Session P}

theorem trans (earlier : Advances heard reasons pushed pushed' first second)
    (later : Advances heard reasons pushed' pushed'' second third) :
    Advances heard reasons pushed pushed'' first third where
  toFrame := earlier.toFrame.trans later.toFrame
  books := later.books
  grows := earlier.grows.trans later.grows
  received := Nat.le_trans earlier.received later.received
  acked := Nat.le_trans earlier.acked later.acked
  acked_le := by
    have earlierBound := earlier.acked_le
    have laterBound := later.acked_le
    omega
  unheard := by
    intro unbound
    have stillUnbound : second.current = none := by
      rcases earlier.current with same | none
      · rw [same, unbound]
      · exact none
    rw [later.unheard stillUnbound, earlier.unheard unbound]
  sends := by
    obtain ⟨packets, middle, stream, sent, reached⟩ := earlier.sends
    obtain ⟨packets', finish, stream', sent', reached'⟩ := later.sends
    rcases earlier.current with same | none
    · cases bound : first.current with
      | none =>
          refine ⟨packets, middle, stream.mono later.grows later.received, ?_, ?_⟩
          · intro line
            simp [sent', sent, same, bound]
          · intro stillBound
            rcases later.current with same' | none'
            · simp [same', same, bound] at stillBound
            · simp [none'] at stillBound
      | some line =>
          have middleReached : middle = pushed'.length := reached (by simp [same, bound])
          subst middleReached
          refine ⟨packets ++ packets', finish,
            (stream.mono later.grows later.received).append stream', ?_, reached'⟩
          intro target
          rw [sent', sent, same, bound]
          by_cases onLine : some line.id = some target <;> simp [onLine]
    · refine ⟨packets, middle, stream.mono later.grows later.received, ?_, ?_⟩
      · intro line
        simp [sent', sent, none]
      · intro stillBound
        rcases later.current with same' | none'
        · simp [same', none] at stillBound
        · simp [none'] at stillBound

theorem mono {reasons' : List CloseReason} {heard' : Nat}
    (advances : Advances heard reasons pushed pushed' first second)
    (wider : reasons ⊆ reasons') (louder : heard ≤ heard') :
    Advances heard' reasons' pushed pushed' first second :=
  { advances with
    toFrame := advances.toFrame.mono wider
    acked_le := by
      have bound := advances.acked_le
      omega }

theorem still (books : Books pushed first) (frame : Frame reasons first second)
    (delivery : second.delivery = first.delivery)
    (lingering : second.closing.state = .timeWait →
      first.closing.state = .timeWait ∨ first.current.isSome)
    (silent : ∀ line, packetsOn line second.actions = packetsOn line first.actions) :
    Advances heard reasons pushed pushed first second where
  toFrame := frame
  books :=
    { keeps := delivery ▸ books.keeps
      inStep := by
        intro bound
        rcases frame.current with same | none
        · rw [delivery]
          exact books.inStep (same ▸ bound)
        · simp [none] at bound
      lingering := by
        intro timeWait
        rw [delivery]
        exact (lingering timeWait).elim books.lingering books.inStep
      untouched := by
        intro connecting
        rw [delivery]
        rcases frame.phase with same | closed
        · exact books.untouched (same ▸ connecting)
        · simp [closed] at connecting
      connected := by
        intro bound
        rw [frame.alive bound]
        rcases frame.current with same | none
        · exact books.connected (same ▸ bound)
        · simp [none] at bound }
  grows := List.prefix_refl _
  received := Nat.le_of_eq (by rw [delivery])
  acked := Nat.le_of_eq (by rw [delivery])
  acked_le := by
    rw [delivery]
    exact Nat.le_max_left _ _
  unheard := by
    intro _
    rw [delivery]
  sends := by
    refine ⟨[], pushed.length, .nil _, ?_, fun _ => rfl⟩
    intro line
    simp [silent]

theorem refl (books : Books pushed first) : Advances heard reasons pushed pushed first first :=
  still books (.refl first) rfl (fun timeWait => .inl timeWait) (fun _ => rfl)

end Advances

end Session

end ResumableSession
