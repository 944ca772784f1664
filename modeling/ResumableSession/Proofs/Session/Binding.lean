import ResumableSession.Proofs.Session.Reception

/-!
# Binding a line

An input that reports a handshake either changes little, or it binds the line:
the line is opened, with a response on the accepting side, and is then handed
what its peer does not have.
-/

namespace ResumableSession

namespace Session

variable {P : Type}

/-- A line was opened and nothing else was done yet; `pending` and `index` are
the line still shaking hands and the index of the last line from now on. -/
structure Opens (line : Line) (response : List (Packet P)) (pending : Option Line)
    (index : UInt32) (before opened : Session P) : Prop where
  current : opened.current = some line
  phase : opened.phase = .connected
  pending : opened.pending = pending
  index : opened.lastLineIndex = index
  delivery : opened.delivery = before.delivery
  closing : opened.closing = before.closing
  limits : opened.liveness.rebindLimits = before.liveness.rebindLimits
  resting : opened.liveness.rebind = .stopped ∧ opened.liveness.cooltime = .stopped
  delivered : deliveredIn opened.outputs = deliveredIn before.outputs
  dials : dialedIn opened.outputs = dialedIn before.outputs
  prefixed : before.outputs <+: opened.outputs
  ends : ∀ reason, .closed reason ∈ opened.outputs → .closed reason ∈ before.outputs
  sent : ∀ target, packetsOn target opened.actions =
    packetsOn target before.actions ++ if line.id = target then response else []

/-- A line was opened whose peer has `start` bodies of the history, and was
handed the rest. -/
def Binds (heard : Nat) (pushed : List (ReliableBody P)) (line : Line) (start : Nat)
    (response : List (Packet P)) (pending : Option Line) (index : UInt32)
    (before after : Session P) : Prop :=
  ∃ opened, Opens line response pending index before opened ∧
    Elapses heard (pushed.take start) pushed opened after

variable {heard : Nat} {pushed : List (ReliableBody P)} {session : Session P} {input : Input P}

private theorem advances_discard (books : Books pushed session) (line : Option Line) :
    Advances heard [] pushed pushed session (session.discard line) := by
  rw [discard_eq]
  exact Advances.still books { Frame.refl session with } rfl (fun timeWait => .inl timeWait)
    (fun target => by simp)

theorem moves_discard {line : Option Line} (books : Books pushed session)
    (silent : session.accepts input = []) :
    Moves input pushed [] [] session (session.discard line) := by
  refine moves_quiet (advances_discard books line) ?_ ?_ silent
  · rw [discard_eq]
    exact ⟨rfl, rfl, id⟩
  · rw [discard_eq]

private theorem advances_giveUp (books : Books pushed session) (line : Option Line) :
    Advances heard [] pushed pushed session
      (discard { session with pending := none } line) := by
  have forgotten : Advances heard [] pushed pushed session { session with pending := none } :=
    advances_forget books
  exact forgotten.trans (advances_discard forgotten.books line)

theorem moves_giveUp {line : Option Line} (books : Books pushed session)
    (silent : session.accepts input = []) :
    Moves input pushed [] [] session (discard { session with pending := none } line) := by
  refine moves_quiet (advances_giveUp books line) ?_ ?_ silent
  · rw [discard_eq]
    exact ⟨rfl, rfl, id⟩
  · rw [discard_eq]

section

variable {opened : Session P} {line : Line} {response : List (Packet P)}
  {pending : Option Line} {index : UInt32}

/-- The line that creates the session is handed the whole history. -/
theorem Opens.created (opens : Opens line response pending index session opened)
    (books : Books pushed session) (connecting : session.phase = .connecting) :
    Binds heard pushed line 0 response pending index session opened.flush := by
  refine ⟨opened, opens, ?_⟩
  apply elapses_flush
  · rw [opens.delivery]
    exact books.keeps
  · exact opens.phase
  · exact opens.current
  · rw [opens.delivery, books.untouched connecting]
    rfl

/-- A rebound line is handed what follows the ack that it was checked with. -/
theorem Opens.rebound (opens : Opens line response pending index session opened)
    (books : Books pushed session) {ack : UInt32} (heardIt : ack.toNat ≤ heard)
    (checked : session.delivery.checkResync ack = .ok ()) :
    Binds heard pushed line ack.toNat response pending index session (opened.resync ack) := by
  obtain ⟨lower, upper⟩ := (books.keeps.inOrder.checkResync_eq_ok_iff ack).mp checked
  rw [books.keeps.counted] at upper
  refine ⟨opened, opens, ?_⟩
  apply elapses_resync
  · rw [opens.delivery]
    exact books.keeps
  · exact opens.phase
  · exact opens.current
  · rw [opens.closing, opens.delivery]
    exact books.lingering
  · exact heardIt
  · rw [opens.delivery]
    exact lower
  · exact upper

end

/-! A handshake that passes no check ends the session. -/

theorem moves_unresumable (books : Books pushed session) {line : Line} {serverAck : UInt32}
    {cause : SessionError} (shaking : session.pending = some line)
    (connected : session.phase = .connected)
    (refused : session.delivery.checkResync serverAck = .error cause) :
    Moves (.lineRebound line.id serverAck) pushed [] [] session
      (terminate (discard { session with pending := none } (some line)) .resyncRejected) := by
  refine moves_terminate (advances_giveUp books (some line)) (.inr fun trusts => ?_) ?_ ?_ rfl
  · have passed := trusts connected (by rw [shaking]; rfl)
    simp [refused] at passed
  · rw [discard_eq]
    exact ⟨rfl, rfl, id⟩
  · rw [discard_eq]

theorem moves_rejected (books : Books pushed session) {line : Line} {clientAck : UInt32}
    {cause : SessionError} (connected : session.phase = .connected)
    (current : ¬line.index < session.lastLineIndex)
    (refused : session.delivery.checkResync clientAck = .error cause) :
    Moves (.attachRebind line clientAck) pushed [] [] session
      (terminate (session.discard (some line)) .resyncRejected) := by
  refine moves_terminate (advances_discard books (some line)) (.inr fun trusts => ?_) ?_ ?_ rfl
  · have passed := trusts connected current
    simp [refused] at passed
  · rw [discard_eq]
    exact ⟨rfl, rfl, id⟩
  · rw [discard_eq]

end Session

end ResumableSession
