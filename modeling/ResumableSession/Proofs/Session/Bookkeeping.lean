import ResumableSession.Proofs.Session.Accounts

/-!
# Bookkeeping never breaks

The books of a session are kept through every run of inputs, whatever its peer,
its lines and its owner do, until ids wrap.
-/

namespace ResumableSession

namespace Session

variable {P : Type}

/-- A session of either role that nothing has happened to. -/
inductive Starts : Session P → Prop where
  | initiator (settings : SessionSettings) (limits : RebindLimits) (creating : Line) :
      Starts (initiator settings limits creating)
  | responder (sessionId : UInt32) (settings : SessionSettings) :
      Starts (responder sessionId settings)

/-- How many ids a run gives out. -/
def assigned (session : Session P) : List (Input P) → Nat
  | [] => 0
  | input :: inputs => session.assignedBy input + (session.step input).assigned inputs

/-- The send buffer and the counters agree: the buffer holds the ids up to the last
one given out, the bound line was handed a part of them that reaches at least up
to the buffer, and all of them while it is bound. -/
structure Balanced (session : Session P) : Prop where
  buffered_le : session.delivery.buffer.length ≤ session.delivery.lastSendId.toNat
  ids : session.delivery.buffer.map (·.id.toNat) =
    List.range'
      (session.delivery.lastSendId.toNat - session.delivery.buffer.length + 1)
      session.delivery.buffer.length
  acked_le_line :
    session.delivery.lastSendId.toNat - session.delivery.buffer.length ≤
      session.delivery.lastSendIdOfLine.toNat
  line_le_last :
    session.delivery.lastSendIdOfLine.toNat ≤ session.delivery.lastSendId.toNat
  inStep : session.current.isSome →
    session.delivery.lastSendIdOfLine = session.delivery.lastSendId
  flushes : ∃ handed, session.delivery.flush = .ok handed

theorem Starts.books {session : Session P} (starts : session.Starts) : Books [] session := by
  cases starts <;>
    exact
      { keeps := ⟨Delivery.inOrder_empty, rfl, rfl⟩
        inStep := fun _ => rfl
        lingering := fun _ => rfl
        untouched := fun _ => rfl
        connected := by simp [Session.initiator, Session.responder] }

theorem Starts.guarded {session : Session P} (starts : session.Starts) : session.Guarded := by
  cases starts <;> exact .inl rfl

theorem Starts.outputs {session : Session P} (starts : session.Starts) :
    session.outputs = [] := by
  cases starts <;> rfl

private theorem Books.balanced {pushed : List (ReliableBody P)} {session : Session P}
    (books : Books pushed session) : session.Balanced where
  buffered_le := books.keeps.inOrder.buffered_le
  ids := books.keeps.inOrder.ids
  acked_le_line := books.keeps.inOrder.acked_le_line
  line_le_last := books.keeps.inOrder.line_le_last
  inStep := books.inStep
  flushes := ⟨_, books.keeps.inOrder.flush_eq⟩

theorem Accounts.length_fresh {input : Input P} {pushed fresh taken : List (ReliableBody P)}
    {session : Session P} (books : Books pushed session)
    (accounts : Accounts input pushed fresh taken session (session.step input)) :
    fresh.length = session.assignedBy input := by
  have before := books.keeps.counted
  have after := accounts.books.keeps.counted
  rw [List.length_append] at after
  have grows : session.delivery.lastSendId ≤ (session.step input).delivery.lastSendId := by
    rw [UInt32.le_iff_toNat_le]
    omega
  rw [assignedBy, UInt32.toNat_sub_of_le _ _ grows]
  omega

/-- What a run keeps of the books, and why it may end the session over them. -/
theorem books_run (inputs : List (Input P)) :
    ∀ {pushed : List (ReliableBody P)} {session : Session P}, Books pushed session →
      session.Guarded → pushed.length + session.assigned inputs < UInt32.size →
      (∃ pushed', Books pushed' (session.run inputs)) ∧
        (.closed .bookkeeping ∈ (session.run inputs).outputs →
          .closed .bookkeeping ∈ session.outputs ∨ .closeImmediately .bookkeeping ∈ inputs) := by
  induction inputs with
  | nil => exact fun books _ _ => ⟨⟨_, books⟩, .inl⟩
  | cons input inputs induction =>
      intro pushed session books guarded room
      rw [assigned] at room
      obtain ⟨fresh, taken, accounts⟩ := accounts_step books guarded input (by omega)
      have given := accounts.length_fresh books
      obtain ⟨kept, ends⟩ := induction accounts.books (accounts.turn.guarded guarded)
        (by rw [List.length_append]; omega)
      refine ⟨kept, fun ended => ?_⟩
      rcases ends ended with earlier | later
      · rcases accounts.ends .bookkeeping earlier with before | forced | impossible
        · exact .inl before
        · exact .inr (forced ▸ List.mem_cons_self)
        · exact impossible.elim
      · exact .inr (List.mem_cons_of_mem _ later)

/-- Whatever happens to a session, its send buffer and its counters agree as long
as ids do not wrap, and it never ends over them of its own accord. -/
theorem run_balanced {start : Session P} (starts : start.Starts) (inputs : List (Input P))
    (fits : start.assigned inputs < UInt32.size) :
    (start.run inputs).Balanced ∧
      (.closed .bookkeeping ∈ (start.run inputs).outputs →
        .closeImmediately .bookkeeping ∈ inputs) := by
  obtain ⟨⟨pushed, books⟩, ends⟩ := books_run inputs starts.books starts.guarded
    (by simpa using fits)
  refine ⟨books.balanced, fun ended => ?_⟩
  rcases ends ended with before | forced
  · simp [starts.outputs] at before
  · exact forced

/-- A session whose peer acknowledges ids that were never given out and reports
whatever it likes on new lines. -/
def harassed : List (Input Nat) :=
  [.send 1, .lineCreated ⟨0⟩ 7, .packet ⟨0⟩ (.ack 99) 0, .send 2, .lineClosed ⟨0⟩, .send 3,
    .bindPending ⟨⟨1⟩, 5⟩, .lineRebound ⟨1⟩ 2, .packet ⟨1⟩ (.reliable ⟨1, 77, .fin⟩) 0]

theorem harassed_balanced :
    (initiator {} {} ⟨⟨0⟩, 0⟩).assigned harassed < UInt32.size ∧
      ((initiator {} {} ⟨⟨0⟩, 0⟩).run harassed).Balanced :=
  have fits : (initiator {} {} ⟨⟨0⟩, 0⟩).assigned harassed < UInt32.size := by decide +kernel
  ⟨fits, (run_balanced (.initiator {} {} ⟨⟨0⟩, 0⟩) harassed fits).1⟩

end Session

end ResumableSession
