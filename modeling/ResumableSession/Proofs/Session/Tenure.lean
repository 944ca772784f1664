import ResumableSession.Proofs.Session.Handing

/-!
# What each line is handed

A line is bound by a handshake and holds its place until the next one, or until it
is lost.  For this time, its tenure, it is handed the ids that follow the one up to
which its peer has everything, each once and in order, with the bodies that were
pushed under them.
-/

namespace ResumableSession

variable {P : Type}

namespace Session

/-- Collects what can be seen of each step of a run, given the session before it. -/
def gather {α : Type} (view : Session P → Input P → List α) (session : Session P) :
    List (Input P) → List α
  | [] => []
  | input :: inputs => view session input ++ (session.step input).gather view inputs

/-- The bodies that a run pushes; the one with id `n` is the `n`-th. -/
def history (session : Session P) (inputs : List (Input P)) : List (ReliableBody P) :=
  session.gather pushedBy inputs

/-- What happens to lines in a run. -/
inductive Record (P : Type) where
  /-- A line was bound whose peer has everything up to `origin`. -/
  | bound (line : LineId) (origin : UInt32)
  /-- A packet was sent on a line when `received` was the id received last. -/
  | handed (line : LineId) (packet : ReliablePacket P) (received : UInt32)
deriving DecidableEq

/-- What an input makes happen to lines. -/
def recordsBy (session : Session P) (input : Input P) : List (Record P) :=
  (session.binding? input).toList.map (fun (line, origin) => .bound line origin) ++
    (session.handedBy input).map fun (line, packet) =>
      .handed line packet (session.step input).delivery.lastRecvId

/-- What happens to lines in a run, oldest first. -/
def records (session : Session P) (inputs : List (Input P)) : List (Record P) :=
  session.gather recordsBy inputs

end Session

/-- The time from the binding of a line to that of the next one. -/
structure Tenure (P : Type) where
  line : LineId
  /-- The id up to which the peer had everything when the line was bound. -/
  origin : UInt32
  /-- What was sent on the line, each packet with the id that was received last. -/
  handed : List (ReliablePacket P × UInt32)

namespace Tenure

/-- The tenure as it happened. -/
def records (tenure : Tenure P) : List (Session.Record P) :=
  .bound tenure.line tenure.origin ::
    tenure.handed.map fun (packet, received) => .handed tenure.line packet received

/-- The packets of the tenure, each with the line. -/
def sent (tenure : Tenure P) : List (LineId × ReliablePacket P) :=
  tenure.handed.map fun (packet, _) => (tenure.line, packet)

/-- The tenure after more packets were sent. -/
def extend (tenure : Tenure P) (packets : List (ReliablePacket P)) (received : UInt32) :
    Tenure P :=
  { tenure with handed := tenure.handed ++ packets.map fun packet => (packet, received) }

@[simp] theorem records_extend (tenure : Tenure P) (packets : List (ReliablePacket P))
    (received : UInt32) :
    (tenure.extend packets received).records =
      tenure.records ++ packets.map fun packet => .handed tenure.line packet received := by
  simp [records, extend]

@[simp] theorem sent_extend (tenure : Tenure P) (packets : List (ReliablePacket P))
    (received : UInt32) :
    (tenure.extend packets received).sent = tenure.sent ++ packets.map (Prod.mk tenure.line) := by
  simp [sent, extend]

@[simp] theorem length_extend (tenure : Tenure P) (packets : List (ReliablePacket P))
    (received : UInt32) :
    (tenure.extend packets received).handed.length = tenure.handed.length + packets.length := by
  simp [extend]

/-- The packets have the ids behind the origin, without a gap, and carry the bodies
of the history and the id that was received last. -/
structure Faithful (history : List (ReliableBody P)) (tenure : Tenure P) : Prop where
  ids : tenure.handed.map (·.1.id.toNat) =
    List.range' (tenure.origin.toNat + 1) tenure.handed.length
  bodies : ∀ handed ∈ tenure.handed, history[handed.1.id.toNat - 1]? = some handed.1.body
  acks : ∀ handed ∈ tenure.handed, handed.1.ack = handed.2

theorem Faithful.mono {history history' : List (ReliableBody P)} {tenure : Tenure P}
    (faithful : tenure.Faithful history) (grows : history <+: history') :
    tenure.Faithful history' where
  ids := faithful.ids
  bodies := by
    intro handed member
    have body := faithful.bodies handed member
    obtain ⟨inside, _⟩ := List.getElem?_eq_some_iff.mp body
    obtain ⟨later, rfl⟩ := grows
    rw [List.getElem?_append_left inside, body]
  acks := faithful.acks

end Tenure

namespace Session

section

variable {pushed : List (ReliableBody P)} {session after : Session P} {input : Input P}

/-- A tenure goes on with the packets behind those it has. -/
theorem Hands.extend {history : List (ReliableBody P)} {tenure : Tenure P}
    {packets : List (ReliablePacket P)}
    (hands : Hands history tenure.line (tenure.origin.toNat + tenure.handed.length) session after
      packets)
    (faithful : tenure.Faithful history) :
    (tenure.extend packets after.delivery.lastRecvId).Faithful history := by
  constructor
  · have joined : tenure.origin.toNat + tenure.handed.length + 1 =
        tenure.origin.toNat + 1 + tenure.handed.length := by omega
    have later := hands.ids
    rw [joined] at later
    simp only [Tenure.extend, List.map_append, List.map_map, Function.comp_def,
      List.length_append, List.length_map, faithful.ids, later, List.range'_append_1]
  · intro handed member
    rcases List.mem_append.mp member with old | new
    · exact faithful.bodies handed old
    · obtain ⟨packet, among, rfl⟩ := List.mem_map.mp new
      exact hands.bodies packet among
  · intro handed member
    rcases List.mem_append.mp member with old | new
    · exact faithful.acks handed old
    · obtain ⟨packet, among, rfl⟩ := List.mem_map.mp new
      exact hands.acks packet among

private theorem Hands.recordsBy_eq {line : LineId} {start : Nat} {packets : List (ReliablePacket P)}
    (hands : Hands pushed line start session (session.step input) packets) :
    session.recordsBy input =
      (session.binding? input).toList.map (fun (line, origin) => .bound line origin) ++
        packets.map fun packet => .handed line packet (session.step input).delivery.lastRecvId := by
  rw [recordsBy, handedBy, hands.sent, List.map_map]
  rfl

end

/-- The tenures are what has happened to lines, and the last of them is that of the
line that is bound, which was handed everything. -/
structure Tenured (history : List (ReliableBody P)) (records : List (Record P))
    (session : Session P) (tenures : List (Tenure P)) : Prop where
  records : records = tenures.flatMap Tenure.records
  sent : reliablesIn session.actions = tenures.flatMap Tenure.sent
  counted : history.length = session.delivery.lastSendId.toNat
  faithful : ∀ tenure ∈ tenures, tenure.Faithful history
  reached : ∀ line, session.current = some line →
    ∃ earlier last, tenures = earlier ++ [last] ∧ last.line = line.id ∧
      last.origin.toNat + last.handed.length = session.delivery.lastSendId.toNat

namespace Tenured

variable {history history' : List (ReliableBody P)} {records : List (Record P)}
  {session : Session P} {input : Input P} {earlier tenures : List (Tenure P)} {last : Tenure P}

theorem silent (tenured : Tenured history records session tenures)
    (grows : history <+: history')
    (counted : history'.length = (session.step input).delivery.lastSendId.toNat)
    (unbinding : session.binding? input = none) (quiet : session.handedBy input = [])
    (unbound : (session.step input).current = none) :
    Tenured history' (records ++ session.recordsBy input) (session.step input) tenures := by
  constructor
  · rw [recordsBy, unbinding, quiet, tenured.records]
    simp
  · rw [(serves_step input).reliables, tenured.sent]
    have none : reliablesIn ((session.step input).actions.drop session.actions.length) = [] := quiet
    rw [none, List.append_nil]
  · exact counted
  · exact fun tenure member => (tenured.faithful tenure member).mono grows
  · intro line bound
    rw [unbound] at bound
    cases bound

theorem hands {packets : List (ReliablePacket P)}
    (before : records ++ (session.binding? input).toList.map
        (fun (line, origin) => .bound line origin) =
      (earlier ++ [last]).flatMap Tenure.records)
    (sent : reliablesIn session.actions = (earlier ++ [last]).flatMap Tenure.sent)
    (counted : history.length = (session.step input).delivery.lastSendId.toNat)
    (faithful : ∀ tenure ∈ earlier ++ [last], tenure.Faithful history)
    (ours : ∀ line, (session.step input).current = some line → last.line = line.id)
    (hands : Hands history last.line (last.origin.toNat + last.handed.length) session
      (session.step input) packets) :
    Tenured history (records ++ session.recordsBy input) (session.step input)
      (earlier ++ [last.extend packets (session.step input).delivery.lastRecvId]) := by
  rw [List.flatMap_append, List.flatMap_singleton] at before sent
  constructor
  · rw [hands.recordsBy_eq, ← List.append_assoc, before]
    simp
  · rw [(serves_step input).reliables, sent, hands.sent]
    simp
  · exact counted
  · rw [List.forall_mem_append, List.forall_mem_singleton] at faithful ⊢
    exact ⟨faithful.1, hands.extend faithful.2⟩
  · intro line bound
    refine ⟨earlier, _, rfl, ours line bound, ?_⟩
    have all := hands.reached (by simp [bound])
    rw [← counted, ← all, Tenure.length_extend]
    simp only [Tenure.extend]
    omega

theorem step (tenured : Tenured history records session tenures) (books : Books history session)
    (guarded : session.Guarded)
    (room : history.length + session.assignedBy input < UInt32.size) :
    ∃ tenures', Tenured (history ++ session.pushedBy input) (records ++ session.recordsBy input)
      (session.step input) tenures' := by
  obtain ⟨fresh, taken, accounts⟩ := accounts_step books guarded input room
  have counted := accounts.books.keeps.counted
  rw [← accounts.pushedBy_eq books] at counted
  have grows : history <+: history ++ session.pushedBy input := List.prefix_append _ _
  have faithful (tenure : Tenure P) (member : tenure ∈ tenures) :=
    (tenured.faithful tenure member).mono grows
  cases binds : session.binding? input with
  | none =>
      cases current : session.current with
      | none =>
          obtain ⟨quiet, unbound⟩ := silent_step books guarded room current binds
          exact ⟨_, tenured.silent grows counted.symm binds quiet unbound⟩
      | some line =>
          obtain ⟨packets, hands, stays⟩ := hands_step books guarded room current binds
          obtain ⟨earlier, last, rfl, ours, reached⟩ := tenured.reached line current
          rw [← ours, ← books.keeps.counted, ← reached] at hands
          refine ⟨_, Tenured.hands ?_ tenured.sent counted.symm faithful ?_ hands⟩
          · simp [binds, tenured.records]
          · intro bound same
            rcases stays with unchanged | none
            · rw [unchanged, Option.some.injEq] at same
              rw [ours, same]
            · rw [none] at same
              cases same
  | some binding =>
      obtain ⟨line, origin⟩ := binding
      obtain ⟨bound, response, pending, index, rfl, greets⟩ := greets_of_binding? binds
      obtain ⟨packets, hands, stays⟩ := greets.hands books
      have course := Course.binds greets (greets.binds books)
      have unpushed : session.pushedBy input = [] := (course.accounts books).pushedBy_eq books
      rw [unpushed, List.append_nil] at counted ⊢
      refine ⟨tenures ++ [Tenure.extend ⟨bound.id, origin, []⟩ packets _],
        Tenured.hands ?_ ?_ counted.symm ?_ ?_ hands⟩
      · simp [binds, tenured.records, Tenure.records]
      · simp [tenured.sent, Tenure.sent]
      · rw [List.forall_mem_append, List.forall_mem_singleton]
        exact ⟨tenured.faithful, rfl, by simp, by simp⟩
      · intro line same
        obtain ⟨unchanged, _⟩ := stays (by simp [same])
        rw [unchanged, Option.some.injEq] at same
        rw [same]

end Tenured

theorem assigned_concat (inputs : List (Input P)) (input : Input P) :
    ∀ session : Session P, session.assigned (inputs ++ [input]) =
      session.assigned inputs + (session.run inputs).assignedBy input := by
  induction inputs with
  | nil => exact fun session => Nat.add_comm _ _
  | cons first inputs induction =>
      intro session
      rw [List.cons_append, assigned, assigned, induction, Nat.add_assoc]
      rfl

theorem run_concat (session : Session P) (inputs : List (Input P)) (input : Input P) :
    session.run (inputs ++ [input]) = (session.run inputs).step input :=
  List.foldl_append

private theorem tenured_run (inputs : List (Input P)) :
    ∀ {history : List (ReliableBody P)} {records : List (Record P)} {session : Session P}
      {tenures : List (Tenure P)}, Tenured history records session tenures →
      Books history session → session.Guarded →
      history.length + session.assigned inputs < UInt32.size →
      Books (history ++ session.history inputs) (session.run inputs) ∧
        ∃ tenures', Tenured (history ++ session.history inputs)
          (records ++ session.records inputs) (session.run inputs) tenures' := by
  induction inputs with
  | nil =>
      intro history records session tenures tenured books _ _
      have unpushed : history ++ session.history [] = history := List.append_nil _
      have unrecorded : records ++ session.records [] = records := List.append_nil _
      rw [unpushed, unrecorded]
      exact ⟨books, tenures, tenured⟩
  | cons input inputs induction =>
      intro history records session tenures tenured books guarded room
      rw [assigned] at room
      have fits : history.length + session.assignedBy input < UInt32.size := by omega
      obtain ⟨fresh, taken, accounts⟩ := accounts_step books guarded input fits
      obtain ⟨tenures', tenured'⟩ := tenured.step books guarded fits
      have books' := accounts.books
      have given := accounts.length_fresh books
      rw [← accounts.pushedBy_eq books] at books' given
      have rest := induction tenured' books' (accounts.turn.guarded guarded)
        (by rw [List.length_append]; omega)
      rw [List.append_assoc, List.append_assoc] at rest
      exact rest

private theorem Starts.tenured {session : Session P} (starts : session.Starts) :
    Tenured [] [] session [] := by
  cases starts <;> exact ⟨rfl, rfl, rfl, by simp, by intro line bound; cases bound⟩

/-- Every line is handed the ids behind the one up to which its peer has everything,
without a gap, as long as it is bound: the reliable packets of a run fall into
tenures.  When a line has just been bound, it was handed what is buffered. -/
theorem run_tenured {start : Session P} (starts : start.Starts) (inputs : List (Input P))
    (fits : start.assigned inputs < UInt32.size) :
    (∃ tenures, Tenured (start.history inputs) (start.records inputs) (start.run inputs)
      tenures) ∧
      ∀ earlier input, inputs = earlier ++ [input] →
        ((start.run earlier).binding? input).isSome → (start.run inputs).current.isSome →
        ((start.run earlier).handedBy input).map (·.2) =
          (start.run inputs).delivery.buffer := by
  constructor
  · exact (tenured_run inputs starts.tenured starts.books starts.guarded (by simpa using fits)).2
  · intro earlier input split binds bound
    subst split
    rw [assigned_concat] at fits
    have kept := (tenured_run earlier starts.tenured starts.books starts.guarded
      (by rw [List.length_nil]; omega)).1
    obtain ⟨⟨line, origin⟩, binds⟩ := Option.isSome_iff_exists.mp binds
    obtain ⟨_, _, _, _, _, greets⟩ := greets_of_binding? binds
    obtain ⟨packets, hands, stays⟩ := greets.hands kept
    rw [run_concat] at bound ⊢
    rw [handedBy, hands.sent, List.map_map, ← (stays bound).2]
    exact List.map_id _

/-- The beginning of a session that loses its line and pushes a body without one. -/
def interrupted : List (Input Nat) :=
  [.send 1, .lineCreated ⟨0⟩ 7, .send 2, .packet ⟨0⟩ (.ack 1) 0, .lineClosed ⟨0⟩, .send 3,
    .bindPending ⟨⟨1⟩, 1⟩]

theorem interrupted_tenured :
    (initiator {} {} ⟨⟨0⟩, 0⟩).assigned (interrupted ++ [.lineRebound ⟨1⟩ 1]) < UInt32.size ∧
      (((initiator {} {} ⟨⟨0⟩, 0⟩).run interrupted).handedBy (.lineRebound ⟨1⟩ 1)).map (·.2) =
        ((initiator {} {} ⟨⟨0⟩, 0⟩).run
          (interrupted ++ [.lineRebound ⟨1⟩ 1])).delivery.buffer := by
  have fits : (initiator {} {} ⟨⟨0⟩, 0⟩).assigned (interrupted ++ [.lineRebound ⟨1⟩ 1]) <
      UInt32.size := by decide +kernel
  have binds : (((initiator {} {} ⟨⟨0⟩, 0⟩).run interrupted).binding?
      (.lineRebound ⟨1⟩ 1)).isSome := by decide +kernel
  have bound : ((initiator {} {} ⟨⟨0⟩, 0⟩).run
      (interrupted ++ [.lineRebound ⟨1⟩ 1])).current.isSome := by decide +kernel
  have tenured := run_tenured (.initiator {} {} ⟨⟨0⟩, 0⟩) _ fits
  exact ⟨fits, tenured.2 interrupted (.lineRebound ⟨1⟩ 1) rfl binds bound⟩

end Session

end ResumableSession
