import ResumableSession.Proofs.Session.Shifts
import ResumableSession.Proofs.Session.OutputOrder

/-!
# What the peer is told of what was received

A session acknowledges what it received in whatever it sends, in the handshakes of its
lines too: a line that is dialed carries the ack that it was asked for with.  Each ack is
the id received last at that moment, and after an update the peer of the bound line
knows this id.

The owner of a session dials at once when a line is asked for, so a request stands until
a line is bound.  Lines are attached on the accepting side only.
-/

namespace ResumableSession

namespace Session

variable {P : Type}

/-- The acks that lines are asked for with, oldest first. -/
def asksIn (outputs : List (Output P)) : List UInt32 :=
  (dialedIn outputs).filterMap fun
    | .rebind _ _ clientAck => some clientAck
    | .create _ => none

/-- The acks that the peer was given on a line, oldest first. -/
def toldOn (line : LineId) (given : List (LineId × UInt32)) : List UInt32 :=
  (given.filter (·.1 = line)).map (·.2)

/-- The ack that the peer was given last on a line. -/
def lastTold (line : LineId) (given : List (LineId × UInt32)) : Option UInt32 :=
  (toldOn line given).getLast?

/-- An input brings the next reliable packet. -/
def Accepts (session : Session P) (input : Input P) : Prop :=
  ∃ body, session.Brings input body ∧
    (session.step input).delivery.lastRecvId.toNat = session.delivery.lastRecvId.toNat + 1

end Session

/-- A session with the acks that its peer was given. -/
structure Ledger (P : Type) where
  session : Session P
  /-- The ack of the last request for a line, until a line is bound. -/
  asked : Option UInt32 := none
  /-- The acks that the peer was given, oldest first, each with its line. -/
  given : List (LineId × UInt32)

namespace Ledger

open Session

variable {P : Type}

/-- A session begins.  Its creating line, if any, tells that nothing was received. -/
def opening (session : Session P) : Ledger P where
  session
  given := session.pending.toList.map fun line => (line.id, 0)

/-- What the peer learns from the handshake of a line: from the creating one that nothing
was received, from one that was dialed the ack that it was asked for with. -/
def greeting (ledger : Ledger P) : Input P → List (LineId × UInt32)
  | .bindPending line => ledger.asked.toList.map (Prod.mk line.id)
  | .attachCreated line => if ledger.session.phase = .connecting then [(line.id, 0)] else []
  | _ => []

/-- What an input makes of a session and of what its peer was given. -/
def take (ledger : Ledger P) (input : Input P) : Ledger P where
  session := ledger.session.step input
  asked :=
    if (ledger.session.step input).current.isSome then none
    else (asksIn (ledger.session.toldBy input)).getLast?.or ledger.asked
  given := ledger.given ++ ledger.greeting input ++ acksIn (ledger.session.doneBy input)

/-- What a sequence of inputs makes of them. -/
def takeAll (ledger : Ledger P) (inputs : List (Input P)) : Ledger P :=
  inputs.foldl take ledger

/-- What an owner may give a session: lines are dialed for requests that stand, and
accepted ones are attached on the accepting side. -/
def allows (ledger : Ledger P) : Input P → Bool
  | .bindPending _ => ledger.asked.isSome
  | .attachCreated _ | .attachRebind _ _ => ledger.session.role = .responder
  | _ => true

/-- All of the inputs may be given, one after the other. -/
def obeys (ledger : Ledger P) : List (Input P) → Bool
  | [] => true
  | input :: inputs => ledger.allows input && (ledger.take input).obeys inputs

theorem takeAll_concat (ledger : Ledger P) (inputs : List (Input P)) (input : Input P) :
    ledger.takeAll (inputs ++ [input]) = (ledger.takeAll inputs).take input :=
  List.foldl_append

@[simp] theorem session_takeAll (inputs : List (Input P)) :
    ∀ ledger : Ledger P, (ledger.takeAll inputs).session = ledger.session.run inputs := by
  induction inputs with
  | nil => exact fun _ => rfl
  | cons input inputs induction => exact fun ledger => induction (ledger.take input)

end Ledger

namespace Session

variable {P : Type}

/-! ## Acks in order -/

section

variable {given more : List (LineId × UInt32)} {old new value : UInt32} {line : LineId}

theorem toldOn_append : toldOn line (given ++ more) = toldOn line given ++ toldOn line more := by
  simp [toldOn]

theorem lastTold_append :
    lastTold line (given ++ more) = (lastTold line more).or (lastTold line given) := by
  rw [lastTold, toldOn_append, List.getLast?_append]
  rfl

private theorem lastTold_append_of_same (told : lastTold line given = some value)
    (same : ∀ entry ∈ more, entry.2 = value) : lastTold line (given ++ more) = some value := by
  rw [lastTold_append, told]
  cases last : lastTold line more with
  | none => rfl
  | some latest =>
      have member := List.mem_of_getLast? last
      obtain ⟨entry, among, rfl⟩ := List.mem_map.mp member
      rw [same entry (List.mem_filter.mp among).1]
      rfl

private theorem lastTold_of_ours (ours : ∀ entry ∈ more, entry.1 = line ∧ entry.2 = value)
    (nonempty : more ≠ []) : lastTold line more = some value := by
  have all : more.filter (·.1 = line) = more :=
    List.filter_eq_self.mpr fun entry member => by simpa using (ours entry member).1
  have acks : toldOn line more = List.replicate more.length value := by
    rw [toldOn, all, List.eq_replicate_iff]
    refine ⟨List.length_map _, fun ack member => ?_⟩
    obtain ⟨entry, among, rfl⟩ := List.mem_map.mp member
    exact (ours entry among).2
  have some : more.length ≠ 0 := fun empty => nonempty (List.length_eq_zero_iff.mp empty)
  rw [lastTold, acks, List.getLast?_replicate, if_neg some]

/-- The acks do not decrease, and none is higher than the id received last. -/
structure Rising (given : List (LineId × UInt32)) (received : UInt32) : Prop where
  ordered : given.Pairwise fun earlier later => earlier.2 ≤ later.2
  bounded : ∀ entry ∈ given, entry.2 ≤ received

theorem Rising.append (rising : Rising given old) (grows : old ≤ new)
    (latest : ∀ entry ∈ more, entry.2 = new) : Rising (given ++ more) new where
  ordered := by
    refine List.pairwise_append.mpr ⟨rising.ordered, ?_, ?_⟩
    · refine List.pairwise_iff_forall_sublist.mpr fun {earlier later} pair => ?_
      rw [latest earlier (pair.subset (by simp)), latest later (pair.subset (by simp))]
      exact UInt32.le_refl _
    · intro earlier among later member
      rw [latest later member]
      exact UInt32.le_trans (rising.bounded earlier among) grows
  bounded := by
    intro entry member
    rcases List.mem_append.mp member with earlier | later
    · exact UInt32.le_trans (rising.bounded entry earlier) grows
    · rw [latest entry later]
      exact UInt32.le_refl _

theorem Rising.grow (rising : Rising given old) (grows : old ≤ new) : Rising given new := by
  have grown : Rising (given ++ []) new := rising.append grows nofun
  rwa [List.append_nil] at grown

private theorem Rising.toldOn (rising : Rising given old) (line : LineId) :
    (Session.toldOn line given).Pairwise (· ≤ ·) :=
  List.pairwise_map.mpr (rising.ordered.filter _)

private theorem Rising.lastTold_le (rising : Rising given old)
    (last : lastTold line given = some value) :
    value ≤ old := by
  obtain ⟨entry, among, rfl⟩ := List.mem_map.mp (List.mem_of_getLast? last)
  exact rising.bounded entry (List.mem_filter.mp among).1

end

/-! ## What the peer knows -/

/-- What the peer was given fits to what a session takes it to know: on the bound line
that is what it was told last, on one that is shaking hands what was received. -/
structure Honest (given : List (LineId × UInt32)) (session : Session P) : Prop where
  fresh : session.phase = .connecting →
    session.current = none ∧ session.delivery.lastRecvId = 0 ∧ session.delivery.lastAckSent = 0
  connects : session.pending.isSome ∨ session.liveness.rebindLimits.isSome →
    session.role = .initiator
  rising : Rising given session.delivery.lastRecvId
  shaking : ∀ line, session.pending = some line →
    session.current = none ∧ lastTold line.id given = some session.delivery.lastRecvId
  bound : ∀ line, session.current = some line →
    session.phase = .connected ∧ lastTold line.id given = some session.delivery.lastAckSent

/-- What happened between two sessions is honest, and tells the peer what was received.
What the peer does not know afterwards was received just now or not known before. -/
structure Reports (given : List (LineId × UInt32)) (before after : Session P)
    (sent : List (LineId × UInt32)) : Prop where
  honest : Honest (given ++ sent) after
  truthful : ∀ entry ∈ sent, entry.2 = after.delivery.lastRecvId
  overdue : ∀ line, after.current = some line → after.delivery.ackPending = true →
    sent = [] ∧ before.current = some line ∧
      (before.delivery.ackPending = true ∨
        after.delivery.lastRecvId.toNat = before.delivery.lastRecvId.toNat + 1)

/-- No line is bound or dialed, and the peer is told nothing. -/
structure Fades (before after : Session P) : Prop where
  role : after.role = before.role
  limits : after.liveness.rebindLimits = before.liveness.rebindLimits
  delivery : after.delivery = before.delivery
  phase : after.phase = before.phase ∨ after.phase = .closed
  current : after.current = none ∨ after.current = before.current ∧ after.phase = before.phase
  pending : after.pending = none ∨ after.pending = before.pending
  silent : ∃ done, after.actions = before.actions ++ done ∧ acksIn done = []

namespace Fades

variable {first second third : Session P}

theorem refl (session : Session P) : Fades session session :=
  ⟨rfl, rfl, rfl, .inl rfl, .inr ⟨rfl, rfl⟩, .inr rfl, [], (List.append_nil _).symm, rfl⟩

theorem trans (earlier : Fades first second) (later : Fades second third) :
    Fades first third where
  role := later.role.trans earlier.role
  limits := later.limits.trans earlier.limits
  delivery := later.delivery.trans earlier.delivery
  phase := later.phase.elim (fun same => same ▸ earlier.phase) .inr
  current := by
    rcases later.current with none | ⟨same, phase⟩
    · exact .inl none
    · rw [same, phase]
      exact earlier.current
  pending := later.pending.elim .inl fun same => same ▸ earlier.pending
  silent := by
    obtain ⟨done, actions, none⟩ := earlier.silent
    obtain ⟨done', actions', none'⟩ := later.silent
    refine ⟨done ++ done', ?_, ?_⟩
    · rw [actions', actions, List.append_assoc]
    · rw [acksIn_append, none, none', List.append_nil]

end Fades

variable {session settled : Session P} {time : Duration} {clock : UInt32}

private theorem fades_terminate (session : Session P) (reason : CloseReason) :
    Fades session (session.terminate reason) := by
  rw [terminate_eq]
  exact
    { role := rfl
      limits := rfl
      delivery := rfl
      phase := .inr rfl
      current := .inl rfl
      pending := .inl rfl
      silent := ⟨_, List.append_assoc _ _ _, by simp⟩ }

private theorem fades_dropLine (session : Session P) : Fades session session.dropLine := by
  rw [dropLine_eq]
  split
  · exact .refl session
  · exact
      { Fades.refl session with
        current := .inl rfl
        silent := ⟨_, rfl, by simp⟩ }

theorem Passes.fades (passes : Passes session time clock settled)
    (running : session.phase ≠ .closed) : Fades session settled := by
  have probed {liveness : Liveness} {probes : List LivenessEvent}
      (elapsed : session.liveness.Elapsed time liveness probes) :
      Fades session (probes.foldl (onDue clock) { session with liveness }) := by
    have moved : Fades session { session with liveness } :=
      { Fades.refl session with limits := elapsed.limits }
    refine moved.trans ?_
    rcases foldl_probes elapsed running clock with same | same | same <;> rw [same]
    · exact .refl _
    · rw [sendPing_eq]
      exact
        { Fades.refl { session with liveness } with
          silent := ⟨_, rfl, by simp [acksIn_sends, Packet.ack?]⟩ }
    · exact fades_dropLine _
  cases passes with
  | expired due =>
      have stopped : Fades session
          { session with liveness := { session.liveness with offline := .stopped } } :=
        { Fades.refl session with }
      exact stopped.trans (fades_terminate _ _)
  | dials lasts paced due =>
      rw [startRebind_eq]
      exact
        { Fades.refl session with
          pending := .inl rfl
          silent := ⟨_, rfl, by simp⟩ }
  | elapsed elapsed lasts => exact probed elapsed
  | ended elapsed due lingered =>
      refine (probed elapsed).trans (Fades.trans ?_ (fades_terminate _ _))
      exact { Fades.refl _ with }

namespace Honest

variable {given : List (LineId × UInt32)} {after : Session P}

theorem fades (honest : Honest given session) (fades : Fades session after) :
    Reports given session after [] where
  honest := by
    rw [List.append_nil]
    constructor
    · intro connecting
      rw [fades.delivery]
      have before : session.phase = .connecting := by
        rcases fades.phase with same | isOver
        · exact same.symm.trans connecting
        · rw [isOver] at connecting
          cases connecting
      have fresh := honest.fresh before
      refine ⟨?_, fresh.2⟩
      rcases fades.current with none | same
      · exact none
      · exact same.1.trans fresh.1
    · rw [fades.role, fades.limits]
      rcases fades.pending with none | same
      · rw [none]
        exact fun dialing => honest.connects (.inr (by simpa using dialing))
      · rw [same]
        exact honest.connects
    · rw [fades.delivery]
      exact honest.rising
    · intro line pending
      rw [fades.delivery]
      rcases fades.pending with none | same
      · rw [none] at pending
        cases pending
      · have shaking := honest.shaking line (same.symm.trans pending)
        refine ⟨?_, shaking.2⟩
        rcases fades.current with none | same
        · exact none
        · exact same.1.trans shaking.1
    · intro line current
      rw [fades.delivery]
      rcases fades.current with none | ⟨same, phase⟩
      · rw [none] at current
        cases current
      · rw [phase]
        exact honest.bound line (same.symm.trans current)
  truthful := by simp
  overdue := by
    intro line current pending
    rw [fades.delivery] at pending
    rcases fades.current with none | same
    · rw [none] at current
      cases current
    · exact ⟨rfl, same.1.symm.trans current, .inl pending⟩

theorem abides (honest : Honest given session) (rests : Rests session after)
    (abides : Abides session after) {sent : List (LineId × UInt32)}
    (acks : ∀ entry ∈ sent, session.current.map (·.id) = some entry.1 ∧
      entry.2 = session.delivery.lastRecvId)
    (marked : after.phase = .closed ∨ after.delivery.lastAckSent =
      if sent.isEmpty then session.delivery.lastAckSent else session.delivery.lastRecvId) :
    Reports given session after sent ∧
      ∀ line, after.current = some line → after.delivery.ackPending = true →
        session.delivery.ackPending = true := by
  have latest : ∀ entry ∈ sent, entry.2 = session.delivery.lastRecvId :=
    fun entry member => (acks entry member).2
  have unbound (none : session.current = none) : sent = [] := by
    refine List.eq_nil_iff_forall_not_mem.mpr fun entry member => ?_
    simpa [none] using (acks entry member).1
  have told (line : Line) (current : session.current = some line) :
      after.delivery.lastAckSent =
        if sent.isEmpty then session.delivery.lastAckSent else session.delivery.lastRecvId := by
    refine marked.resolve_left fun isOver => ?_
    rw [abides.phase, (honest.bound line current).1] at isOver
    cases isOver
  have quiet (line : Line) (current : after.current = some line)
      (pending : after.delivery.ackPending = true) :
      sent = [] ∧ session.delivery.ackPending = true := by
    rw [abides.current] at current
    rw [Delivery.ackPending, rests.recvId, told line current] at pending
    cases sent with
    | nil => exact ⟨rfl, pending⟩
    | cons first others => simp at pending
  refine ⟨?_, fun line current pending => (quiet line current pending).2⟩
  constructor
  · constructor
    · intro connecting
      rw [abides.phase] at connecting
      obtain ⟨none, received, answered⟩ := honest.fresh connecting
      have untold := marked.resolve_left (by simp [abides.phase, connecting])
      rw [unbound none] at untold
      exact ⟨abides.current.trans none, rests.recvId.trans received, untold.trans answered⟩
    · rw [abides.pending, rests.limits, rests.role]
      exact honest.connects
    · rw [rests.recvId]
      exact honest.rising.append (UInt32.le_refl _) latest
    · intro line shaking
      rw [abides.pending] at shaking
      obtain ⟨none, told⟩ := honest.shaking line shaking
      rw [abides.current, unbound none, List.append_nil, rests.recvId]
      exact ⟨none, told⟩
    · intro line current
      rw [abides.current] at current
      obtain ⟨connected, known⟩ := honest.bound line current
      refine ⟨abides.phase.trans connected, ?_⟩
      rw [told line current]
      cases empty : sent with
      | nil => simpa using known
      | cons first others =>
          have ours : ∀ entry ∈ sent,
              entry.1 = line.id ∧ entry.2 = session.delivery.lastRecvId := by
            intro entry member
            obtain ⟨line', latest⟩ := acks entry member
            rw [current] at line'
            exact ⟨(Option.some.inj line').symm, latest⟩
          rw [← empty, lastTold_append, lastTold_of_ours ours (by simp [empty])]
          simp [empty]
  · rw [rests.recvId]
    exact latest
  · intro line current pending
    obtain ⟨empty, before⟩ := quiet line current pending
    exact ⟨empty, abides.current.symm.trans current, .inl before⟩

theorem ended (honest : Honest given session) (rests : Rests session after)
    (ended : Over after) {sent : List (LineId × UInt32)}
    (latest : ∀ entry ∈ sent, entry.2 = session.delivery.lastRecvId) :
    Reports given session after sent := by
  constructor
  · constructor
    · simp [ended.phase]
    · rw [rests.limits, rests.role, ended.pending]
      exact fun dialing => honest.connects (.inr (by simpa using dialing))
    · rw [rests.recvId]
      exact honest.rising.append (UInt32.le_refl _) latest
    · simp [ended.pending]
    · simp [ended.current]
  · rw [rests.recvId]
    exact latest
  · simp [ended.current]

theorem rests (honest : Honest given session) (rests : Rests session after) :
    ∃ sent, after.actions = session.actions ++ sent ∧ Reports given session after (acksIn sent) ∧
      ∀ line, after.current = some line → after.delivery.ackPending = true →
        session.delivery.ackPending = true := by
  obtain ⟨sent, actions, acks, marked⟩ := rests.sent
  refine ⟨sent, actions, ?_⟩
  rcases rests.course with abides | ended
  · exact honest.abides rests abides acks marked
  · refine ⟨honest.ended rests ended fun entry member => (acks entry member).2, ?_⟩
    simp [ended.current]

/-- The next packet counts as received.  Closing may move on with it. -/
theorem received (honest : Honest given session) {id : UInt32} (bound : session.current.isSome)
    (next : id.toNat = session.delivery.lastRecvId.toNat + 1)
    (role : after.role = session.role)
    (limits : after.liveness.rebindLimits = session.liveness.rebindLimits)
    (delivery : after.delivery = { session.delivery with lastRecvId := id })
    (phase : after.phase = session.phase) (current : after.current = session.current)
    (pending : after.pending = session.pending) : Reports given session after [] := by
  obtain ⟨line, isBound⟩ := Option.isSome_iff_exists.mp bound
  obtain ⟨connected, told⟩ := honest.bound line isBound
  have grows : session.delivery.lastRecvId ≤ id := by
    rw [UInt32.le_iff_toNat_le]
    omega
  constructor
  · rw [List.append_nil]
    constructor
    · simp [phase, connected]
    · rw [pending, limits, role]
      exact honest.connects
    · rw [delivery]
      exact honest.rising.grow grows
    · intro dialed shaking
      have none := (honest.shaking dialed (pending.symm.trans shaking)).1
      rw [isBound] at none
      cases none
    · rw [current, phase, delivery]
      exact honest.bound
  · simp
  · intro line isBound _
    refine ⟨rfl, current.symm.trans isBound, .inr ?_⟩
    rw [delivery]
    exact next

/-- A line that shook hands is bound, and its peer knows what was received. -/
theorem binds (honest : Honest given session) {input : Input P} {line : Line} {start : Nat}
    {response : List (Packet P)} {pending : Option Line} {index acked : UInt32}
    (greets : Greets session input line start response pending index)
    (marked : session.phase = .connecting ∧ acked = session.delivery.lastAckSent ∨
      session.phase = .connected ∧ acked = session.delivery.lastRecvId)
    (greeted : input = .attachCreated line →
      lastTold line.id given = some session.delivery.lastRecvId)
    (released : pending = none)
    (role : after.role = session.role)
    (limits : after.liveness.rebindLimits = session.liveness.rebindLimits)
    (delivery : after.delivery = session.delivery.markAckSent acked)
    (connected : after.phase = .connected) (current : after.current = some line)
    (pended : after.pending = pending) :
    Reports given session after (acksIn (response.map (.send line.id))) := by
  have known : acked = session.delivery.lastRecvId := by
    rcases marked with ⟨connecting, rfl⟩ | ⟨_, same⟩
    · obtain ⟨_, received, answered⟩ := honest.fresh connecting
      exact answered.trans received.symm
    · exact same
  have acks : acksIn (response.map (.send line.id)) = [] ∧
        lastTold line.id given = some session.delivery.lastRecvId ∨
      acksIn (response.map (.send line.id)) = [(line.id, session.delivery.lastRecvId)] := by
    cases greets with
    | created shaking connecting => exact .inl ⟨rfl, (honest.shaking line shaking).2⟩
    | rebound shaking connected checked => exact .inl ⟨rfl, (honest.shaking line shaking).2⟩
    | attachCreated connecting => exact .inl ⟨rfl, greeted rfl⟩
    | attachRebind connected current checked => exact .inr rfl
  have latest : ∀ entry ∈ acksIn (response.map (.send line.id)),
      entry.2 = session.delivery.lastRecvId := by
    intro entry member
    rcases acks with ⟨none, _⟩ | one
    · simp [none] at member
    · rw [one, List.mem_singleton] at member
      rw [member]
  have told : lastTold line.id (given ++ acksIn (response.map (.send line.id))) =
      some session.delivery.lastRecvId := by
    rcases acks with ⟨_, told⟩ | one
    · exact lastTold_append_of_same told latest
    · rw [lastTold_append, one]
      simp [lastTold, toldOn]
  constructor
  · constructor
    · simp [connected]
    · rw [pended, released, limits, role]
      exact fun dialing => honest.connects (.inr (by simpa using dialing))
    · rw [delivery]
      exact honest.rising.append (UInt32.le_refl _) latest
    · simp [pended, released]
    · intro bound isBound
      rw [current] at isBound
      cases isBound
      rw [delivery]
      refine ⟨connected, told.trans ?_⟩
      simp [Delivery.markAckSent, known]
  · rw [delivery]
    exact latest
  · intro bound isBound overdue
    simp [delivery, Delivery.markAckSent, Delivery.ackPending, known] at overdue

/-- An input that the owner of a session may give it: the line that it brings belongs to
this side, and its handshake told the peer what was received. -/
structure Minds (given : List (LineId × UInt32)) (session : Session P) (input : Input P) :
    Prop where
  dials : ∀ line, input = .bindPending line →
    session.current = none ∧ session.role = .initiator ∧
      lastTold line.id given = some session.delivery.lastRecvId
  creates : ∀ line, input = .attachCreated line → session.phase = .connecting →
    lastTold line.id given = some session.delivery.lastRecvId
  attaches : ∀ line clientAck,
    input = .attachCreated line ∨ input = .attachRebind line clientAck →
      session.role = .responder

theorem shifts (honest : Honest given session) {input : Input P} {shifted : Session P}
    (minds : Minds given session input) (shifts : Shifts session input shifted) :
    ∃ sent, shifted.actions = session.actions ++ sent ∧
      Reports given session shifted (acksIn sent) := by
  have faded (fades : Fades session shifted) :
      ∃ sent, shifted.actions = session.actions ++ sent ∧
        Reports given session shifted (acksIn sent) := by
    obtain ⟨done, actions, silent⟩ := fades.silent
    exact ⟨done, actions, silent ▸ honest.fades fades⟩
  cases shifts with
  | still timeless => exact faded (.refl session)
  | late isOver => exact faded (.refl session)
  | released timeless => exact faded { Fades.refl session with pending := .inl rfl }
  | forgotten isOver => exact faded { Fades.refl session with current := .inl rfl }
  | @dialed line running =>
      obtain ⟨unbound, initiates, told⟩ := minds.dials line rfl
      refine ⟨[], (List.append_nil _).symm, ?_⟩
      constructor
      · rw [acksIn_nil, List.append_nil]
        exact
          { fresh := honest.fresh
            connects := fun _ => initiates
            rising := honest.rising
            shaking := by
              intro shaking pending
              cases pending
              exact ⟨unbound, told⟩
            bound := honest.bound }
      · simp
      · exact fun bound current pending => ⟨rfl, current, .inl pending⟩
  | failed shaking connected => exact faded { Fades.refl session with pending := .inl rfl }
  | lost timeless bound running => exact faded { Fades.refl session with current := .inl rfl }
  | measured =>
      refine faded { Fades.refl session with limits := ?_ }
      simp only [Liveness.aliveConfirmed]
      split <;> rfl
  | received bound running next =>
      exact ⟨[], (List.append_nil _).symm,
        honest.received bound next rfl rfl rfl rfl rfl rfl⟩
  | lingers bound running next entered fresh =>
      exact ⟨[], (List.append_nil _).symm,
        honest.received bound next rfl rfl rfl rfl rfl rfl⟩
  | @bound _ line start response pending index acked sessionId greets marked =>
      have unshaken (responds : session.role = .responder) : session.pending = none := by
        cases shaking : session.pending with
        | none => rfl
        | some dialed =>
            have initiates := honest.connects (.inl (by simp [shaking]))
            rw [responds] at initiates
            cases initiates
      have released : pending = none := by
        cases greets with
        | created shaking connecting => rfl
        | rebound shaking connected checked => rfl
        | attachCreated connecting => exact unshaken (minds.attaches line 0 (.inl rfl))
        | attachRebind connected current checked =>
            exact unshaken (minds.attaches line _ (.inr rfl))
      have greeted (creating : input = .attachCreated line) :
          lastTold line.id given = some session.delivery.lastRecvId := by
        refine minds.creates line creating ?_
        subst creating
        cases greets with
        | attachCreated connecting => exact connecting
      exact ⟨_, rfl, honest.binds greets marked greeted released rfl rfl rfl rfl rfl rfl⟩
  | forced running => exact faded (fades_terminate session _)
  | passes running passes => exact faded (passes.fades running)

/-- A step is honest, and tells the peer what was received. -/
theorem step (honest : Honest given session) {input : Input P}
    (minds : Minds given session input) :
    Reports given session (session.step input) (acksIn (session.doneBy input)) := by
  obtain ⟨shifted, shifts, rests⟩ := session.shifts_step input
  obtain ⟨sent, actions, earlier⟩ := honest.shifts minds shifts
  obtain ⟨sent', actions', later, overdue⟩ := earlier.honest.rests rests
  have done : session.doneBy input = sent ++ sent' := by
    rw [doneBy, actions', actions, List.append_assoc, List.drop_left]
  rw [done, acksIn_append]
  constructor
  · rw [← List.append_assoc]
    exact later.honest
  · intro entry member
    rcases List.mem_append.mp member with first | second
    · rw [rests.recvId]
      exact earlier.truthful entry first
    · exact later.truthful entry second
  · intro line current pending
    obtain ⟨silent', before, _⟩ := later.overdue line current pending
    obtain ⟨silent, bound, known⟩ :=
      earlier.overdue line before (overdue line current pending)
    rw [rests.recvId, silent, silent']
    exact ⟨rfl, bound, known⟩

end Honest

/-- What was received last changes by the next reliable packet only, on a bound line. -/
theorem recvId_step (session : Session P) (input : Input P) :
    (session.step input).delivery.lastRecvId = session.delivery.lastRecvId ∨
      session.current.isSome ∧ session.Accepts input := by
  obtain ⟨shifted, shifts, rests⟩ := session.shifts_step input
  have accepted {line : LineId} {packet : ReliablePacket P} {clock : UInt32}
      (same : input = .packet line (.reliable packet) clock) (bound : session.current.isSome)
      (next : packet.id.toNat = session.delivery.lastRecvId.toNat + 1)
      (recvId : shifted.delivery.lastRecvId = packet.id) :
      session.current.isSome ∧ session.Accepts input := by
    refine ⟨bound, packet.body, ⟨line, packet, clock, same, rfl, next⟩, ?_⟩
    rw [rests.recvId, recvId, next]
  cases shifts with
  | received bound running next => exact .inr (accepted rfl bound next rfl)
  | lingers bound running next entered fresh => exact .inr (accepted rfl bound next rfl)
  | forced running =>
      refine .inl (rests.recvId.trans ?_)
      rw [terminate_eq]
  | passes running passes =>
      exact .inl (rests.recvId.trans (congrArg Delivery.lastRecvId (passes.delivery running)))
  | _ => exact .inl rests.recvId

private theorem asksIn_toldBy (session : Session P) (input : Input P) :
    ∀ ack ∈ asksIn (session.toldBy input),
      ack = (session.step input).delivery.lastRecvId ∧
        session.liveness.rebindLimits.isSome := by
  obtain ⟨shifted, shifts, rests⟩ := session.shifts_step input
  obtain ⟨told, outputs, dials, -⟩ := shifts.told
  obtain ⟨later, toldBy, undialed, -⟩ := rests.toldBy_eq outputs
  intro ack member
  rw [asksIn, toldBy, dialedIn_append, undialed, List.append_nil] at member
  rcases dials with none | ⟨paced, one⟩
  · simp [none] at member
  · rw [one] at member
    rw [rests.recvId]
    exact ⟨by simpa using member, paced⟩

/-- After an update the peer of the bound line knows what was received. -/
theorem informed_update (session : Session P) (time : Duration) (clock : UInt32)
    (running : (session.update time clock).phase ≠ .closed)
    (bound : (session.update time clock).current.isSome) :
    (session.update time clock).delivery.ackPending = false := by
  have open_ : session.phase ≠ .closed := by
    intro isOver
    have idle : session.update time clock = session := if_pos isOver
    rw [idle] at running
    exact running isOver
  obtain ⟨settled, passes, updated⟩ := passes_update open_ time clock
  have delivery := passes.delivery open_
  rw [updated] at running bound ⊢
  split
  · next told =>
      rw [if_pos told, sendAck_eq] at bound
      rw [sendAck_eq]
      simp [Delivery.ackPending, Delivery.markAckSent, bound]
  · next untold =>
      rw [if_neg untold] at running
      rw [delivery]
      simpa [running] using untold

/-- An update gives the peer one ack if the bound line's peer does not know what was
received, and none otherwise. -/
theorem acksIn_update (session : Session P) (time : Duration) (clock : UInt32) :
    acksIn (session.doneBy (.update time clock)) = [] ∨
      session.delivery.ackPending = true ∧ ∃ line, session.current = some line ∧
        acksIn (session.doneBy (.update time clock)) =
          [(line.id, session.delivery.lastRecvId)] := by
  have done : session.doneBy (.update time clock) =
      (session.update time clock).actions.drop session.actions.length := rfl
  by_cases isOver : session.phase = .closed
  · have idle : session.update time clock = session := if_pos isOver
    rw [done, idle, List.drop_length]
    exact .inl rfl
  · obtain ⟨settled, passes, updated⟩ := passes_update isOver time clock
    have fades := passes.fades isOver
    obtain ⟨lost, actions, silent⟩ := fades.silent
    rw [done, updated]
    split
    · next told =>
        rw [sendAck_eq, actions, List.append_assoc, List.drop_left, acksIn_append, silent,
          List.nil_append, fades.delivery]
        rcases fades.current with unbound | ⟨same, -⟩
        · exact .inl (by simp [unbound])
        · cases current : session.current with
          | none => exact .inl (by simp [same, current])
          | some line =>
              exact .inr ⟨told.2, line, rfl, by simp [same, current, acksIn, Packet.ack?]⟩
    · rw [actions, List.drop_left]
      exact .inl silent

end Session

/-! ## Runs -/

namespace Ledger

open Session

variable {P : Type} {ledger : Ledger P}

/-- What the peer was given fits to what the session takes it to know, and a request for
a line stands only while nothing can be received. -/
structure Sound (ledger : Ledger P) : Prop where
  honest : Honest ledger.given ledger.session
  standing : ∀ ack, ledger.asked = some ack →
    ledger.session.current = none ∧ ledger.session.liveness.rebindLimits.isSome ∧
      ack = ledger.session.delivery.lastRecvId

namespace Sound

theorem greeting (sound : ledger.Sound) (input : Input P) :
    ∀ entry ∈ ledger.greeting input,
      ledger.session.current = none ∧ entry.2 = ledger.session.delivery.lastRecvId := by
  intro entry member
  cases input with
  | bindPending line =>
      obtain ⟨ack, asked, rfl⟩ := List.mem_map.mp member
      obtain ⟨unbound, -, latest⟩ := sound.standing ack (Option.mem_toList.mp asked)
      exact ⟨unbound, latest⟩
  | attachCreated line =>
      rw [Ledger.greeting] at member
      split at member
      · next connecting =>
          rw [List.mem_singleton] at member
          obtain ⟨unbound, received, -⟩ := sound.honest.fresh connecting
          rw [member]
          exact ⟨unbound, received.symm⟩
      · cases member
  | _ => cases member

theorem greeted (sound : ledger.Sound) (input : Input P) :
    Honest (ledger.given ++ ledger.greeting input) ledger.session := by
  have greeting := sound.greeting input
  constructor
  · exact sound.honest.fresh
  · exact sound.honest.connects
  · exact sound.honest.rising.append (UInt32.le_refl _) fun entry member =>
      (greeting entry member).2
  · intro line pending
    obtain ⟨unbound, told⟩ := sound.honest.shaking line pending
    exact ⟨unbound, lastTold_append_of_same told fun entry member => (greeting entry member).2⟩
  · intro line current
    have silent : ledger.greeting input = [] := by
      refine List.eq_nil_iff_forall_not_mem.mpr fun entry member => ?_
      rw [(greeting entry member).1] at current
      cases current
    rw [silent, List.append_nil]
    exact sound.honest.bound line current

private theorem minds (sound : ledger.Sound) {input : Input P}
    (allowed : ledger.allows input = true) :
    Honest.Minds (ledger.given ++ ledger.greeting input) ledger.session input where
  dials := by
    rintro line rfl
    obtain ⟨ack, asked⟩ := Option.isSome_iff_exists.mp allowed
    obtain ⟨unbound, paced, rfl⟩ := sound.standing ack asked
    refine ⟨unbound, sound.honest.connects (.inr paced), ?_⟩
    rw [lastTold_append, Ledger.greeting, asked]
    simp [lastTold, Session.toldOn]
  creates := by
    rintro line rfl connecting
    rw [lastTold_append, Ledger.greeting, if_pos connecting, (sound.honest.fresh connecting).2.1]
    simp [lastTold, Session.toldOn]
  attaches := by
    rintro line clientAck (rfl | rfl)
    · exact of_decide_eq_true allowed
    · exact of_decide_eq_true allowed

theorem reports (sound : ledger.Sound) {input : Input P} (allowed : ledger.allows input = true) :
    Reports (ledger.given ++ ledger.greeting input) ledger.session (ledger.take input).session
      (acksIn (ledger.session.doneBy input)) :=
  (sound.greeted input).step (sound.minds allowed)

theorem take (sound : ledger.Sound) {input : Input P} (allowed : ledger.allows input = true) :
    (ledger.take input).Sound where
  honest := (sound.reports allowed).honest
  standing := by
    intro ack asked
    have stepped : (ledger.take input).session = ledger.session.step input := rfl
    rw [Ledger.take] at asked
    simp only at asked
    split at asked
    · cases asked
    · next unbound =>
        rw [stepped, (tells_step ledger.session input).limits]
        refine ⟨by simpa using unbound, ?_⟩
        cases last : (asksIn (ledger.session.toldBy input)).getLast? with
        | some latest =>
            rw [last] at asked
            cases asked
            obtain ⟨received, paced⟩ :=
              ledger.session.asksIn_toldBy input ack (List.mem_of_getLast? last)
            exact ⟨paced, received⟩
        | none =>
            rw [last] at asked
            obtain ⟨away, paced, received⟩ := sound.standing ack asked
            refine ⟨paced, received.trans ?_⟩
            rcases ledger.session.recvId_step input with same | ⟨bound, -⟩
            · exact same.symm
            · simp [away] at bound

/-- What the peer does not know after a step was received just now, or not known before;
nothing was told in between. -/
theorem overdue (sound : ledger.Sound) {input : Input P} (allowed : ledger.allows input = true)
    {line : Line} (current : (ledger.take input).session.current = some line)
    (pending : (ledger.take input).session.delivery.ackPending = true) :
    (ledger.take input).given = ledger.given ∧ ledger.session.current = some line ∧
      (ledger.session.delivery.ackPending = true ∨ ledger.session.Accepts input) := by
  obtain ⟨silent, bound, known⟩ := (sound.reports allowed).overdue line current pending
  have unshaken : ledger.greeting input = [] := by
    refine List.eq_nil_iff_forall_not_mem.mpr fun entry member => ?_
    rw [(sound.greeting input entry member).1] at bound
    cases bound
  refine ⟨?_, bound, known.imp_right fun next => ?_⟩
  · rw [Ledger.take]
    simp only [unshaken, silent, List.append_nil]
  · rcases ledger.session.recvId_step input with same | ⟨-, accepts⟩
    · have stepped : (ledger.take input).session = ledger.session.step input := rfl
      rw [stepped, same] at next
      omega
    · exact accepts

theorem informed (sound : ledger.Sound) (time : Duration) (clock : UInt32) {line : Line}
    (current : (ledger.session.step (.update time clock)).current = some line) :
    lastTold line.id (ledger.take (.update time clock)).given =
      some (ledger.session.step (.update time clock)).delivery.lastRecvId := by
  have after : (ledger.take (.update time clock)).Sound := sound.take rfl
  obtain ⟨connected, told⟩ := after.honest.bound line current
  have known : (ledger.session.step (.update time clock)).delivery.ackPending = false :=
    ledger.session.informed_update time clock (fun isOver => nomatch connected.symm.trans isOver)
      (Option.isSome_of_eq_some current)
  have latest : (ledger.session.step (.update time clock)).delivery.lastAckSent =
      (ledger.session.step (.update time clock)).delivery.lastRecvId := by
    simpa [Delivery.ackPending] using known
  exact told.trans (congrArg some latest)

theorem outdated (sound : ledger.Sound) {line : Line}
    (current : ledger.session.current = some line)
    (pending : ledger.session.delivery.ackPending = true) :
    lastTold line.id ledger.given = some ledger.session.delivery.lastAckSent ∧
      ledger.session.delivery.lastAckSent < ledger.session.delivery.lastRecvId := by
  have told := (sound.honest.bound line current).2
  have below := sound.honest.rising.lastTold_le told
  refine ⟨told, UInt32.lt_of_le_of_ne below ?_⟩
  simpa [Delivery.ackPending] using pending

end Sound

private theorem sound_takeAll (inputs : List (Input P)) :
    ∀ {ledger : Ledger P}, ledger.Sound → ledger.obeys inputs = true →
      (ledger.takeAll inputs).Sound := by
  induction inputs with
  | nil => exact fun sound _ => sound
  | cons input inputs induction =>
      intro ledger sound obeys
      rw [Ledger.obeys, Bool.and_eq_true] at obeys
      exact induction (sound.take obeys.1) obeys.2

/-- What the peer does not know was received in the run, or not known before it; nothing
was told since. -/
theorem overdue_takeAll (inputs : List (Input P)) :
    ∀ {ledger : Ledger P}, ledger.Sound → ledger.obeys inputs = true →
      ∀ {line : Line}, (ledger.takeAll inputs).session.current = some line →
        (ledger.takeAll inputs).session.delivery.ackPending = true →
        (∃ earlier hearing later, inputs = earlier ++ hearing :: later ∧
            (ledger.takeAll earlier).session.Accepts hearing ∧
            (ledger.takeAll inputs).given = (ledger.takeAll earlier).given) ∨
          ledger.session.current = some line ∧ ledger.session.delivery.ackPending = true ∧
            (ledger.takeAll inputs).given = ledger.given := by
  induction inputs with
  | nil => exact fun _ _ _ current pending => .inr ⟨current, pending, rfl⟩
  | cons input inputs induction =>
      intro ledger sound obeys line current pending
      rw [Ledger.obeys, Bool.and_eq_true] at obeys
      rcases induction (sound.take obeys.1) obeys.2 current pending with
        ⟨earlier, hearing, later, rfl, accepts, silent⟩ | ⟨bound, before, silent⟩
      · exact .inl ⟨input :: earlier, hearing, later, rfl, accepts, silent⟩
      · obtain ⟨quiet, bound, known | accepts⟩ := sound.overdue obeys.1 bound before
        · exact .inr ⟨bound, known, silent.trans quiet⟩
        · exact .inl ⟨[], input, inputs, rfl, accepts, silent.trans quiet⟩

theorem sound_opening {start : Session P} (starts : start.Starts) : (opening start).Sound := by
  cases starts with
  | initiator settings limits creating =>
      refine ⟨⟨fun _ => ⟨rfl, rfl, rfl⟩, fun _ => rfl, ⟨?_, ?_⟩, ?_, ?_⟩, ?_⟩
      · exact List.pairwise_singleton _ _
      · simp [opening, initiator]
      · intro line pending
        cases pending
        exact ⟨rfl, by simp [opening, initiator, lastTold, Session.toldOn]⟩
      · simp [opening, initiator]
      · simp [opening]
  | responder sessionId settings =>
      refine ⟨⟨fun _ => ⟨rfl, rfl, rfl⟩, ?_, ⟨List.Pairwise.nil, ?_⟩, ?_, ?_⟩, ?_⟩ <;>
        simp [opening, responder]

end Ledger

namespace Session

open Ledger

variable {P : Type}

/-- What a session tells its peer of what it received, in a run and in the inputs that
may follow. -/
structure Acknowledges (start : Session P) (inputs : List (Input P)) : Prop where
  truthful : ∀ input, ((opening start).takeAll inputs).allows input = true →
    ∀ entry ∈ acksIn ((start.run inputs).doneBy input),
      entry.2 = ((start.run inputs).step input).delivery.lastRecvId
  asks : ∀ input, ∀ ack ∈ asksIn ((start.run inputs).toldBy input),
    ack = ((start.run inputs).step input).delivery.lastRecvId
  ordered : ∀ line, (toldOn line ((opening start).takeAll inputs).given).Pairwise (· ≤ ·)
  informed : ∀ time clock line,
    ((start.run inputs).step (.update time clock)).phase = .connected →
    ((start.run inputs).step (.update time clock)).current = some line →
      lastTold line.id ((opening start).takeAll (inputs ++ [.update time clock])).given =
        some ((start.run inputs).step (.update time clock)).delivery.lastRecvId
  needed : ∀ time clock, acksIn ((start.run inputs).doneBy (.update time clock)) = [] ∨
    ∃ line last,
      acksIn ((start.run inputs).doneBy (.update time clock)) =
        [(line, (start.run inputs).delivery.lastRecvId)] ∧
      lastTold line ((opening start).takeAll inputs).given = some last ∧
      last < (start.run inputs).delivery.lastRecvId ∧
      ∃ earlier hearing later, inputs = earlier ++ hearing :: later ∧
        (start.run earlier).Accepts hearing ∧
        ((opening start).takeAll inputs).given = ((opening start).takeAll earlier).given

/-- Whatever happens to a session whose owner keeps to the rules: each ack that goes out
is the id received last, on no line they decrease, an update leaves the peer of the bound
line informed, and sends an ack only for what was received since the last one. -/
theorem run_acknowledges {start : Session P} (starts : start.Starts) (inputs : List (Input P))
    (obeys : (opening start).obeys inputs = true) : start.Acknowledges inputs := by
  have begins := sound_opening starts
  have sound := sound_takeAll inputs begins obeys
  have session : ((opening start).takeAll inputs).session = start.run inputs :=
    session_takeAll inputs (opening start)
  constructor
  · intro input allowed
    have truthful := (sound.reports allowed).truthful
    rw [session] at truthful
    simpa only [Ledger.take, session] using truthful
  · exact fun input ack member => ((start.run inputs).asksIn_toldBy input ack member).1
  · exact sound.honest.rising.toldOn
  · intro time clock line _ current
    rw [takeAll_concat]
    rw [← session] at current ⊢
    exact sound.informed time clock current
  · intro time clock
    rcases (start.run inputs).acksIn_update time clock with
      silent | ⟨pending, line, current, one⟩
    · exact .inl silent
    · rw [← session] at current pending
      obtain ⟨told, less⟩ := sound.outdated current pending
      rcases overdue_takeAll inputs begins obeys current pending with
        ⟨earlier, hearing, later, split, accepts, silent⟩ | ⟨bound, -⟩
      · rw [session_takeAll] at accepts
        rw [session] at told less
        exact .inr ⟨line.id, _, one, told, less, earlier, hearing, later, split, accepts, silent⟩
      · cases starts <;> cases bound

/-- A session that receives a packet on its creating line, and another on the line that it
asked for after it had lost the first one. -/
def resuming : List (Input Nat) :=
  [.lineCreated ⟨0⟩ 7, .packet ⟨0⟩ (.reliable ⟨1, 0, .data 5⟩) 0, .lineClosed ⟨0⟩,
    .update (.ofSeconds 1) 0, .bindPending ⟨⟨1⟩, 1⟩, .lineRebound ⟨1⟩ 0,
    .packet ⟨1⟩ (.reliable ⟨2, 0, .data 6⟩) 0]

theorem resuming_acknowledges :
    (opening (initiator {} {} ⟨⟨0⟩, 0⟩)).obeys resuming = true ∧
      toldOn ⟨1⟩ ((opening (initiator {} {} ⟨⟨0⟩, 0⟩)).takeAll resuming).given = [1] ∧
      lastTold ⟨1⟩ ((opening (initiator {} {} ⟨⟨0⟩, 0⟩)).takeAll
        (resuming ++ [.update (.ofMillis 100) 0])).given = some 2 :=
  have obeys : (opening (initiator {} {} ⟨⟨0⟩, 0⟩)).obeys resuming = true := by decide +kernel
  have acknowledges := run_acknowledges (.initiator {} {} ⟨⟨0⟩, 0⟩) resuming obeys
  ⟨obeys, by decide +kernel,
    (acknowledges.informed (.ofMillis 100) 0 ⟨⟨1⟩, 1⟩ (by decide +kernel)
      (by decide +kernel)).trans (by decide +kernel)⟩

end Session

end ResumableSession
