import ResumableSession.Proofs.Session.Accounts

/-!
# How an end takes its leave

The history of an end that keeps to the close handshake is its payloads and then
a farewell: a Fin and a FinAck, in the order in which they came to be sent, as far
as closing has come.  How far that is, is the same whether one looks at the state
of the close machine, at what was pushed or at what was heard.
-/

namespace ResumableSession

variable {P : Type}

namespace CloseState

/-- What may follow the payloads in the history of an end in this state. -/
def farewells : CloseState → List (List (ReliableBody P))
  | .active => [[]]
  | .finWait1 | .finWait2 => [[.fin]]
  | .closing | .timeWait => [[.fin, .finAck]]
  | .closeWait => []
  | .lastAck => [[.finAck, .fin]]
  | .closed => [[.fin, .finAck], [.finAck, .fin]]

/-- Whether the peer's Fin has come. -/
def heardFin : CloseState → Bool
  | .closing | .timeWait | .lastAck | .closed => true
  | _ => false

/-- Whether the peer's FinAck has come. -/
def heardFinAck : CloseState → Bool
  | .finWait2 | .timeWait | .closed => true
  | _ => false

end CloseState

/-- A history of payloads that ends in a farewell. -/
def Mannered (pushed : List (ReliableBody P)) : Prop :=
  ∃ (payloads : List P) (farewell : List (ReliableBody P)),
    farewell ∈ [[], [.fin], [.fin, .finAck], [.finAck, .fin]] ∧
      pushed = payloads.map .data ++ farewell

namespace Mannered

variable {pushed : List (ReliableBody P)}

/-- What is no payload stands in the farewell. -/
theorem in_farewell {payloads : List P} {farewell : List (ReliableBody P)} {index : Nat}
    {body : ReliableBody P}
    (found : (payloads.map .data ++ farewell)[index]? = some body)
    (closing : body.payload? = none) :
    payloads.length ≤ index ∧ farewell[index - payloads.length]? = some body := by
  rw [List.getElem?_append, List.length_map] at found
  split at found
  · next inside =>
      rw [List.getElem?_map, Option.map_eq_some_iff] at found
      obtain ⟨payload, _, rfl⟩ := found
      simp [ReliableBody.payload?] at closing
  · next outside => exact ⟨Nat.le_of_not_lt outside, found⟩

private theorem farewell_length_le {farewell : List (ReliableBody P)}
    (farewells : farewell ∈ [[], [.fin], [.fin, .finAck], [.finAck, .fin]]) :
    farewell.length ≤ 2 := by
  simp only [List.mem_cons, List.not_mem_nil, or_false] at farewells
  rcases farewells with rfl | rfl | rfl | rfl <;> simp

/-- A Fin and a FinAck are pushed once each. -/
theorem unique (mannered : Mannered pushed) {first second : Nat} {body : ReliableBody P}
    (closing : body.payload? = none) (atFirst : pushed[first]? = some body)
    (atSecond : pushed[second]? = some body) : first = second := by
  obtain ⟨payloads, farewell, farewells, rfl⟩ := mannered
  obtain ⟨firstBound, firstFound⟩ := in_farewell atFirst closing
  obtain ⟨secondBound, secondFound⟩ := in_farewell atSecond closing
  have distinct : farewell.Nodup := by
    simp only [List.mem_cons, List.not_mem_nil, or_false] at farewells
    rcases farewells with rfl | rfl | rfl | rfl <;> simp
  have inside := (List.getElem?_eq_some_iff.mp firstFound).1
  have same : first - payloads.length = second - payloads.length :=
    (List.getElem?_inj inside distinct).mp (firstFound.trans secondFound.symm)
  omega

theorem unheard (mannered : Mannered pushed) {count : Nat} {body : ReliableBody P}
    (closing : body.payload? = none) (next : pushed[count]? = some body) :
    body ∉ pushed.take count := by
  intro member
  obtain ⟨index, inside, found⟩ := List.getElem_of_mem member
  rw [List.length_take] at inside
  have atIndex : pushed[index]? = some body := by
    rw [← found, List.getElem_take, List.getElem?_eq_getElem]
  have same := mannered.unique closing atIndex next
  omega

theorem place {count : Nat} {body : ReliableBody P} (member : body ∈ pushed.take count) :
    ∃ index < count, pushed[index]? = some body := by
  obtain ⟨index, inside, found⟩ := List.getElem_of_mem member
  rw [List.length_take] at inside
  refine ⟨index, by omega, ?_⟩
  rw [← found, List.getElem_take, List.getElem?_eq_getElem]

/-- Whoever has heard both a Fin and a FinAck has heard everything. -/
theorem heard_all (mannered : Mannered pushed) {count : Nat} (fin : .fin ∈ pushed.take count)
    (finAck : .finAck ∈ pushed.take count) : pushed.length ≤ count := by
  obtain ⟨first, firstBound, atFirst⟩ := place fin
  obtain ⟨second, secondBound, atSecond⟩ := place finAck
  obtain ⟨payloads, farewell, farewells, rfl⟩ := mannered
  obtain ⟨firstInside, firstFound⟩ := in_farewell atFirst rfl
  obtain ⟨secondInside, secondFound⟩ := in_farewell atSecond rfl
  have short := farewell_length_le farewells
  have apart : first ≠ second := by
    rintro rfl
    rw [firstFound] at secondFound
    simp at secondFound
  rw [List.length_append, List.length_map]
  omega

theorem heard_payloads (mannered : Mannered pushed) {count : Nat}
    (fin : .fin ∈ pushed.take count) :
    (pushed.take count).filterMap ReliableBody.payload? =
      pushed.filterMap ReliableBody.payload? := by
  obtain ⟨index, bound, found⟩ := place fin
  obtain ⟨payloads, farewell, farewells, rfl⟩ := mannered
  obtain ⟨inside, _⟩ := in_farewell found rfl
  have silent : farewell.filterMap ReliableBody.payload? = [] := by
    simp only [List.mem_cons, List.not_mem_nil, or_false] at farewells
    rcases farewells with rfl | rfl | rfl | rfl <;> rfl
  have silentPart : ∀ few, (farewell.take few).filterMap ReliableBody.payload? = [] := by
    intro few
    have part := (List.take_sublist few farewell).filterMap ReliableBody.payload?
    rw [silent] at part
    exact List.sublist_nil.mp part
  rw [List.take_append, List.filterMap_append, List.filterMap_append, silent, silentPart,
    List.take_of_length_le (by simp; omega)]

end Mannered

namespace Session

/-- Closing has come as far as what was pushed and what was heard say. -/
structure Records (accepted : List P) (pushed heard : List (ReliableBody P))
    (session : Session P) : Prop where
  farewell : ∃ farewell ∈ session.closing.state.farewells,
    pushed = accepted.map .data ++ farewell
  fin : session.closing.finId.isSome ↔ .fin ∈ pushed
  finAck : session.closing.finAckId.isSome ↔ .finAck ∈ pushed
  heardFin : .fin ∈ heard ↔ session.closing.state.heardFin
  heardFinAck : .finAck ∈ heard ↔ session.closing.state.heardFinAck
  delivered : deliveredIn session.outputs = heard.filterMap ReliableBody.payload?
  isOver : session.closing.state = .closed → session.phase = .closed

namespace Records

variable {accepted : List P} {pushed heard : List (ReliableBody P)} {session : Session P}

theorem mannered (records : Records accepted pushed heard session) : Mannered pushed := by
  obtain ⟨farewell, farewells, rfl⟩ := records.farewell
  refine ⟨accepted, farewell, ?_, rfl⟩
  cases state : session.closing.state <;>
    simp only [state, CloseState.farewells, List.mem_cons, List.not_mem_nil, or_false]
      at farewells <;>
    simp [farewells]

theorem fin_pushed (records : Records accepted pushed heard session) :
    .fin ∈ pushed ↔ session.closing.state ≠ .active := by
  obtain ⟨farewell, farewells, rfl⟩ := records.farewell
  cases state : session.closing.state <;>
    simp only [state, CloseState.farewells, List.mem_cons, List.not_mem_nil, or_false]
      at farewells <;>
    simp [farewells]
  rcases farewells with rfl | rfl <;> simp

theorem finAck_pushed (records : Records accepted pushed heard session) :
    .finAck ∈ pushed ↔ session.closing.state.heardFin := by
  obtain ⟨farewell, farewells, rfl⟩ := records.farewell
  cases state : session.closing.state <;>
    simp only [state, CloseState.farewells, List.mem_cons, List.not_mem_nil, or_false]
      at farewells <;>
    simp [farewells, CloseState.heardFin]
  rcases farewells with rfl | rfl <;> simp

theorem accepted_eq (records : Records accepted pushed heard session) :
    pushed.filterMap ReliableBody.payload? = accepted := by
  obtain ⟨farewell, farewells, rfl⟩ := records.farewell
  have silent : farewell.filterMap ReliableBody.payload? = [] := by
    cases state : session.closing.state <;>
      simp only [state, CloseState.farewells, List.mem_cons, List.not_mem_nil, or_false]
        at farewells
    all_goals first
      | (rw [farewells]; rfl)
      | (rcases farewells with rfl | rfl <;> rfl)
  rw [List.filterMap_append, silent, List.append_nil, List.filterMap_map]
  have payloads : ReliableBody.payload? ∘ ReliableBody.data = (some : P → Option P) := rfl
  rw [payloads, List.filterMap_some]

theorem guarded (records : Records accepted pushed heard session) : session.Guarded := by
  by_cases active : session.closing.state = .active
  · exact .inl active
  · exact .inr (records.fin.mpr (records.fin_pushed.mpr active))

variable {after : Session P}

theorem moved (records : Records accepted pushed heard session)
    {fresh taken : List (ReliableBody P)}
    (farewells : ∀ farewell ∈ session.closing.state.farewells,
      farewell ++ fresh ∈ after.closing.state.farewells)
    (fin : after.closing.finId.isSome ↔ session.closing.finId.isSome ∨ .fin ∈ fresh)
    (finAck : after.closing.finAckId.isSome ↔
      session.closing.finAckId.isSome ∨ .finAck ∈ fresh)
    (heardFin : after.closing.state.heardFin ↔
      session.closing.state.heardFin ∨ .fin ∈ taken)
    (heardFinAck : after.closing.state.heardFinAck ↔
      session.closing.state.heardFinAck ∨ .finAck ∈ taken)
    (delivered : deliveredIn after.outputs =
      deliveredIn session.outputs ++ taken.filterMap ReliableBody.payload?)
    (isOver : after.closing.state = .closed → after.phase = .closed) :
    Records accepted (pushed ++ fresh) (heard ++ taken) after where
  farewell := by
    obtain ⟨farewell, member, rfl⟩ := records.farewell
    exact ⟨farewell ++ fresh, farewells farewell member, List.append_assoc _ _ _⟩
  fin := by rw [fin, records.fin, List.mem_append]
  finAck := by rw [finAck, records.finAck, List.mem_append]
  heardFin := by rw [List.mem_append, records.heardFin, heardFin]
  heardFinAck := by rw [List.mem_append, records.heardFinAck, heardFinAck]
  delivered := by rw [delivered, records.delivered, List.filterMap_append]
  isOver

theorem noting (records : Records accepted pushed heard session)
    (same : CloseMachine.Recorded [] session.closing after.closing)
    (delivered : deliveredIn after.outputs = deliveredIn session.outputs)
    (isOver : session.phase = .closed → after.phase = .closed) :
    Records accepted pushed heard after := by
  have moved : Records accepted (pushed ++ []) (heard ++ []) after := by
    apply records.moved
    · intro farewell member
      rw [same.state, List.append_nil]
      exact member
    · simp [same.fin]
    · simp [same.finAck]
    · simp [same.state]
    · simp [same.state]
    · simpa using delivered
    · rw [same.state]
      exact isOver ∘ records.isOver
  simpa using moved

theorem lingered (records : Records accepted pushed heard session)
    (ended : CloseMachine.Lingered session.closing after.closing)
    (delivered : deliveredIn after.outputs = deliveredIn session.outputs)
    (isOver : after.phase = .closed) : Records accepted pushed heard after := by
  have moved : Records accepted (pushed ++ []) (heard ++ []) after := by
    apply records.moved
    · simp [ended.state, ended.timeWait, CloseState.farewells]
    · simp [ended.fin]
    · simp [ended.finAck]
    · simp [ended.state, ended.timeWait, CloseState.heardFin]
    · simp [ended.state, ended.timeWait, CloseState.heardFinAck]
    · simpa using delivered
    · exact fun _ => isOver
  simpa using moved

theorem sent (records : Records accepted pushed heard session)
    (unfinished : session.closing.finSent = false) (deaf : Deaf session after)
    (same : after.closing = session.closing) (payload : P) :
    Records (accepted ++ [payload]) (pushed ++ [.data payload]) heard after := by
  have unsent : .fin ∉ pushed := by
    rw [← records.fin]
    simpa [CloseMachine.finSent] using unfinished
  have active : session.closing.state = .active := by
    rw [records.fin_pushed] at unsent
    exact Classical.not_not.mp unsent
  exact
    { farewell := by
        obtain ⟨farewell, farewells, rfl⟩ := records.farewell
        rw [active] at farewells
        refine ⟨[], ?_, ?_⟩
        · rw [same, active]
          exact List.mem_cons_self
        · rw [List.mem_singleton.mp farewells]
          simp
      fin := by
        rw [same, records.fin]
        simp
      finAck := by
        rw [same, records.finAck]
        simp
      heardFin := by
        rw [same]
        exact records.heardFin
      heardFinAck := by
        rw [same]
        exact records.heardFinAck
      delivered := deaf.delivered.trans records.delivered
      isOver := by
        rw [same]
        exact deaf.isOver ∘ records.isOver }

theorem closes (records : Records accepted pushed heard session) (deaf : Deaf session after)
    (recorded : CloseMachine.Recorded session.closing.localClose.2
      session.closing.localClose.1 after.closing) :
    Records accepted (pushed ++ CloseAction.bodies session.closing.localClose.2) heard after := by
  by_cases active : session.closing.state = .active
  · have decided : session.closing.localClose =
        ({ session.closing with state := .finWait1 }, [.sendFin, .enter .finWait1]) := by
      simp [CloseMachine.localClose, active]
    rw [decided] at recorded ⊢
    have state : after.closing.state = .finWait1 := recorded.state
    have moved : Records accepted (pushed ++ [.fin]) (heard ++ []) after := by
      apply records.moved
      · simp [active, state, CloseState.farewells]
      · simp [recorded.fin]
      · simp [recorded.finAck]
      · simp [active, state, CloseState.heardFin]
      · simp [active, state, CloseState.heardFinAck]
      · simpa using deaf.delivered
      · simp [state]
    simpa [CloseAction.body?] using moved
  · have begun : session.closing.localClose = (session.closing, []) := by
      unfold CloseMachine.localClose
      split
      · next isActive => exact absurd isActive active
      · next waiting =>
          obtain ⟨farewell, farewells, _⟩ := records.farewell
          simp [waiting, CloseState.farewells] at farewells
      · rfl
    rw [begun] at recorded ⊢
    rw [CloseAction.bodies_nil, List.append_nil]
    exact records.noting recorded deaf.delivered deaf.isOver

theorem not_closeWait (records : Records accepted pushed heard session) :
    session.closing.state ≠ .closeWait := by
  intro waiting
  obtain ⟨farewell, farewells, _⟩ := records.farewell
  simp [waiting, CloseState.farewells] at farewells

variable {noted : CloseMachine}

theorem onFin_ok (records : Records accepted pushed heard session) (unheard : .fin ∉ heard)
    (same : CloseMachine.Recorded [] session.closing noted) :
    ∃ decision, noted.onFin = .ok decision := by
  rw [records.heardFin] at unheard
  have waiting := records.not_closeWait
  rw [← same.state] at unheard waiting
  unfold CloseMachine.onFin
  cases state : noted.state <;> simp_all [CloseState.heardFin]

theorem onFinAck_ok (records : Records accepted pushed heard session)
    (unheard : .finAck ∉ heard) (asked : .fin ∈ pushed)
    (same : CloseMachine.Recorded [] session.closing noted) :
    ∃ decision, noted.onFinAck = .ok decision := by
  rw [records.heardFinAck] at unheard
  rw [records.fin_pushed] at asked
  have waiting := records.not_closeWait
  rw [← same.state] at unheard waiting asked
  unfold CloseMachine.onFinAck
  cases state : noted.state <;> simp_all [CloseState.heardFinAck]

/-- The first FinAck is owed until the peer's Fin was heard. -/
theorem owedFinAck_eq (records : Records accepted pushed heard session)
    (same : CloseMachine.Recorded [] session.closing noted)
    (unheard : noted.state.heardFin = false) : noted.owedFinAck = [.sendFinAck] := by
  have unsent : ¬session.closing.finAckId.isSome := by
    rw [records.finAck, records.finAck_pushed, ← same.state, unheard]
    simp
  have none : noted.finAckId = none := by
    have kept := same.finAck
    simpa [unsent] using kept
  simp [CloseMachine.owedFinAck, none]

/-- A Fin that had a place was heard: a FinAck goes out, and a Fin unless there
was one before. -/
theorem hears_fin (records : Records accepted pushed heard session)
    (same : CloseMachine.Recorded [] session.closing noted) {machine : CloseMachine}
    {actions : List CloseAction} (decided : noted.onFin = .ok (machine, actions))
    (recorded : CloseMachine.Recorded actions machine after.closing)
    (delivered : deliveredIn after.outputs = deliveredIn session.outputs) :
    Records accepted (pushed ++ CloseAction.bodies actions) (heard ++ [.fin]) after := by
  have fin := recorded.fin
  have finAck := recorded.finAck
  have state := recorded.state
  unfold CloseMachine.onFin at decided
  split at decided <;> simp only [Except.ok.injEq, Prod.mk.injEq, reduceCtorEq] at decided
  all_goals
    next was =>
      obtain ⟨rfl, rfl⟩ := decided
      have before := same.state.symm.trans was
      rw [records.owedFinAck_eq same (by rw [was]; rfl)] at fin finAck ⊢
      apply records.moved
      · simp [before, state, CloseState.farewells, CloseAction.body?]
      · simp [fin, same.fin, CloseAction.body?]
      · simp [finAck, same.finAck, CloseAction.body?]
      · simp [before, state, CloseState.heardFin]
      · simp [before, state, CloseState.heardFinAck]
      · rw [delivered]
        exact (List.append_nil _).symm
      · simp [state]

private theorem hears_finAck (records : Records accepted pushed heard session)
    (same : CloseMachine.Recorded [] session.closing noted) {machine : CloseMachine}
    {actions : List CloseAction} (decided : noted.onFinAck = .ok (machine, actions))
    (recorded : CloseMachine.Recorded [] machine after.closing)
    (isOver : machine.state = .closed → after.phase = .closed)
    (delivered : deliveredIn after.outputs = deliveredIn session.outputs) :
    Records accepted pushed (heard ++ [.finAck]) after := by
  have fin := recorded.fin
  have finAck := recorded.finAck
  have state := recorded.state
  rw [← state] at isOver
  have moved : Records accepted (pushed ++ []) (heard ++ [.finAck]) after := by
    unfold CloseMachine.onFinAck at decided
    split at decided <;> simp only [Except.ok.injEq, Prod.mk.injEq, reduceCtorEq] at decided
    all_goals
      next was =>
        obtain ⟨rfl, rfl⟩ := decided
        have before := same.state.symm.trans was
        cases early : noted.peerFinAcked <;> simp only [early, if_true] at state
        all_goals
          apply records.moved
          · simp [before, state, CloseState.farewells]
          · simp [fin, same.fin]
          · simp [finAck, same.finAck]
          · simp [before, state, CloseState.heardFin]
          · simp [before, state, CloseState.heardFinAck]
          · rw [delivered]
            exact (List.append_nil _).symm
          · exact isOver
  simpa using moved

variable {peer fresh taken : List (ReliableBody P)} {count : Nat} {body : ReliableBody P}

/-- Whoever lingers has heard everything, so nothing can be next. -/
theorem not_timeWait (records : Records accepted pushed (peer.take count) session)
    (mannered : Mannered peer) (next : peer[count]? = some body) :
    session.closing.state ≠ .timeWait := by
  intro lingers
  have fin : .fin ∈ peer.take count := by
    rw [records.heardFin, lingers]
    rfl
  have finAck : .finAck ∈ peer.take count := by
    rw [records.heardFinAck, lingers]
    rfl
  have all := mannered.heard_all fin finAck
  have inside := (List.getElem?_eq_some_iff.mp next).1
  omega

/-- An end that has heard a part of a mannered history takes in the next body of it. -/
theorem hears (records : Records accepted pushed (peer.take count) session)
    (mannered : Mannered peer) (asked : .finAck ∈ peer → .fin ∈ pushed)
    (running : session.phase ≠ .closed) (next : peer[count]? = some body)
    (hears : Hears session after body fresh) :
    Records accepted (pushed ++ fresh) (peer.take count ++ [body]) after := by
  cases hears with
  | @payload payload same delivered =>
      have moved : Records accepted (pushed ++ []) (peer.take count ++ [.data payload]) after := by
        apply records.moved
        · intro farewell member
          rw [same.state, List.append_nil]
          exact member
        · simp [same.fin]
        · simp [same.finAck]
        · simp [same.state]
        · simp [same.state]
        · rw [delivered]
          rfl
        · rw [same.state]
          exact fun ended => absurd (records.isOver ended) running
      simpa using moved
  | fin same decided recorded delivered =>
      exact records.hears_fin same decided recorded delivered
  | finAck same decided recorded isOver delivered =>
      rw [List.append_nil]
      exact records.hears_finAck same decided recorded isOver delivered
  | lingered ended isOver delivered =>
      exact absurd ended.timeWait (records.not_timeWait mannered next)
  | violated same unexpected unchanged isOver delivered =>
      rcases unexpected with ⟨rfl, cause, refused⟩ | ⟨rfl, cause, refused⟩
      · obtain ⟨decision, decided⟩ := records.onFin_ok (mannered.unheard rfl next) same
        simp [decided] at refused
      · have asked' := asked (List.mem_of_getElem? next)
        obtain ⟨decision, decided⟩ :=
          records.onFinAck_ok (mannered.unheard rfl next) asked' same
        simp [decided] at refused

/-- Every turn of an end whose peer is mannered leaves it as closing has come. -/
theorem turn (records : Records accepted pushed (peer.take count) session)
    (mannered : Mannered peer) (asked : .finAck ∈ peer → .fin ∈ pushed)
    (connected : session.current.isSome → session.phase = .connected)
    (next : ∀ body ∈ taken, peer[count]? = some body)
    (turn : Turn session after fresh taken) :
    Records (accepted ++ fresh.filterMap ReliableBody.payload?) (pushed ++ fresh)
      (peer.take (count + taken.length)) after := by
  cases turn with
  | quiet deaf same => simpa using records.noting same deaf.delivered deaf.isOver
  | expired deaf ended isOver => simpa using records.lingered ended deaf.delivered isOver
  | sent deaf _ unfinished same => exact records.sent unfinished deaf same _
  | closes deaf _ recorded =>
      have silent : (CloseAction.bodies session.closing.localClose.2).filterMap
          ReliableBody.payload? = ([] : List P) := by
        unfold CloseMachine.localClose
        split <;> rfl
      rw [silent, List.append_nil]
      exact records.closes deaf recorded
  | @hears body _ bound _ hears =>
      have here : peer[count]? = some body := next body (by simp)
      have silent : fresh.filterMap ReliableBody.payload? = [] := by
        cases hears with
        | fin _ decided _ _ => exact (CloseMachine.onFin_cases decided).2.2
        | _ => rfl
      have one : peer.take (count + [body].length) = peer.take count ++ [body] := by
        rw [List.length_singleton, List.take_add_one, here]
        rfl
      rw [silent, List.append_nil, one]
      exact records.hears mannered asked (by simp [connected bound]) here hears

end Records

end Session

end ResumableSession
