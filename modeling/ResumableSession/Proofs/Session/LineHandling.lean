import ResumableSession.Proofs.Session.Outcome

/-!
# What a step does to lines

While a session works on an input it has up to three lines at hand: the bound one, the
pending one and the one that comes with the input.  Whatever it does to lines is a
sequence of acts on these, whether or not its books are in order.
-/

namespace ResumableSession

variable {P : Type}

/-- A line that comes with an input, and the answer that it is owed if a peer dialed it. -/
structure Offer (P : Type) where
  line : Line
  answer : Option (Packet P)

/-- The lines at hand. -/
structure Desk (P : Type) where
  current : Option Line
  pending : Option Line
  offered : Option (Offer P)

/-- The lines that were closed, oldest first. -/
def closedIn (actions : List (LineAction P)) : List LineId :=
  actions.filterMap fun
    | .close line _ => some line
    | .send .. => none

@[simp] theorem closedIn_append (earlier later : List (LineAction P)) :
    closedIn (earlier ++ later) = closedIn earlier ++ closedIn later :=
  List.filterMap_append

@[simp] theorem closedIn_nil : closedIn ([] : List (LineAction P)) = [] := rfl

@[simp] theorem closedIn_close (line : LineId) (graceful : Bool) (actions : List (LineAction P)) :
    closedIn (.close line graceful :: actions) = line :: closedIn actions := rfl

@[simp] theorem closedIn_send (line : LineId) (packet : Packet P)
    (actions : List (LineAction P)) :
    closedIn (.send line packet :: actions) = closedIn actions := rfl

namespace Desk

/-- The lines that are not bound. -/
def waiting (desk : Desk P) : List LineId :=
  (desk.pending.map (·.id)).toList ++ (desk.offered.map (·.line.id)).toList

/-- All lines at hand. -/
def ids (desk : Desk P) : List LineId := (desk.current.map (·.id)).toList ++ desk.waiting

/-- One act of a session: what it does to the lines at hand, and which it has after it. -/
inductive Act : Desk P → List (LineAction P) → Desk P → Prop where
  /-- The bound line is sent a packet. -/
  | send {line : Line} {pending : Option Line} {offered : Option (Offer P)} {packet : Packet P}
      (ordinary : packet.isOrdinary) :
      Act ⟨some line, pending, offered⟩ [.send line.id packet] ⟨some line, pending, offered⟩
  /-- The bound line is closed. -/
  | close {line : Line} {pending : Option Line} {offered : Option (Offer P)} (graceful : Bool) :
      Act ⟨some line, pending, offered⟩ [.close line.id graceful] ⟨none, pending, offered⟩
  /-- The pending line is closed. -/
  | giveUp {current : Option Line} {line : Line} {offered : Option (Offer P)} :
      Act ⟨current, some line, offered⟩ [.close line.id false] ⟨current, none, offered⟩
  /-- The offered line is closed. -/
  | turnAway {current pending : Option Line} {offer : Offer P} :
      Act ⟨current, pending, some offer⟩ [.close offer.line.id false] ⟨current, pending, none⟩
  /-- A line that nobody answers yet becomes the pending one. -/
  | dial {current : Option Line} {line : Line} :
      Act ⟨current, none, some ⟨line, none⟩⟩ [] ⟨current, some line, none⟩
  /-- The pending line becomes the bound one. -/
  | bind {line : Line} {offered : Option (Offer P)} :
      Act ⟨none, some line, offered⟩ [] ⟨some line, none, offered⟩
  /-- The offered line is answered and takes the place of the bound one. -/
  | attach {current pending : Option Line} {line : Line} {answer : Packet P} :
      Act ⟨current, pending, some ⟨line, some answer⟩⟩
        (.send line.id answer :: current.toList.map fun closed => .close closed.id false)
        ⟨some line, pending, none⟩

/-- One act after the other. -/
inductive Acts : Desk P → List (LineAction P) → Desk P → Prop where
  | stay (desk : Desk P) : Acts desk [] desk
  | next {first second third : Desk P} {actions later : List (LineAction P)}
      (act : Act first actions second) (rest : Acts second later third) :
      Acts first (actions ++ later) third

namespace Acts

variable {first second third : Desk P} {earlier later : List (LineAction P)}

theorem trans (acts : Acts first earlier second) (rest : Acts second later third) :
    Acts first (earlier ++ later) third := by
  induction acts with
  | stay desk => exact rest
  | next act _ induction =>
      rw [List.append_assoc]
      exact .next act (induction rest)

theorem single (act : Act first earlier second) : Acts first earlier second := by
  have acts := Acts.next act (.stay second)
  rwa [List.append_nil] at acts

theorem move (acts : Acts first earlier second) (act : Act second [] third) :
    Acts first earlier third := by
  have moved := acts.trans (.single act)
  rwa [List.append_nil] at moved

variable {current pending : Option Line} {offered : Option (Offer P)}

theorem sends {line : Line} (packets : List (Packet P))
    (ordinary : ∀ packet ∈ packets, packet.isOrdinary) :
    Acts ⟨some line, pending, offered⟩ (packets.map (.send line.id))
      ⟨some line, pending, offered⟩ := by
  induction packets with
  | nil => exact .stay _
  | cons packet packets induction =>
      rw [List.forall_mem_cons] at ordinary
      exact .next (.send ordinary.1) (induction ordinary.2)

private theorem sendOn {packet : Packet P} (ordinary : packet.isOrdinary) :
    Acts ⟨current, pending, offered⟩ (current.toList.map fun line => .send line.id packet)
      ⟨current, pending, offered⟩ := by
  cases current with
  | none => exact .stay _
  | some line => exact .single (.send ordinary)

theorem close (graceful : Bool) :
    Acts ⟨current, pending, offered⟩ (current.toList.map fun closed => .close closed.id graceful)
      ⟨none, pending, offered⟩ := by
  cases current with
  | none => exact .stay _
  | some line => exact .single (.close graceful)

theorem giveUp :
    Acts ⟨current, pending, offered⟩ (pending.toList.map fun closed => .close closed.id false)
      ⟨current, none, offered⟩ := by
  cases pending with
  | none => exact .stay _
  | some line => exact .single .giveUp

end Acts

end Desk

namespace Session

/-- The line that comes with an input, with its answer. -/
def offer? (session : Session P) : Input P → Option (Offer P)
  | .bindPending line => some ⟨line, none⟩
  | .attachCreated line => some ⟨line, some (.createResponse session.sessionId)⟩
  | .attachRebind line _ => some ⟨line, some (.rebindResponse session.delivery.lastRecvId)⟩
  | _ => none

theorem map_offer? (session : Session P) (input : Input P) :
    (session.offer? input).map (·.line) = input.offered? := by
  cases input <;> rfl

/-- The lines of a session and one that is offered to it. -/
def desk (session : Session P) (offered : Option (Offer P)) : Desk P :=
  ⟨session.current, session.pending, offered⟩

/-- The lines that a session has at hand for an input.  One that is reported gone is not
among them. -/
def deskFor (session : Session P) : Input P → Desk P
  | .lineClosed line =>
      if session.pending.map (·.id) = some line then ⟨session.current, none, none⟩
      else if session.current.map (·.id) = some line then ⟨none, session.pending, none⟩
      else session.desk none
  | input => session.desk (session.offer? input)

/-- All that was done to lines are acts, and a graceful close comes with a graceful end. -/
def Handles (start : Desk P) (left : Option (Offer P)) (before after : Session P) : Prop :=
  ∃ actions outputs, after.actions = before.actions ++ actions ∧
    after.outputs = before.outputs ++ outputs ∧ Desk.Acts start actions (after.desk left) ∧
    ∀ line, .close line true ∈ actions → .closed .graceful ∈ outputs

namespace Handles

variable {start : Desk P} {offered left : Option (Offer P)} {before middle after : Session P}

theorem trans (earlier : Handles start offered before middle)
    (later : Handles (middle.desk offered) left middle after) :
    Handles start left before after := by
  obtain ⟨actions, outputs, acted, told, acts, graceful⟩ := earlier
  obtain ⟨actions', outputs', acted', told', acts', graceful'⟩ := later
  refine ⟨actions ++ actions', outputs ++ outputs', ?_, ?_, acts.trans acts', ?_⟩
  · rw [acted', acted, List.append_assoc]
  · rw [told', told, List.append_assoc]
  · intro line member
    rcases List.mem_append.mp member with old | new
    · exact List.mem_append_left _ (graceful line old)
    · exact List.mem_append_right _ (graceful' line new)

theorem still (current : after.current = before.current) (pending : after.pending = before.pending)
    (actions : after.actions = before.actions) {outputs : List (Output P)}
    (told : after.outputs = before.outputs ++ outputs) :
    Handles (before.desk offered) offered before after := by
  refine ⟨[], outputs, ?_, told, ?_, by simp⟩
  · rw [actions, List.append_nil]
  · rw [desk, desk, current, pending]
    exact .stay _

theorem acts {actions : List (LineAction P)} (acted : after.actions = before.actions ++ actions)
    (told : after.outputs = before.outputs) (acts : Desk.Acts start actions (after.desk left))
    (abrupt : ∀ line, .close line true ∉ actions) : Handles start left before after :=
  ⟨actions, [], acted, by rw [told, List.append_nil], acts,
    fun line member => absurd member (abrupt line)⟩

theorem refl (session : Session P) : Handles (session.desk offered) offered session session :=
  .still rfl rfl rfl (List.append_nil _).symm

end Handles

section

variable (session : Session P) {offered : Option (Offer P)}

private theorem handles_terminate (reason : CloseReason) :
    Handles (session.desk offered) offered session (session.terminate reason) := by
  rw [terminate_eq]
  refine ⟨_, [.closed reason], List.append_assoc _ _ _, rfl, .trans (.close _) .giveUp, ?_⟩
  intro line member
  simp only [List.mem_append, List.mem_map, LineAction.close.injEq, beq_iff_eq, Bool.false_eq_true,
    and_false, exists_false, or_false] at member
  obtain ⟨_, _, _, rfl⟩ := member
  exact List.mem_singleton_self _

private theorem handles_dropLine :
    Handles (session.desk offered) offered session session.dropLine := by
  rw [dropLine_eq]
  split
  · exact .refl session
  · exact .acts rfl rfl (.close false) (by simp)

private theorem handles_startRebind :
    Handles (session.desk offered) offered session session.startRebind := by
  rw [startRebind_eq]
  exact ⟨_, _, rfl, rfl, .giveUp, by simp⟩

private theorem handles_sendAck :
    Handles (session.desk offered) offered session session.sendAck := by
  rw [sendAck_eq]
  exact .acts rfl rfl (.sendOn rfl) (by simp)

private theorem handles_sendPing (clock : UInt32) :
    Handles (session.desk offered) offered session (session.sendPing clock) := by
  rw [sendPing_eq]
  exact .acts rfl rfl (.sendOn rfl) (by simp)

private theorem handles_flush : Handles (session.desk offered) offered session session.flush := by
  unfold flush
  split
  · exact .refl session
  · split
    · next delivery packets _ =>
        rw [foldl_sendOnCurrent]
        refine .acts rfl rfl ?_ (by simp)
        unfold desk
        cases session.current with
        | none => exact .stay _
        | some line =>
            simp only [Option.toList_some, List.flatMap_singleton]
            exact .sends _ (by simp [Packet.isOrdinary])
    · exact handles_terminate session .bookkeeping

private theorem handles_pushReliable (body : ReliableBody P) :
    Handles (session.desk offered) offered session (session.pushReliable body).1 :=
  handles_flush { session with delivery := (session.delivery.push body).1 }

private theorem handles_applyAction (action : CloseAction) :
    Handles (session.desk offered) offered session (session.applyAction action) := by
  unfold applyAction
  split
  · exact .refl session
  · cases action with
    | sendFin => exact handles_pushReliable session .fin
    | sendFinAck => exact handles_pushReliable session .finAck
    | sendAck => exact handles_sendAck session
    | enter state =>
        have entered : Handles (session.desk offered) offered session
            (session.emit (.closeStateChanged state)) := .still rfl rfl rfl rfl
        cases state with
        | closed => exact entered.trans (handles_terminate _ .graceful)
        | _ => exact entered

private theorem handles_foldl_applyAction (actions : List CloseAction) :
    ∀ session : Session P,
      Handles (session.desk offered) offered session (actions.foldl applyAction session) := by
  induction actions with
  | nil => exact .refl
  | cons action actions induction =>
      intro session
      exact (handles_applyAction session action).trans (induction _)

private theorem handles_applyClose (decision : CloseMachine × List CloseAction) :
    Handles (session.desk offered) offered session (session.applyClose decision) :=
  handles_foldl_applyAction decision.2 { session with closing := decision.1 }

private theorem handles_onDue (clock : UInt32) (event : LivenessEvent) :
    Handles (session.desk offered) offered session (onDue clock session event) := by
  unfold onDue
  split
  · exact .refl session
  · cases event with
    | offlineExpired => exact handles_terminate session .offlineTimeout
    | rebindDue => exact handles_startRebind session
    | sendPing => exact handles_sendPing session clock
    | aliveWaitExpired => exact handles_dropLine session
    | timeWaitExpired => exact handles_applyClose session _

private theorem handles_foldl_onDue (clock : UInt32) (due : List LivenessEvent) :
    ∀ session : Session P,
      Handles (session.desk offered) offered session (due.foldl (onDue clock) session) := by
  induction due with
  | nil => exact .refl
  | cons event due induction =>
      intro session
      exact (handles_onDue session clock event).trans (induction _)

private theorem handles_update (time : Duration) (clock : UInt32) :
    Handles (session.desk offered) offered session (session.update time clock) := by
  unfold update
  split
  · exact .refl session
  · have acted : Handles (session.desk offered) offered session _ :=
      handles_foldl_onDue clock (session.liveness.tick time).2
        { session with liveness := (session.liveness.tick time).1 }
    simp only
    split
    · exact acted.trans (handles_sendAck _)
    · exact acted

private theorem handles_removeAcked (ack : UInt32) :
    Handles (session.desk offered) offered session (session.removeAcked ack) := by
  unfold removeAcked
  simp only
  split
  · exact .still rfl rfl rfl (List.append_nil _).symm
  · exact handles_applyClose { session with delivery := (session.delivery.removeAcked ack).1 } _

private theorem handles_resync (ack : UInt32) :
    Handles (session.desk offered) offered session (session.resync ack) := by
  have noted : Handles (session.desk offered) offered session (session.removeAcked ack) :=
    handles_removeAcked session ack
  unfold resync
  simp only
  split
  · exact noted
  · exact noted.trans
      (handles_flush
        { session.removeAcked ack with
          delivery := (session.removeAcked ack).delivery.rewindLine ack })

end

section

variable {session after : Session P} {offered : Option (Offer P)}

theorem BodyOutcome.handles {body : ReliableBody P} (outcome : BodyOutcome session body after) :
    Handles (session.desk offered) offered session after := by
  cases outcome with
  | delivered => exact .still rfl rfl rfl rfl
  | fin decided => exact handles_applyClose session _
  | finAck decided => exact handles_applyClose session _
  | unexpectedFin refused => exact handles_terminate session _
  | unexpectedFinAck refused => exact handles_terminate session _

theorem PacketOutcome.handles {packet : Packet P} (outcome : PacketOutcome session packet after) :
    Handles (session.desk offered) offered session after := by
  have noted (delivery : Delivery P) (ack : UInt32) :
      Handles (session.desk offered) offered session (removeAcked { session with delivery } ack) :=
    handles_removeAcked { session with delivery } ack
  cases outcome with
  | gap refused => exact handles_dropLine session
  | misplaced strange => exact handles_dropLine session
  | duplicate known => exact .refl session
  | ended accepted isOver => exact noted _ _
  | taken accepted open_ body => exact (noted _ _).trans body.handles
  | acked => exact handles_removeAcked session _
  | echoed =>
      rw [sendOnCurrent_eq]
      exact .acts rfl rfl (.sendOn rfl) (by simp)
  | measured => exact .still rfl rfl rfl rfl
  | unmeasured => exact .refl session

private theorem handles_turnAway {line : Line} (came : offered.map (·.line) = some line) :
    Handles (session.desk offered) none session (session.discard (some line)) := by
  obtain ⟨offer, rfl, rfl⟩ := Option.map_eq_some_iff.mp came
  rw [discard_eq]
  exact .acts rfl rfl (.single .turnAway) (by simp)

private theorem handles_bind {line : Line} (shaking : session.pending = some line)
    (sessionId : UInt32) :
    Handles (session.desk offered) offered session
      (bindCurrent { session with pending := none, sessionId } line) := by
  rw [bindCurrent_eq]
  refine .acts rfl rfl ?_ (by simp)
  rw [desk, shaking]
  exact .move (.close false) .bind

private theorem handles_attach (line : Line) (answer : Packet P) :
    Handles (session.desk (some ⟨line, some answer⟩)) none session
      (bindCurrent { session.act (.send line.id answer) with lastLineIndex := line.index }
        line) := by
  rw [bindCurrent_eq]
  exact .acts (List.append_assoc _ _ _) rfl (.single .attach) (by simp)

/-- Whatever an input comes to, all that is done to lines are acts. -/
theorem Outcome.handles {input : Input P} (outcome : Outcome session input after)
    (reportless : ∀ line, input ≠ .lineClosed line) :
    Handles (session.desk (session.offer? input)) none session after := by
  have offers := session.map_offer? input
  cases outcome with
  | unchanged unoffered =>
      rw [unoffered, Option.map_eq_none_iff] at offers
      rw [offers]
      exact .refl session
  | pushed running unsent => exact handles_pushReliable session _
  | aborted connecting => exact handles_terminate session _
  | closes connected => exact handles_applyClose session _
  | ended running => exact handles_terminate session _
  | elapsed running => exact handles_update session _ _
  | dialed running =>
      rw [discard_eq]
      exact .acts rfl rfl (.move .giveUp .dial) (by simp)
  | turnedAway offered => exact handles_turnAway (offers.trans offered)
  | givenUp unoffered silent shaking =>
      rw [unoffered, Option.map_eq_none_iff] at offers
      rw [offers, discard_eq, ← shaking]
      exact .acts rfl rfl .giveUp (by simp)
  | @created line sessionId shaking connecting =>
      refine (handles_bind shaking sessionId).trans (Handles.trans ?_ (handles_flush _))
      exact .still rfl rfl rfl rfl
  | accepted connecting =>
      refine (handles_attach _ _).trans (Handles.trans ?_ (handles_flush _))
      exact .still rfl rfl rfl rfl
  | rebound shaking connected checked =>
      exact (handles_bind shaking session.sessionId).trans (handles_resync _ _)
  | resumed connected current checked => exact (handles_attach _ _).trans (handles_resync _ _)
  | @unresumable line serverAck cause shaking connected refused =>
      have given : Handles (session.desk none) none session
          (discard { session with pending := none } (some line)) := by
        rw [discard_eq, ← shaking]
        exact .acts rfl rfl .giveUp (by simp)
      exact given.trans (handles_terminate _ _)
  | rejected connected current refused =>
      exact (handles_turnAway offers).trans (handles_terminate _ _)
  | unreachable => exact absurd rfl (reportless _)
  | failed => exact absurd rfl (reportless _)
  | lost => exact absurd rfl (reportless _)
  | lostPending => exact absurd rfl (reportless _)
  | lostCurrent => exact absurd rfl (reportless _)
  | heard running bound arrives => exact arrives.handles

private theorem handles_lineClosed (line : LineId) :
    Handles (session.deskFor (.lineClosed line)) none session (session.onLineClosed line) := by
  by_cases shaking : session.pending.map (·.id) = some line
  · simp only [onLineClosed, deskFor, if_pos shaking]
    split
    · exact handles_terminate { session with pending := none } .connectFailed
    · exact .acts (List.append_nil _).symm rfl (.stay _) (by simp)
    · exact .acts (List.append_nil _).symm rfl (.stay _) (by simp)
  · by_cases bound : session.current.map (·.id) = some line
    · simp only [onLineClosed, deskFor, if_neg shaking, if_pos bound]
      split <;> exact .acts (List.append_nil _).symm rfl (.stay _) (by simp)
    · simp only [onLineClosed, deskFor, if_neg shaking, if_neg bound]
      exact .refl session

/-- All that a step does to lines are acts on those at hand. -/
theorem handles_step (session : Session P) (input : Input P) :
    Handles (session.deskFor input) none session (session.step input) := by
  have outcome := session.outcome_step input
  cases input with
  | lineClosed line => exact handles_lineClosed line
  | _ => exact outcome.handles (by simp)

end

end Session

end ResumableSession
