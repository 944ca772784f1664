import ResumableSession.Gateway.Dispatch
import ResumableSession.Proofs.Gateway.Registry
import Mathlib.Data.List.Induction
import Mathlib.Data.List.Infix

/-!
# Sessions of a gateway

The openings and closings that a gateway reports come in pairs: the live sessions are
those that were opened and not closed yet.  From this follow which lines find a session,
and when the gateway ends.
-/

namespace ResumableSession

variable {C : Type}

namespace GatewayEffect

/-- The session that is reported open. -/
@[simp] def opened? : GatewayEffect C → Option UInt32
  | .report (.sessionOpened id _) => some id
  | _ => none

/-- The session that is reported closed. -/
@[simp] def closed? : GatewayEffect C → Option UInt32
  | .report (.sessionClosed id _) => some id
  | _ => none

end GatewayEffect

/-- The sessions that were reported open, oldest first. -/
def openingsIn (effects : List (GatewayEffect C)) : List UInt32 :=
  effects.filterMap GatewayEffect.opened?

/-- The sessions that were reported closed, oldest first. -/
def closingsIn (effects : List (GatewayEffect C)) : List UInt32 :=
  effects.filterMap GatewayEffect.closed?

/-- The sessions whose drivers have returned, oldest first. -/
def endingsIn (inputs : List (GatewayInput C)) : List UInt32 :=
  inputs.filterMap fun
    | .sessionEnded id _ => some id
    | _ => none

private theorem endingsIn_of_lasting {input : GatewayInput C}
    (lasting : ∀ id reason, input ≠ .sessionEnded id reason) : endingsIn [input] = [] := by
  cases input with
  | sessionEnded id reason => exact absurd rfl (lasting id reason)
  | _ => rfl

/-- A session was reported open under this id, and not closed since. -/
def OpenIn (effects : List (GatewayEffect C)) (id : UInt32) : Prop :=
  (closingsIn effects).count id < (openingsIn effects).count id

@[simp] theorem openingsIn_append (earlier later : List (GatewayEffect C)) :
    openingsIn (earlier ++ later) = openingsIn earlier ++ openingsIn later :=
  List.filterMap_append

@[simp] theorem closingsIn_append (earlier later : List (GatewayEffect C)) :
    closingsIn (earlier ++ later) = closingsIn earlier ++ closingsIn later :=
  List.filterMap_append

theorem endingsIn_append (earlier later : List (GatewayInput C)) :
    endingsIn (earlier ++ later) = endingsIn earlier ++ endingsIn later :=
  List.filterMap_append

/-- What may be reported of a session depends on what was. -/
def GatewayEffect.Fits (earlier : List (GatewayEffect C)) : GatewayEffect C → Prop
  | .report (.sessionOpened id _) => id ≠ 0 ∧ ¬OpenIn earlier id
  | .report (.sessionClosed id _) => OpenIn earlier id
  | _ => True

/-- Every report fits those before it. -/
def Paired (effects : List (GatewayEffect C)) : Prop :=
  ∀ (place : Nat) (effect : GatewayEffect C), effects[place]? = some effect →
    effect.Fits (effects.take place)

/-- No session is reported open or closed. -/
def Silent (effects : List (GatewayEffect C)) : Prop :=
  ∀ effect ∈ effects, effect.opened? = none ∧ effect.closed? = none

section

variable {effects later : List (GatewayEffect C)}

theorem Paired.concat (paired : Paired effects) {effect : GatewayEffect C}
    (fits : effect.Fits effects) : Paired (effects ++ [effect]) := by
  intro place other at_
  rcases Nat.lt_trichotomy place effects.length with before | rfl | behind
  · rw [List.getElem?_append_left before] at at_
    rw [List.take_append_of_le_length (Nat.le_of_lt before)]
    exact paired place other at_
  · rw [List.getElem?_concat_length, Option.some.injEq] at at_
    rw [List.take_left, ← at_]
    exact fits
  · rw [List.getElem?_eq_none (by simp; omega)] at at_
    cases at_

theorem Silent.fits {effect : GatewayEffect C} (silent : effect.opened? = none ∧ effect.closed? = none) :
    effect.Fits effects := by
  unfold GatewayEffect.Fits
  split <;> simp_all

theorem Paired.silent (silent : Silent later) :
    ∀ {effects : List (GatewayEffect C)}, Paired effects → Paired (effects ++ later) := by
  induction later with
  | nil =>
      intro effects paired
      rwa [List.append_nil]
  | cons effect later induction =>
      intro effects paired
      unfold Silent at silent
      rw [List.forall_mem_cons] at silent
      rw [List.append_cons]
      exact induction silent.2 (paired.concat (Silent.fits silent.1))

private theorem Silent.openingsIn_eq (silent : Silent later) : openingsIn later = [] :=
  List.filterMap_eq_nil_iff.mpr fun effect member => (silent effect member).1

private theorem Silent.closingsIn_eq (silent : Silent later) : closingsIn later = [] :=
  List.filterMap_eq_nil_iff.mpr fun effect member => (silent effect member).2

end

namespace Gateway

/-- Whether an input stops the gateway. -/
def stops : GatewayInput C → Bool
  | .stop _ => true
  | _ => false

/-- What an input comes to. -/
inductive Outcome (gateway : Gateway) :
    GatewayInput C → Gateway → List (GatewayEffect C) → Prop where
  | idle {input : GatewayInput C} (finished : gateway.isFinished = true) :
      Outcome gateway input gateway []
  | silent {input : GatewayInput C} {after : Gateway} {effects : List (GatewayEffect C)}
      (lasting : ∀ id reason, input ≠ .sessionEnded id reason)
      (live : after.registry.liveIds = gateway.registry.liveIds)
      (stopping : after.stopping = (gateway.stopping || stops input)) (silent : Silent effects) :
      Outcome gateway input after effects
  | opened {connection : C} {token : String} {id : UInt32} {tag : Option String} {after : Gateway}
      (running : gateway.stopping = false) (nonzero : id ≠ 0)
      (free : id ∉ gateway.registry.liveIds)
      (live : after.registry.liveIds = id :: gateway.registry.liveIds)
      (goesOn : after.stopping = false) :
      Outcome gateway (.handshake connection (.create token)) after
        [.startSession id connection (.create token), .report (.sessionOpened id tag)]
  | ended {id : UInt32} {reason : CloseReason} :
      Outcome gateway (.sessionEnded id reason)
        { gateway with registry := (gateway.registry.unregister id).1 }
        [.report (.sessionClosed id reason)]

section

variable (gateway : Gateway)

private theorem outcome_create (connection : C) (token : String) :
    Outcome gateway (.handshake connection (.create token))
      (gateway.createSession connection token).1 (gateway.createSession connection token).2 := by
  have refused : Silent [GatewayEffect.refuse connection] := by
    simp [Silent]
  unfold createSession
  split
  · exact .silent (by simp) rfl (by simp [stops]) refused
  · next running =>
      rw [Bool.not_eq_true] at running
      simp only
      split
      · exact .silent (by simp) rfl (by simp [stops]) refused
      · split
        · exact .silent (by simp) rfl (by simp [stops]) refused
        · next id issued found =>
            obtain ⟨nonzero, free, same⟩ := Registry.issueSessionId_eq_some found
            rw [Registry.liveIds_takeBinding] at free same
            rw [← same] at free
            have registered := (Registry.register_of_not_mem free ()).1
            rw [same] at free registered
            exact .opened running nonzero free registered running

/-- Every input comes to one of these. -/
theorem outcome_step (input : GatewayInput C) :
    Outcome gateway input (gateway.step input).1 (gateway.step input).2 := by
  unfold step
  split
  · next finished => exact .idle finished
  · cases input with
    | handshake connection handshake =>
        cases handshake with
        | create token => exact gateway.outcome_create connection token
        | rebind id index ack =>
            refine .silent (by simp) rfl (by simp [stops, handle]) ?_
            unfold Silent handle routeRebind
            simp only
            split <;> simp
    | sessionEnded id reason => exact .ended
    | openBinding token tag now =>
        exact .silent (by simp) rfl (by simp [stops, handle]) (by simp [Silent, handle])
    | sweep now =>
        exact .silent (by simp) rfl (by simp [stops, handle]) (by simp [Silent, handle])
    | stop listenOnly =>
        refine .silent (by simp) rfl (by simp [stops, handle]) ?_
        cases listenOnly <;> simp [Silent, handle]

theorem run_append (earlier later : List (GatewayInput C)) :
    ∀ gateway : Gateway, gateway.run (earlier ++ later) =
      (((gateway.run earlier).1.run later).1,
        (gateway.run earlier).2 ++ ((gateway.run earlier).1.run later).2) := by
  induction earlier with
  | nil => exact fun _ => rfl
  | cons first earlier induction =>
      intro gateway
      simp only [List.cons_append, run, induction, List.append_assoc]

private theorem run_single (input : GatewayInput C) : gateway.run [input] = gateway.step input := by
  simp [run]

end

theorem isFinished_iff {gateway : Gateway} :
    gateway.isFinished ↔ gateway.stopping ∧ gateway.registry.liveIds = [] := by
  rw [isFinished, Bool.and_eq_true, Registry.isEmpty_iff]

/-- The reports of a gateway agree with its registry. -/
structure Orderly (inputs : List (GatewayInput C)) (gateway : Gateway)
    (effects : List (GatewayEffect C)) : Prop where
  /-- A session that was opened is live or was closed. -/
  accounted : (gateway.registry.liveIds ++ closingsIn effects).Perm (openingsIn effects)
  distinct : gateway.registry.liveIds.Nodup
  paired : Paired effects
  /-- Every session that ended was reported closed. -/
  ended : closingsIn effects = endingsIn inputs
  stopped : gateway.stopping = inputs.any stops

namespace Orderly

variable {inputs : List (GatewayInput C)} {gateway : Gateway} {effects : List (GatewayEffect C)}

theorem openIn_iff (orderly : Orderly inputs gateway effects) {id : UInt32} :
    OpenIn effects id ↔ id ∈ gateway.registry.liveIds := by
  have count := orderly.accounted.count_eq id
  rw [List.count_append] at count
  rw [OpenIn, ← List.count_pos_iff]
  omega

private theorem live_of_timely (orderly : Orderly inputs gateway effects) {id : UInt32}
    {reason : CloseReason} {later : List (GatewayEffect C)} (unopening : openingsIn later = [])
    (timely : (endingsIn (inputs ++ [.sessionEnded id reason])).Subperm
      (openingsIn (effects ++ later))) : id ∈ gateway.registry.liveIds := by
  have count := orderly.accounted.count_eq id
  have ended := timely.count_le id
  rw [endingsIn_append, ← orderly.ended, openingsIn_append, unopening, List.append_nil,
    List.count_append] at ended
  rw [List.count_append] at count
  rw [← List.count_pos_iff]
  have one : (endingsIn [GatewayInput.sessionEnded (C := C) id reason]).count id = 1 :=
    List.count_singleton_self
  omega

theorem step (orderly : Orderly inputs gateway effects) {input : GatewayInput C}
    (timely : (endingsIn (inputs ++ [input])).Subperm
      (openingsIn (effects ++ (gateway.step input).2))) :
    Orderly (inputs ++ [input]) (gateway.step input).1 (effects ++ (gateway.step input).2) := by
  have outcome := gateway.outcome_step input
  generalize (gateway.step input).1 = after, (gateway.step input).2 = later at outcome timely ⊢
  have stopped : (inputs ++ [input]).any stops = (gateway.stopping || stops input) := by
    rw [List.any_append, orderly.stopped, List.any_cons, List.any_nil, Bool.or_false]
  cases outcome with
  | idle finished =>
      obtain ⟨stopping, empty⟩ := isFinished_iff.mp finished
      have lasting : ∀ id reason, input ≠ .sessionEnded id reason := by
        rintro id reason rfl
        have live := orderly.live_of_timely rfl timely
        rw [empty] at live
        cases live
      rw [List.append_nil]
      refine ⟨orderly.accounted, orderly.distinct, orderly.paired, ?_, ?_⟩
      · rw [endingsIn_append, endingsIn_of_lasting lasting, List.append_nil, orderly.ended]
      · rw [stopped, stopping, Bool.true_or]
  | silent lasting live stopping silent =>
      refine ⟨?_, ?_, orderly.paired.silent silent, ?_, ?_⟩
      · rw [live, closingsIn_append, openingsIn_append, silent.closingsIn_eq,
          silent.openingsIn_eq, List.append_nil, List.append_nil]
        exact orderly.accounted
      · rw [live]
        exact orderly.distinct
      · rw [closingsIn_append, silent.closingsIn_eq, endingsIn_append,
          endingsIn_of_lasting lasting, List.append_nil, List.append_nil, orderly.ended]
      · rw [stopping, stopped]
  | @opened connection token id tag after running nonzero free live goesOn =>
      have unopened : ¬OpenIn effects id := by
        rw [orderly.openIn_iff]
        exact free
      constructor
      case accounted =>
        have unclosed : closingsIn (effects ++ [.startSession id connection (.create token),
            .report (.sessionOpened id tag)]) = closingsIn effects :=
          (closingsIn_append _ _).trans (List.append_nil _)
        rw [live, unclosed, openingsIn_append]
        exact (orderly.accounted.cons id).trans (List.perm_append_singleton id _).symm
      case distinct =>
        rw [live, List.nodup_cons]
        exact ⟨free, orderly.distinct⟩
      case paired =>
        have started : Silent [GatewayEffect.startSession id connection (.create token)] := by
          simp [Silent]
        rw [List.append_cons]
        refine (orderly.paired.silent started).concat ⟨nonzero, ?_⟩
        rwa [OpenIn, closingsIn_append, openingsIn_append, started.closingsIn_eq,
          started.openingsIn_eq, List.append_nil, List.append_nil]
      case ended =>
        rw [closingsIn_append, endingsIn_append, orderly.ended]
        rfl
      case stopped => rw [goesOn, stopped, running]; rfl
  | @ended id reason =>
      have live := orderly.live_of_timely rfl timely
      constructor
      case accounted =>
        have unchanged : openingsIn (effects ++ [.report (.sessionClosed id reason)]) =
            openingsIn effects := (openingsIn_append _ _).trans (List.append_nil _)
        rw [Registry.liveIds_unregister orderly.distinct, closingsIn_append, unchanged,
          ← List.append_assoc]
        refine (List.perm_append_singleton id _).trans ?_
        have kept := (List.perm_cons_erase live).symm.append_right (closingsIn effects)
        exact kept.trans orderly.accounted
      case distinct =>
        rw [Registry.liveIds_unregister orderly.distinct]
        exact orderly.distinct.erase id
      case paired => exact orderly.paired.concat (orderly.openIn_iff.mpr live)
      case ended =>
        rw [closingsIn_append, endingsIn_append, orderly.ended]
        rfl
      case stopped => exact (stopped.trans (Bool.or_false _)).symm

end Orderly

private theorem orderly_ofSettings {Address : Type} (settings : GatewaySettings Address) :
    Orderly (C := C) [] (ofSettings settings) [] where
  accounted := .nil
  distinct := .nil
  paired := by simp [Paired]
  ended := rfl
  stopped := rfl

/-- Each session ends at most once, and only after it was opened. -/
def Timely (start : Gateway) (inputs : List (GatewayInput C)) : Prop :=
  ∀ earlier, earlier <+: inputs →
    (endingsIn earlier).Subperm (openingsIn (start.run earlier).2)

private theorem orderly_run {Address : Type} (settings : GatewaySettings Address)
    (inputs : List (GatewayInput C)) :
    Timely (ofSettings settings) inputs →
      Orderly inputs ((ofSettings settings).run inputs).1 ((ofSettings settings).run inputs).2 := by
  induction inputs using List.reverseRecOn with
  | nil => exact fun _ => orderly_ofSettings settings
  | append_singleton inputs input induction =>
      intro timely
      have before : Timely (ofSettings settings) inputs :=
        fun earlier early => timely earlier (early.trans (List.prefix_append _ _))
      have now := timely _ List.prefix_rfl
      rw [run_append, run_single] at now ⊢
      exact (induction before).step now

/-- After it was told to stop a gateway opens no session. -/
theorem openingsIn_run (inputs : List (GatewayInput C)) :
    ∀ {gateway : Gateway}, gateway.stopping = true → openingsIn (gateway.run inputs).2 = [] := by
  induction inputs with
  | nil => exact fun _ => rfl
  | cons input inputs induction =>
      intro gateway stopping
      have outcome := gateway.outcome_step input
      rw [run]
      simp only [openingsIn_append]
      generalize (gateway.step input).1 = after, (gateway.step input).2 = effects at outcome ⊢
      cases outcome with
      | idle finished => exact induction stopping
      | silent lasting live stopped silent =>
          rw [stopping, Bool.true_or] at stopped
          rw [silent.openingsIn_eq, induction stopped]
          rfl
      | opened running =>
          rw [stopping] at running
          cases running
      | ended => exact induction stopping

private theorem openingsIn_stop (gateway : Gateway) (listenOnly : Bool)
    (later : List (GatewayInput C)) :
    openingsIn (gateway.run (.stop listenOnly :: later)).2 = [] := by
  have outcome := gateway.outcome_step (C := C) (.stop listenOnly)
  rw [run]
  simp only [openingsIn_append]
  generalize (gateway.step (.stop listenOnly)).1 = after,
    (gateway.step (.stop listenOnly)).2 = effects at outcome ⊢
  cases outcome with
  | idle finished => exact openingsIn_run later (isFinished_iff.mp finished).1
  | silent lasting live stopping silent =>
      rw [silent.openingsIn_eq, openingsIn_run later (stopping.trans (Bool.or_true _))]
      rfl

private theorem step_create {gateway : Gateway} (connection : C) {token : String}
    (running : gateway.stopping = false)
    (admitted : gateway.tokenRequired → (gateway.registry.takeBinding token).2.isSome)
    (few : gateway.registry.size + 1 < UInt32.size) :
    ∃ id, (gateway.step (.handshake connection (.create token))).2 =
      [.startSession id connection (.create token),
        .report (.sessionOpened id (gateway.registry.takeBinding token).2)] := by
  have fewer : (gateway.registry.takeBinding token).1.size + 1 < UInt32.size := few
  obtain ⟨id, issued, found⟩ := Registry.issueSessionId_isSome fewer
  refine ⟨id, ?_⟩
  have unfinished : gateway.isFinished = false := by rw [isFinished, running, Bool.false_and]
  have accepted : (gateway.tokenRequired && (gateway.registry.takeBinding token).2.isNone) = false := by
    rw [Bool.and_eq_false_iff, ← Option.not_isSome, Bool.not_eq_false']
    exact Decidable.or_iff_not_imp_left.mpr fun required => admitted (by simpa using required)
  simp only [step, unfinished, handle, createSession, running, accepted, found, Bool.false_eq_true,
    if_false]

/-- How a gateway manages its sessions, after a run and for what comes next. -/
structure Manages (start : Gateway) (inputs : List (GatewayInput C)) : Prop where
  /-- A session is opened under an id that is not zero and that no open session has. -/
  opens : ∀ place id tag, (start.run inputs).2[place]? = some (.report (.sessionOpened id tag)) →
    id ≠ 0 ∧ ¬OpenIn ((start.run inputs).2.take place) id
  /-- A session is closed that is open. -/
  closes : ∀ place id reason,
    (start.run inputs).2[place]? = some (.report (.sessionClosed id reason)) →
      OpenIn ((start.run inputs).2.take place) id
  /-- A client is admitted if its token is, unless the gateway stops or every id is taken. -/
  admits : ∀ (connection : C) (token : String), (start.run inputs).1.stopping = false →
    ((start.run inputs).1.tokenRequired →
      ((start.run inputs).1.registry.takeBinding token).2.isSome) →
    (start.run inputs).1.registry.size + 1 < UInt32.size →
    ∃ id, ((start.run inputs).1.step (.handshake connection (.create token))).2 =
      [.startSession id connection (.create token),
        .report (.sessionOpened id ((start.run inputs).1.registry.takeBinding token).2)]
  /-- No session is replaced by a new one. -/
  registers : ∀ token id issued,
    ((start.run inputs).1.registry.takeBinding token).1.issueSessionId = some (id, issued) →
      (issued.register id ()).2 = none
  /-- A line that rebinds an open session is handed to it. -/
  routes : ∀ (connection : C) (id index ack : UInt32), OpenIn (start.run inputs).2 id →
    (start.run inputs).1.step (.handshake connection (.rebind id index ack)) =
      ((start.run inputs).1, [.route id connection (.rebind id index ack)])
  /-- A line that rebinds no open session is dropped. -/
  drops : ∀ (connection : C) (id index ack : UInt32), ¬OpenIn (start.run inputs).2 id →
    ((start.run inputs).1.step (.handshake connection (.rebind id index ack))).1 =
        (start.run inputs).1 ∧
      ((start.run inputs).1.step (.handshake connection (.rebind id index ack))).2 ⊆
        [.refuse connection]
  /-- After the first stop no session is opened. -/
  stops : ∀ listenOnly later,
    openingsIn (start.run (inputs ++ .stop listenOnly :: later)).2 =
      openingsIn (start.run inputs).2
  /-- The gateway has ended once it was told to stop and every session was closed. -/
  ends : (start.run inputs).1.isFinished ↔
    (∃ listenOnly, .stop listenOnly ∈ inputs) ∧
      (closingsIn (start.run inputs).2).Perm (openingsIn (start.run inputs).2)

namespace Orderly

variable {inputs : List (GatewayInput C)} {gateway : Gateway} {effects : List (GatewayEffect C)}

private theorem not_finished (orderly : Orderly inputs gateway effects) {id : UInt32}
    (open_ : OpenIn effects id) : gateway.isFinished = false := by
  rw [orderly.openIn_iff] at open_
  by_contra finished
  rw [Bool.not_eq_false, isFinished_iff] at finished
  rw [finished.2] at open_
  cases open_

theorem finished_iff (orderly : Orderly inputs gateway effects) :
    gateway.isFinished ↔
      (∃ listenOnly, .stop listenOnly ∈ inputs) ∧
        (closingsIn effects).Perm (openingsIn effects) := by
  rw [isFinished_iff, orderly.stopped, List.any_eq_true]
  refine and_congr ?_ ?_
  · constructor
    · rintro ⟨input, member, stopping⟩
      cases input with
      | stop listenOnly => exact ⟨listenOnly, member⟩
      | _ => cases stopping
    · rintro ⟨listenOnly, member⟩
      exact ⟨_, member, rfl⟩
  · have accounted := orderly.accounted
    constructor
    · intro empty
      rwa [empty, List.nil_append] at accounted
    · intro matched
      have lengths := (accounted.trans matched.symm).length_eq
      rw [List.length_append] at lengths
      exact List.eq_nil_of_length_eq_zero (by omega)

end Orderly

/-- Whatever comes to a gateway, as long as its sessions end once each and after they
were opened: ids of open sessions differ, a line finds the session that is open under its
id, and the gateway ends when it was told to stop and every session was closed. -/
theorem run_manages {Address : Type} (settings : GatewaySettings Address)
    (inputs : List (GatewayInput C)) (timely : Timely (ofSettings settings) inputs) :
    (ofSettings settings).Manages inputs := by
  have orderly := orderly_run settings inputs timely
  constructor
  case opens => exact fun place id tag at_ => orderly.paired place _ at_
  case closes => exact fun place id reason at_ => orderly.paired place _ at_
  case admits => exact fun connection token => step_create connection
  case registers =>
    intro token id issued found
    obtain ⟨_, free, same⟩ := Registry.issueSessionId_eq_some found
    rw [← same] at free
    exact (Registry.register_of_not_mem free ()).2
  case routes =>
    intro connection id index ack open_
    have unfinished := orderly.not_finished open_
    have registered : ((ofSettings settings).run inputs).1.registry.get? id ≠ none := by
      rw [ne_eq, Registry.get?_eq_none_iff, Classical.not_not]
      exact orderly.openIn_iff.mp open_
    obtain ⟨session, live⟩ := Option.ne_none_iff_exists'.mp registered
    rw [step, unfinished, if_neg Bool.false_ne_true, handle, routeRebind, live]
  case drops =>
    intro connection id index ack closed
    rw [orderly.openIn_iff, ← Registry.get?_eq_none_iff] at closed
    unfold step
    split
    · exact ⟨rfl, List.nil_subset _⟩
    · refine ⟨rfl, ?_⟩
      simp only [handle, routeRebind, closed]
      exact List.Subset.refl _
  case stops =>
    intro listenOnly later
    rw [run_append, openingsIn_append, openingsIn_stop, List.append_nil]
  case ends => exact orderly.finished_iff

/-- A client creates a session, comes back to it, and comes back too late. -/
def visited : List (GatewayInput Nat) :=
  [.handshake 0 (.create "a"), .handshake 1 (.create "b"), .handshake 2 (.rebind 1 1 0),
    .sessionEnded 1 .graceful, .handshake 3 (.rebind 1 2 0), .stop true, .handshake 4 (.create "c"),
    .sessionEnded 2 .aborted]

theorem visited_manages :
    Timely (ofSettings ({ listen := () } : GatewaySettings Unit)) visited ∧
      (ofSettings ({ listen := () } : GatewaySettings Unit)).Manages visited := by
  have timely : Timely (ofSettings ({ listen := () } : GatewaySettings Unit)) visited := by
    intro earlier early
    have checked : ∀ earlier ∈ visited.inits, (endingsIn earlier).Subperm
        (openingsIn ((ofSettings ({ listen := () } : GatewaySettings Unit)).run earlier).2) := by
      decide +kernel
    exact checked earlier ((List.mem_inits _ _).mpr early)
  exact ⟨timely, run_manages _ visited timely⟩

end Gateway

end ResumableSession
