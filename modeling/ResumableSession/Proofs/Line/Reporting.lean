import ResumableSession.Proofs.Line.Ending
import ResumableSession.Proofs.Line.Reading

/-!
# What a line reports

A line is opened at most once, then reports the packets that it hears, and is closed at
most once and last.  What it hears is the beginning of what the peer's bytes decode to,
in whatever order its two halves run.  A dialed line takes the first packet as the
answer to its handshake; unless it is the right one, the line is never opened.
-/

namespace ResumableSession

variable {P : Type}

namespace LineStart

/-- The event that opens a line on which these packets are heard, if they open it. -/
def opening : LineStart P → List (Packet P) → Option (LineEvent P)
  | .accepted _ handshake _, _ => some (.accepted handshake)
  | .dialed .., [] => none
  | .dialed _ handshake, answer :: _ => handshake.answer? answer

/-- The packets that follow the handshake. -/
def following : LineStart P → List (Packet P) → List (Packet P)
  | .accepted .., heard => heard
  | .dialed .., heard => heard.tail

/-- What is reported of the packets that are heard. -/
def account (start : LineStart P) (heard : List (Packet P)) : List (LineEvent P) :=
  (start.opening heard).toList ++ (start.following heard).map .received

variable {start : LineStart P} {heard : List (Packet P)}

theorem opening_concat (opened : (start.opening heard).isSome) (packet : Packet P) :
    start.opening (heard ++ [packet]) = start.opening heard := by
  cases start with
  | accepted codec handshake inbox => rfl
  | dialed codec handshake =>
      cases heard with
      | nil => cases opened
      | cons answer heard => rfl

theorem account_concat (opened : (start.opening heard).isSome) (packet : Packet P) :
    start.account (heard ++ [packet]) = start.account heard ++ [.received packet] := by
  have follows : start.following (heard ++ [packet]) = start.following heard ++ [packet] := by
    cases start with
    | accepted codec handshake inbox => rfl
    | dialed codec handshake =>
        cases heard with
        | nil => cases opened
        | cons answer heard => rfl
  rw [account, account, opening_concat opened, follows, List.map_append, List.append_assoc]
  rfl

/-! ## Through a course -/

/-- What has been reported when the line has come so far and these bytes have arrived. -/
inductive Told (start : LineStart P) (arrived : Bytes) (task : LineTask P) :
    List (LineEvent P) → Prop where
  | shaking {codec : PacketCodec P} {handshake : Handshake}
      (dialed : start = .dialed codec handshake) (sameCodec : task.codec = codec)
      (sameHandshake : task.handshake = handshake) (shaking : task.isShaking)
      (listening : task.readerEnd = none) (kept : arrived = task.inbox.bytes) :
      Told start arrived task []
  | talking {heard : List (Packet P)} {rest : Bytes} (sameCodec : task.codec = start.task.codec)
      (talking : ¬task.isShaking) (unfinished : task.stage ≠ .ended)
      (carries : start.task.codec.Carries arrived heard rest)
      (unread : task.readerEnd = none → rest = task.inbox.bytes)
      (opened : (start.opening heard).isSome) : Told start arrived task (start.account heard)
  | finished {heard : List (Packet P)} {rest : Bytes} {reason : LineEnd} (ended : task.stage = .ended)
      (carries : start.task.codec.Carries arrived heard rest)
      (opened : start.opening heard = none → start.following heard = []) :
      Told start arrived task (start.account heard ++ [.closed reason])

end LineStart

namespace LineTask

variable {start : LineStart P} {task next last : LineTask P} {move : LineMove}
  {step : LineStep P} {steps : List (LineStep P)} {shown : List (LineOutput P)}
  {arrived : Bytes} {events : List (LineEvent P)}

/-- The reader finds everything in the one state as in the other. -/
structure ReadsAs (task next : LineTask P) : Prop where
  codec : next.codec = task.codec
  handshake : next.handshake = task.handshake
  inbox : next.inbox = task.inbox
  readerEnd : next.readerEnd = task.readerEnd
  shaking : next.isShaking ↔ task.isShaking
  ended : next.stage = .ended ↔ task.stage = .ended

open LineStart (Told)

theorem ReadsAs.told (same : task.ReadsAs next) (told : Told start arrived task events) :
    Told start arrived next events := by
  cases told with
  | shaking dialed codec handshake shaking listening kept =>
      exact .shaking dialed (same.codec.trans codec) (same.handshake.trans handshake)
        (same.shaking.mpr shaking) (same.readerEnd.trans listening)
        (kept.trans (congrArg Inbox.bytes same.inbox.symm))
  | talking codec talking unfinished carries unread opened =>
      refine .talking (same.codec.trans codec) ?_ ?_ carries ?_ opened
      · rw [same.shaking]
        exact talking
      · rw [Ne, same.ended]
        exact unfinished
      · rw [same.readerEnd, same.inbox]
        exact unread
  | finished ended carries opened => exact .finished (same.ended.mpr ended) carries opened

/-! Only the constructor for its stage can have told what a line has reported. -/

private theorem told_shaking (told : Told start arrived task events) (shaking : task.isShaking) :
    start = .dialed task.codec task.handshake ∧ task.readerEnd = none ∧
      arrived = task.inbox.bytes ∧ events = [] := by
  cases told with
  | shaking dialed codec handshake _ listening kept =>
      subst codec handshake
      exact ⟨dialed, listening, kept, rfl⟩
  | talking _ talking _ _ _ _ => exact absurd shaking talking
  | finished ended _ _ => simp [isShaking_iff, ended] at shaking

private theorem told_talking (told : Told start arrived task events) (talking : ¬task.isShaking)
    (unfinished : task.stage ≠ .ended) :
    ∃ heard rest, events = start.account heard ∧ task.codec = start.task.codec ∧
      start.task.codec.Carries arrived heard rest ∧
      (task.readerEnd = none → rest = task.inbox.bytes) ∧ (start.opening heard).isSome := by
  cases told with
  | shaking _ _ _ shaking _ _ => exact absurd shaking talking
  | talking codec _ _ carries unread opened => exact ⟨_, _, rfl, codec, carries, unread, opened⟩
  | finished ended _ _ => exact absurd ended unfinished

/-- A line that fails while it shakes hands has heard nothing that counts. -/
theorem told_failed {reason : LineEnd} (told : Told start arrived task events)
    (shaking : task.isShaking) (later : Bytes) (ended : next.stage = .ended) :
    Told start (arrived ++ later) next (events ++ [.closed reason]) := by
  obtain ⟨rfl, -, -, rfl⟩ := told_shaking told shaking
  exact .finished ended (PacketCodec.carries_nil _) fun _ => rfl

private theorem told_ended {reason : LineEnd} (told : Told start arrived task events)
    (talking : ¬task.isShaking) (unfinished : task.stage ≠ .ended) (ended : next.stage = .ended) :
    Told start arrived next (events ++ [.closed reason]) := by
  obtain ⟨heard, rest, rfl, codec, carries, unread, opened⟩ :=
    told_talking told talking unfinished
  refine .finished ended carries ?_
  intro none
  rw [none] at opened
  cases opened

theorem Stops.arrived_eq_nil {left : List (LineCommand P)} {reason : LineEnd}
    (stops : task.Stops move left reason) : move.arrived = [] := by
  cases stops with
  | rejected rejects => rcases rejects with rfl | ⟨cause, rfl⟩ <;> rfl
  | _ => rfl

private theorem told_change (told : Told start arrived task events)
    (change : task.Change move next shown) :
    Told start (arrived ++ move.arrived) next (events ++ reportsIn shown) := by
  have quiet (none : move.arrived = []) (silent : reportsIn shown = [])
      (same : task.ReadsAs next) :
      Told start (arrived ++ move.arrived) next (events ++ reportsIn shown) := by
    rw [none, silent, List.append_nil, List.append_nil]
    exact same.told told
  cases change with
  | requests dialing encoded =>
      exact quiet rfl rfl ⟨rfl, rfl, rfl, rfl, by simp [isShaking_iff, dialing], by simp [dialing]⟩
  | drops shaking next => exact quiet rfl rfl ⟨rfl, rfl, rfl, rfl, .rfl, .rfl⟩
  | abandons shaking => exact told_failed told shaking _ rfl
  | fails shaking => exact told_failed told shaking _ rfl
  | @opens packet rest event awaiting found answers =>
      obtain ⟨rfl, -, rfl, rfl⟩ := told_shaking told (isShaking_of_awaiting awaiting)
      obtain ⟨frame, isFrame, same⟩ := PacketCodec.isFrame_of_read found
      have carries := (PacketCodec.carries_nil rest).cons isFrame
      rw [← same] at carries
      have account : LineStart.account (.dialed task.codec task.handshake) [packet] = [event] := by
        simp [LineStart.account, LineStart.opening, LineStart.following, answers]
      have told : Told (.dialed task.codec task.handshake) task.inbox.bytes
          { task with inbox := { task.inbox with bytes := rest }, stage := .running }
          (LineStart.account (.dialed task.codec task.handshake) [packet]) :=
        .talking rfl (by simp [isShaking]) (by simp) carries (fun _ => rfl)
          (by simp [LineStart.opening, answers])
      rw [account] at told
      rw [show LineMove.decode.arrived = [] from rfl, List.append_nil]
      exact told
  | @hears packet rest reading found =>
      obtain ⟨talking, unfinished, listening⟩ := task.isReading_iff.mp reading
      obtain ⟨heard, unread, rfl, codec, carries, same, opened⟩ :=
        told_talking told talking unfinished
      obtain rfl := same listening
      obtain ⟨frame, isFrame, same⟩ := PacketCodec.isFrame_of_read found
      rw [same] at carries
      rw [codec] at isFrame
      have told : Told start arrived { task with inbox := { task.inbox with bytes := rest } }
          (start.account (heard ++ [packet])) := by
        refine .talking codec talking unfinished (carries.concat isFrame) (fun _ => rfl) ?_
        rw [LineStart.opening_concat opened]
        exact opened
      rw [LineStart.account_concat opened] at told
      rw [show LineMove.decode.arrived = [] from rfl, List.append_nil]
      exact told
  | @reads bytes listening some =>
      have grown : (task.inbox.makeRoom.add bytes).bytes = task.inbox.bytes ++ bytes := by
        rw [Inbox.add, Inbox.bytes_makeRoom]
      rw [reportsIn_nil, List.append_nil]
      rcases listening with awaiting | reading
      · obtain ⟨rfl, listening, rfl, rfl⟩ := told_shaking told (isShaking_of_awaiting awaiting)
        exact .shaking rfl rfl rfl (isShaking_of_awaiting awaiting) listening grown.symm
      · obtain ⟨talking, unfinished, _⟩ := task.isReading_iff.mp reading
        obtain ⟨heard, rest, rfl, codec, carries, same, opened⟩ :=
          told_talking told talking unfinished
        refine .talking codec talking unfinished (carries.append bytes) ?_ opened
        intro listening
        rw [same listening]
        exact grown.symm
  | deafens reading foreign =>
      obtain ⟨talking, unfinished, _⟩ := task.isReading_iff.mp reading
      obtain ⟨heard, rest, rfl, codec, carries, _, opened⟩ :=
        told_talking told talking unfinished
      rw [reportsIn_nil, List.append_nil]
      exact .talking codec talking unfinished (carries.append _) (by simp) opened
  | queues running next wrote => exact quiet rfl rfl ⟨rfl, rfl, rfl, rfl, .rfl, .rfl⟩
  | flushes running next =>
      exact quiet rfl rfl ⟨rfl, rfl, rfl, rfl, by simp [isShaking_iff, running], by simp [running]⟩
  | writes offers some stays =>
      rcases stays with rfl | ⟨requesting, rfl, -⟩
      · exact quiet rfl rfl ⟨rfl, rfl, rfl, rfl, .rfl, .rfl⟩
      · exact quiet rfl rfl
          ⟨rfl, rfl, rfl, rfl, by simp [isShaking_iff, requesting], by simp [requesting]⟩
  | stops working stops =>
      obtain ⟨talking, unfinished⟩ := talking_of_working working
      exact quiet stops.arrived_eq_nil rfl
        ⟨rfl, rfl, rfl, rfl, by simp [isShaking_iff, talking], by simp [unfinished]⟩
  | concludes stopping =>
      rw [show LineMove.conclude.arrived = [] from rfl, List.append_nil]
      exact told_ended told (by simp [isShaking_iff, stopping]) (by simp [stopping]) rfl
  | cutOff working isOver =>
      obtain ⟨talking, unfinished⟩ := talking_of_working working
      rw [show LineMove.conclude.arrived = [] from rfl, List.append_nil]
      exact told_ended told talking unfinished rfl

private theorem told_advance (told : Told start arrived task events)
    (advanced : task.advance? step = some (next, shown)) :
    Told start (arrived ++ step.arrived) next (events ++ reportsIn shown) := by
  have same (quiet : step.arrived = []) (shows : shown = []) (same : task.ReadsAs next) :
      Told start (arrived ++ step.arrived) next (events ++ reportsIn shown) := by
    rw [quiet, shows, List.append_nil]
    have told := same.told told
    rw [← List.append_nil events] at told
    exact told
  cases advance_of_advance? advanced with
  | orders held => exact same rfl rfl ⟨rfl, rfl, rfl, rfl, .rfl, .rfl⟩
  | releases => exact same rfl rfl ⟨rfl, rfl, rfl, rfl, .rfl, .rfl⟩
  | moves change => exact told_change told change

private theorem told_run (told : Told start arrived task events)
    (ran : task.run? steps = some (last, shown)) :
    Told start (arrived ++ arrivedIn steps) last (events ++ reportsIn shown) := by
  induction steps generalizing task arrived events shown with
  | nil =>
      cases ran
      simpa [arrivedIn, reportsIn] using told
  | cons step later induction =>
      obtain ⟨next, first, others, advanced, ranLater, rfl⟩ := run?_cons ran
      have toldLater := induction (told_advance told advanced) ranLater
      rw [arrivedIn_cons, reportsIn_append, ← List.append_assoc, ← List.append_assoc]
      exact toldLater

private theorem told_start (start : LineStart P) :
    Told start start.task.inbox.bytes start.task start.reports := by
  cases start with
  | accepted codec handshake inbox =>
      have running : (LineStart.accepted codec handshake inbox).task.stage = .running := rfl
      obtain ⟨talking, unfinished⟩ := talking_of_working (.inl running)
      exact .talking rfl talking unfinished (PacketCodec.carries_nil _) (fun _ => rfl) rfl
  | dialed codec handshake =>
      exact .shaking rfl rfl rfl rfl rfl rfl

/-- A line whose reader has ended is not to go on either. -/
theorem dismissed_of_readerEnd (told : Told start arrived task events)
    (isOver : task.readerEnd.isSome) : task.Dismissed := by
  by_cases shaking : task.isShaking
  · rw [(told_shaking told shaking).2.1] at isOver
    cases isOver
  · exact .deaf shaking isOver

private theorem told_whole (told : Told start arrived task events) :
    ∃ (heard : List (Packet P)) (rest : Bytes) (ending : Option LineEnd),
      start.task.codec.Carries arrived heard rest ∧
        events = start.account heard ++ (ending.map .closed).toList ∧
        (start.opening heard = none → start.following heard = []) ∧
        (ending.isSome ↔ task.isEnded) := by
  cases told with
  | shaking dialed codec handshake shaking listening kept =>
      subst dialed
      refine ⟨[], _, none, PacketCodec.carries_nil _, rfl, fun _ => rfl, ?_⟩
      rw [isEnded_iff]
      refine ⟨nofun, fun ended => ?_⟩
      simp [isShaking_iff, ended] at shaking
  | @talking heard rest codec talking unfinished carries unread opened =>
      refine ⟨heard, rest, none, carries, (List.append_nil _).symm, ?_, ?_⟩
      · intro none
        rw [none] at opened
        cases opened
      · rw [isEnded_iff]
        exact ⟨nofun, fun ended => absurd ended unfinished⟩
  | @finished heard rest reason ended carries opened =>
      refine ⟨heard, rest, some reason, carries, rfl, opened, ?_⟩
      rw [isEnded_iff]
      exact ⟨fun _ => ended, fun _ => rfl⟩

end LineTask

namespace LineStart

/-- A line reports that it was opened, then what it heard, and then that it is closed,
which it is as soon as its moves are made once it was told to or cannot go on. -/
theorem run_reports (start : LineStart P) {steps : List (LineStep P)} {last : LineTask P}
    {shown : List (LineOutput P)} {stream : Bytes}
    (ran : start.task.run? steps = some (last, shown))
    (begun : start.task.inbox.bytes ++ arrivedIn steps <+: stream) :
    (∃ (heard : List (Packet P)) (ending : Option LineEnd),
      heard <+: (start.task.codec.receiveAll {} [.bytes stream]).1 ∧
      start.reports ++ reportsIn shown =
        (start.opening heard).toList ++ (start.following heard).map .received ++
          (ending.map .closed).toList ∧
      (start.opening heard = none → start.following heard = []) ∧
      (ending.isSome ↔ last.isEnded)) ∧
    (last.isEnded → ∀ move, last.step? move = none) ∧
    ((last.readerEnd.isSome ∨ ∃ step ∈ steps, step.dismisses) →
      ∃ (moves : List LineMove) (final : LineTask P) (others : List (LineOutput P)),
        (∀ move ∈ moves, move.isOwn) ∧ last.run? (moves.map .moves) = some (final, others) ∧
          final.isEnded) := by
  have told := LineTask.told_run (LineTask.told_start start) ran
  refine ⟨?_, ?_, ?_⟩
  · obtain ⟨heard, rest, ending, carries, account, unopened, closed⟩ := LineTask.told_whole told
    exact ⟨heard, ending, carries.heard begun, account, unopened, closed⟩
  · intro ended
    exact LineTask.step?_ended (last.isEnded_iff.mp ended)
  · intro isOver
    apply LineTask.Dismissed.ends
    rcases isOver with isOver | dismissed
    · exact LineTask.dismissed_of_readerEnd told isOver
    · exact .run ran (.inr dismissed)

/-- A dialed line whose request goes out in two parts.  The answer comes with a part of a
packet, the rest of that packet follows, and the stream ends inside the next one. -/
theorem dialed_reports :
    let start : LineStart Bytes :=
      .dialed { payloads := .raw, limit := 16 } (.create "")
    let steps : List (LineStep Bytes) :=
      [.moves .connect, .moves (.accept 4), .moves (.accept 2),
        .moves (.arrive (.bytes [2, 0, 0, 0, 1, 7, 2, 0])), .moves .decode,
        .moves (.arrive (.bytes [0, 0, 4, 9, 1])), .moves .decode,
        .moves (.arrive (.bytes [])), .moves .conclude]
    ∃ last shown, start.task.run? steps = some (last, shown) ∧
      start.task.inbox.bytes ++ arrivedIn steps <+: [2, 0, 0, 0, 1, 7, 2, 0, 0, 0, 4, 9, 1] ∧
      reportsIn shown =
        [.created 7, .received (.ack 9), .closed (.failed (.transport .truncated))] ∧
      ∀ move, last.step? move = none := by
  intro start steps
  have ran : (start.task.run? steps).map (fun (last, shown) => (last.stage, reportsIn shown)) =
      some (.ended,
        [.created 7, .received (.ack 9), .closed (.failed (.transport .truncated))]) := by
    decide +kernel
  obtain ⟨⟨last, shown⟩, ran, result⟩ := Option.map_eq_some_iff.mp ran
  obtain ⟨ended, reports⟩ := Prod.mk.inj result
  have begun : start.task.inbox.bytes ++ arrivedIn steps <+:
      [2, 0, 0, 0, 1, 7, 2, 0, 0, 0, 4, 9, 1] := by decide
  obtain ⟨_, isOver, _⟩ := run_reports start ran begun
  exact ⟨last, shown, ran, begun, reports, isOver (last.isEnded_iff.mpr ended)⟩

end LineStart

end ResumableSession
