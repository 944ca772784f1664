import Mathlib.Data.List.Induction
import ResumableSession.Proofs.Channel.Contract
import ResumableSession.Proofs.Line.Encoding
import ResumableSession.Proofs.Session.Uttering
import ResumableSession.Proofs.Wire.Estimates

/-!
# Payloads that were accepted can be sent

A channel checks a payload before its session numbers it.  The check makes sure of the
packet that carries the payload, whatever its numbers, and with it of everything smaller
that the session says; so no line comes upon anything that it cannot encode, and no
session ends for that.
-/

namespace ResumableSession

variable {P : Type}

theorem Packet.payload?_eq_some_iff {packet : Packet P} {payload : P} :
    packet.payload? = some payload ↔ ∃ id ack, packet = .reliable ⟨id, ack, .data payload⟩ := by
  constructor
  · intro carried
    unfold payload? at carried
    split at carried
    · next id ack body =>
        cases carried
        exact ⟨id, ack, rfl⟩
    · cases carried
  · rintro ⟨id, ack, rfl⟩
    rfl

namespace PacketCodec

variable {codec : PacketCodec P}

/-- The reliable packets with this body are encoded, whatever their numbers. -/
def EncodesBody (codec : PacketCodec P) (body : ReliableBody P) : Prop :=
  ∀ id ack, codec.Encodes (.reliable ⟨id, ack, body⟩)

private theorem encodes_plain {packet : Packet P} (plain : packet.payload? = none)
    (room : 1 + fieldEstimate packet ≤ codec.limit) : codec.Encodes packet := by
  have unpaid : codec.payloadEstimate packet = 0 := by rw [payloadEstimate, plain]; rfl
  apply write_of_room
  · rw [ne_eq, estimate_eq_zero_iff, plain]
    exact nofun
  · rw [plain]
    exact nofun
  · rw [unpaid]
    exact room

/-- Where a payload has room, so has everything else that a session says. -/
theorem encodes_said {payload : P} (checked : codec.checkPayload payload = .ok ())
    {packet : Packet P} (said : packet.Said codec.EncodesBody) : codec.Encodes packet := by
  have room := ((codec.checkPayload_eq_ok_iff payload).mp checked).2
  have short : 1 + 2 * Varint.maxLength ≤ codec.limit := Nat.le_of_add_right_le room
  cases packet with
  | createRequest | rebindRequest => exact said.elim
  | reliable packet => exact said packet.id packet.ack
  | _ =>
      have shorter : 1 + Varint.maxLength ≤ 1 + 2 * Varint.maxLength := by decide
      exact encodes_plain rfl (Nat.le_trans shorter short)

private theorem encodesBody_plain {payload : P} (checked : codec.checkPayload payload = .ok ()) :
    codec.EncodesBody .fin ∧ codec.EncodesBody .finAck := by
  have room := ((codec.checkPayload_eq_ok_iff payload).mp checked).2
  have short : 1 + 2 * Varint.maxLength ≤ codec.limit := Nat.le_of_add_right_le room
  exact ⟨fun _ _ => encodes_plain rfl short, fun _ _ => encodes_plain rfl short⟩

end PacketCodec

/-- An input that neither brings a payload that was refused nor says that something cannot
be encoded. -/
def Input.Sound (codec : PacketCodec P) : Input P → Prop
  | .send payload => codec.checkPayload payload = .ok ()
  | .closeImmediately reason => reason ≠ .unencodable
  | _ => True

/-- A line with this codec can report the event, if what it is told to send is among what
the session has done. -/
def LineEvent.Genuine (codec : PacketCodec P) (line : LineId) (actions : List (LineAction P))
    (event : LineEvent P) : Prop :=
  ∃ (start : LineStart P) (steps : List (LineStep P)) (last : LineTask P)
    (shown : List (LineOutput P)),
    start.task.codec = codec ∧ start.task.run? steps = some (last, shown) ∧
      event ∈ start.reports ++ reportsIn shown ∧
      ∀ packet, .send packet ∈ commandsIn steps → .send line packet ∈ actions

theorem LineEvent.Genuine.encodable {codec : PacketCodec P} {line : LineId}
    {actions : List (LineAction P)} {event : LineEvent P}
    (genuine : event.Genuine codec line actions)
    (encodes : ∀ packet, .send line packet ∈ actions → codec.Encodes packet) :
    event.isUnencodable = false := by
  obtain ⟨start, steps, last, shown, same, ran, reported, commanded⟩ := genuine
  rcases List.mem_append.mp reported with opening | later
  · cases start with
    | accepted =>
        cases List.mem_singleton.mp opening
        rfl
    | dialed => cases opening
  · refine start.faultless.run? (fun packet sent => ?_) ran event later
    rw [same]
    exact encodes packet (commanded packet sent)

namespace Session

private theorem utters_run {may : ReliableBody P → Prop} (fin : may .fin) (finAck : may .finAck)
    (session : Session P) {inputs : List (Input P)}
    (unforced : .closeImmediately .unencodable ∉ inputs)
    (worded : ∀ payload, .send payload ∈ inputs → may (.data payload)) :
    ∃ probes, Utters may probes session (session.run inputs) := by
  induction inputs generalizing session with
  | nil => exact ⟨[], .refl session⟩
  | cons input inputs induction =>
      rw [List.mem_cons, not_or] at unforced
      obtain ⟨probes, later⟩ := induction (session.step input) unforced.2 fun payload member =>
        worded payload (List.mem_cons_of_mem _ member)
      have first : Utters may (session.probesDue input) session (session.step input) :=
        utters_step fin finAck session (Ne.symm unforced.1) fun payload same =>
          worded payload (List.mem_cons.mpr (.inl same.symm))
      exact ⟨_, first.trans later⟩

end Session

namespace ChannelDriver

theorem givesAll_concat (driver : ChannelDriver P) (picks : List (ChannelPick P))
    (next : ChannelPick P) :
    driver.givesAll (picks ++ [next]) =
      driver.givesAll picks ++ (driver.run picks).1.gives next := by
  induction picks generalizing driver with
  | nil => exact List.append_nil _
  | cons first picks induction =>
      rw [List.cons_append, givesAll, induction, givesAll, List.append_assoc]
      rfl

private theorem checkPayload_of_checkSend {driver : ChannelDriver P} {codec : PacketCodec P}
    {payload : P} (passed : driver.checkSend codec payload = .ok ()) :
    codec.checkPayload payload = .ok () := by
  unfold checkSend at passed
  split at passed
  · cases passed
  · split at passed
    · next checked => exact checked
    · cases passed

variable {driver : ChannelDriver P} {codec : PacketCodec P}

private theorem sound_ofEvent {line : LineId} {clock : UInt32} {event : LineEvent P}
    (encodable : event.isUnencodable = false) :
    ∀ input ∈ Input.ofEvent line clock event, input.Sound codec := by
  intro input member
  cases event with
  | accepted handshake =>
      cases List.mem_singleton.mp member
      cases handshake <;> exact trivial
  | closed reason =>
      cases reason with
      | unencodable => cases encodable
      | _ =>
          cases List.mem_singleton.mp member
          exact trivial
  | _ =>
      cases List.mem_singleton.mp member
      exact trivial

private theorem sound_picked {next : ChannelPick P}
    (checked : ∀ payload, next = .command (.send payload) → codec.checkPayload payload = .ok ())
    (encodable : ∀ line event clock, next = .lineEvent line event clock →
      event.isUnencodable = false) :
    ∀ input ∈ driver.picked next, input.Sound codec := by
  intro input member
  cases next with
  | tick =>
      cases List.mem_singleton.mp member
      exact trivial
  | lineEvent line event clock => exact sound_ofEvent (encodable line event clock rfl) input member
  | command command =>
      simp only [picked, List.mem_ite_nil_right, List.mem_singleton] at member
      obtain ⟨-, rfl⟩ := member
      cases command with
      | send payload => exact checked payload rfl
      | close => exact trivial
      | abort => exact CloseReason.noConfusion
  | released | shutdown =>
      simp only [picked, List.mem_ite_nil_right, List.mem_singleton] at member
      obtain ⟨-, rfl⟩ := member
      exact trivial

private theorem sound_gives {next : ChannelPick P}
    (sound : ∀ input ∈ driver.picked next, input.Sound codec) :
    ∀ input ∈ driver.gives next, input.Sound codec := by
  intro input member
  unfold gives at member
  split at member
  · cases member
  · rcases List.mem_append.mp member with picked | bound
    · exact sound input picked
    · obtain ⟨dialed, -, rfl⟩ := List.mem_map.mp bound
      exact trivial

end ChannelDriver

/-- What a channel can count on: a payload was checked before the driver picks it, and lines
report what comes of the packets that they were given. -/
structure ChannelStart.Conducted (start : ChannelStart) (codec : PacketCodec P)
    (picks : List (ChannelPick P)) : Prop where
  checked : ∀ earlier payload later, picks = earlier ++ .command (.send payload) :: later →
    ∃ sooner, sooner <+: earlier ∧ (start.driver.run sooner).1.checkSend codec payload = .ok ()
  genuine : ∀ earlier line event clock later,
    picks = earlier ++ .lineEvent line event clock :: later →
      event.Genuine codec line (start.driver.run earlier).1.session.actions

namespace ChannelStart

variable {start : ChannelStart} {codec : PacketCodec P} {picks : List (ChannelPick P)}
  {next : ChannelPick P} {payload : P}

theorem Conducted.before (conducted : start.Conducted codec (picks ++ [next])) :
    start.Conducted codec picks where
  checked := by
    rintro earlier payload later rfl
    exact conducted.checked earlier payload (later ++ [next]) (List.append_assoc _ _ _)
  genuine := by
    rintro earlier line event clock later rfl
    exact conducted.genuine earlier line event clock (later ++ [next]) (List.append_assoc _ _ _)

/-- A session that is given nothing unsound says nothing that cannot be encoded, and does
not end as if it did. -/
theorem says_encodable (estimated : codec.payloads.Estimated)
    (checked : codec.checkPayload payload = .ok ())
    (sound : ∀ input ∈ start.driver.givesAll picks, input.Sound codec) :
    (∀ line packet, .send line packet ∈ (start.driver.run picks).1.session.actions →
        codec.Encodes packet) ∧
      (start.driver.run picks).1.result ≠ some .unencodable := by
  have contract := start.run_keepsContract picks
  obtain ⟨fin, finAck⟩ := PacketCodec.encodesBody_plain checked
  have unforced : .closeImmediately .unencodable ∉ start.driver.givesAll picks :=
    fun member => sound _ member rfl
  obtain ⟨probes, utters⟩ := Session.utters_run fin finAck start.driver.session unforced
    fun payload member => PacketCodec.write_of_checkPayload estimated (sound _ member)
  have fresh : start.driver.session.actions = ([] : List (LineAction P)) ∧
      start.driver.session.outputs = ([] : List (Output P)) ∧
      Session.Buffers codec.EncodesBody start.driver.session := by
    cases start <;> exact ⟨rfl, rfl, nofun⟩
  obtain ⟨silent, quiet, empty⟩ := fresh
  constructor
  · intro line packet member
    obtain ⟨sent, actions, -, said⟩ := utters.sent
    rw [silent, List.nil_append] at actions
    have kept : (start.driver.session.run (start.driver.givesAll picks)).actions =
        (start.driver.run picks).1.session.actions := by
      rw [contract.session]
      rfl
    rw [← kept, actions] at member
    exact PacketCodec.encodes_said checked (said empty line packet member)
  · intro ended
    obtain ⟨told, outputs, encodable⟩ := utters.told
    obtain ⟨-, ⟨earlier, told_eq, -⟩, -⟩ := contract.ending _ ended
    rw [quiet, List.nil_append] at outputs
    rw [← outputs, told_eq] at encodable
    exact encodable (List.mem_append_right _ List.mem_cons_self)

/-- Whatever a driver picks, what its session is given of it is sound. -/
theorem sound_givesAll (estimated : codec.payloads.Estimated)
    (checked : codec.checkPayload payload = .ok ()) (conducted : start.Conducted codec picks) :
    ∀ input ∈ start.driver.givesAll picks, input.Sound codec := by
  induction picks using List.reverseRecOn with
  | nil => exact nofun
  | append_singleton picks next induction =>
      have sound := induction conducted.before
      have encodes := (says_encodable estimated checked sound).1
      rw [ChannelDriver.givesAll_concat]
      intro input member
      rcases List.mem_append.mp member with old | new
      · exact sound input old
      · refine ChannelDriver.sound_gives (ChannelDriver.sound_picked ?_ ?_) input new
        · rintro payload rfl
          obtain ⟨sooner, -, passed⟩ := conducted.checked picks payload [] rfl
          exact ChannelDriver.checkPayload_of_checkSend passed
        · rintro line event clock rfl
          exact (conducted.genuine picks line event clock [] rfl).encodable (encodes line)

end ChannelStart

namespace PacketCodec

/-- What the estimates of a codec are worth. -/
structure Guards (codec : PacketCodec P) : Prop where
  /-- A payload that passes the check is encoded, whatever its id and its ack. -/
  accepted : ∀ payload, codec.checkPayload payload = .ok () → codec.EncodesBody (.data payload)
  /-- No frame is longer than estimated. -/
  bounded : ∀ packet buffer filled, codec.write packet buffer = .ok () filled →
    ∃ frame, filled = buffer ++ frame ∧ frame.length ≤ codec.estimate packet
  /-- The estimate is zero for a payload that is estimated at nothing, and for nothing else. -/
  unsendable : ∀ packet, codec.estimate packet = 0 ↔
    ∃ id ack payload, packet = .reliable ⟨id, ack, .data payload⟩ ∧
      codec.payloads.estimate payload = 0
  /-- A packet that is estimated at nothing is refused, and the buffer stays as it was. -/
  refused : ∀ packet, codec.estimate packet = 0 → ∀ buffer,
    codec.write packet buffer = .error .notSerializable buffer
  /-- If some payload passes the check, no session ends because of what cannot be encoded. -/
  kept : ∀ payload, codec.checkPayload payload = .ok () → ∀ start picks,
    ChannelStart.Conducted start codec picks →
      (start.driver.run picks).1.result ≠ some .unencodable

private theorem guards_of_estimated {codec : PacketCodec P} (estimated : codec.payloads.Estimated) :
    codec.Guards where
  accepted _ checked := write_of_checkPayload estimated checked
  bounded _ _ _ wrote := length_write_le estimated wrote
  unsendable packet := by
    rw [estimate_eq_zero_iff]
    constructor
    · rintro ⟨payload, carried, empty⟩
      obtain ⟨id, ack, same⟩ := Packet.payload?_eq_some_iff.mp carried
      exact ⟨id, ack, payload, same, empty⟩
    · rintro ⟨id, ack, payload, same, empty⟩
      exact ⟨payload, Packet.payload?_eq_some_iff.mpr ⟨id, ack, same⟩, empty⟩
  refused _ none := write_unsendable none
  kept _ checked _ _ conducted :=
    (ChannelStart.says_encodable estimated checked
      (ChannelStart.sound_givesAll estimated checked conducted)).2

/-- For byte strings the check is exact: it tells whether the payload is encoded with the
longest id and ack, or with all of them.  And a codec that adds no more than it estimates
keeps its sessions from all that cannot be encoded. -/
theorem checkPayload_guards :
    (∀ limit payload buffer,
      ((raw limit).checkPayload payload = .ok () ↔
          ∃ filled, (raw limit).write (.longest payload) buffer = .ok () filled) ∧
        ((raw limit).checkPayload payload = .ok () ↔
          ∀ id ack, ∃ filled,
            (raw limit).write (.reliable ⟨id, ack, .data payload⟩) buffer = .ok () filled)) ∧
      (∀ limit, (raw limit).Guards) ∧
      ∀ {P : Type} (codec : PacketCodec P), codec.payloads.Estimated → codec.Guards := by
  refine ⟨fun limit payload buffer => ⟨?_, ?_⟩, fun limit => ?_, fun codec => ?_⟩
  · exact checkPayload_iff_longest limit payload buffer
  · exact checkPayload_iff_always limit payload buffer
  · exact guards_of_estimated PayloadCodec.raw_estimated
  · exact guards_of_estimated

/-- A line is accepted for a session, which is then given three bytes to send. -/
theorem raw_guards :
    let picks : List (ChannelPick Bytes) :=
      [.lineEvent ⟨0⟩ (.accepted (.create "")) 0, .command (.send [1, 2, 3])]
    (raw 15).checkPayload [1, 2, 3] = .ok () ∧
      ((ChannelStart.accepting 7 {}).driver.run picks).1.session.actions =
        [.send ⟨0⟩ (.createResponse 7), .send ⟨0⟩ (.reliable ⟨1, 0, .data [1, 2, 3]⟩)] ∧
      ((ChannelStart.accepting 7 {}).driver.run picks).1.result ≠ some .unencodable := by
  intro picks
  have conducted : (ChannelStart.accepting 7 {}).Conducted (raw 15)
      [.lineEvent ⟨0⟩ (.accepted (.create "")) 0, .command (.send [1, 2, 3])] := by
    constructor
    · rintro (_ | ⟨first, _ | ⟨second, earlier⟩⟩) payload later shape
      · cases shape
      · cases shape
        exact ⟨[], List.nil_prefix, by decide +kernel⟩
      · simp at shape
    · rintro (_ | ⟨first, _ | ⟨second, earlier⟩⟩) line event clock later shape
      · cases shape
        exact ⟨.accepted (raw 15) (.create "") {}, [], _, [], rfl, rfl, List.mem_cons_self, nofun⟩
      · cases shape
      · simp at shape
  have checked : (raw 15).checkPayload [1, 2, 3] = .ok () := by decide +kernel
  have guards := checkPayload_guards.2.2 (raw 15) PayloadCodec.raw_estimated
  exact ⟨checked, by decide +kernel, guards.kept [1, 2, 3] checked _ picks conducted⟩

end PacketCodec

end ResumableSession
