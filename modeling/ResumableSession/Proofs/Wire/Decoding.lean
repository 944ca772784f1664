import ResumableSession.Proofs.Wire.Accesses

/-!
# Decoding takes one frame

The decoder waits, or fails at once, or takes one frame, and what is in the frame decides
what comes of it.
-/

namespace ResumableSession

variable {ε δ α β : Type}

/-! ## Failures -/

/-- A failure that blames a length. -/
def WireError.isSize : WireError → Bool
  | .size _ => true
  | _ => false

/-- A fault in the format that blames a length. -/
def CodecError.isSize : CodecError → Bool
  | .wire cause => cause.isSize
  | _ => false

namespace Reader

/-- If the reader fails, then in such a way. -/
def Fails (so : ε → Prop) (reader : Reader ε α) : Prop :=
  ∀ input failure rest, reader input = .error failure rest → so failure

variable {so : ε → Prop} {reader : Reader ε α}

private theorem fails_pure (value : α) : (pure value : Reader ε α).Fails so := fun _ _ _ => nofun

private theorem fails_throw {failure : ε} (fits : so failure) :
    (throw failure : Reader ε α).Fails so := by
  rintro _ _ _ ⟨⟩
  exact fits

theorem Fails.bind {next : α → Reader ε β} (first : reader.Fails so)
    (second : ∀ value, (next value).Fails so) : (reader >>= next).Fails so := by
  intro input failure rest failed
  simp only [Bind.bind, EStateM.bind] at failed
  split at failed
  · next value left found => exact second value left failure rest failed
  · next cause left found =>
      cases failed
      exact first input failure rest found

theorem Fails.adaptExcept {rename : ε → δ} {other : δ → Prop} (fails : reader.Fails so)
    (renamed : ∀ failure, so failure → other (rename failure)) :
    Fails other (EStateM.adaptExcept rename reader) := by
  intro input failure rest failed
  unfold EStateM.adaptExcept at failed
  split at failed
  · next cause left found =>
      cases failed
      exact renamed cause (fails input cause rest found)
  · cases failed

private theorem fails_octets {count : Nat} {missing : ε} (fits : so missing) :
    (octets count missing).Fails so := by
  intro input failure rest failed
  unfold octets at failed
  split at failed
  · cases failed
    exact fits
  · cases failed

end Reader

private theorem Varint.read_fails : Varint.read.Fails (·.isSize = false) := by
  have groups (allowed : Nat) : (readGroups allowed).Fails (·.isSize = false) := by
    induction allowed with
    | zero =>
        rintro input failure rest ⟨⟩
        rfl
    | succ allowed induction =>
        intro input failure rest failed
        cases input with
        | nil =>
            cases failed
            rfl
        | cons byte left =>
            rw [readGroups] at failed
            split at failed
            · cases failed
              rfl
            · split at failed
              · cases failed
              · split at failed
                · cases failed
                · next cause after found =>
                    cases failed
                    exact induction left failure rest found
  exact (groups maxLength).bind fun _ => Reader.fails_pure _

private theorem WireText.readCounted_fails : WireText.readCounted.Fails (·.isSize = false) :=
  Varint.read_fails.bind fun _ => Reader.fails_octets rfl

private theorem WireText.read_fails : WireText.read.Fails (·.isSize = false) := by
  refine WireText.readCounted_fails.bind fun bytes => ?_
  cases ofUtf8? bytes with
  | none => exact Reader.fails_throw rfl
  | some text => exact Reader.fails_pure _

private theorem PayloadCodec.raw_read_fails : PayloadCodec.raw.read.Fails (·.isSize = false) :=
  WireText.readCounted_fails.adaptExcept fun _ => id

namespace PacketCodec

variable {P : Type} {codec : PacketCodec P}

private theorem readFields_fails (fails : codec.payloads.read.Fails (·.isSize = false))
    (kind : PacketKind) : (codec.readFields kind).Fails (·.isSize = false) := by
  have field : field.Fails (·.isSize = false) := Varint.read_fails.adaptExcept fun _ => id
  cases kind with
  | createRequest =>
      exact (WireText.read_fails.adaptExcept fun _ => id).bind fun _ => Reader.fails_pure _
  | rebindRequest =>
      exact field.bind fun _ => field.bind fun _ => field.bind fun _ => Reader.fails_pure _
  | data =>
      exact field.bind fun _ => field.bind fun _ => fails.bind fun _ => Reader.fails_pure _
  | fin | finAck => exact field.bind fun _ => field.bind fun _ => Reader.fails_pure _
  | _ => exact field.bind fun _ => Reader.fails_pure _

private theorem readBody_fails (fails : codec.payloads.read.Fails (·.isSize = false)) :
    codec.readBody.Fails (·.isSize = false) := by
  have octet : (Reader.octet (CodecError.wire .malformed)).Fails (·.isSize = false) := by
    rintro (_ | _) failure rest ⟨⟩
    rfl
  have ends : (Reader.atEnd (CodecError.wire .malformed)).Fails (·.isSize = false) := by
    rintro (_ | _) failure rest ⟨⟩
    rfl
  refine octet.bind fun tag => ?_
  unfold PacketKind.ofTag
  split
  · next unknown =>
      split at unknown
      · cases unknown
      · cases unknown
        exact Reader.fails_throw rfl
  · next kind _ =>
      exact (readFields_fails fails kind).bind fun _ => ends.bind fun _ => Reader.fails_pure _

/-! ## What becomes of a buffer -/

/-- What the decoder makes of a buffer. -/
structure Accounts (codec : PacketCodec P) (buffer : Bytes) : Prop where
  /-- It waits as long as the length field or the rest of an allowed frame is missing. -/
  waits : (∃ rest, codec.read buffer = .ok none rest) ↔
    buffer.length < Frame.headerLength ∨
      ∃ length, Frame.announced? buffer = some length ∧ 1 ≤ length ∧ length ≤ codec.limit ∧
        buffer.length < length + Frame.headerLength
  /-- Nothing is taken while it waits. -/
  untouched : ∀ rest, codec.read buffer = .ok none rest → rest = buffer
  /-- A length over the limit is refused at once, whatever follows it. -/
  oversized : ∀ length, Frame.announced? buffer = some length → codec.limit < length →
    ∀ later, codec.read (buffer.take Frame.headerLength ++ later) =
      .error (.wire (.size length)) (buffer.take Frame.headerLength ++ later)
  /-- A frame with nothing in it is refused at once, whatever follows it. -/
  empty : Frame.announced? buffer = some 0 →
    ∀ later, codec.read (buffer.take Frame.headerLength ++ later) =
      .error (.wire .malformed) (buffer.take Frame.headerLength ++ later)
  /-- A length that is blamed with nothing taken is over the limit. -/
  blamed : ∀ size, codec.read buffer = .error (.wire (.size size)) buffer →
    Frame.announced? buffer = some size ∧ codec.limit < size
  /-- If payloads do not blame lengths themselves, any length that is blamed is over the
  limit. -/
  sized : codec.payloads.read.Fails (·.isSize = false) →
    ∀ size rest, codec.read buffer = .error (.wire (.size size)) rest →
      Frame.announced? buffer = some size ∧ codec.limit < size
  /-- In all other cases one frame is taken.  What is in it decides alone what comes of it:
  the packet that it lays out, or a failure. -/
  taken : ∀ length, Frame.announced? buffer = some length → 1 ≤ length → length ≤ codec.limit →
    length + Frame.headerLength ≤ buffer.length →
      ∃ outcome : Except CodecError (Packet P),
        (∀ packet, outcome = .ok packet ↔
          codec.LaysOut packet ((buffer.drop Frame.headerLength).take length)) ∧
        ∀ later, codec.read (buffer.take (length + Frame.headerLength) ++ later) =
          match outcome with
          | .ok packet => .ok (some packet) later
          | .error failure => .error failure later
  /-- Nothing is looked for beyond the end. -/
  inRange : ∀ payload : Access CodecError P, payload.Follows codec.payloads.read →
    (codec.reach payload).run buffer = some (codec.read buffer)

theorem accounts (codec : PacketCodec P) (buffer : Bytes) : codec.Accounts buffer where
  waits := by
    rw [← Frame.incomplete_iff]
    constructor
    · rintro ⟨rest, waiting⟩
      exact (incomplete_of_read waiting).1
    · exact fun incomplete => ⟨buffer, read_incomplete incomplete⟩
  untouched _ waiting := (incomplete_of_read waiting).2
  oversized _ announced exceeded later :=
    read_oversized (Frame.announced?_take announced later) exceeded
  empty announced later := read_empty (Frame.announced?_take announced later)
  blamed := by
    intro size refused
    cases faulty_of_read refused with
    | oversized announced exceeded => exact ⟨announced, exceeded⟩
    | @undecodable frame later _ whole undecodable =>
        rw [read_whole whole, undecodable] at refused
        have same : later.length = (frame ++ later).length :=
          congrArg List.length (EStateM.Result.error.inj refused).2
        have long := whole.length_eq
        rw [List.length_append] at same
        simp only [Frame.headerLength] at long
        omega
  sized := by
    intro fails size rest refused
    cases faulty_of_read refused with
    | oversized announced exceeded => exact ⟨announced, exceeded⟩
    | @undecodable frame later _ whole undecodable =>
        obtain ⟨left, failed⟩ := Reader.result_eq_error.mp undecodable
        cases readBody_fails fails _ _ _ failed
  taken := by
    intro length announced positive bounded enough
    have whole := Frame.whole_take announced positive bounded enough
    refine ⟨Reader.result codec.readBody ((buffer.drop Frame.headerLength).take length),
      fun packet => readBody_eq_ok_iff, fun later => ?_⟩
    rw [← Frame.body_take]
    exact read_whole whole later
  inRange _ follows := reach_eq follows buffer

/-- Decoding accounts for exactly one frame, whatever the buffer holds.  Integers may be
spelled in the writer's form or in a longer one.  Payloads of bytes are laid out behind
their length, and reading them blames no length and stays in range. -/
theorem read_accounts :
    (∀ {P : Type} (codec : PacketCodec P) (buffer : Bytes), codec.Accounts buffer) ∧
      (∀ value, Varint.Spells (Varint.encode value) value ∧
        ∀ bytes, Varint.Spells bytes value →
          bytes = Varint.encode value ∨ (Varint.encode value).length < bytes.length) ∧
      (∀ bytes payload,
        PayloadCodec.raw.read bytes = .ok payload [] ↔ WireText.Counts bytes payload) ∧
      PayloadCodec.raw.read.Fails (·.isSize = false) ∧
      PayloadCodec.reachRaw.Follows PayloadCodec.raw.read :=
  ⟨accounts, fun value => ⟨Varint.spells_encode value, fun _ => Varint.Spells.encode_or_longer⟩,
    fun _ _ => PayloadCodec.raw_read_iff, PayloadCodec.raw_read_fails,
    PayloadCodec.follows_reachRaw⟩

/-- An ack that is spelled longer than it need be, and the byte behind its frame. -/
theorem read_longer_ack :
    (raw 16).read [3, 0, 0, 0, 4, 0x85, 0, 9] = .ok (some (.ack 5)) [9] := by
  have spelled : Varint.Spells [0x85, 0] 5 :=
    ⟨.more (by decide) (.last (by decide)), by decide, by decide⟩
  have laidOut : (raw 16).LaysOut (.ack 5) [4, 0x85, 0] := ⟨[0x85, 0], rfl, .ack spelled⟩
  obtain ⟨outcome, decides, read⟩ := (read_accounts.1 (raw 16) [3, 0, 0, 0, 4, 0x85, 0, 9]).taken 3
    rfl (by decide) (by decide) (by decide)
  have found : outcome = .ok (.ack 5) := (decides _).mpr laidOut
  rw [found] at read
  exact read [9]

end PacketCodec

end ResumableSession
