import ResumableSession.Wire.Codec

/-!
# What stands at the head of a buffer

A buffer either starts with a whole frame of an allowed length, or it announces a
length that no frame may have, or it is not long enough to say.  Only the first
two can be told before more bytes come, and what follows never matters for them.
-/

namespace ResumableSession

namespace Frame

/-- What a frame holds behind its length field. -/
def body (frame : Bytes) : Bytes := frame.drop headerLength

/-- A frame with nothing missing and nothing left over, of a length that is allowed. -/
structure Whole (limit : Nat) (frame : Bytes) : Prop where
  announced : announced? frame = some (body frame).length
  positive : 0 < (body frame).length
  bounded : (body frame).length ≤ limit

/-- As far as can be seen an allowed frame has begun, but more of it has to come. -/
def Incomplete (limit : Nat) (buffer : Bytes) : Prop :=
  ∀ length, announced? buffer = some length →
    0 < length ∧ length ≤ limit ∧ buffer.length < length + headerLength

theorem incomplete_nil (limit : Nat) : Incomplete limit [] := by
  intro length announced
  cases announced

theorem announced?_eq_none_iff (buffer : Bytes) :
    announced? buffer = none ↔ buffer.length < headerLength := by
  match buffer with
  | [] | [_] | [_, _] | [_, _, _] => simp [announced?, headerLength]
  | _ :: _ :: _ :: _ :: rest =>
      simp only [announced?, headerLength, List.length_cons, reduceCtorEq, false_iff]
      omega

theorem announced?_append {buffer : Bytes} (long : headerLength ≤ buffer.length)
    (later : Bytes) : announced? (buffer ++ later) = announced? buffer := by
  match buffer with
  | [] | [_] | [_, _] | [_, _, _] => simp [headerLength] at long
  | _ :: _ :: _ :: _ :: rest => rfl

theorem length_of_announced? {buffer : Bytes} {length : Nat}
    (announced : announced? buffer = some length) : headerLength ≤ buffer.length := by
  apply Nat.le_of_not_lt
  intro short
  rw [(announced?_eq_none_iff buffer).mpr short] at announced
  cases announced

theorem announced?_take {buffer : Bytes} {length : Nat}
    (announced : announced? buffer = some length) (later : Bytes) : announced? (buffer.take headerLength ++ later) = some length := by
  have long : headerLength ≤ (buffer.take headerLength).length :=
    Nat.le_of_eq (List.length_take_of_le (length_of_announced? announced)).symm
  have whole := announced?_append long (buffer.drop headerLength)
  rw [List.take_append_drop, announced] at whole
  rw [announced?_append long, ← whole]

theorem announced?_lengthField {length : Nat} (fits : length < UInt32.size) (later : Bytes) :
    announced? (lengthField length ++ later) = some length := by
  simp only [UInt32.size] at fits
  simp only [lengthField, List.cons_append, announced?, Option.some.injEq, UInt8.toNat_ofNat']
  omega

namespace Whole

variable {limit : Nat} {frame : Bytes}

theorem length_eq (whole : Whole limit frame) :
    frame.length = (body frame).length + headerLength := by
  have long := length_of_announced? whole.announced
  rw [body, List.length_drop]
  omega

theorem announced_append (whole : Whole limit frame) (later : Bytes) :
    announced? (frame ++ later) = some (body frame).length := by
  rw [announced?_append (length_of_announced? whole.announced), whole.announced]

theorem incomplete {buffer later : Bytes} (whole : Whole limit frame)
    (begun : frame = buffer ++ later) (unfinished : later ≠ []) : Incomplete limit buffer := by
  intro length announced
  have same : announced? frame = some length := by
    rw [begun, announced?_append (length_of_announced? announced), announced]
  obtain rfl : (body frame).length = length := by
    rw [whole.announced, Option.some.injEq] at same
    exact same
  refine ⟨whole.positive, whole.bounded, ?_⟩
  have missing := List.length_pos_iff.mpr unfinished
  rw [← whole.length_eq, begun, List.length_append]
  omega

theorem split_append (whole : Whole limit frame) (later : Bytes) :
    split limit (frame ++ later) = .ok (some (body frame)) later := by
  have positive := whole.positive
  have bounded := whole.bounded
  have total := whole.length_eq
  have rest : (frame ++ later).drop headerLength = body frame ++ later :=
    List.drop_append_of_le_length (length_of_announced? whole.announced)
  simp only [split, whole.announced_append later, rest, List.length_append, List.take_left,
    List.drop_left]
  rw [if_neg (by omega), if_neg (by omega), if_neg (by omega)]

end Whole

theorem Incomplete.split_eq {limit : Nat} {buffer : Bytes} (incomplete : Incomplete limit buffer) :
    split limit buffer = .ok none buffer := by
  unfold split
  split
  · rfl
  · next length announced =>
      obtain ⟨positive, bounded, short⟩ := incomplete length announced
      rw [if_neg (by omega), if_neg (by omega), if_pos short]

theorem incomplete_iff {limit : Nat} {buffer : Bytes} :
    Incomplete limit buffer ↔
      buffer.length < headerLength ∨
        ∃ length, announced? buffer = some length ∧ 1 ≤ length ∧ length ≤ limit ∧
          buffer.length < length + headerLength := by
  rw [← announced?_eq_none_iff]
  constructor
  · intro incomplete
    cases announced : announced? buffer with
    | none => exact .inl rfl
    | some length => exact .inr ⟨length, rfl, incomplete length announced⟩
  · rintro (none | ⟨length, announced, missing⟩) length' announced'
    · rw [none] at announced'
      cases announced'
    · rw [announced, Option.some.injEq] at announced'
      exact announced' ▸ missing

/-- What the head of a buffer may be. -/
inductive Head (limit : Nat) : Bytes → Prop where
  | incomplete {buffer : Bytes} (incomplete : Incomplete limit buffer) : Head limit buffer
  | whole {frame later : Bytes} (whole : Whole limit frame) : Head limit (frame ++ later)
  | oversized {buffer : Bytes} {length : Nat} (announced : announced? buffer = some length)
      (exceeded : limit < length) : Head limit buffer
  | empty {buffer : Bytes} (announced : announced? buffer = some 0) : Head limit buffer

theorem body_take (length : Nat) (buffer : Bytes) :
    body (buffer.take (length + headerLength)) = (buffer.drop headerLength).take length := by
  rw [body, List.drop_take, Nat.add_sub_cancel]

/-- What is announced and has come is a whole frame. -/
theorem whole_take {limit length : Nat} {buffer : Bytes}
    (announced : announced? buffer = some length) (positive : 0 < length) (bounded : length ≤ limit)
    (enough : length + headerLength ≤ buffer.length) :
    Whole limit (buffer.take (length + headerLength)) := by
  have ends : (buffer.take (length + headerLength)).length = length + headerLength :=
    List.length_take_of_le enough
  have long : headerLength ≤ (buffer.take (length + headerLength)).length := by
    rw [ends]
    exact Nat.le_add_left _ _
  have holds : (body (buffer.take (length + headerLength))).length = length := by
    rw [body, List.length_drop, ends, Nat.add_sub_cancel]
  have said := announced?_append long (buffer.drop (length + headerLength))
  rw [List.take_append_drop, announced] at said
  constructor
  · rw [← said, holds]
  · rwa [holds]
  · rwa [holds]

theorem head (limit : Nat) (buffer : Bytes) : Head limit buffer := by
  cases announced : announced? buffer with
  | none =>
      apply Head.incomplete
      intro length impossible
      rw [announced] at impossible
      cases impossible
  | some length =>
      by_cases exceeded : limit < length
      · exact .oversized announced exceeded
      by_cases none : length = 0
      · exact .empty (none ▸ announced)
      by_cases short : buffer.length < length + headerLength
      · apply Head.incomplete
        intro length' announced'
        obtain rfl : length = length' := by
          rw [announced, Option.some.injEq] at announced'
          exact announced'
        exact ⟨by omega, by omega, short⟩
      · rw [← List.take_append_drop (length + headerLength) buffer]
        exact .whole (whole_take announced (Nat.pos_of_ne_zero none) (Nat.le_of_not_lt exceeded)
          (Nat.le_of_not_lt short))

end Frame

namespace PacketCodec

variable {P : Type}

theorem withLimit_addressable (codec : PacketCodec P) (limit : Nat) :
    (codec.withLimit limit).limit < UInt32.size := by
  have capped : (codec.withLimit limit).limit ≤ Frame.hardLimit := Nat.min_le_right _ _
  have small : Frame.hardLimit < UInt32.size := by decide
  exact Nat.lt_of_le_of_lt capped small

/-- A whole frame that holds this packet. -/
structure IsFrame (codec : PacketCodec P) (frame : Bytes) (packet : Packet P) : Prop
    extends Frame.Whole codec.limit frame where
  decoded : Reader.result codec.readBody (Frame.body frame) = .ok packet

/-- Bytes that are not the beginning of a stream of packets, and why. -/
inductive Faulty (codec : PacketCodec P) : Bytes → CodecError → Prop where
  | oversized {buffer : Bytes} {length : Nat}
      (announced : Frame.announced? buffer = some length) (exceeded : codec.limit < length) :
      Faulty codec buffer (.wire (.size length))
  | empty {buffer : Bytes} (announced : Frame.announced? buffer = some 0) :
      Faulty codec buffer (.wire .malformed)
  | undecodable {frame later : Bytes} {cause : CodecError}
      (whole : Frame.Whole codec.limit frame)
      (refused : Reader.result codec.readBody (Frame.body frame) = .error cause) :
      Faulty codec (frame ++ later) cause

variable {codec : PacketCodec P} {buffer frame later : Bytes}

/-- A whole frame is taken, whatever it holds. -/
theorem read_whole (whole : Frame.Whole codec.limit frame) (later : Bytes) :
    codec.read (frame ++ later) =
      match Reader.result codec.readBody (Frame.body frame) with
      | .ok packet => .ok (some packet) later
      | .error failure => .error failure later := by
  simp only [read, bind, EStateM.bind, EStateM.adaptExcept, whole.split_append later]
  cases Reader.result codec.readBody (Frame.body frame) <;> rfl

theorem IsFrame.read_append {packet : Packet P} (isFrame : codec.IsFrame frame packet)
    (later : Bytes) : codec.read (frame ++ later) = .ok (some packet) later := by
  rw [read_whole isFrame.toWhole, isFrame.decoded]

theorem read_incomplete (incomplete : Frame.Incomplete codec.limit buffer) :
    codec.read buffer = .ok none buffer := by
  simp only [read, bind, EStateM.bind, EStateM.adaptExcept, incomplete.split_eq, pure,
    EStateM.pure]

theorem read_oversized {length : Nat} (announced : Frame.announced? buffer = some length)
    (exceeded : codec.limit < length) :
    codec.read buffer = .error (.wire (.size length)) buffer := by
  simp only [read, bind, EStateM.bind, EStateM.adaptExcept, Frame.split, announced,
    if_pos exceeded]

theorem read_empty (announced : Frame.announced? buffer = some 0) :
    codec.read buffer = .error (.wire .malformed) buffer := by
  simp only [read, bind, EStateM.bind, EStateM.adaptExcept, Frame.split, announced,
    Nat.not_lt_zero, if_false, if_true]

theorem Faulty.read_eq {cause : CodecError} (faulty : codec.Faulty buffer cause) :
    ∃ rest, codec.read buffer = .error cause rest := by
  cases faulty with
  | oversized announced exceeded => exact ⟨buffer, read_oversized announced exceeded⟩
  | empty announced => exact ⟨buffer, read_empty announced⟩
  | @undecodable frame later _ whole refused =>
      refine ⟨later, ?_⟩
      rw [read_whole whole, refused]

private theorem read_cases (codec : PacketCodec P) (buffer : Bytes) :
    Frame.Incomplete codec.limit buffer ∨
      (∃ frame packet later, codec.IsFrame frame packet ∧ buffer = frame ++ later) ∨
      ∃ cause, codec.Faulty buffer cause := by
  cases Frame.head codec.limit buffer with
  | incomplete incomplete => exact .inl incomplete
  | @whole frame later whole =>
      cases decoded : Reader.result codec.readBody (Frame.body frame) with
      | ok packet => exact .inr (.inl ⟨frame, packet, later, ⟨whole, decoded⟩, rfl⟩)
      | error cause => exact .inr (.inr ⟨cause, .undecodable whole decoded⟩)
  | oversized announced exceeded => exact .inr (.inr ⟨_, .oversized announced exceeded⟩)
  | empty announced => exact .inr (.inr ⟨_, .empty announced⟩)

/-! What reading gives says what stood at the head of the buffer. -/

theorem isFrame_of_read {packet : Packet P} {rest : Bytes}
    (found : codec.read buffer = .ok (some packet) rest) :
    ∃ frame, codec.IsFrame frame packet ∧ buffer = frame ++ rest := by
  rcases codec.read_cases buffer with incomplete | ⟨frame, packet', later, isFrame, rfl⟩ |
    ⟨cause, faulty⟩
  · rw [read_incomplete incomplete] at found
    cases found
  · rw [isFrame.read_append later] at found
    cases found
    exact ⟨frame, isFrame, rfl⟩
  · obtain ⟨rest, refused⟩ := faulty.read_eq
    rw [refused] at found
    cases found

theorem incomplete_of_read {rest : Bytes} (missing : codec.read buffer = .ok none rest) :
    Frame.Incomplete codec.limit buffer ∧ rest = buffer := by
  rcases codec.read_cases buffer with incomplete | ⟨frame, packet, later, isFrame, rfl⟩ |
    ⟨cause, faulty⟩
  · rw [read_incomplete incomplete] at missing
    cases missing
    exact ⟨incomplete, rfl⟩
  · rw [isFrame.read_append later] at missing
    cases missing
  · obtain ⟨rest, refused⟩ := faulty.read_eq
    rw [refused] at missing
    cases missing

theorem faulty_of_read {cause : CodecError} {rest : Bytes}
    (refused : codec.read buffer = .error cause rest) : codec.Faulty buffer cause := by
  rcases codec.read_cases buffer with incomplete | ⟨frame, packet, later, isFrame, rfl⟩ |
    ⟨cause, faulty⟩
  · rw [read_incomplete incomplete] at refused
    cases refused
  · rw [isFrame.read_append later] at refused
    cases refused
  · obtain ⟨rest, same⟩ := faulty.read_eq
    rw [same] at refused
    cases refused
    exact faulty

/-- What is wrong with the head of a buffer does not go away when more bytes come. -/
theorem Faulty.append {cause : CodecError} (faulty : codec.Faulty buffer cause) (later : Bytes) :
    codec.Faulty (buffer ++ later) cause := by
  cases faulty with
  | oversized announced exceeded =>
      apply Faulty.oversized _ exceeded
      rw [Frame.announced?_append (Frame.length_of_announced? announced), announced]
  | empty announced =>
      apply Faulty.empty
      rw [Frame.announced?_append (Frame.length_of_announced? announced), announced]
  | undecodable whole refused =>
      rw [List.append_assoc]
      exact .undecodable whole refused

end PacketCodec

end ResumableSession
