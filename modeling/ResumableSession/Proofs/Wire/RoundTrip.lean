import ResumableSession.Line.Reception
import ResumableSession.Proofs.Wire.Fields
import ResumableSession.Proofs.Wire.Frames
import Mathlib.Data.List.Forall2

/-!
# Streams of packets

Packets that were encoded one after another are read back, however the bytes are
cut into chunks on their way: a chunk completes some of the frames and leaves the
beginning of the next one in the buffer.
-/

namespace ResumableSession

theorem PacketKind.ofTag_tag (kind : PacketKind) : ofTag kind.tag = .ok kind := by
  cases kind <;> rfl

namespace PacketCodec

variable {P : Type} {codec : PacketCodec P}

private theorem readBody_writeFields (readsBack : codec.payloads.ReadsBack) {packet : Packet P}
    {buffer filled : Bytes}
    (wrote : codec.writeFields packet (buffer ++ [packet.kind.tag]) = .ok () filled) :
    ∃ body, filled = buffer ++ body ∧ 0 < body.length ∧
      (body.length < UInt32.size → Reader.result codec.readBody body = .ok packet) := by
  obtain ⟨added, rfl, readBack⟩ := readFields_writeFields readsBack packet wrote
  refine ⟨packet.kind.tag :: added, by simp, by simp, ?_⟩
  intro fits
  rw [List.length_cons] at fits
  have fieldsRead := readBack (by omega)
  simp only [Reader.result, readBody, bind, EStateM.bind, Reader.octet, PacketKind.ofTag_tag,
    fieldsRead, Reader.atEnd, pure, EStateM.pure]

/-- What the encoder accepts becomes a frame that holds the packet. -/
theorem isFrame_of_encode (readsBack : codec.payloads.ReadsBack)
    (limited : codec.limit < UInt32.size) {packet : Packet P} {frame : Bytes}
    (encoded : codec.encode packet = .ok frame) : codec.IsFrame frame packet := by
  unfold encode write at encoded
  split at encoded
  · next wrote =>
      split at wrote
      · cases wrote
      · split at wrote
        · cases wrote
        · next filled written =>
            obtain ⟨body, rfl, positive, readBack⟩ := readBody_writeFields readsBack written
            have behind : (Frame.reserve [] ++ body).drop (0 + Frame.headerLength) = body := rfl
            simp only [List.length_nil, EStateM.adaptExcept, Frame.finish, behind] at wrote
            by_cases exceeded : codec.limit < body.length
            · rw [if_pos exceeded] at wrote
              cases wrote
            · rw [if_neg exceeded] at wrote
              cases wrote
              cases encoded
              have fits : body.length < UInt32.size := by omega
              constructor
              · constructor
                · exact Frame.announced?_lengthField fits body
                · exact positive
                · exact Nat.le_of_not_lt exceeded
              · exact readBack fits
  · cases encoded

/-- Takes packets off the head of a buffer until no whole frame is left there. -/
def readAvailable (codec : PacketCodec P) (buffer : Bytes) :
    List (Packet P) × Except CodecError Bytes :=
  match _found : codec.read buffer with
  | .error cause _ => ([], .error cause)
  | .ok none rest => ([], .ok rest)
  | .ok (some packet) rest =>
      let (packets, left) := codec.readAvailable rest
      (packet :: packets, left)
termination_by buffer.length
decreasing_by
  have shorter := length_of_read _found
  simp only [Option.isSome_some, if_true] at shorter
  omega

/-- Adds chunks to a buffer one after another and takes off what each completes. -/
def feed (codec : PacketCodec P) (buffer : Bytes) :
    List Bytes → List (Packet P) × Except CodecError Bytes
  | [] => ([], .ok buffer)
  | chunk :: chunks =>
      match codec.readAvailable (buffer ++ chunk) with
      | (packets, .error cause) => (packets, .error cause)
      | (packets, .ok rest) =>
          let (later, left) := codec.feed rest chunks
          (packets ++ later, left)

theorem IsFrame.readAvailable_append {frame : Bytes} {packet : Packet P}
    (isFrame : codec.IsFrame frame packet) (buffer : Bytes) :
    codec.readAvailable (frame ++ buffer) =
      (packet :: (codec.readAvailable buffer).1, (codec.readAvailable buffer).2) := by
  rw [readAvailable]
  split
  · next refused =>
      rw [isFrame.read_append buffer] at refused
      cases refused
  · next missing =>
      rw [isFrame.read_append buffer] at missing
      cases missing
  · next found =>
      rw [isFrame.read_append buffer] at found
      cases found
      rfl

private theorem readAvailable_incomplete {buffer : Bytes}
    (incomplete : Frame.Incomplete codec.limit buffer) :
    codec.readAvailable buffer = ([], .ok buffer) := by
  rw [readAvailable]
  split
  · next refused =>
      rw [read_incomplete incomplete] at refused
      cases refused
  · next missing =>
      rw [read_incomplete incomplete] at missing
      cases missing
      rfl
  · next found =>
      rw [read_incomplete incomplete] at found
      cases found

/-- The buffer holds less than the first of the frames of these packets, of which
the rest is still to come. -/
structure Awaits (codec : PacketCodec P) (buffer later : Bytes) (packets : List (Packet P)) :
    Prop where
  frames : ∃ frames, List.Forall₂ codec.IsFrame frames packets ∧ buffer ++ later = frames.flatten
  more : later = [] → buffer = [] ∧ packets = []

/-- Taking off what is complete leaves the beginning of the next frame. -/
theorem readAvailable_frames {frames : List Bytes} {packets : List (Packet P)}
    (holds : List.Forall₂ codec.IsFrame frames packets) :
    ∀ {buffer later : Bytes}, buffer ++ later = frames.flatten →
      ∃ taken rest left, packets = taken ++ left ∧
        codec.readAvailable buffer = (taken, .ok rest) ∧ codec.Awaits rest later left := by
  induction holds with
  | nil =>
      intro buffer later same
      obtain ⟨rfl, rfl⟩ := List.append_eq_nil_iff.mp same
      refine ⟨[], [], [], rfl, readAvailable_incomplete (Frame.incomplete_nil _), ?_⟩
      exact ⟨⟨[], .nil, rfl⟩, fun _ => ⟨rfl, rfl⟩⟩
  | @cons frame packet frames packets isFrame holds induction =>
      intro buffer later same
      rw [List.flatten_cons] at same
      by_cases short : buffer.length < frame.length
      · obtain ⟨missing, begun⟩ : buffer <+: frame :=
          List.prefix_of_prefix_length_le ⟨later, same⟩ (List.prefix_append _ _)
            (Nat.le_of_lt short)
        subst begun
        rw [List.append_assoc, List.append_cancel_left_eq] at same
        have unfinished : missing ≠ [] := by
          rintro rfl
          simp at short
        refine ⟨[], buffer, packet :: packets, rfl,
          readAvailable_incomplete (isFrame.incomplete rfl unfinished), ?_⟩
        constructor
        · refine ⟨(buffer ++ missing) :: frames, .cons isFrame holds, ?_⟩
          rw [same, List.flatten_cons, List.append_assoc]
        · intro none
          rw [none] at same
          exact absurd (List.append_eq_nil_iff.mp same.symm).1 unfinished
      · obtain ⟨more, begun⟩ : frame <+: buffer :=
          List.prefix_of_prefix_length_le (List.prefix_append _ _) ⟨later, same⟩
            (Nat.le_of_not_lt short)
        subst begun
        rw [List.append_assoc, List.append_cancel_left_eq] at same
        obtain ⟨taken, rest, left, split, available, awaits⟩ := induction same
        refine ⟨packet :: taken, rest, left, by rw [split]; rfl, ?_, awaits⟩
        rw [isFrame.readAvailable_append, available]

/-- Each chunk completes some of the frames and begins the next one. -/
theorem Awaits.feed_eq (chunks : List Bytes) :
    ∀ {buffer : Bytes} {packets : List (Packet P)}, codec.Awaits buffer chunks.flatten packets →
      codec.feed buffer chunks = (packets, .ok []) := by
  induction chunks with
  | nil =>
      intro buffer packets awaits
      obtain ⟨rfl, rfl⟩ := awaits.more rfl
      rfl
  | cons chunk chunks induction =>
      intro buffer packets awaits
      obtain ⟨frames, holds, same⟩ := awaits.frames
      rw [List.flatten_cons, ← List.append_assoc] at same
      obtain ⟨taken, rest, left, rfl, available, awaits⟩ := readAvailable_frames holds same
      simp only [feed, available, induction awaits]

private theorem Awaits.of_frames {frames : List Bytes} {packets : List (Packet P)}
    (holds : List.Forall₂ codec.IsFrame frames packets) :
    codec.Awaits [] frames.flatten packets := by
  constructor
  · exact ⟨frames, holds, rfl⟩
  · intro none
    refine ⟨rfl, ?_⟩
    cases holds with
    | nil => rfl
    | cons isFrame _ =>
        rw [List.flatten_cons, List.append_eq_nil_iff] at none
        have long := isFrame.length_eq
        simp [none.1, Frame.headerLength] at long

/-- The codec of byte strings under a limit. -/
def raw (limit : Nat) : PacketCodec Bytes :=
  ({ payloads := .raw } : PacketCodec Bytes).withLimit limit

theorem raw_limit_lt (limit : Nat) : (raw limit).limit < UInt32.size :=
  withLimit_addressable _ limit

/-- Packets that the encoder accepts are read back, in order and with nothing left
over, whatever chunks their bytes come in. -/
theorem feed_encoded (limit : Nat) {packets : List (Packet Bytes)} {frames chunks : List Bytes}
    (encoded : List.Forall₂ (fun packet frame => (raw limit).encode packet = .ok frame)
      packets frames)
    (cut : chunks.flatten = frames.flatten) :
    (raw limit).feed [] chunks = (packets, .ok []) := by
  have holds : List.Forall₂ (raw limit).IsFrame frames packets := by
    apply List.Forall₂.flip
    apply encoded.imp
    intro packet frame accepted
    exact isFrame_of_encode PayloadCodec.raw_readsBack (raw_limit_lt limit) accepted
  apply Awaits.feed_eq
  rw [cut]
  exact Awaits.of_frames holds

/-- Two packets whose bytes come in three chunks, cut inside a length field and
inside a payload. -/
theorem feed_three_chunks :
    List.Forall₂ (fun packet frame => (raw 64).encode packet = .ok frame)
        [.reliable ⟨300, 7, .data [1, 2, 3]⟩, .createRequest "é"]
        [[8, 0, 0, 0, 5, 172, 2, 7, 3, 1, 2, 3], [4, 0, 0, 0, 0, 2, 195, 169]] ∧
      (raw 64).feed [] [[8, 0], [0, 0, 5, 172, 2, 7, 3, 1], [2, 3, 4, 0, 0, 0, 0, 2, 195, 169]] =
        ([.reliable ⟨300, 7, .data [1, 2, 3]⟩, .createRequest "é"], .ok []) :=
  have encoded : List.Forall₂ (fun packet frame => (raw 64).encode packet = .ok frame)
      [.reliable ⟨300, 7, .data [1, 2, 3]⟩, .createRequest "é"]
      [[8, 0, 0, 0, 5, 172, 2, 7, 3, 1, 2, 3], [4, 0, 0, 0, 0, 2, 195, 169]] :=
    .cons (by decide +kernel) (.cons (by decide +kernel) .nil)
  ⟨encoded, feed_encoded 64 encoded (by decide)⟩

end PacketCodec

end ResumableSession
