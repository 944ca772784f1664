import ResumableSession.Line.Reception
import ResumableSession.Proofs.Wire.Frames
import Mathlib.Data.List.Forall2

/-!
# Reading a stream to its end

Every stream of bytes falls into frames and a rest that does not begin with one.
The packets of the frames are what a reader gets and the rest says how reading
ends, so neither depends on the pieces in which the bytes come, nor on whether the
first packet is taken as the handshake.
-/

namespace ResumableSession

/-- Reading takes from the pieces what is next in the stream, and nothing only at its end. -/
theorem readArrival_pieces {room : Nat} (positive : 0 < room) {pieces : List Bytes}
    (filled : ∀ piece ∈ pieces, piece ≠ []) :
    ∃ (bytes : Bytes) (left : List Bytes),
      readArrival room (pieces.map .bytes) = (.ok bytes, left.map .bytes) ∧
      (∀ piece ∈ left, piece ≠ []) ∧ pieces.flatten = bytes ++ left.flatten ∧
      (bytes = [] → pieces = []) := by
  cases pieces with
  | nil => exact ⟨[], [], rfl, filled, rfl, fun _ => rfl⟩
  | cons piece later =>
      have some : piece ≠ [] := filled piece List.mem_cons_self
      have others : ∀ piece ∈ later, piece ≠ [] :=
        fun other member => filled other (List.mem_cons_of_mem _ member)
      by_cases fits : piece.length ≤ room
      · refine ⟨piece, later, ?_, others, List.flatten_cons, fun none => absurd none some⟩
        simp only [List.map_cons, readArrival, if_pos fits]
      · refine ⟨piece.take room, piece.drop room :: later, ?_, ?_, ?_, ?_⟩
        · simp only [List.map_cons, readArrival, if_neg fits]
        · rw [List.forall_mem_cons]
          refine ⟨?_, others⟩
          rw [Ne, List.drop_eq_nil_iff]
          exact fits
        · rw [List.flatten_cons, List.flatten_cons, ← List.append_assoc, List.take_append_drop]
        · intro none
          rw [List.take_eq_nil_iff] at none
          rcases none with none | none
          · omega
          · exact absurd none some

namespace PacketCodec

variable {P : Type} {codec : PacketCodec P} {stream rest : Bytes} {inbox : Inbox}
  {pieces : List Bytes}

/-- How reading ends where no further packet can be taken off the stream. -/
inductive Ends (codec : PacketCodec P) : Bytes → Except SessionError Unit → Prop where
  | finished : Ends codec [] (.ok ())
  | truncated {rest : Bytes} (some : rest ≠ [])
      (incomplete : Frame.Incomplete codec.limit rest) :
      Ends codec rest (.error (.transport .truncated))
  | faulty {rest : Bytes} {cause : CodecError} (faulty : codec.Faulty rest cause) :
      Ends codec rest (.error (.codec cause))

/-- The stream is the frames of these packets and the rest. -/
def Carries (codec : PacketCodec P) (stream : Bytes) (packets : List (Packet P))
    (rest : Bytes) : Prop :=
  ∃ frames, List.Forall₂ codec.IsFrame frames packets ∧ stream = frames.flatten ++ rest

theorem carries_nil (stream : Bytes) : codec.Carries stream [] stream :=
  ⟨[], .nil, rfl⟩

theorem Carries.cons {frame : Bytes} {packet : Packet P} {packets : List (Packet P)}
    (isFrame : codec.IsFrame frame packet) (carries : codec.Carries stream packets rest) :
    codec.Carries (frame ++ stream) (packet :: packets) rest := by
  obtain ⟨frames, holds, rfl⟩ := carries
  refine ⟨frame :: frames, .cons isFrame holds, ?_⟩
  rw [List.flatten_cons, List.append_assoc]

private theorem Carries.nil_inv (carries : codec.Carries stream [] rest) : stream = rest := by
  obtain ⟨frames, holds, rfl⟩ := carries
  cases holds
  rfl

private theorem Carries.cons_inv {packet : Packet P} {packets : List (Packet P)}
    (carries : codec.Carries stream (packet :: packets) rest) :
    ∃ frame later, codec.IsFrame frame packet ∧ stream = frame ++ later ∧
      codec.Carries later packets rest := by
  obtain ⟨frames, holds, rfl⟩ := carries
  cases holds with
  | @cons frame _ frames _ isFrame holds =>
      refine ⟨frame, frames.flatten ++ rest, isFrame, ?_, frames, holds, rfl⟩
      rw [List.flatten_cons, List.append_assoc]

theorem Carries.append {packets : List (Packet P)} (carries : codec.Carries stream packets rest)
    (later : Bytes) : codec.Carries (stream ++ later) packets (rest ++ later) := by
  obtain ⟨frames, holds, rfl⟩ := carries
  exact ⟨frames, holds, List.append_assoc ..⟩

theorem Carries.concat {frame : Bytes} {packet : Packet P} {packets : List (Packet P)}
    (carries : codec.Carries stream packets (frame ++ rest))
    (isFrame : codec.IsFrame frame packet) :
    codec.Carries stream (packets ++ [packet]) rest := by
  induction packets generalizing stream with
  | nil =>
      obtain rfl := carries.nil_inv
      exact (carries_nil rest).cons isFrame
  | cons first packets induction =>
      obtain ⟨head, later, isHead, rfl, others⟩ := carries.cons_inv
      exact (induction others).cons isHead

/-! What stands at the head of the stream decides, so there is only one way to take
the stream apart. -/

/-- The end that the head of the rest calls for, if it is no packet. -/
def ending? (codec : PacketCodec P) (rest : Bytes) : Option (Except SessionError Unit) :=
  match codec.read rest with
  | .error cause _ => some (.error (.codec cause))
  | .ok (some _) _ => none
  | .ok none _ => some (if rest = [] then .ok () else .error (.transport .truncated))

private theorem Ends.ending?_eq {ending : Except SessionError Unit}
    (ends : codec.Ends rest ending) :
    codec.ending? rest = some ending := by
  cases ends with
  | finished => rw [ending?, read_incomplete (Frame.incomplete_nil _), if_pos rfl]
  | truncated some incomplete => rw [ending?, read_incomplete incomplete, if_neg some]
  | faulty faulty =>
      obtain ⟨left, refused⟩ := faulty.read_eq
      rw [ending?, refused]

private theorem IsFrame.ending?_eq {frame : Bytes} {packet : Packet P}
    (isFrame : codec.IsFrame frame packet) (later : Bytes) :
    codec.ending? (frame ++ later) = none := by
  rw [ending?, isFrame.read_append later]

theorem Carries.unique {packets packets' : List (Packet P)} {rest' : Bytes}
    {ending ending' : Except SessionError Unit} (carries : codec.Carries stream packets rest)
    (ends : codec.Ends rest ending) (carries' : codec.Carries stream packets' rest')
    (ends' : codec.Ends rest' ending') :
    packets = packets' ∧ rest = rest' ∧ ending = ending' := by
  induction packets generalizing stream packets' with
  | nil =>
      obtain rfl := carries.nil_inv
      cases packets' with
      | nil =>
          obtain rfl := carries'.nil_inv
          have agrees := ends.ending?_eq
          rw [ends'.ending?_eq, Option.some.injEq] at agrees
          exact ⟨rfl, rfl, agrees.symm⟩
      | cons packet' packets' =>
          obtain ⟨frame', later', isFrame', rfl, _⟩ := carries'.cons_inv
          have agrees := isFrame'.ending?_eq later'
          rw [ends.ending?_eq] at agrees
          cases agrees
  | cons packet packets induction =>
      obtain ⟨frame, later, isFrame, rfl, others⟩ := carries.cons_inv
      cases packets' with
      | nil =>
          obtain rfl := carries'.nil_inv
          have agrees := isFrame.ending?_eq later
          rw [ends'.ending?_eq] at agrees
          cases agrees
      | cons packet' packets' =>
          obtain ⟨frame', later', isFrame', same, others'⟩ := carries'.cons_inv
          have found := isFrame.read_append later
          rw [same, isFrame'.read_append later'] at found
          cases found
          obtain ⟨rfl, agrees⟩ := induction others others'
          exact ⟨rfl, agrees⟩

/-- The packets at the head of a stream are the first ones of all that it carries. -/
theorem Carries.isPrefix {packets whole : List (Packet P)} {rest' : Bytes}
    {ending : Except SessionError Unit} (carries : codec.Carries stream packets rest)
    (carriesWhole : codec.Carries stream whole rest') (ends : codec.Ends rest' ending) :
    packets <+: whole := by
  induction packets generalizing stream whole with
  | nil => exact List.nil_prefix
  | cons packet packets induction =>
      obtain ⟨frame, later, isFrame, rfl, others⟩ := carries.cons_inv
      cases whole with
      | nil =>
          obtain rfl := carriesWhole.nil_inv
          have agrees := isFrame.ending?_eq later
          rw [ends.ending?_eq] at agrees
          cases agrees
      | cons packet' whole =>
          obtain ⟨frame', later', isFrame', same, others'⟩ := carriesWhole.cons_inv
          have found := isFrame.read_append later
          rw [same, isFrame'.read_append later'] at found
          cases found
          exact List.cons_prefix_cons.mpr ⟨rfl, induction others others'⟩

/-! A reader takes the stream apart. -/

/-- What receiving once from a stream comes to. -/
inductive Receives (codec : PacketCodec P) (stream : Bytes) :
    Reception P (Option (Packet P)) → Prop where
  | packet {frame : Bytes} {packet : Packet P} {inbox : Inbox} {pieces : List Bytes}
      (isFrame : codec.IsFrame frame packet) (filled : ∀ piece ∈ pieces, piece ≠ [])
      (rest : stream = frame ++ (inbox.bytes ++ pieces.flatten)) :
      Receives codec stream ⟨.ok (some packet), inbox, pieces.map .bytes⟩
  | finished {inbox : Inbox} {arrivals : List Arrival} (ends : codec.Ends stream (.ok ())) :
      Receives codec stream ⟨.ok none, inbox, arrivals⟩
  | failed {error : SessionError} {inbox : Inbox} {arrivals : List Arrival}
      (ends : codec.Ends stream (.error error)) :
      Receives codec stream ⟨.error error, inbox, arrivals⟩

private theorem receive_pieces (codec : PacketCodec P) (inbox : Inbox)
    (filled : ∀ piece ∈ pieces, piece ≠ []) :
    codec.Receives (inbox.bytes ++ pieces.flatten)
      (codec.receive inbox (pieces.map .bytes)) := by
  generalize read : pieces.map Arrival.bytes = arrivals
  -- Whenever more is read, what was read before is the beginning of a frame, and the
  -- stream is the same as before: the bytes have only moved into the inbox.
  fun_induction receive codec inbox arrivals generalizing pieces with
  | case1 inbox arrivals cause rest refused =>
      exact .failed (.faulty ((faulty_of_read refused).append _))
  | case2 inbox arrivals packet rest found =>
      obtain ⟨frame, isFrame, same⟩ := isFrame_of_read found
      subst read
      apply Receives.packet isFrame filled
      rw [same, List.append_assoc]
  | case3 inbox arrivals rest missing grown cause left =>
      rename_i failed
      obtain ⟨bytes, later, arrived, _⟩ :=
        readArrival_pieces (Inbox.room_makeRoom_pos { inbox with bytes := rest }) filled
      rw [← read, arrived] at failed
      cases failed
  | case4 inbox arrivals rest missing grown left ended =>
      rename_i none
      obtain ⟨bytes, later, arrived, _, _, last⟩ :=
        readArrival_pieces (Inbox.room_makeRoom_pos { inbox with bytes := rest }) filled
      rw [← read, arrived] at ended
      cases ended
      obtain rfl := last rfl
      obtain ⟨incomplete, rfl⟩ := incomplete_of_read missing
      rw [Inbox.bytes_makeRoom, List.isEmpty_iff] at none
      rw [List.flatten_nil, List.append_nil, none]
      exact .finished .finished
  | case5 inbox arrivals rest missing grown left ended =>
      rename_i some
      obtain ⟨bytes, later, arrived, _, _, last⟩ :=
        readArrival_pieces (Inbox.room_makeRoom_pos { inbox with bytes := rest }) filled
      rw [← read, arrived] at ended
      cases ended
      obtain rfl := last rfl
      obtain ⟨incomplete, rfl⟩ := incomplete_of_read missing
      rw [Inbox.bytes_makeRoom, List.isEmpty_iff] at some
      rw [List.flatten_nil, List.append_nil]
      exact .failed (.truncated some incomplete)
  | case6 inbox arrivals rest missing grown byte bytes left more =>
      rename_i induction
      obtain ⟨bytes', later, arrived, others, flattened, _⟩ :=
        readArrival_pieces (Inbox.room_makeRoom_pos { inbox with bytes := rest }) filled
      rw [← read, arrived] at more
      cases more
      obtain ⟨incomplete, rfl⟩ := incomplete_of_read missing
      have bytes_grown : grown.bytes = inbox.bytes := Inbox.bytes_makeRoom _
      rw [flattened, ← List.append_assoc, ← bytes_grown]
      exact induction others rfl

/-- What reading comes to after receiving once. -/
def readOn (codec : PacketCodec P) :
    Reception P (Option (Packet P)) → List (Packet P) × Except SessionError Unit
  | ⟨.error cause, _, _⟩ => ([], .error cause)
  | ⟨.ok none, _, _⟩ => ([], .ok ())
  | ⟨.ok (some packet), inbox, arrivals⟩ =>
      (packet :: (codec.receiveAll inbox arrivals).1, (codec.receiveAll inbox arrivals).2)

private theorem receiveAll_eq (codec : PacketCodec P) (inbox : Inbox) (arrivals : List Arrival) :
    codec.receiveAll inbox arrivals = codec.readOn (codec.receive inbox arrivals) := by
  rw [receiveAll]
  generalize codec.receive inbox arrivals = reception
  rcases reception with ⟨_ | _ | _, _, _⟩ <;> rfl

private theorem receiveAll_pieces (codec : PacketCodec P) (inbox : Inbox)
    (filled : ∀ piece ∈ pieces, piece ≠ []) :
    ∃ rest,
      codec.Carries (inbox.bytes ++ pieces.flatten)
        (codec.receiveAll inbox (pieces.map .bytes)).1 rest ∧
      codec.Ends rest (codec.receiveAll inbox (pieces.map .bytes)).2 := by
  induction left : remaining inbox (pieces.map .bytes) using Nat.strongRecOn
    generalizing inbox pieces with
  | ind left' induction =>
      subst left
      have received := receive_pieces codec inbox filled
      have shorter := @remaining_receive_lt P codec inbox (pieces.map .bytes)
      rw [receiveAll_eq]
      generalize codec.receive inbox (pieces.map .bytes) = reception at received shorter ⊢
      cases received with
      | @packet frame packet inbox' later isFrame filled same =>
          rw [same]
          obtain ⟨rest, carries, ends⟩ := induction _ (shorter rfl) inbox' filled rfl
          exact ⟨rest, carries.cons isFrame, ends⟩
      | finished ends => exact ⟨_, carries_nil _, ends⟩
      | failed ends => exact ⟨_, carries_nil _, ends⟩

private theorem receiveAll_single (codec : PacketCodec P) (stream : Bytes) :
    ∃ rest, codec.Carries stream (codec.receiveAll {} [.bytes stream]).1 rest ∧
      codec.Ends rest (codec.receiveAll {} [.bytes stream]).2 := by
  by_cases none : stream = []
  · -- An empty piece is the end of the stream.
    subst none
    have ended : ∃ inbox, codec.receive {} [.bytes []] = ⟨.ok none, inbox, []⟩ := by
      refine ⟨({} : Inbox).makeRoom, ?_⟩
      rw [receive]
      simp [read_incomplete (Frame.incomplete_nil codec.limit), readArrival, Inbox.bytes_makeRoom]
    obtain ⟨inbox, ended⟩ := ended
    rw [receiveAll_eq, ended]
    exact ⟨[], carries_nil [], .finished⟩
  · have read := receiveAll_pieces codec {}
      (List.forall_mem_singleton.mpr none)
    rw [List.flatten_singleton] at read
    exact read

/-- What was heard so far of a stream is the beginning of what it carries in the end. -/
theorem Carries.heard {arrived : Bytes} {packets : List (Packet P)}
    (carries : codec.Carries arrived packets rest) (begun : arrived <+: stream) :
    packets <+: (codec.receiveAll {} [.bytes stream]).1 := by
  obtain ⟨later, rfl⟩ := begun
  obtain ⟨rest', carriesWhole, ends⟩ := receiveAll_single codec (arrived ++ later)
  exact (carries.append later).isPrefix carriesWhole ends

/-- What a stream holds and how it ends. -/
structure Reading (codec : PacketCodec P) (stream : Bytes) (packets : List (Packet P))
    (ending : Except SessionError Unit) : Prop where
  split : ∃ rest, codec.Carries stream packets rest ∧ codec.Ends rest ending
  finished : ending = .ok () ↔ ∃ packets, codec.Carries stream packets []
  truncated : ending = .error (.transport .truncated) ↔
    ∃ packets rest, codec.Carries stream packets rest ∧ rest ≠ [] ∧
      Frame.Incomplete codec.limit rest
  faulty : ∀ cause, ending = .error (.codec cause) ↔
    ∃ packets rest, codec.Carries stream packets rest ∧ codec.Faulty rest cause

private theorem Reading.of_split {packets : List (Packet P)} {ending : Except SessionError Unit}
    (carries : codec.Carries stream packets rest) (ends : codec.Ends rest ending) :
    codec.Reading stream packets ending := by
  constructor
  · exact ⟨rest, carries, ends⟩
  · constructor
    · rintro rfl
      cases ends
      exact ⟨packets, carries⟩
    · rintro ⟨packets', carries'⟩
      exact (carries.unique ends carries' .finished).2.2
  · constructor
    · rintro rfl
      cases ends with
      | truncated some incomplete => exact ⟨packets, rest, carries, some, incomplete⟩
    · rintro ⟨packets', rest', carries', some, incomplete⟩
      exact (carries.unique ends carries' (.truncated some incomplete)).2.2
  · intro cause
    constructor
    · rintro rfl
      cases ends with
      | faulty faulty => exact ⟨packets, rest, carries, faulty⟩
    · rintro ⟨packets', rest', carries', faulty⟩
      exact (carries.unique ends carries' (.faulty faulty)).2.2

/-- The handshake of a connection on which these packets come and that ends so. -/
def opening : List (Packet P) × Except SessionError Unit → Except SessionError Handshake
  | (packet :: _, _) => Handshake.ofPacket packet
  | ([], .ok ()) => .error (.handshakeRejected .closedBeforeHandshake)
  | ([], .error cause) => .error cause

private theorem receiveHandshake_eq (codec : PacketCodec P) (inbox : Inbox)
    (arrivals : List Arrival) :
    (codec.receiveHandshake inbox arrivals).outcome =
      opening (codec.receiveAll inbox arrivals) := by
  rw [receiveAll_eq, receiveHandshake]
  generalize codec.receive inbox arrivals = reception
  rcases reception with ⟨_ | _ | _, _, _⟩ <;> rfl

/-- The handshake takes one packet and leaves the others. -/
theorem receiveAll_afterHandshake (codec : PacketCodec P) (inbox : Inbox)
    (arrivals : List Arrival) (some : (codec.receiveAll inbox arrivals).1 ≠ []) :
    codec.receiveAll (codec.receiveHandshake inbox arrivals).inbox
        (codec.receiveHandshake inbox arrivals).arrivals =
      ((codec.receiveAll inbox arrivals).1.tail, (codec.receiveAll inbox arrivals).2) := by
  rw [receiveAll_eq codec inbox arrivals] at some ⊢
  rw [receiveHandshake]
  generalize codec.receive inbox arrivals = reception at some ⊢
  rcases reception with ⟨_ | _ | packet, inbox', arrivals'⟩
  · exact absurd rfl some
  · exact absurd rfl some
  · rfl

/-- Neither the pieces nor the handshake change what is read of a stream: it is what
the stream holds. -/
theorem reading_independent (codec : PacketCodec P) (inbox : Inbox) {pieces : List Bytes}
    (filled : ∀ piece ∈ pieces, piece ≠ []) :
    let stream := inbox.bytes ++ pieces.flatten
    let whole := codec.receiveAll {} [.bytes stream]
    let first := codec.receiveHandshake inbox (pieces.map .bytes)
    codec.receiveAll inbox (pieces.map .bytes) = whole ∧
      codec.Reading stream whole.1 whole.2 ∧
      first.outcome = opening whole ∧
      (whole.1 ≠ [] → codec.receiveAll first.inbox first.arrivals = (whole.1.tail, whole.2)) := by
  intro stream whole first
  obtain ⟨rest, carries, ends⟩ := receiveAll_pieces codec inbox filled
  obtain ⟨rest', carries', ends'⟩ := receiveAll_single codec stream
  have same : codec.receiveAll inbox (pieces.map .bytes) = whole := by
    obtain ⟨packets, _, ending⟩ := carries.unique ends carries' ends'
    exact Prod.ext packets ending
  refine ⟨same, .of_split carries' ends', ?_, ?_⟩
  · rw [← same]
    exact receiveHandshake_eq codec inbox (pieces.map .bytes)
  · rw [← same]
    exact receiveAll_afterHandshake codec inbox (pieces.map .bytes)

/-- A handshake and an acknowledgement come in pieces, and then a length field breaks off. -/
theorem reading_cut :
    let codec : PacketCodec Bytes := { payloads := .raw, limit := 16 }
    let pieces : List Bytes := [[0, 0, 0, 2], [0, 0], [0, 4, 7, 3, 0]]
    (∀ piece ∈ pieces, piece ≠ []) ∧
      codec.receiveAll { bytes := [2, 0, 0] } (pieces.map .bytes) =
        codec.receiveAll {} [.bytes [2, 0, 0, 0, 0, 0, 2, 0, 0, 0, 4, 7, 3, 0]] ∧
      (codec.receiveAll { bytes := [2, 0, 0] } (pieces.map .bytes)).2 =
        .error (.transport .truncated) := by
  intro codec pieces
  have filled : ∀ piece ∈ pieces, piece ≠ [] := by decide
  obtain ⟨same, reading, _⟩ := codec.reading_independent { bytes := [2, 0, 0] } filled
  refine ⟨filled, same, ?_⟩
  have incomplete : Frame.Incomplete codec.limit [3, 0] := by
    intro length announced
    cases announced
  have create : codec.IsFrame [2, 0, 0, 0, 0, 0] (.createRequest "") :=
    ⟨⟨rfl, by decide, by decide⟩, by decide +kernel⟩
  have ack : codec.IsFrame [2, 0, 0, 0, 4, 7] (.ack 7) :=
    ⟨⟨rfl, by decide, by decide⟩, by decide +kernel⟩
  rw [same]
  apply reading.truncated.mpr
  exact ⟨[.createRequest "", .ack 7], [3, 0],
    ⟨_, .cons create (.cons ack .nil), rfl⟩, by decide, incomplete⟩

end PacketCodec

end ResumableSession
