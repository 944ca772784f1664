import ResumableSession.Proofs.Wire.Grammar

/-!
# No reach beyond the buffer

The decoder once more, in a form that reaches into its buffer by index and by count, after
the checks that it makes and no others, and that has no result where it reaches too far.
Whatever the buffer holds it has one, and it is the one of the decoder that cannot reach
beyond the end.
-/

namespace ResumableSession

variable {ε δ α β : Type}

/-- A reader that reaches into its input without asking how much there is.  Where it reaches
beyond the end it has no result. -/
structure Access (ε α : Type) where
  run : Bytes → Option (EStateM.Result ε Bytes α)

namespace Access

instance : Monad (Access ε) where
  pure value := ⟨fun input => some (.ok value input)⟩
  bind first next := ⟨fun input =>
    match first.run input with
    | none => none
    | some (.ok value rest) => (next value).run rest
    | some (.error failure rest) => some (.error failure rest)⟩

/-- Gives up. -/
def fail (failure : ε) : Access ε α := ⟨fun input => some (.error failure input)⟩

/-- The same access with other failures. -/
def adaptExcept (rename : ε → δ) (access : Access ε α) : Access δ α := ⟨fun input =>
  (access.run input).map fun
    | .ok value rest => .ok value rest
    | .error failure rest => .error (rename failure) rest⟩

/-- How many octets are left. -/
def remaining : Access ε Nat := ⟨fun input => some (.ok input.length input)⟩

/-- The octet at an index, which stays where it is. -/
def look (index : Nat) : Access ε UInt8 := ⟨fun input =>
  input[index]?.map fun byte => .ok byte input⟩

/-- Takes one octet. -/
def octet : Access ε UInt8 := ⟨fun
  | [] => none
  | byte :: rest => some (.ok byte rest)⟩

/-- Takes so many octets. -/
def take (count : Nat) : Access ε Bytes := ⟨fun input =>
  if count ≤ input.length then some (.ok (input.take count) (input.drop count)) else none⟩

/-- Whatever there is to read, the access stays in range and gives what the reader gives. -/
def Follows (access : Access ε α) (reader : Reader ε α) : Prop :=
  ∀ input, access.run input = some (reader input)

private theorem follows_pure (value : α) :
    (pure value : Access ε α).Follows (pure value) := fun _ => rfl

private theorem follows_fail (failure : ε) : (fail failure : Access ε α).Follows (throw failure) :=
  fun _ => rfl

private theorem bind_of_ok {access : Access ε α} {next : α → Access ε β} {input rest : Bytes}
    {value : α}
    (found : access.run input = some (.ok value rest)) :
    (access >>= next).run input = (next value).run rest := by
  simp only [Bind.bind, found]

/-- On a single input it is enough to follow what the reader finds there. -/
theorem bind_eq {access : Access ε α} {reader : Reader ε α} {next : α → Access ε β}
    {after : α → Reader ε β} {input : Bytes} (first : access.run input = some (reader input))
    (second : ∀ value rest, reader input = .ok value rest →
      (next value).run rest = some (after value rest)) :
    (access >>= next).run input = some ((reader >>= after) input) := by
  simp only [Bind.bind, EStateM.bind, first]
  cases found : reader input with
  | ok value rest => exact second value rest found
  | error failure rest => rfl

theorem Follows.bind {access : Access ε α} {reader : Reader ε α} {next : α → Access ε β}
    {after : α → Reader ε β} (first : access.Follows reader)
    (second : ∀ value, (next value).Follows (after value)) :
    (access >>= next).Follows (reader >>= after) :=
  fun input => bind_eq (first input) fun value rest _ => second value rest

theorem Follows.adaptExcept {access : Access ε α} {reader : Reader ε α}
    (follows : access.Follows reader) (rename : ε → δ) :
    (access.adaptExcept rename).Follows (EStateM.adaptExcept rename reader) := by
  intro input
  simp only [Access.adaptExcept, EStateM.adaptExcept, follows input, Option.map_some]
  cases reader input <;> rfl

end Access

/-! ## Fields -/

namespace Varint

/-- Takes groups as long as another one is announced, `allowed` at most. -/
def reachGroups : Nat → Access WireError Nat
  | 0 => Access.fail .varintOverflow
  | allowed + 1 => do
      if (← Access.remaining) = 0 then Access.fail .malformed
      else
        let byte ← Access.octet
        let group := byte.toNat % 128
        if allowed = 0 ∧ 15 < group then Access.fail .varintOverflow
        else if byte.toNat < 128 then return group
        else return group + 128 * (← reachGroups allowed)

/-- Takes one integer. -/
def reach : Access WireError UInt32 := do
  let value ← reachGroups maxLength
  return UInt32.ofNat value

private theorem follows_reachGroups (allowed : Nat) :
    (reachGroups allowed).Follows (readGroups allowed) := by
  induction allowed with
  | zero => exact fun _ => rfl
  | succ allowed induction =>
      intro input
      cases input with
      | nil => rfl
      | cons byte rest =>
          have counted : (Access.remaining : Access WireError Nat).run (byte :: rest) =
              some (.ok (rest.length + 1) (byte :: rest)) := rfl
          have taken : (Access.octet : Access WireError UInt8).run (byte :: rest) =
              some (.ok byte rest) := rfl
          rw [reachGroups, Access.bind_of_ok counted, if_neg (Nat.succ_ne_zero _),
            Access.bind_of_ok taken, readGroups]
          dsimp only
          split
          · rfl
          · split
            · rfl
            · -- Only here does the loop go round once more.
              simp only [Bind.bind, induction rest]
              cases readGroups allowed rest <;> rfl

private theorem follows_reach : reach.Follows read :=
  (follows_reachGroups maxLength).bind fun _ => Access.follows_pure _

end Varint

namespace WireText

/-- Takes a length field and the bytes it counts. -/
def reachCounted : Access WireError Bytes := do
  let size ← Varint.reach
  if (← Access.remaining) < size.toNat then Access.fail .malformed else Access.take size.toNat

/-- Takes one text. -/
def reach : Access WireError String := do
  match ofUtf8? (← reachCounted) with
  | some text => return text
  | none => Access.fail .invalidText

private theorem follows_reachCounted : reachCounted.Follows readCounted := by
  refine Varint.follows_reach.bind fun size input => ?_
  simp only [Bind.bind, Access.remaining, Reader.octets]
  split
  · rfl
  · next long => exact if_pos (Nat.le_of_not_lt long)

private theorem follows_reach : reach.Follows read := by
  refine follows_reachCounted.bind fun bytes => ?_
  cases ofUtf8? bytes with
  | none => exact Access.follows_fail _
  | some text => exact Access.follows_pure _

end WireText

/-- Takes a byte string. -/
def PayloadCodec.reachRaw : Access CodecError Bytes := WireText.reachCounted.adaptExcept .wire

theorem PayloadCodec.follows_reachRaw : PayloadCodec.reachRaw.Follows PayloadCodec.raw.read :=
  WireText.follows_reachCounted.adaptExcept _

/-! ## Frames -/

namespace Frame

/-- Looks up the length of the frame, its length field included; zero while that is not
there. -/
def reachLength : Access WireError Nat := do
  if (← Access.remaining) < headerLength then return 0
  else
    let b₀ ← Access.look 0
    let b₁ ← Access.look 1
    let b₂ ← Access.look 2
    let b₃ ← Access.look 3
    return b₀.toNat + 0x100 * b₁.toNat + 0x10000 * b₂.toNat + 0x1000000 * b₃.toNat + headerLength

/-- Takes the body of one frame, or nothing while that is not complete. -/
def reachSplit (limit : Nat) : Access WireError (Option Bytes) := do
  let total ← reachLength
  if total = 0 then return none
  else
    let length := total - headerLength
    if limit < length then Access.fail (.size length)
    else if length = 0 then Access.fail .malformed
    else if (← Access.remaining) < total then return none
    else
      let _ ← Access.take headerLength
      return some (← Access.take length)

private theorem reachLength_eq (buffer : Bytes) :
    reachLength.run buffer = some (.ok (peekLength buffer) buffer) := by
  match buffer with
  | [] | [_] | [_, _] | [_, _, _] => rfl
  | b₀ :: b₁ :: b₂ :: b₃ :: rest =>
      have long : ¬rest.length + 1 + 1 + 1 + 1 < headerLength := by
        simp only [headerLength]
        omega
      rw [reachLength]
      exact (Access.bind_of_ok rfl).trans (congrArg (Access.run · _) (if_neg long))

private theorem follows_reachSplit (limit : Nat) : (reachSplit limit).Follows (split limit) := by
  intro buffer
  rw [reachSplit, Access.bind_of_ok (reachLength_eq buffer)]
  cases announced : announced? buffer with
  | none =>
      simp only [peekLength, split, announced]
      rfl
  | some length =>
      simp only [peekLength, split, announced]
      have some := length_of_announced? announced
      have total : ¬length + headerLength = 0 := Nat.succ_ne_zero _
      simp only [if_neg total, Nat.add_sub_cancel]
      split
      · rfl
      · split
        · rfl
        · refine (Access.bind_of_ok rfl).trans ?_
          split
          · rfl
          · next long =>
              have rest : length ≤ (buffer.drop headerLength).length := by
                rw [List.length_drop]
                omega
              refine (Access.bind_of_ok (if_pos some)).trans ?_
              exact Access.bind_of_ok (if_pos rest)

theorem body_ne_nil {limit : Nat} {buffer body rest : Bytes}
    (found : split limit buffer = .ok (some body) rest) : body ≠ [] := by
  cases head limit buffer with
  | incomplete incomplete =>
      rw [incomplete.split_eq] at found
      cases found
  | @whole frame later whole =>
      rw [whole.split_append later] at found
      cases found
      exact List.length_pos_iff.mp whole.positive
  | oversized announced exceeded =>
      simp only [split, announced, if_pos exceeded] at found
      cases found
  | empty announced =>
      simp only [split, announced, Nat.not_lt_zero, if_false, if_true] at found
      cases found

end Frame

/-! ## Packets -/

namespace Access

/-- Works on other bytes, which are given up behind it. -/
def within (body : Bytes) (access : Access ε α) : Access ε α := ⟨fun input =>
  (access.run body).map fun
    | .ok value _ => .ok value input
    | .error failure _ => .error failure input⟩

end Access

namespace PacketCodec

variable {P : Type} {codec : PacketCodec P} {payload : Access CodecError P}

/-- Takes an integer field of a packet body. -/
def reachField : Access CodecError UInt32 := Varint.reach.adaptExcept .wire

/-- Takes the fields of a packet of the given kind. -/
def reachFields (payload : Access CodecError P) : PacketKind → Access CodecError (Packet P)
  | .createRequest => return .createRequest (← WireText.reach.adaptExcept .wire)
  | .createResponse => return .createResponse (← reachField)
  | .rebindRequest => return .rebindRequest (← reachField) (← reachField) (← reachField)
  | .rebindResponse => return .rebindResponse (← reachField)
  | .ack => return .ack (← reachField)
  | .data => return .reliable ⟨← reachField, ← reachField, .data (← payload)⟩
  | .fin => return .reliable ⟨← reachField, ← reachField, .fin⟩
  | .finAck => return .reliable ⟨← reachField, ← reachField, .finAck⟩
  | .pingRequest => return .pingRequest (← reachField)
  | .pingResponse => return .pingResponse (← reachField)

/-- Takes a whole packet body, of which the tag is taken for granted. -/
def reachBody (payload : Access CodecError P) : Access CodecError (Packet P) := do
  let tag ← Access.octet
  match PacketKind.ofTag tag with
  | .error failure => Access.fail (.wire failure)
  | .ok kind =>
      let packet ← reachFields payload kind
      if (← Access.remaining) = 0 then return packet else Access.fail (.wire .malformed)

/-- Takes one packet off the head of the buffer. -/
def reach (codec : PacketCodec P) (payload : Access CodecError P) :
    Access CodecError (Option (Packet P)) := do
  match ← (Frame.reachSplit codec.limit).adaptExcept .wire with
  | none => return none
  | some body => return some (← (reachBody payload).within body)

private theorem follows_reachField : reachField.Follows field := Varint.follows_reach.adaptExcept _

private theorem follows_reachFields (follows : payload.Follows codec.payloads.read)
    (kind : PacketKind) :
    (reachFields payload kind).Follows (codec.readFields kind) := by
  have field := follows_reachField
  cases kind with
  | createRequest =>
      exact (WireText.follows_reach.adaptExcept _).bind fun _ => Access.follows_pure _
  | rebindRequest =>
      exact field.bind fun _ => field.bind fun _ => field.bind fun _ => Access.follows_pure _
  | data =>
      exact field.bind fun _ => field.bind fun _ => follows.bind fun _ => Access.follows_pure _
  | fin | finAck => exact field.bind fun _ => field.bind fun _ => Access.follows_pure _
  | _ => exact field.bind fun _ => Access.follows_pure _

private theorem reachBody_eq (follows : payload.Follows codec.payloads.read) {body : Bytes}
    (nonempty : body ≠ []) : (reachBody payload).run body = some (codec.readBody body) := by
  obtain ⟨tag, fields, rfl⟩ := List.exists_cons_of_ne_nil nonempty
  refine Access.bind_eq rfl fun _ _ tagged => ?_
  cases tagged
  cases PacketKind.ofTag tag with
  | error failure => rfl
  | ok kind =>
      refine Access.bind_eq (follows_reachFields follows kind fields) fun packet rest _ => ?_
      cases rest <;> rfl

theorem reach_eq (follows : payload.Follows codec.payloads.read) (buffer : Bytes) :
    (codec.reach payload).run buffer = some (codec.read buffer) := by
  have framed := (Frame.follows_reachSplit codec.limit).adaptExcept CodecError.wire
  refine Access.bind_eq (framed buffer) fun found rest split => ?_
  cases found with
  | none => rfl
  | some body =>
      have nonempty := Frame.body_ne_nil (Reader.adaptExcept_eq_ok.mp split)
      have read := reachBody_eq follows nonempty
      simp only [Bind.bind, Access.within, read, Reader.result]
      cases codec.readBody body <;> rfl

end PacketCodec

end ResumableSession
