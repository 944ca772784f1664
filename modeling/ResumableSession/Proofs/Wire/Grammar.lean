import ResumableSession.Proofs.Wire.Estimates

/-!
# Which bytes are a packet

The layouts of the ten kinds of packet, without a reader: integers may be spelled longer
than need be, texts are UTF-8, and a payload is what its own codec reads to the last byte.
A body is read if it has one of these layouts, and then as the packet that it lays out.
-/

namespace ResumableSession

namespace Reader

variable {ε δ α β : Type}

private theorem bind_eq_ok {reader : Reader ε α} {next : α → Reader ε β} {input rest : Bytes}
    {value : β} :
    (reader >>= next) input = .ok value rest ↔
      ∃ middle left, reader input = .ok middle left ∧ next middle left = .ok value rest := by
  simp only [Bind.bind, EStateM.bind]
  cases reader input with
  | ok middle left => simp
  | error failure left => simp

private theorem pure_eq_ok {given value : α} {input rest : Bytes} :
    (pure given : Reader ε α) input = .ok value rest ↔ given = value ∧ input = rest := by
  simp [Pure.pure, EStateM.pure]

theorem adaptExcept_eq_ok {reader : Reader ε α} {rename : ε → δ} {input rest : Bytes} {value : α} :
    EStateM.adaptExcept rename reader input = .ok value rest ↔ reader input = .ok value rest := by
  unfold EStateM.adaptExcept
  cases reader input with
  | ok middle left => simp
  | error failure left => simp

private theorem octets_eq_ok {count : Nat} {missing : ε} {input bytes rest : Bytes} :
    octets count missing input = .ok bytes rest ↔ bytes.length = count ∧ input = bytes ++ rest := by
  unfold octets
  split
  · next short =>
      refine iff_of_false nofun ?_
      rintro ⟨rfl, rfl⟩
      rw [List.length_append] at short
      omega
  · next long =>
      rw [EStateM.Result.ok.injEq]
      constructor
      · rintro ⟨rfl, rfl⟩
        exact ⟨List.length_take_of_le (Nat.le_of_not_lt long), (List.take_append_drop _ _).symm⟩
      · rintro ⟨rfl, rfl⟩
        exact ⟨List.take_left, List.drop_left⟩

private theorem result_eq_ok {reader : Reader ε α} {input : Bytes} {value : α} :
    reader.result input = .ok value ↔ ∃ rest, reader input = .ok value rest := by
  unfold result
  cases reader input with
  | ok middle left => simp
  | error failure left => simp

theorem result_eq_error {reader : Reader ε α} {input : Bytes} {failure : ε} :
    reader.result input = .error failure ↔ ∃ rest, reader input = .error failure rest := by
  unfold result
  cases reader input with
  | ok middle left => simp
  | error cause left => simp

end Reader

/-! ## Integers -/

namespace Varint

/-- Every byte but the last has its high bit set. -/
inductive Marked : Bytes → Prop where
  | last {byte : UInt8} (low : byte.toNat < 128) : Marked [byte]
  | more {byte : UInt8} {bytes : Bytes} (high : 128 ≤ byte.toNat) (rest : Marked bytes) :
      Marked (byte :: bytes)

/-- The number that groups of seven bits make up, least significant group first. -/
def number : Bytes → Nat
  | [] => 0
  | byte :: bytes => byte.toNat % 128 + 128 * number bytes

/-- The bytes are the integer, in the shortest form or in a longer one. -/
structure Spells (bytes : Bytes) (value : UInt32) : Prop where
  marked : Marked bytes
  short : bytes.length ≤ maxLength
  number_eq : number bytes = value.toNat

theorem Marked.ne_nil {bytes : Bytes} (marked : Marked bytes) : bytes ≠ [] := by
  cases marked <;> exact List.cons_ne_nil _ _

theorem capacity_pos : ∀ more, 0 < capacity more
  | 0 => by decide
  | more + 1 => Nat.mul_pos (by decide) (capacity_pos more)

/-- What is read of groups is marked, and as large as the groups that are allowed. -/
theorem readGroups_sound (more : Nat) : ∀ {input rest : Bytes} {value : Nat},
    readGroups (more + 1) input = .ok value rest →
      ∃ bytes, Marked bytes ∧ bytes.length ≤ more + 1 ∧ number bytes < capacity more ∧
        value = number bytes ∧ input = bytes ++ rest := by
  induction more with
  | zero =>
      intro input rest value found
      cases input with
      | nil => cases found
      | cons byte input =>
          rw [readGroups] at found
          split at found
          · cases found
          · next small =>
              split at found
              · next low =>
                  cases found
                  refine ⟨[byte], .last low, Nat.le_refl _, ?_, rfl, rfl⟩
                  simp only [number, capacity]
                  omega
              · cases found
  | succ more induction =>
      intro input rest value found
      cases input with
      | nil => cases found
      | cons byte input =>
          rw [readGroups, if_neg (by omega)] at found
          split at found
          · next low =>
              cases found
              have some := capacity_pos more
              refine ⟨[byte], .last low, Nat.le_add_left _ _, ?_, rfl, rfl⟩
              simp only [number, capacity]
              omega
          · next high =>
              split at found
              · next higher left read =>
                  cases found
                  obtain ⟨bytes, marked, short, small, rfl, rfl⟩ := induction read
                  refine ⟨byte :: bytes, .more (Nat.le_of_not_lt high) marked,
                    Nat.succ_le_succ short, ?_, rfl, rfl⟩
                  simp only [number, capacity]
                  omega
              · cases found

/-- Groups are read if they are not too large; the last one that is allowed may carry less
than the others. -/
theorem readGroups_complete {bytes : Bytes} (marked : Marked bytes) (rest : Bytes) :
    ∀ {more : Nat}, bytes.length ≤ more + 1 → number bytes < capacity more →
      readGroups (more + 1) (bytes ++ rest) = .ok (number bytes) rest := by
  -- On the bytes, so that what is allowed shrinks with each group that announces another.
  induction marked with
  | @last byte low =>
      intro more short small
      have group : ¬(more = 0 ∧ 15 < byte.toNat % 128) := by
        rintro ⟨rfl, large⟩
        simp only [number, capacity] at small
        omega
      simp only [List.singleton_append, readGroups, if_neg group, if_pos low, number,
        Nat.mul_zero, Nat.add_zero]
  | @more byte bytes high marked induction =>
      intro more short small
      have some := List.length_pos_iff.mpr marked.ne_nil
      rw [List.length_cons] at short
      obtain ⟨fewer, rfl⟩ : ∃ fewer, more = fewer + 1 := ⟨more - 1, by omega⟩
      simp only [number, capacity] at small
      have read := @induction fewer (by omega) (by omega)
      have group : ¬(fewer + 1 = 0 ∧ 15 < byte.toNat % 128) := by omega
      rw [List.cons_append, readGroups, if_neg group, if_neg (Nat.not_lt_of_le high), read]
      rfl

theorem read_eq_ok_iff {input rest : Bytes} {value : UInt32} :
    read input = .ok value rest ↔ ∃ bytes, Spells bytes value ∧ input = bytes ++ rest := by
  have full : capacity 4 = UInt32.size := rfl
  rw [read, Reader.bind_eq_ok]
  constructor
  · rintro ⟨found, left, groupsRead, done⟩
    obtain ⟨rfl, rfl⟩ := Reader.pure_eq_ok.mp done
    obtain ⟨bytes, marked, short, small, rfl, rfl⟩ := readGroups_sound 4 groupsRead
    refine ⟨bytes, ⟨marked, short, ?_⟩, rfl⟩
    exact (UInt32.toNat_ofNat_of_lt' (full ▸ small)).symm
  · rintro ⟨bytes, spells, rfl⟩
    have small : number bytes < capacity 4 := by
      rw [spells.number_eq]
      exact value.toNat_lt_size
    refine ⟨number bytes, rest, readGroups_complete spells.marked rest spells.short small,
      Reader.pure_eq_ok.mpr ⟨?_, rfl⟩⟩
    rw [spells.number_eq, UInt32.ofNat_toNat]

/-- Whatever spells a number is its groups, or longer. -/
theorem groups_or_longer {bytes : Bytes} (marked : Marked bytes) :
    groups (number bytes) = bytes ∨ (groups (number bytes)).length < bytes.length := by
  induction marked with
  | @last byte low =>
      left
      have single : number [byte] = byte.toNat := Nat.mod_eq_of_lt low
      rw [single, groups, if_pos low, UInt8.ofNat_toNat]
  | @more byte bytes high rest induction =>
      have bound := byte.toNat_lt_size
      simp only [UInt8.size] at bound
      have some := List.length_pos_iff.mpr rest.ne_nil
      rw [number, groups]
      split
      · -- The groups behind are all zero: the number ends with this one, the bytes do not.
        right
        rw [List.length_cons, List.length_cons, List.length_nil]
        omega
      · have low : (byte.toNat % 128 + 128 * number bytes) % 128 + 128 = byte.toNat := by omega
        have higher : (byte.toNat % 128 + 128 * number bytes) / 128 = number bytes := by omega
        rw [low, higher, UInt8.ofNat_toNat]
        rcases induction with same | longer
        · exact .inl (congrArg (byte :: ·) same)
        · exact .inr (Nat.succ_lt_succ longer)

theorem Spells.encode_or_longer {bytes : Bytes} {value : UInt32} (spells : Spells bytes value) :
    bytes = encode value ∨ (encode value).length < bytes.length := by
  rw [encode, ← spells.number_eq]
  exact (groups_or_longer spells.marked).imp_left Eq.symm

theorem Spells.length_encode_le {bytes : Bytes} {value : UInt32} (spells : Spells bytes value) :
    (encode value).length ≤ bytes.length := by
  rcases spells.encode_or_longer with same | longer
  · exact Nat.le_of_eq (congrArg List.length same).symm
  · exact Nat.le_of_lt longer

theorem spells_encode (value : UInt32) : Spells (encode value) value := by
  obtain ⟨bytes, spells, same⟩ := read_eq_ok_iff.mp (read_encode value [])
  rw [List.append_nil, List.append_nil] at same
  exact same ▸ spells

end Varint

/-! ## Texts and byte strings -/

namespace WireText

/-- The bytes are these ones behind an integer that counts them. -/
def Counts (bytes counted : Bytes) : Prop :=
  ∃ count size, Varint.Spells count size ∧ counted.length = size.toNat ∧ bytes = count ++ counted

theorem readCounted_eq_ok_iff {input counted rest : Bytes} :
    readCounted input = .ok counted rest ↔
      ∃ bytes, Counts bytes counted ∧ input = bytes ++ rest := by
  rw [readCounted, Reader.bind_eq_ok]
  constructor
  · rintro ⟨size, left, sized, found⟩
    obtain ⟨count, spells, rfl⟩ := Varint.read_eq_ok_iff.mp sized
    obtain ⟨whole, rfl⟩ := Reader.octets_eq_ok.mp found
    exact ⟨count ++ counted, ⟨count, size, spells, whole, rfl⟩, (List.append_assoc _ _ _).symm⟩
  · rintro ⟨bytes, ⟨count, size, spells, enough, rfl⟩, rfl⟩
    refine ⟨size, counted ++ rest, ?_, Reader.octets_eq_ok.mpr ⟨enough, rfl⟩⟩
    exact Varint.read_eq_ok_iff.mpr ⟨count, spells, List.append_assoc _ _ _⟩

theorem ofUtf8?_eq_some_iff {bytes : Bytes} {text : String} :
    ofUtf8? bytes = some text ↔ bytes = utf8 text := by
  constructor
  · unfold ofUtf8? String.fromUTF8?
    split
    · rintro same
      cases same
      rfl
    · exact nofun
  · rintro rfl
    exact ofUtf8?_utf8 text

theorem read_eq_ok_iff {input rest : Bytes} {text : String} :
    read input = .ok text rest ↔ ∃ bytes, Counts bytes (utf8 text) ∧ input = bytes ++ rest := by
  rw [read, Reader.bind_eq_ok]
  constructor
  · rintro ⟨counted, left, found, said⟩
    cases valid : ofUtf8? counted with
    | none =>
        rw [valid] at said
        cases said
    | some known =>
        rw [valid] at said
        obtain ⟨rfl, rfl⟩ := Reader.pure_eq_ok.mp said
        rw [ofUtf8?_eq_some_iff] at valid
        exact valid ▸ readCounted_eq_ok_iff.mp found
  · intro spelled
    refine ⟨utf8 text, rest, readCounted_eq_ok_iff.mpr spelled, ?_⟩
    rw [ofUtf8?_utf8]
    rfl

end WireText

/-- A payload of bytes is laid out behind its length, and nothing may follow. -/
theorem PayloadCodec.raw_read_iff {bytes payload : Bytes} :
    PayloadCodec.raw.read bytes = .ok payload [] ↔ WireText.Counts bytes payload := by
  rw [raw, Reader.adaptExcept_eq_ok, WireText.readCounted_eq_ok_iff]
  constructor
  · rintro ⟨spelled, counts, rfl⟩
    rwa [List.append_nil]
  · exact fun counts => ⟨bytes, counts, (List.append_nil bytes).symm⟩

/-! ## Packets -/

namespace PacketCodec

variable {P : Type} {codec : PacketCodec P}

/-- The fields of a packet, one layout for each kind. -/
inductive Fields (codec : PacketCodec P) : Packet P → Bytes → Prop where
  | createRequest {token : String} {bytes : Bytes}
      (spelled : WireText.Counts bytes (WireText.utf8 token)) :
      Fields codec (.createRequest token) bytes
  | createResponse {sessionId : UInt32} {bytes : Bytes} (spelled : Varint.Spells bytes sessionId) :
      Fields codec (.createResponse sessionId) bytes
  | rebindRequest {sessionId lineIndex clientAck : UInt32} {first second third : Bytes}
      (session : Varint.Spells first sessionId) (line : Varint.Spells second lineIndex)
      (acked : Varint.Spells third clientAck) :
      Fields codec (.rebindRequest sessionId lineIndex clientAck) (first ++ (second ++ third))
  | rebindResponse {serverAck : UInt32} {bytes : Bytes} (spelled : Varint.Spells bytes serverAck) :
      Fields codec (.rebindResponse serverAck) bytes
  | ack {ack : UInt32} {bytes : Bytes} (spelled : Varint.Spells bytes ack) :
      Fields codec (.ack ack) bytes
  | data {id ack : UInt32} {payload : P} {first second rest : Bytes}
      (numbered : Varint.Spells first id) (acked : Varint.Spells second ack)
      (carried : codec.payloads.read rest = .ok payload []) :
      Fields codec (.reliable ⟨id, ack, .data payload⟩) (first ++ (second ++ rest))
  | fin {id ack : UInt32} {first second : Bytes}
      (numbered : Varint.Spells first id) (acked : Varint.Spells second ack) :
      Fields codec (.reliable ⟨id, ack, .fin⟩) (first ++ second)
  | finAck {id ack : UInt32} {first second : Bytes}
      (numbered : Varint.Spells first id) (acked : Varint.Spells second ack) :
      Fields codec (.reliable ⟨id, ack, .finAck⟩) (first ++ second)
  | pingRequest {ticks : UInt32} {bytes : Bytes} (spelled : Varint.Spells bytes ticks) :
      Fields codec (.pingRequest ticks) bytes
  | pingResponse {ticks : UInt32} {bytes : Bytes} (spelled : Varint.Spells bytes ticks) :
      Fields codec (.pingResponse ticks) bytes

/-- The body of a packet: its tag and its fields. -/
def LaysOut (codec : PacketCodec P) (packet : Packet P) (body : Bytes) : Prop :=
  ∃ fields, body = packet.kind.tag :: fields ∧ codec.Fields packet fields

theorem field_eq_ok_iff {input rest : Bytes} {value : UInt32} :
    field input = .ok value rest ↔ ∃ bytes, Varint.Spells bytes value ∧ input = bytes ++ rest := by
  rw [field, Reader.adaptExcept_eq_ok, Varint.read_eq_ok_iff]

private theorem field_bind_eq_ok {α : Type} {next : UInt32 → Reader CodecError α}
    {input rest : Bytes}
    {found : α} :
    (field >>= next) input = .ok found rest ↔
      ∃ bytes value left, Varint.Spells bytes value ∧ input = bytes ++ left ∧
        next value left = .ok found rest := by
  rw [Reader.bind_eq_ok]
  constructor
  · rintro ⟨value, left, read, following⟩
    obtain ⟨bytes, spells, same⟩ := field_eq_ok_iff.mp read
    exact ⟨bytes, value, left, spells, same, following⟩
  · rintro ⟨bytes, value, left, spells, same, following⟩
    exact ⟨value, left, field_eq_ok_iff.mpr ⟨bytes, spells, same⟩, following⟩

private theorem single_eq_ok {wrap : UInt32 → Packet P} {input : Bytes} {packet : Packet P} :
    (do return wrap (← field)) input = .ok packet [] ↔
      ∃ value, Varint.Spells input value ∧ packet = wrap value := by
  rw [field_bind_eq_ok]
  constructor
  · rintro ⟨bytes, value, left, spells, rfl, done⟩
    obtain ⟨rfl, rfl⟩ := Reader.pure_eq_ok.mp done
    rw [List.append_nil]
    exact ⟨value, spells, rfl⟩
  · rintro ⟨value, spells, rfl⟩
    exact ⟨input, value, [], spells, (List.append_nil _).symm, rfl⟩

/-- Every kind is read by its own layout, to the last byte. -/
theorem readFields_eq_ok_iff {kind : PacketKind} {bytes : Bytes} {packet : Packet P} :
    codec.readFields kind bytes = .ok packet [] ↔
      packet.kind = kind ∧ codec.Fields packet bytes := by
  cases kind with
  | createRequest =>
      rw [readFields, Reader.bind_eq_ok]
      constructor
      · rintro ⟨token, left, read, done⟩
        obtain ⟨rfl, rfl⟩ := Reader.pure_eq_ok.mp done
        obtain ⟨_, counts, same⟩ := WireText.read_eq_ok_iff.mp (Reader.adaptExcept_eq_ok.mp read)
        rw [List.append_nil] at same
        exact ⟨rfl, .createRequest (same ▸ counts)⟩
      · rintro ⟨kind, fields⟩
        cases fields with
        | @createRequest token _ counts =>
            refine ⟨token, [], Reader.adaptExcept_eq_ok.mpr ?_, rfl⟩
            exact WireText.read_eq_ok_iff.mpr ⟨bytes, counts, (List.append_nil _).symm⟩
        | _ => cases kind
  | rebindRequest =>
      rw [readFields, field_bind_eq_ok]
      constructor
      · rintro ⟨first, sessionId, _, session, rfl, following⟩
        obtain ⟨second, lineIndex, _, line, rfl, last⟩ := field_bind_eq_ok.mp following
        obtain ⟨clientAck, acked, rfl⟩ := single_eq_ok.mp last
        exact ⟨rfl, .rebindRequest session line acked⟩
      · rintro ⟨kind, fields⟩
        cases fields with
        | rebindRequest session line acked =>
            refine ⟨_, _, _, session, rfl, field_bind_eq_ok.mpr ⟨_, _, _, line, rfl, ?_⟩⟩
            exact single_eq_ok.mpr ⟨_, acked, rfl⟩
        | _ => cases kind
  | data =>
      rw [readFields, field_bind_eq_ok]
      constructor
      · rintro ⟨first, id, _, numbered, rfl, following⟩
        obtain ⟨second, ack, _, acked, rfl, last⟩ := field_bind_eq_ok.mp following
        obtain ⟨payload, left, carried, done⟩ := Reader.bind_eq_ok.mp last
        obtain ⟨rfl, rfl⟩ := Reader.pure_eq_ok.mp done
        exact ⟨rfl, .data numbered acked carried⟩
      · rintro ⟨kind, fields⟩
        cases fields with
        | data numbered acked carried =>
            refine ⟨_, _, _, numbered, rfl, field_bind_eq_ok.mpr ⟨_, _, _, acked, rfl, ?_⟩⟩
            exact Reader.bind_eq_ok.mpr ⟨_, _, carried, rfl⟩
        | _ => cases kind
  | fin | finAck =>
      rw [readFields, field_bind_eq_ok]
      constructor
      · rintro ⟨first, id, _, numbered, rfl, following⟩
        obtain ⟨ack, acked, rfl⟩ := single_eq_ok.mp following
        first
        | exact ⟨rfl, .fin numbered acked⟩
        | exact ⟨rfl, .finAck numbered acked⟩
      · rintro ⟨kind, fields⟩
        cases fields with
        | fin numbered acked | finAck numbered acked =>
            cases kind <;>
              exact ⟨_, _, _, numbered, rfl, single_eq_ok.mpr ⟨_, acked, rfl⟩⟩
        | _ => cases kind
  | _ =>
      rw [readFields, single_eq_ok]
      constructor
      · rintro ⟨value, spells, rfl⟩
        exact ⟨rfl, by constructor; exact spells⟩
      · rintro ⟨kind, fields⟩
        cases fields with
        | createResponse spells | rebindResponse spells | ack spells | pingRequest spells
        | pingResponse spells =>
            cases kind <;> exact ⟨_, spells, rfl⟩
        | _ => cases kind

theorem ofTag_eq_ok_iff {tag : UInt8} {kind : PacketKind} :
    PacketKind.ofTag tag = .ok kind ↔ tag = kind.tag := by
  constructor
  · intro found
    have listed : PacketKind.all[tag.toNat]? = some kind := by
      unfold PacketKind.ofTag at found
      split at found
      · next listed =>
          cases found
          exact listed
      · cases found
    have tags : PacketKind.all.map (fun kind => kind.tag.toNat) = List.range 10 := by decide
    have place : (List.range 10)[tag.toNat]? = some kind.tag.toNat := by
      rw [← tags, List.getElem?_map, listed, Option.map_some]
    obtain ⟨small, same⟩ := List.getElem?_eq_some_iff.mp place
    rw [List.getElem_range] at same
    exact UInt8.toNat_inj.mp same
  · rintro rfl
    exact PacketKind.ofTag_tag kind

/-- A body is read as the packet that it lays out. -/
theorem readBody_eq_ok_iff {body : Bytes} {packet : Packet P} :
    Reader.result codec.readBody body = .ok packet ↔ codec.LaysOut packet body := by
  rw [Reader.result_eq_ok]
  constructor
  · rintro ⟨rest, read⟩
    obtain ⟨tag, fields, octet, tagged⟩ := Reader.bind_eq_ok.mp read
    cases body with
    | nil => cases octet
    | cons _ _ =>
        cases octet
        cases known : PacketKind.ofTag tag with
        | error failure =>
            rw [known] at tagged
            cases tagged
        | ok kind =>
            rw [known] at tagged
            obtain ⟨found, left, fieldsRead, checked⟩ := Reader.bind_eq_ok.mp tagged
            obtain ⟨_, _, ended, done⟩ := Reader.bind_eq_ok.mp checked
            obtain ⟨rfl, rfl⟩ := Reader.pure_eq_ok.mp done
            cases left with
            | nil =>
                obtain ⟨rfl, laidOut⟩ := readFields_eq_ok_iff.mp fieldsRead
                rw [ofTag_eq_ok_iff.mp known]
                exact ⟨fields, rfl, laidOut⟩
            | cons => cases ended
  · rintro ⟨fields, rfl, laidOut⟩
    refine ⟨[], Reader.bind_eq_ok.mpr ⟨packet.kind.tag, fields, rfl, ?_⟩⟩
    rw [ofTag_eq_ok_iff.mpr rfl]
    exact Reader.bind_eq_ok.mpr ⟨packet, [], readFields_eq_ok_iff.mpr ⟨rfl, laidOut⟩, rfl⟩

end PacketCodec

end ResumableSession
