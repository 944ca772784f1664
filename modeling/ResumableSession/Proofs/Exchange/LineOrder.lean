import ResumableSession.Proofs.Session.Books

/-!
# The order of one line

An end sees of a line what was sent to it, as far as that has come through.  The
first packet each way is a handshake that reports how much of the other's history
its sender has; what follows takes up the other's history right there.
-/

namespace ResumableSession

variable {P : Type}

namespace Packet

/-- How much of the other's history a handshake reports to have come through. -/
def count? : Packet P → Option Nat
  | .createRequest _ | .createResponse _ => some 0
  | .rebindRequest _ _ latest | .rebindResponse latest => some latest.toNat
  | _ => none

private theorem reliableId?_of_count? {packet : Packet P} {count : Nat}
    (opens : packet.count? = some count) : packet.reliableId? = none := by
  cases packet with
  | reliable _ => simp [count?] at opens
  | _ => rfl

end Packet

private theorem Stretch.id_eq {start finish index id : Nat} {packets : List (Packet P)}
    {packet : Packet P} (stretch : Stretch start finish packets)
    (found : packets[index]? = some packet) (numbered : packet.reliableId? = some id) :
    id = start + 1 + ((packets.take index).filterMap Packet.reliableId?).length := by
  obtain ⟨inside, atIndex⟩ := List.getElem?_eq_some_iff.mp found
  have split : packets = packets.take index ++ packet :: packets.drop (index + 1) := by
    rw [← atIndex, ← List.drop_eq_getElem_cons inside, List.take_append_drop]
  have ids := stretch.ids
  rw [split, List.filterMap_append, List.filterMap_cons_some numbered] at ids
  have atPlace := congrArg
    (fun numbers => numbers[((packets.take index).filterMap Packet.reliableId?).length]?) ids
  simp only [List.getElem?_append_right (Nat.le_refl _), Nat.sub_self,
    List.getElem?_cons_zero] at atPlace
  obtain ⟨bound, same⟩ := List.getElem?_eq_some_iff.mp atPlace.symm
  rw [← same, List.getElem_range']
  omega

/-- How a line looks from one end: what the end has sent on it, how much of what was
sent to it has come through, whether its session is bound to the line, and how many
bodies the session has pushed and received, on this line or any other. -/
structure LineView (P : Type) where
  sent : List (Packet P)
  arrived : Nat
  bound : Prop
  pushed : Nat
  received : Nat

namespace LineView

/-- How much of the other's history the end has reported to have. -/
def start? (near : LineView P) : Option Nat := near.sent.head?.bind Packet.count?

variable {near near' far far' : LineView P}

private theorem start?_of_longer {start : Nat} (longer : near.sent <+: near'.sent)
    (starts : near.start? = some start) : near'.start? = some start := by
  obtain ⟨later, grown⟩ := longer
  unfold start? at starts ⊢
  rw [← grown]
  cases sent : near.sent with
  | nil => simp [sent] at starts
  | cons first rest => simpa [sent] using starts

theorem sent_of_start? {start : Nat} (starts : near.start? = some start) :
    ∃ first rest, near.sent = first :: rest ∧ first.reliableId? = none := by
  unfold start? at starts
  cases sent : near.sent with
  | nil => simp [sent] at starts
  | cons first rest =>
      refine ⟨first, rest, rfl, ?_⟩
      rw [sent] at starts
      exact Packet.reliableId?_of_count? starts

/-- An end that is bound to the line, or was, hands over what the other end does
not have; while it is bound the other end's packets come in order. -/
structure Orderly (near far : LineView P) : Prop where
  inside : near.arrived ≤ far.sent.length
  speaks : near.sent.tail = [] ∧ ¬near.bound ∨
    near.arrived ≠ 0 ∧ ∃ start finish, far.start? = some start ∧
      Stretch start finish near.sent.tail ∧ (near.bound → finish = near.pushed)
  hears : near.bound → ∃ start, near.start? = some start ∧
    start + ((far.sent.take near.arrived).filterMap Packet.reliableId?).length ≤ near.received

/-- An end goes on: what it sends on a line that it is bound to follows what it
has pushed before. -/
structure Grows (near near' : LineView P) : Prop where
  arrived : near'.arrived = near.arrived
  bound : near'.bound → near.bound
  received : near.received ≤ near'.received
  sent : ∃ packets finish, near'.sent = near.sent ++ packets ∧
    (¬near.bound → packets = []) ∧ Stretch near.pushed finish packets ∧
      (near'.bound → finish = near'.pushed)

theorem Grows.refl (near : LineView P) : Grows near near := by
  constructor
  · rfl
  · exact id
  · exact Nat.le_refl _
  · exact ⟨[], near.pushed, by simp, fun _ => rfl, .nil _, fun _ => rfl⟩

theorem Grows.longer (grows : near.Grows near') : near.sent <+: near'.sent := by
  obtain ⟨packets, _, sent, _⟩ := grows.sent
  rw [sent]
  exact List.prefix_append _ _

namespace Orderly

theorem begun (orderly : Orderly near far) (bound : near.bound) :
    near.arrived ≠ 0 ∧ ∃ start finish, far.start? = some start ∧
      Stretch start finish near.sent.tail ∧ (near.bound → finish = near.pushed) := by
  rcases orderly.speaks with ⟨_, unbound⟩ | spoken
  · exact absurd bound unbound
  · exact spoken

theorem grow (orderly : Orderly near far) (grows : near.Grows near')
    (longer : far.sent <+: far'.sent) : Orderly near' far' := by
  obtain ⟨packets, finish, sent, silent, continued, reached⟩ := grows.sent
  constructor
  · rw [grows.arrived]
    exact Nat.le_trans orderly.inside longer.length_le
  · rcases orderly.speaks with ⟨unspoken, unbound⟩ | ⟨arrived, start, middle, starts, stretch, upTo⟩
    · left
      rw [sent, silent unbound, List.append_nil]
      exact ⟨unspoken, fun bound => unbound (grows.bound bound)⟩
    · right
      refine ⟨by rwa [grows.arrived], start, ?_⟩
      by_cases bound : near.bound
      · obtain ⟨_, reports, _⟩ := orderly.hears bound
        obtain ⟨first, rest, opened, _⟩ := sent_of_start? reports
        have joined : near'.sent.tail = near.sent.tail ++ packets := by
          rw [sent, opened]
          rfl
        rw [upTo bound] at stretch
        refine ⟨finish, start?_of_longer longer starts, ?_, reached⟩
        rw [joined]
        exact stretch.append continued
      · refine ⟨middle, start?_of_longer longer starts, ?_, fun bound' => ?_⟩
        · rw [sent, silent bound, List.append_nil]
          exact stretch
        · exact absurd (grows.bound bound') bound
  · intro bound
    obtain ⟨start, reports, heard⟩ := orderly.hears (grows.bound bound)
    obtain ⟨later, grown⟩ := longer
    refine ⟨start, start?_of_longer grows.longer reports, ?_⟩
    rw [grows.arrived, ← grown, List.take_append_of_le_length orderly.inside]
    exact Nat.le_trans heard grows.received

/-- What comes next to a bound end is an ordinary packet, and its id follows what
has come before. -/
theorem next (orderly : Orderly near far) (reverse : Orderly far near) (bound : near.bound)
    {packet : Packet P} (comes : far.sent[near.arrived]? = some packet) :
    packet.isOrdinary ∧ ∃ start, near.start? = some start ∧
      ∀ id, packet.reliableId? = some id →
        id = start + ((far.sent.take near.arrived).filterMap Packet.reliableId?).length + 1 := by
  obtain ⟨arrived, _, _, opens, _⟩ := orderly.begun bound
  obtain ⟨first, rest, sent, unnumbered⟩ := sent_of_start? opens
  obtain ⟨count, shifted⟩ := Nat.exists_eq_succ_of_ne_zero arrived
  have inRest : rest[count]? = some packet := by
    rw [sent, shifted] at comes
    exact comes
  rcases reverse.speaks with ⟨unspoken, _⟩ | ⟨_, start, finish, starts, stretch, _⟩
  · rw [sent, List.tail_cons] at unspoken
    simp [unspoken] at inRest
  · rw [sent, List.tail_cons] at stretch
    refine ⟨stretch.ordinary packet (List.mem_of_getElem? inRest), start, starts, ?_⟩
    intro id numbered
    rw [stretch.id_eq inRest numbered, sent, shifted, List.take_succ_cons,
      List.filterMap_cons_none unnumbered]
    omega

/-- The next packet comes through; a bound end has received it then. -/
theorem receive (orderly : Orderly near far) (reverse : Orderly far near) {packet : Packet P}
    (comes : far.sent[near.arrived]? = some packet)
    (heard : near.bound → ∀ id, packet.reliableId? = some id → id ≤ near.received) :
    Orderly { near with arrived := near.arrived + 1 } far := by
  obtain ⟨inside, _⟩ := List.getElem?_eq_some_iff.mp comes
  constructor
  · exact inside
  · rcases orderly.speaks with silent | ⟨_, spoken⟩
    · exact .inl silent
    · exact .inr ⟨Nat.succ_ne_zero _, spoken⟩
  · intro bound
    obtain ⟨start, reports, before⟩ := orderly.hears bound
    obtain ⟨_, start', reports', follows⟩ := orderly.next reverse bound comes
    obtain rfl : start = start' := Option.some.inj (reports.symm.trans reports')
    refine ⟨start, reports, ?_⟩
    simp only [List.take_add_one, comes, Option.toList_some, List.filterMap_append,
      List.length_append]
    cases numbered : packet.reliableId? with
    | none => simpa [numbered] using before
    | some id =>
        have received := heard bound id numbered
        rw [follows id numbered] at received
        simpa [numbered, Nat.add_assoc] using received

end Orderly

end LineView

end ResumableSession
