import ResumableSession.Proofs.Session.LineFates

/-!
# Superseded lines

A line that a session had and has no longer cannot reach it any more: what is reported of
the line changes nothing, whenever it comes.  The same holds for packets on a line that
is not bound yet.
-/

namespace ResumableSession

variable {P : Type}

/-- The line that an input is a report of. -/
def Input.reported? : Input P → Option LineId
  | .lineCreated line _ | .lineRebound line _ | .lineClosed line | .packet line _ _ => some line
  | _ => none

namespace Session

/-- A line is the bound or the pending one. -/
def Has (session : Session P) (line : LineId) : Prop :=
  session.current.map (·.id) = some line ∨ session.pending.map (·.id) = some line

instance (session : Session P) (line : LineId) : Decidable (session.Has line) :=
  inferInstanceAs (Decidable (_ ∨ _))

theorem has_iff {session : Session P} {line : LineId} :
    session.Has line ↔ line ∈ (session.desk none).ids := by
  simp [Has, desk, Desk.ids, Desk.waiting]

private theorem step_reported {session : Session P} {line : LineId} (foreign : ¬session.Has line)
    {input : Input P} (reported : input.reported? = some line) : session.step input = session := by
  rw [Has, not_or] at foreign
  obtain ⟨unbound, unpaired⟩ := foreign
  have another {pending : Line} (shaking : session.pending = some pending) : pending.id ≠ line := by
    intro same
    rw [shaking, Option.map_some, same] at unpaired
    exact unpaired rfl
  cases input with
  | lineCreated target sessionId =>
      cases reported
      show session.onLineCreated line sessionId = session
      unfold onLineCreated
      split
      · rfl
      · next shaking => rw [if_pos (another shaking)]
  | lineRebound target serverAck =>
      cases reported
      show session.onLineRebound line serverAck = session
      unfold onLineRebound
      split
      · rfl
      · next shaking => rw [if_pos (another shaking)]
  | lineClosed target =>
      cases reported
      exact (if_neg unpaired).trans (if_neg unbound)
  | packet target packet clock =>
      cases reported
      exact if_pos (.inr unbound)
  | _ => cases reported

private theorem actions_run (inputs : List (Input P)) :
    ∀ session : Session P, session.actions <+: (session.run inputs).actions := by
  induction inputs with
  | nil => exact fun _ => List.prefix_rfl
  | cons input inputs induction =>
      intro session
      obtain ⟨actions, outputs, acted, _⟩ := handles_step session input
      have grows : session.actions <+: (session.step input).actions := ⟨actions, acted.symm⟩
      exact grows.trans (induction _)

theorem not_has_append {start : Session P} (starts : start.Starts) {earlier later : List (Input P)}
    (distinct : (start.entrusted (earlier ++ later)).Nodup) {line : LineId}
    (entrusted : line ∈ start.entrusted earlier) (left : ¬(start.run earlier).Has line) :
    ¬(start.run (earlier ++ later)).Has line := by
  have before : (start.entrusted earlier).Nodup := by
    rw [entrusted_append] at distinct
    exact List.Nodup.of_append_left distinct
  have member := (tracked_run starts earlier before).accounted.mem_iff.mpr entrusted
  rw [has_iff] at left ⊢
  intro returned
  obtain ⟨kept, unclosed⟩ := ((tracked_run starts _ distinct).apart distinct).2 line returned
  rw [List.mem_append, List.mem_append] at member
  rcases member with (atHand | lost) | closed
  · exact left atHand
  · apply kept
    rw [gone, gather_append]
    exact List.mem_append_left _ lost
  · apply unclosed
    obtain ⟨actions, grows⟩ := actions_run later (start.run earlier)
    have extended : (start.run (earlier ++ later)).actions =
        (start.run earlier).actions ++ actions := by
      rw [grows, run, run, run, List.foldl_append]
    rw [extended, closedIn_append]
    exact List.mem_append_left _ closed

/-- An input that comes too late or too early for its line. -/
inductive Stray (start : Session P) (earlier : List (Input P)) : Input P → Prop where
  /-- A report of a line that the session was handed and had no longer at some time. -/
  | late {line : LineId} {input : Input P} {before after : List (Input P)}
      (split : earlier = before ++ after) (entrusted : line ∈ start.entrusted before)
      (left : ¬(start.run before).Has line) (reported : input.reported? = some line) :
      Stray start earlier input
  /-- A packet on the line that is still shaking hands. -/
  | early {line : LineId} {packet : Packet P} {clock : UInt32}
      (shaking : (start.run earlier).pending.map (·.id) = some line) :
      Stray start earlier (.packet line packet clock)

theorem Stray.step_eq {start : Session P} (starts : start.Starts) {earlier : List (Input P)}
    (distinct : (start.entrusted earlier).Nodup) {input : Input P}
    (stray : Stray start earlier input) : (start.run earlier).step input = start.run earlier := by
  cases stray with
  | late split entrusted left reported =>
      subst split
      exact step_reported (not_has_append starts distinct entrusted left) reported
  | @early line packet clock shaking =>
      have nodup := ((tracked_run starts earlier distinct).apart distinct).1
      have unbound : (start.run earlier).current.map (·.id) ≠ some line := by
        intro bound
        simp [desk, Desk.ids, Desk.waiting, bound, shaking] at nodup
      exact if_pos (.inr unbound)

/-- Stray inputs leave no trace: a run of the marked inputs, when none of the others
counts, is the same session after each of them as the run of all. -/
theorem run_stray {start : Session P} (starts : start.Starts) {inputs : List (Input P × Bool)}
    (distinct : (start.entrusted (inputs.map (·.1))).Nodup)
    (stray : ∀ place input, inputs[place]? = some (input, false) →
      Stray start ((inputs.take place).map (·.1)) input) (count : Nat) :
    start.run (((inputs.take count).filter (·.2)).map (·.1)) =
      start.run ((inputs.take count).map (·.1)) := by
  induction count with
  | zero => rfl
  | succ count same =>
      rw [List.take_add_one]
      cases next : inputs[count]? with
      | none => rwa [Option.toList_none, List.append_nil]
      | some marked =>
          obtain ⟨input, kept⟩ := marked
          rw [Option.toList_some, List.filter_append, List.map_append, List.map_append,
            List.map_singleton, run_concat]
          cases kept with
          | true =>
              have alone : [(input, true)].filter (·.2) = [(input, true)] := rfl
              rw [alone, List.map_singleton, run_concat, same]
          | false =>
              have none : [(input, false)].filter (·.2) = [] := rfl
              rw [none, List.map_nil, List.append_nil, same]
              have before : (start.entrusted ((inputs.take count).map (·.1))).Nodup := by
                rw [← List.take_append_drop count inputs, List.map_append, entrusted_append]
                  at distinct
                exact List.Nodup.of_append_left distinct
              exact ((stray count input next).step_eq starts before).symm

/-- A session whose first line reports on after it was replaced, and whose second one
sends before it is bound. -/
def haunted : List (Input Nat × Bool) :=
  [(.lineCreated ⟨0⟩ 7, true), (.send 1, true), (.bindPending ⟨⟨1⟩, 1⟩, true),
    (.packet ⟨1⟩ (.ack 1) 0, false), (.lineRebound ⟨1⟩ 0, true),
    (.packet ⟨0⟩ (.reliable ⟨1, 1, .fin⟩) 0, false), (.close, true), (.lineClosed ⟨0⟩, false)]

theorem haunted_stray :
    (initiator {} {} ⟨⟨0⟩, 0⟩).run (((haunted.take 8).filter (·.2)).map (·.1)) =
      (initiator {} {} ⟨⟨0⟩, 0⟩).run ((haunted.take 8).map (·.1)) := by
  have distinct : ((initiator {} {} ⟨⟨0⟩, 0⟩).entrusted (haunted.map (·.1))).Nodup := by
    decide +kernel
  have replaced : ¬((initiator {} {} ⟨⟨0⟩, 0⟩).run ((haunted.take 5).map (·.1))).Has ⟨0⟩ := by
    decide +kernel
  refine run_stray (.initiator {} {} ⟨⟨0⟩, 0⟩) distinct ?_ 8
  intro place input unmarked
  match place with
  | 0 | 1 | 2 | 4 | 6 => cases unmarked
  | 3 =>
      cases unmarked
      exact .early (by decide +kernel)
  | 5 =>
      cases unmarked
      exact .late (List.append_nil _).symm (by decide +kernel) replaced rfl
  | 7 =>
      cases unmarked
      have split : (haunted.take 7).map (·.1) =
          (haunted.take 5).map (·.1) ++ ((haunted.drop 5).take 2).map (·.1) := rfl
      exact .late split (by decide +kernel) replaced rfl
  | place + 8 => cases unmarked

end Session

end ResumableSession
