import ResumableSession.Proofs.Wire.Grammar
import Mathlib.Algebra.GroupWithZero.Nat

/-!
# Integers, byte by byte

Which bytes are an integer and which one, what becomes of all others and how far they are
looked at, and that the writer's form can be read and is the shortest that can.
-/

namespace ResumableSession

namespace Varint

/-! ## Groups of an integer -/

/-- The sum of groups of seven bits, each shifted by seven bits more than the one before. -/
def groupSum (bytes : Bytes) : Nat :=
  (bytes.mapIdx fun place byte => (byte.toNat &&& 0x7F) <<< (7 * place)).sum

/-- Bytes that announce another one, and a last one that does not. -/
structure IsInteger (leading : Bytes) (last : UInt8) : Prop where
  short : leading.length < maxLength
  high : ∀ byte ∈ leading, 128 ≤ byte.toNat
  low : last.toNat < 128
  /-- A fifth group has four bits of its own. -/
  fits : leading.length = 4 → last.toNat ≤ 0x0F

private theorem sum_shifted (bytes : Bytes) : ∀ offset,
    (bytes.mapIdx fun place byte => (byte.toNat &&& 0x7F) <<< (7 * (place + offset))).sum =
      number bytes <<< (7 * offset) := by
  induction bytes with
  | nil =>
      intro offset
      rw [number, Nat.zero_shiftLeft]
      rfl
  | cons byte bytes induction =>
      intro offset
      have group : byte.toNat &&& 0x7F = byte.toNat % 128 :=
        Nat.and_two_pow_sub_one_eq_mod byte.toNat 7
      have further (place : Nat) : place + 1 + offset = place + (offset + 1) := by omega
      have wider : number bytes <<< (7 * (offset + 1)) = (128 * number bytes) <<< (7 * offset) := by
        rw [Nat.mul_succ, Nat.add_comm, Nat.shiftLeft_add, Nat.shiftLeft_eq _ 7, Nat.mul_comm]
      rw [List.mapIdx_cons, List.sum_cons]
      simp only [further, induction, wider, group, number, Nat.zero_add]
      rw [Nat.shiftLeft_eq, Nat.shiftLeft_eq, Nat.shiftLeft_eq, Nat.add_mul]

private theorem groupSum_eq (bytes : Bytes) : groupSum bytes = number bytes :=
  (sum_shifted bytes 0).trans (Nat.shiftLeft_zero)

theorem marked_iff {bytes : Bytes} : Marked bytes ↔
    ∃ leading last, bytes = leading ++ [last] ∧ (∀ byte ∈ leading, 128 ≤ byte.toNat) ∧
      last.toNat < 128 := by
  constructor
  · intro marked
    induction marked with
    | @last byte low => exact ⟨[], byte, rfl, by simp, low⟩
    | @more byte bytes high _ induction =>
        obtain ⟨leading, last, rfl, others, low⟩ := induction
        exact ⟨byte :: leading, last, rfl, List.forall_mem_cons.mpr ⟨high, others⟩, low⟩
  · rintro ⟨leading, last, rfl, high, low⟩
    induction leading with
    | nil => exact .last low
    | cons byte leading induction =>
        rw [List.forall_mem_cons] at high
        exact .more high.1 (induction high.2)

/-- Only the last group that is allowed can carry too much. -/
theorem number_lt_capacity_iff {last : UInt8} (low : last.toNat < 128) {leading : Bytes} :
    ∀ {more : Nat}, leading.length ≤ more →
      (number (leading ++ [last]) < capacity more ↔
        (leading.length = more → last.toNat ≤ 0x0F)) := by
  induction leading with
  | nil =>
      intro more _
      have single : number ([] ++ [last]) = last.toNat := Nat.mod_eq_of_lt low
      rw [single]
      cases more with
      | zero =>
          simp only [capacity, List.length_nil, forall_const]
          omega
      | succ more =>
          have some := capacity_pos more
          simp only [capacity, List.length_nil]
          omega
  | cons byte leading induction =>
      intro more enough
      rw [List.length_cons] at enough
      obtain ⟨fewer, rfl⟩ : ∃ fewer, more = fewer + 1 := ⟨more - 1, by omega⟩
      rw [List.length_cons, Nat.add_right_cancel_iff, ← induction (by omega)]
      simp only [List.cons_append, number, capacity]
      omega

/-- The bytes spell what their groups add up to. -/
theorem spells_iff {bytes : Bytes} {value : UInt32} :
    Spells bytes value ↔ ∃ leading last, bytes = leading ++ [last] ∧ IsInteger leading last ∧
      value.toNat = groupSum bytes := by
  have full : capacity 4 = UInt32.size := rfl
  constructor
  · rintro ⟨marked, short, same⟩
    obtain ⟨leading, last, rfl, high, low⟩ := marked_iff.mp marked
    have short : leading.length < maxLength := by
      rwa [List.length_append] at short
    refine ⟨leading, last, rfl, ⟨short, high, low, ?_⟩, ?_⟩
    · rw [← number_lt_capacity_iff low (Nat.le_of_lt_succ short), same, full]
      exact value.toNat_lt_size
    · rw [groupSum_eq, same]
  · rintro ⟨leading, last, rfl, integer, same⟩
    refine ⟨marked_iff.mpr ⟨leading, last, rfl, integer.high, integer.low⟩, ?_, ?_⟩
    · rw [List.length_append]
      exact integer.short
    · rw [← groupSum_eq, same]

private theorem IsInteger.groupSum_lt {leading : Bytes} {last : UInt8}
    (integer : IsInteger leading last) :
    groupSum (leading ++ [last]) < UInt32.size := by
  have bounded := (number_lt_capacity_iff integer.low (Nat.le_of_lt_succ integer.short)).mpr
    integer.fits
  rw [groupSum_eq]
  exact bounded

/-! ## What is not an integer -/

theorem readGroups_one_eq_error_iff {byte : UInt8} {input rest : Bytes} {failure : WireError} :
    readGroups 1 (byte :: input) = .error failure rest ↔
      15 < byte.toNat ∧ failure = .varintOverflow ∧ rest = input := by
  rw [readGroups]
  split
  · next large =>
      rw [EStateM.Result.error.injEq]
      have large : 15 < byte.toNat := by omega
      simp [large, eq_comm]
  · next small =>
      split
      · next low =>
          have small : ¬15 < byte.toNat := by omega
          simp [small]
      · next high =>
          have large : 15 < byte.toNat := by omega
          simp [readGroups, large, eq_comm]

/-- A byte that announces another one leaves the matter to what follows. -/
theorem readGroups_further_eq_error_iff {byte : UInt8} {input rest : Bytes} {failure : WireError}
    {more : Nat} :
    readGroups (more + 2) (byte :: input) = .error failure rest ↔
      128 ≤ byte.toNat ∧ readGroups (more + 1) input = .error failure rest := by
  rw [readGroups, if_neg (by omega)]
  split
  · next low => simp [Nat.not_le_of_lt low]
  · next high =>
      simp only [Nat.le_of_not_lt high, true_and]
      cases readGroups (more + 1) input <;> simp

theorem readGroups_eq_malformed_iff {more : Nat} : ∀ {input rest : Bytes},
    readGroups (more + 1) input = .error .malformed rest ↔
      rest = [] ∧ input.length ≤ more ∧ ∀ byte ∈ input, 128 ≤ byte.toNat := by
  induction more with
  | zero =>
      intro input rest
      cases input with
      | nil => simp [readGroups, eq_comm]
      | cons byte input => simp [readGroups_one_eq_error_iff]
  | succ more induction =>
      intro input rest
      cases input with
      | nil => simp [readGroups, eq_comm]
      | cons byte input =>
          rw [readGroups_further_eq_error_iff, induction, List.length_cons,
            List.forall_mem_cons, Nat.add_le_add_iff_right]
          tauto

theorem readGroups_eq_overflow_iff {more : Nat} : ∀ {input rest : Bytes},
    readGroups (more + 1) input = .error .varintOverflow rest ↔
      ∃ leading last, input = leading ++ last :: rest ∧ leading.length = more ∧
        (∀ byte ∈ leading, 128 ≤ byte.toNat) ∧ 0x0F < last.toNat := by
  induction more with
  | zero =>
      intro input rest
      cases input with
      | nil => simp [readGroups]
      | cons byte input =>
          rw [readGroups_one_eq_error_iff]
          constructor
          · rintro ⟨large, _, rfl⟩
            exact ⟨[], byte, rfl, rfl, by simp, large⟩
          · rintro ⟨leading, last, same, empty, _, large⟩
            cases List.eq_nil_of_length_eq_zero empty
            cases same
            exact ⟨large, rfl, rfl⟩
  | succ more induction =>
      intro input rest
      cases input with
      | nil => simp [readGroups]
      | cons byte input =>
          rw [readGroups_further_eq_error_iff, induction]
          constructor
          · rintro ⟨high, leading, last, rfl, rfl, others, large⟩
            exact ⟨byte :: leading, last, rfl, rfl, List.forall_mem_cons.mpr ⟨high, others⟩, large⟩
          · rintro ⟨leading, last, same, count, high, large⟩
            cases leading with
            | nil => cases count
            | cons first leading =>
                cases same
                rw [List.forall_mem_cons] at high
                exact ⟨high.1, leading, last, rfl, Nat.succ.inj count, high.2, large⟩

theorem read_eq_error_iff {input rest : Bytes} {failure : WireError} :
    read input = .error failure rest ↔ readGroups maxLength input = .error failure rest := by
  simp only [read, bind, EStateM.bind]
  cases readGroups maxLength input <;> simp [pure, EStateM.pure]

/-! ## Reading and writing -/

/-- What is made of an input that begins with an integer, or should. -/
structure Reads (input : Bytes) : Prop where
  /-- An integer is read, and nothing behind it. -/
  integer : ∀ value rest, read input = .ok value rest ↔
    ∃ leading last, input = leading ++ last :: rest ∧ IsInteger leading last ∧
      value.toNat = groupSum (leading ++ [last])
  /-- Whatever is an integer fits 32 bits. -/
  bounded : ∀ leading last rest, input = leading ++ last :: rest → IsInteger leading last →
    groupSum (leading ++ [last]) < UInt32.size
  /-- An input that ends too early is consumed. -/
  malformed : ∀ rest, read input = .error .malformed rest ↔
    rest = [] ∧ input.length < maxLength ∧ ∀ byte ∈ input, 128 ≤ byte.toNat
  /-- An input that goes on too long is consumed up to the fifth byte. -/
  overflow : ∀ rest, read input = .error .varintOverflow rest ↔
    ∃ leading fifth, input = leading ++ fifth :: rest ∧ leading.length = 4 ∧
      (∀ byte ∈ leading, 128 ≤ byte.toNat) ∧ 0x0F < fifth.toNat

/-- What is written for an integer. -/
structure Writes (value : UInt32) : Prop where
  written : ∀ {ε : Type} (buffer : Bytes),
    (write value : Writer ε Unit) buffer = .ok () (buffer ++ encode value)
  counted : (encode value).length = length value
  readBack : ∀ rest, read (encode value ++ rest) = .ok value rest
  /-- Nothing that reads as this integer is shorter. -/
  shortest : ∀ bytes rest, read (bytes ++ rest) = .ok value rest →
    (encode value).length ≤ bytes.length

theorem reads (input : Bytes) : Reads input where
  integer := by
    intro value rest
    rw [read_eq_ok_iff]
    constructor
    · rintro ⟨bytes, spells, rfl⟩
      obtain ⟨leading, last, rfl, integer, same⟩ := spells_iff.mp spells
      exact ⟨leading, last, (List.append_cons _ _ _).symm, integer, same⟩
    · rintro ⟨leading, last, rfl, integer, same⟩
      exact ⟨leading ++ [last], spells_iff.mpr ⟨leading, last, rfl, integer, same⟩,
        List.append_cons _ _ _⟩
  bounded := fun _ _ _ _ integer => integer.groupSum_lt
  malformed := by
    intro rest
    rw [read_eq_error_iff, maxLength, readGroups_eq_malformed_iff, Nat.lt_succ_iff]
  overflow := fun _ => read_eq_error_iff.trans readGroups_eq_overflow_iff

theorem writes (value : UInt32) : Writes value where
  written := fun _ => rfl
  counted := length_encode value
  readBack := read_encode value
  shortest := by
    intro bytes rest found
    obtain ⟨spelling, spells, same⟩ := read_eq_ok_iff.mp found
    rw [List.append_cancel_right same]
    exact spells.length_encode_le

/-- The reader accepts the integers of the grammar and no other bytes, and the writer takes
the shortest of them. -/
theorem integers_exact (input : Bytes) (value : UInt32) : Reads input ∧ Writes value :=
  ⟨reads input, writes value⟩

/-- Zero may take five bytes, but the fifth must not announce a sixth. -/
example : read [0x80, 0x80, 0x80, 0x80, 0, 9] = .ok 0 [9] ∧
    read [0x80, 0x80, 0x80, 0x80, 0x80, 0] = .error .varintOverflow [0] :=
  ⟨rfl, rfl⟩

end Varint

end ResumableSession
