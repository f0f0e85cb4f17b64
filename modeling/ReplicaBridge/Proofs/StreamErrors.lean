/-
Module: ReplicaBridge.Proofs.StreamErrors
Purpose: What errors of a stream leave behind.  Whatever steps were taken before, over whatever
  bytes and after whatever errors, a step never unwinds; it fails for no other reason than the one
  it reports, and then nothing is lost that the caller or the stream held.
Main exports: Bits.Field.fixedBits?, Bits.BitStream.Reachable, Bits.BitStream.Reachable.sound,
  Bits.BitStream.read_fixed, Bits.BitStream.finish_eq, Bits.BitStream.errors_contained
-/
import ReplicaBridge.Proofs.GuardedSteps

namespace ReplicaBridge.Bits

/-- The bits of a field whose type alone tells how many it has. -/
def Field.fixedBits? : Field → Option Nat
  | .bool _ => some 1
  | .bits _ count => some (BitStream.wordBits count)
  | .u8 _ => some 8
  | .u16 _ => some 16
  | .u32 _ | .i32 _ | .f32 _ => some 32
  | .u64 _ => some 64
  | .text _ _ => none

namespace BitStream

variable {stream : BitStream}

/-! ### Reading -/

/-- Bits are taken if they are left; otherwise both numbers are reported, and nothing moves. -/
theorem settle_fixed (stream : BitStream) (make : Nat → Field) (count : Nat) :
    ∃ value, settle stream make (stream.takeBits count) =
      if stream.remaining < count then (stream, .error (.truncated count stream.remaining))
      else (stream.advance count, .ok value) := by
  refine ⟨make (gather stream.buffer stream.cursor count), ?_⟩
  rw [takeBits, need]
  by_cases short : stream.remaining < count
  · rw [if_pos short, if_pos short]
    rfl
  · rw [if_neg short, if_neg short]
    rfl

theorem read_fixed (stream : BitStream) {shape : Field} {needed : Nat}
    (fixed : shape.fixedBits? = some needed) :
    ∃ value, stream.read shape =
      if stream.remaining < needed then (stream, .error (.truncated needed stream.remaining))
      else (stream.advance needed, .ok value) := by
  have whole (make : Nat → Field) (width : Nat) :
      ∃ value, settle stream make (stream.takeUInt width) =
        if stream.remaining < width * 8 then
          (stream, .error (.truncated (width * 8) stream.remaining))
        else (stream.advance (width * 8), .ok value) := by
    rw [takeUInt_eq_takeBits]
    exact settle_fixed stream make (width * 8)
  cases shape with
  | bool content =>
      cases fixed
      refine ⟨.bool (bitAt stream.buffer stream.cursor), ?_⟩
      rw [read, takeBit, need]
      by_cases short : stream.remaining < 1
      · rw [if_pos short, if_pos short]
      · rw [if_neg short, if_neg short]
  | bits content count =>
      cases fixed
      exact settle_fixed stream _ (wordBits count)
  | u8 content =>
      cases fixed
      exact whole _ 1
  | u16 content =>
      cases fixed
      exact whole _ 2
  | u32 content | i32 content | f32 content =>
      cases fixed
      exact whole _ 4
  | u64 content =>
      cases fixed
      exact whole _ 8
  | text content limit => cases fixed

/-- Reading a text moves the cursor over bits that are left, and does nothing else to the
stream. -/
theorem takeText_moves (stream : BitStream) (limit : Nat) :
    ∃ bits ≤ stream.remaining, (stream.takeText limit).1 = stream.advance bits := by
  rw [takeText_eq, length_ahead]
  split
  · exact ⟨0, Nat.zero_le _, rfl⟩
  · rename_i enough
    dsimp only
    split
    · exact ⟨16, Nat.le_of_not_lt enough, rfl⟩
    · split
      · exact ⟨16, Nat.le_of_not_lt enough, rfl⟩
      · exact ⟨16 + 8 * number (stream.ahead.take 16), by omega, rfl⟩

theorem read_moves (stream : BitStream) (shape : Field) :
    ∃ bits ≤ stream.remaining, (stream.read shape).1 = stream.advance bits := by
  cases width : shape.fixedBits? with
  | none =>
      cases shape with
      | text content limit =>
          obtain ⟨bits, left, moved⟩ := takeText_moves stream limit
          refine ⟨bits, left, ?_⟩
          rw [← moved, read]
          rcases stream.takeText limit with ⟨after, answer⟩
          cases answer <;> rfl
      | _ => cases width
  | some needed =>
      obtain ⟨value, step⟩ := read_fixed stream width
      rw [step]
      by_cases short : stream.remaining < needed
      · exact ⟨0, Nat.zero_le _, by rw [if_pos short]; rfl⟩
      · exact ⟨needed, Nat.le_of_not_lt short, by rw [if_neg short]⟩

/-! ### Streams that steps lead to -/

/-- What steps can make of a stream, whether they succeed or fail. -/
inductive Reachable : BitStream → Prop where
  | writer : Reachable writer
  | reader (bytes : Bytes) : Reachable (reader bytes)
  | step {stream : BitStream} (reachable : Reachable stream) (field : Field) :
      Reachable (stream.serialize field).1

theorem Sound.step (sound : stream.Sound) (field : Field) : (stream.serialize field).1.Sound := by
  cases sound with
  | writing bits =>
      rw [serialize_ofBits]
      exact .writing _
  | @reading buffer cursor inside =>
      obtain ⟨bits, left, moved⟩ := read_moves { mode := .read, buffer, cursor } field
      have step : (serialize { mode := .read, buffer, cursor } field).1 =
          { mode := .read, buffer, cursor := cursor + bits } := moved
      rw [step]
      have within : bits ≤ buffer.length * 8 - cursor := left
      exact .reading (by omega)

theorem Reachable.sound (reachable : Reachable stream) : stream.Sound := by
  induction reachable with
  | writer => exact .writing []
  | reader bytes => exact .reading (Nat.zero_le _)
  | step _ field ih => exact ih.step field

/-! ### The end -/

theorem number_eq_zero_iff {bits : List Bool} : number bits = 0 ↔ ∀ bit ∈ bits, bit = false := by
  constructor
  · intro zero
    have zeros : bits = List.replicate bits.length false := by
      apply number_inj
      · exact List.length_replicate.symm
      · rw [zero, number_replicate_false]
    exact (List.eq_replicate_iff.mp zeros).2
  · intro zeros
    rw [List.eq_replicate_of_mem zeros, number_replicate_false]

theorem finish_eq (stream : BitStream) : stream.finish =
    if stream.ahead.length < 8 ∧ ∀ bit ∈ stream.ahead, bit = false then .ok ()
    else .error (.trailingBits stream.ahead.length) := by
  have gathered : gather stream.buffer stream.cursor stream.remaining = number stream.ahead := by
    rw [gather_ahead (Nat.le_of_eq stream.length_ahead.symm), ← length_ahead, List.take_length]
  rw [finish, gathered, ← length_ahead]
  by_cases many : 8 ≤ stream.ahead.length
  · rw [if_pos many, if_neg (fun few => Nat.not_lt.mpr many few.1)]
  · simp only [if_neg many, number_eq_zero_iff, Nat.lt_of_not_le many, true_and]

/-! ### Errors -/

/-- A step with a fixed width fails exactly if bits are missing, and then nothing changes. -/
theorem run_fixed (reading : stream.mode = .read) {held : Field}
    {needed : Nat} (fixed : held.fixedBits? = some needed) :
    ∃ value, Careful.serialize.run ⟨stream, held⟩ =
      if stream.remaining < needed then
        .error (.refused (.truncated needed stream.remaining)) ⟨stream, held⟩
      else .ok () ⟨stream.advance needed, value⟩ := by
  obtain ⟨value, step⟩ := read_fixed stream fixed
  refine ⟨value, ?_⟩
  rw [Careful.run_serialize_reading reading, step]
  split
  · rfl
  · rfl

/-- A step to read that fails fills no variable, and changes no bytes. -/
theorem run_reading_error (reading : stream.mode = .read) {held : Field}
    {error : Halt StreamError} {after : Bench}
    (failed : Careful.serialize.run ⟨stream, held⟩ = .error error after) :
    after.stream.buffer = stream.buffer ∧ after.held = held := by
  obtain ⟨bits, _, moved⟩ := read_moves stream held
  rw [Careful.run_serialize_reading reading] at failed
  rcases step : stream.read held with ⟨left, answer⟩
  rw [step] at failed moved
  cases answer with
  | ok value => cases failed
  | error reason =>
      cases failed
      have same : left = stream.advance bits := moved
      have bytes : left.buffer = stream.buffer := by
        rw [same]
        rfl
      exact ⟨bytes, rfl⟩

/-- A step to write fails exactly for a text over its limit, and then nothing changes. -/
theorem run_writing (bits : List Bool) (held : Field) :
    ((∃ error after, Careful.serialize.run ⟨.ofBits bits, held⟩ = .error error after) ↔
      ∃ text limit, held = .text text limit ∧ min limit 65535 < text.utf8ByteSize) ∧
    ∀ error after, Careful.serialize.run ⟨.ofBits bits, held⟩ = .error error after →
      after = ⟨.ofBits bits, held⟩ := by
  have refused : held.refusal? ≠ none ↔
      ∃ text limit, held = .text text limit ∧ min limit 65535 < text.utf8ByteSize := by
    rw [ne_eq, Field.refusal?_eq_none_iff]
    push Not
    rfl
  rw [← refused, Careful.run_serialize_ofBits]
  cases held.refusal? with
  | none => simp
  | some reason => simp [eq_comm]

/-- Errors of a stream leave caller and stream intact.  On every stream that steps lead to, over
any bytes and past any errors, one more step does not unwind, so it touches nothing outside of
the buffer. -/
theorem errors_contained (reachable : Reachable stream) (held : Field) :
    let bench : Bench := { stream, held }
    let outcome := Careful.serialize.run bench
    outcome = bench.settled (stream.serialize held) ∧
    (∀ fault after, outcome ≠ .error (.unwound fault) after) ∧
    (stream.mode = .read → stream.cursor ≤ 8 * stream.buffer.length) ∧
    (stream.mode = .read → ∀ needed, held.fixedBits? = some needed →
      ((∃ error after, outcome = .error error after) ↔ stream.remaining < needed) ∧
      ∀ error after, outcome = .error error after →
        error = .refused (.truncated needed stream.remaining) ∧ after = bench) ∧
    (stream.mode = .read → ∀ error after, outcome = .error error after →
      after.stream.buffer = stream.buffer ∧ after.held = held) ∧
    (stream.mode = .write →
      ((∃ error after, outcome = .error error after) ↔
        ∃ text limit, held = .text text limit ∧ min limit 65535 < text.utf8ByteSize) ∧
      ∀ error after, outcome = .error error after → after = bench) ∧
    Careful.finish.run bench =
      if stream.ahead.length < 8 ∧ ∀ bit ∈ stream.ahead, bit = false then .ok () bench
      else .error (.refused (.trailingBits stream.ahead.length)) bench := by
  intro bench outcome
  have sound := reachable.sound
  have settled : outcome = bench.settled (stream.serialize held) :=
    Careful.run_serialize sound held
  refine ⟨settled, ?_, ?_, ?_, ?_, ?_, ?_⟩
  · intro fault after unwound
    rw [settled] at unwound
    rcases step : stream.serialize held with ⟨left, answer⟩
    rw [step] at unwound
    cases answer with
    | ok value => cases unwound
    | error error => cases unwound
  · intro reading
    cases sound with
    | writing bits => cases reading
    | reading inside => exact inside
  · intro reading needed fixed
    obtain ⟨value, ran⟩ := run_fixed reading fixed
    have ended : outcome = _ := ran
    rw [ended]
    by_cases short : stream.remaining < needed
    · simp [short, bench, eq_comm]
    · simp [short]
  · intro reading error after failed
    exact run_reading_error reading failed
  · intro writing
    cases sound with
    | writing bits => exact run_writing bits held
    | reading inside => cases writing
  · rw [Careful.run_finish, finish_eq]
    by_cases done : stream.ahead.length < 8 ∧ ∀ bit ∈ stream.ahead, bit = false
    · rw [if_pos done, if_pos done]
    · rw [if_neg done, if_neg done]

/-- A text is cut off behind its length, and the next number behind half of its bits. -/
theorem errors_contained_past_text :
    let stream := ((reader [2, 0, 0x41]).serialize (.text "kept" 9)).1
    let bench : Bench := { stream, held := .u16 7 }
    stream.cursor = 16 ∧
      Careful.serialize.run bench = .error (.refused (.truncated 16 8)) bench ∧
      Careful.finish.run bench = .error (.refused (.trailingBits 8)) bench := by
  intro stream bench
  obtain ⟨_, _, _, fixed, _, _, finished⟩ :=
    errors_contained (.step (.reader [2, 0, 0x41]) (.text "kept" 9)) (.u16 7)
  obtain ⟨fails, reported⟩ := fixed rfl 16 rfl
  obtain ⟨error, after, failed⟩ := fails.mpr (by decide)
  obtain ⟨rfl, rfl⟩ := reported error after failed
  exact ⟨rfl, failed, finished.trans (if_neg (by decide))⟩

end BitStream

end ReplicaBridge.Bits
