/-
Module: ReplicaBridge.Proofs.StreamRoundTrip
Purpose: What was written is read back.  A stream to read from the bytes of a written one has
  the bits of the written fields ahead of it, and behind them the padding of the last byte;
  each step takes the bits of its own field, whatever stood in the variable before, and the
  padding is all that is left in the end.
Main exports: Bits.Field.stored, Bits.BitStream.answers, Bits.BitStream.serializeAll_ahead,
  Bits.BitStream.finish_of_zeros
-/
import ReplicaBridge.Proofs.StreamLayout

namespace ReplicaBridge.Bits

/-! ### What a stream keeps of a field -/

namespace Field

/-- The field as it is read back: of a word its low bits, as many as the field has. -/
def stored : Field → Field
  | .bits value count =>
    .bits (UInt32.ofNat (value.toNat % 2 ^ BitStream.wordBits count)) count
  | field => field

theorem blank_stored (field : Field) : field.stored.blank = field.blank := by
  cases field <;> rfl

theorem toNat_lowWord (value : UInt32) (count : Nat) :
    (UInt32.ofNat (value.toNat % 2 ^ BitStream.wordBits count)).toNat =
      value.toNat % 2 ^ BitStream.wordBits count := by
  apply UInt32.toNat_ofNat_of_lt'
  exact Nat.lt_of_le_of_lt (Nat.mod_le _ _) value.toNat_lt

/-- The bits that are left out were never written. -/
theorem toBits_stored (field : Field) : field.stored.toBits = field.toBits := by
  cases field with
  | bits value count =>
      simp only [stored, toBits]
      rw [toNat_lowWord, lowBits_mod]
  | _ => rfl

/-- A field is given back as it is stored, unless it is refused. -/
theorem exact_stored {field : Field} (fits : field.refusal? = none) : field.stored.Exact := by
  cases field with
  | bits value count =>
      simp only [stored, Exact]
      rw [toNat_lowWord]
      exact Nat.mod_lt _ (Nat.two_pow_pos _)
  | text value limit =>
      simp only [refusal?] at fits
      split at fits
      · cases fits
      · rename_i short
        exact Nat.le_of_not_lt short
  | _ => trivial

theorem written_eq {field : Field} (fits : field.refusal? = none) :
    field.written = field.toBits := by
  rw [written, fits]

/-- Only a text over its limit is refused. -/
theorem refusal?_eq_none_iff {field : Field} : field.refusal? = none ↔
    ∀ text limit, field = .text text limit → text.utf8ByteSize ≤ min limit 65535 := by
  cases field with
  | text value limit =>
      simp only [refusal?, text.injEq, BitStream.textLimit, Text.length_utf8]
      constructor
      · intro fits text other same
        obtain ⟨rfl, rfl⟩ := same
        split at fits
        · cases fits
        · rename_i short
          exact Nat.le_of_not_lt short
      · intro fits
        exact if_neg (Nat.not_lt.mpr (fits value limit ⟨rfl, rfl⟩))
  | _ => simp [refusal?]

end Field

namespace BitStream

/-! ### Steps and their answers -/

/-- The answers of steps taken one after another; after a step that fails the next one is
taken. -/
def answers (stream : BitStream) : List Field → List (Except StreamError Field)
  | [] => []
  | field :: rest => (stream.serialize field).2 :: (stream.serialize field).1.answers rest

/-- The answer of a step to write. -/
def writeAnswer (field : Field) : Except StreamError Field :=
  match field.refusal? with
  | some error => .error error
  | none => .ok field

theorem serialize_ofBits_snd (bits : List Bool) (field : Field) :
    ((ofBits bits).serialize field).2 = writeAnswer field := by
  have writing : (ofBits bits).mode = .write := rfl
  simp only [serialize, writing, write_ofBits, writeAnswer]
  cases field.refusal? <;> rfl

theorem answers_ofBits (bits : List Bool) (fields : List Field) :
    (ofBits bits).answers fields = fields.map writeAnswer := by
  induction fields generalizing bits with
  | nil => rfl
  | cons field rest ih =>
      rw [answers, serialize_ofBits, serialize_ofBits_snd, ih]
      rfl

/-- Every step to write succeeds exactly if every text is within its limit. -/
theorem writeAnswer_eq_ok_iff {fields : List Field} :
    fields.map writeAnswer = fields.map .ok ↔ ∀ field ∈ fields, field.refusal? = none := by
  rw [List.map_inj_left]
  constructor
  · intro answered field among
    have answer := answered field among
    unfold writeAnswer at answer
    split at answer
    · cases answer
    · assumption
  · intro fits field among
    rw [writeAnswer, fits field among]

/-! ### Reading what lies ahead -/

/-- Where the bits of a field come first, a step to read a field of its type takes them. -/
theorem serialize_ahead {stream : BitStream} (reading : stream.mode = .read)
    {field shape : Field} {rest : List Bool} (fits : field.refusal? = none)
    (typed : shape.blank = field.blank) (front : stream.ahead = field.toBits ++ rest) :
    stream.serialize shape = (stream.advance field.toBits.length, .ok field.stored) := by
  have step : stream.serialize shape = stream.read shape := by
    simp only [serialize, reading]
  rw [step]
  apply read_eq_ok_iff.mpr
  rw [Field.toBits_stored]
  refine ⟨(Field.blank_stored field).trans typed.symm, Field.exact_stored fits, ?_, rfl⟩
  rw [front]
  exact List.prefix_append _ _

/-- Where the bits of fields come one after another, steps to read fields of their types take
them all. -/
theorem serializeAll_ahead {stream : BitStream} (reading : stream.mode = .read)
    {fields shapes : List Field} {rest : List Bool}
    (fits : ∀ field ∈ fields, field.refusal? = none)
    (typed : shapes.map Field.blank = fields.map Field.blank)
    (front : stream.ahead = fields.flatMap Field.toBits ++ rest) :
    stream.answers shapes = (fields.map fun field => .ok field.stored) ∧
      stream.serializeAll shapes = stream.advance (fields.flatMap Field.toBits).length := by
  induction fields generalizing stream shapes with
  | nil =>
      obtain rfl := List.map_eq_nil_iff.mp typed
      exact ⟨rfl, rfl⟩
  | cons field later ih =>
      obtain ⟨shape, others, rfl, same, types⟩ := List.map_eq_cons_iff.mp typed
      rw [List.flatMap_cons, List.append_assoc] at front
      have first := serialize_ahead reading (fits field List.mem_cons_self) same front
      -- Once the first field is taken, the bits of the others come first, wherever in a byte.
      have behind : (stream.advance field.toBits.length).ahead =
          later.flatMap Field.toBits ++ rest := by
        rw [ahead_advance, front, List.drop_left]
      have laterFits : ∀ other ∈ later, other.refusal? = none :=
        fun other among => fits other (List.mem_cons_of_mem field among)
      have stillReads : (stream.advance field.toBits.length).mode = .read := reading
      obtain ⟨answered, last⟩ := ih stillReads laterFits types behind
      constructor
      · rw [answers, first, answered]
        rfl
      · rw [serializeAll] at last ⊢
        rw [List.foldl_cons, first, last, List.flatMap_cons, List.length_append]
        simp [advance, Nat.add_assoc]

/-- A stream with nothing but a few zeros ahead is at its end. -/
theorem finish_of_zeros {stream : BitStream} {count : Nat} (few : count < 8)
    (zeros : stream.ahead = List.replicate count false) : stream.finish = .ok () := by
  have left : stream.remaining = count := by
    rw [← length_ahead, zeros, List.length_replicate]
  have nothing : gather stream.buffer stream.cursor count = 0 := by
    have enough : count ≤ stream.ahead.length := by
      rw [zeros, List.length_replicate]
    rw [gather_ahead enough, zeros, List.take_replicate, number_replicate_false]
  simp only [finish, left]
  rw [if_neg (Nat.not_le.mpr few), if_pos nothing]

/-! ### There and back -/

/-- Fields of any types and at any alignment are written without an error exactly if every
text is within its limit; then reading fields of the same types from the written bytes
succeeds at every step, whatever the variables held before, gives back every value, of a bit
field its low bits, and ends where the writing ended, with nothing left but the padding. -/
theorem reread_written (fields shapes : List Field)
    (typed : shapes.map Field.blank = fields.map Field.blank) :
    let written := writer.serializeAll fields
    let reread := reader written.buffer
    let fit := ∀ text limit, Field.text text limit ∈ fields →
      text.utf8ByteSize ≤ min limit 65535
    (writer.answers fields = fields.map .ok ↔ fit) ∧
      (fit → reread.answers shapes = (fields.map fun field => .ok field.stored) ∧
        (reread.serializeAll shapes).cursor = written.cursor ∧
        (reread.serializeAll shapes).finish = .ok ()) := by
  intro written reread fit
  have accepted : fit ↔ ∀ field ∈ fields, field.refusal? = none := by
    constructor
    · intro within field among
      apply Field.refusal?_eq_none_iff.mpr
      intro text limit same
      exact within text limit (same ▸ among)
    · intro fits text limit among
      exact Field.refusal?_eq_none_iff.mp (fits _ among) text limit rfl
  constructor
  · have answered : writer.answers fields = fields.map writeAnswer := answers_ofBits [] fields
    rw [accepted, answered, writeAnswer_eq_ok_iff]
  · intro within
    have fits := accepted.mp within
    have bits : fields.flatMap Field.written = fields.flatMap Field.toBits :=
      List.flatMap_congr fun field among => Field.written_eq (fits field among)
    have wrote : written = ofBits (fields.flatMap Field.toBits) := by
      rw [← bits]
      exact serializeAll_ofBits [] fields
    have front : reread.ahead =
        fields.flatMap Field.toBits ++ padding (fields.flatMap Field.toBits).length := by
      simp only [reread, wrote]
      exact bitsOf_pack_eq _
    obtain ⟨answered, moved⟩ := serializeAll_ahead rfl fits typed front
    refine ⟨answered, ?_, ?_⟩
    · rw [moved, wrote]
      exact Nat.zero_add _
    · apply finish_of_zeros (length_padding_lt (fields.flatMap Field.toBits).length)
      rw [moved, ahead_advance, front, List.drop_left, padding, List.length_replicate]

/-- Three bits of a word put all that follows across the bytes: a text as long as its limit, a
bit, a negative number, and a bit field of more bits than a word has. -/
theorem reread_written_across_bytes :
    let fields : List Field :=
      [.bits 0xFF 3, .text "é" 2, .bool true, .i32 (-2), .bits 0xDEADBEEF 40]
    let shapes : List Field :=
      [.bits 9 3, .text "before" 2, .bool false, .i32 7, .bits 0 40]
    let written := writer.serializeAll fields
    let reread := reader written.buffer
    shapes.map Field.blank = fields.map Field.blank ∧
      reread.answers shapes = [.ok (.bits 7 3), .ok (.text "é" 2), .ok (.bool true),
        .ok (.i32 (-2)), .ok (.bits 0xDEADBEEF 40)] ∧
      (reread.serializeAll shapes).cursor = written.cursor ∧
      (reread.serializeAll shapes).finish = .ok () := by
  intro fields shapes written reread
  have typed : shapes.map Field.blank = fields.map Field.blank := rfl
  have fit : ∀ text limit, Field.text text limit ∈ fields →
      text.utf8ByteSize ≤ min limit 65535 := by
    intro text limit among
    have same : text = "é" ∧ limit = 2 := by simpa [fields] using among
    obtain ⟨rfl, rfl⟩ := same
    decide
  obtain ⟨answered, cursor, finished⟩ := (reread_written fields shapes typed).2 fit
  exact ⟨typed, answered, cursor, finished⟩

end BitStream

end ReplicaBridge.Bits
