/-
Module: ReplicaBridge.Proofs.FrameReading
Purpose: Reading at byte boundaries.  A part of a frame that is made of numbers is read
  exactly from the byte strings of its size, each of which stands for one value; where bytes
  are missing, the first number that is not all there is the one that is reported.
Main exports: Wire.between, Wire.shortfall?, Wire.Reads, Wire.Reads.bind, Wire.reads_avatar,
  Wire.text_between, Wire.finish_between
-/
import ReplicaBridge.Proofs.StreamLayout
import ReplicaBridge.Wire.Frame

namespace ReplicaBridge.Wire

open Bits

/-! ### Streams at a byte boundary -/

/-- A stream that reads a byte string whose front it has consumed. -/
def between (consumed rest : Bytes) : BitStream :=
  { mode := .read, buffer := consumed ++ rest, cursor := 8 * consumed.length }

@[simp] theorem ahead_between (consumed rest : Bytes) :
    (between consumed rest).ahead = bitsOf rest := by
  rw [between, BitStream.ahead, bitsOf_append]
  exact List.drop_left' (length_bitsOf consumed)

theorem advance_between (consumed front rest : Bytes) :
    (between consumed (front ++ rest)).advance (8 * front.length) =
      between (consumed ++ front) rest := by
  simp [between, BitStream.advance, Nat.mul_add]

theorem takeUInt_between {front : Bytes} {width : Nat} (full : front.length = width)
    (consumed rest : Bytes) : (between consumed (front ++ rest)).takeUInt width =
      .ok (Bytes.toNatLE front, between (consumed ++ front) rest) := by
  have enough : ¬ (bitsOf (front ++ rest)).length < width * 8 := by
    rw [length_bitsOf, List.length_append]
    omega
  have bits : (bitsOf (front ++ rest)).take (width * 8) = bitsOf front := by
    rw [bitsOf_append]
    apply List.take_left'
    rw [length_bitsOf]
    omega
  rw [BitStream.takeUInt_eq_takeBits, BitStream.takeBits_eq, ahead_between, if_neg enough, bits,
    ← toNatLE_eq_number, Nat.mul_comm, ← full, advance_between]

theorem takeUInt_between_short {rest : Bytes} {width : Nat} (short : rest.length < width)
    (consumed : Bytes) : (between consumed rest).takeUInt width =
      .error (.truncated (8 * width) (8 * rest.length)) := by
  have missing : (bitsOf rest).length < width * 8 := by
    rw [length_bitsOf]
    omega
  rw [BitStream.takeUInt_eq_takeBits, BitStream.takeBits_eq, ahead_between, if_pos missing,
    length_bitsOf, Nat.mul_comm width 8]

/-! ### Numbers one after another -/

/-- The bits that are needed for the first number that so many bytes do not hold, and the
bits that are left for it. -/
def shortfall? : (widths : List Nat) → (length : Nat) → Option (Nat × Nat)
  | [], _ => none
  | width :: later, length =>
    if length < width then some (8 * width, 8 * length) else shortfall? later (length - width)

theorem shortfall?_eq_none_iff {widths : List Nat} {length : Nat} :
    shortfall? widths length = none ↔ widths.sum ≤ length := by
  induction widths generalizing length with
  | nil => simp [shortfall?]
  | cons width later ih =>
      rw [shortfall?, List.sum_cons]
      split
      · simp
        omega
      · rw [ih]
        omega

theorem shortfall?_append (front back : List Nat) (length : Nat) :
    shortfall? (front ++ back) length =
      (shortfall? front length).or (shortfall? back (length - front.sum)) := by
  induction front generalizing length with
  | nil => simp [shortfall?]
  | cons width later ih =>
      rw [List.cons_append, shortfall?, shortfall?, List.sum_cons]
      split
      · rfl
      · rw [ih, Nat.sub_sub]

/-- A reader takes values that are written as numbers of the given widths: every value that
fits is read from its bytes, every byte string of that size is the bytes of one, and a
shorter one is refused. -/
structure Reads {α : Type} (reader : Reader α) (widths : List Nat) (Fits : α → Prop)
    (bytes : α → Bytes) : Prop where
  size : ∀ value, Fits value → (bytes value).length = widths.sum
  covers : ∀ payload : Bytes, payload.length = widths.sum →
    ∃ value, Fits value ∧ bytes value = payload
  reads : ∀ value, Fits value → ∀ consumed rest,
    reader (between consumed (bytes value ++ rest)) =
      .ok (value, between (consumed ++ bytes value) rest)
  cut : ∀ consumed rest needed left, shortfall? widths rest.length = some (needed, left) →
    reader (between consumed rest) = .error (.truncated needed left)

namespace Reads

variable {α β : Type}

/-- A single number. -/
theorem uint (width : Nat) : Reads (FrameSource.uint width) [width]
    (fun value => value < 2 ^ (width * 8)) (Bytes.ofNatLE width) where
  size value _ := by simp [Bytes.length_ofNatLE]
  covers payload full := by
    have width_eq : payload.length = width := by simpa using full
    refine ⟨Bytes.toNatLE payload, ?_, ?_⟩
    · rw [toNatLE_eq_number, ← width_eq, Nat.mul_comm, ← length_bitsOf]
      exact number_lt _
    · rw [← width_eq, Bytes.ofNatLE_toNatLE]
  reads value fits consumed rest := by
    have read := takeUInt_between (Bytes.length_ofNatLE width value) consumed rest
    rw [toNatLE_eq_number, number_bitsOf_ofNatLE, Nat.mod_eq_of_lt fits] at read
    exact read
  cut consumed rest needed left missing := by
    simp only [shortfall?] at missing
    split at missing
    · rename_i short
      cases missing
      exact takeUInt_between_short short consumed
    · cases missing

/-- The values of another type that are made of those that are read. -/
theorem map {reader : Reader α} {widths : List Nat} {Fits : α → Prop} {bytes : α → Bytes}
    (first : Reads reader widths Fits bytes) {make : α → β} {Made : β → Prop}
    {madeBytes : β → Bytes}
    (made : ∀ value, Fits value → Made (make value) ∧ madeBytes (make value) = bytes value)
    (onto : ∀ whole, Made whole → ∃ value, Fits value ∧ make value = whole) :
    Reads (make <$> reader) widths Made madeBytes where
  size whole built := by
    obtain ⟨value, fits, rfl⟩ := onto whole built
    rw [(made value fits).2, first.size value fits]
  covers payload full := by
    obtain ⟨value, fits, rfl⟩ := first.covers payload full
    exact ⟨make value, made value fits⟩
  reads whole built consumed rest := by
    obtain ⟨value, fits, rfl⟩ := onto whole built
    have read := first.reads value fits consumed rest
    rw [(made value fits).2]
    simp [Functor.map, StateT.map, read, bind, Except.bind, pure, Except.pure]
  cut consumed rest needed left missing := by
    have read := first.cut consumed rest needed left missing
    simp [Functor.map, StateT.map, read, bind, Except.bind]

/-- Nothing more is read. -/
theorem done {Made : α → Prop} {value : α} (only : ∀ whole, Made whole ↔ whole = value) :
    Reads (pure value) [] Made (fun _ => []) where
  size _ _ := rfl
  covers payload empty := by
    have nothing : payload = [] := List.length_eq_zero_iff.mp empty
    exact ⟨value, (only value).mpr rfl, nothing.symm⟩
  reads whole fits consumed rest := by
    rw [(only whole).mp fits, List.append_nil, List.nil_append]
    rfl
  cut _ _ _ _ missing := by cases missing

/-- One part after another. -/
theorem bind {first : Reader α} {next : α → Reader β} {front back : List Nat}
    {frontBytes : α → Bytes} {Made : β → Prop} (part : β → α) {backBytes : β → Bytes}
    (head : Reads first front (fun _ => True) frontBytes)
    (tail : ∀ value, Reads (next value) back (fun whole => Made whole ∧ part whole = value)
      backBytes) :
    Reads (first >>= next) (front ++ back) Made
      (fun whole => frontBytes (part whole) ++ backBytes whole) where
  size whole fits := by
    rw [List.length_append, List.sum_append, head.size _ trivial,
      (tail (part whole)).size whole ⟨fits, rfl⟩]
  covers payload full := by
    rw [List.sum_append] at full
    obtain ⟨value, _, front_eq⟩ := head.covers (payload.take front.sum) (by
      rw [List.length_take]
      omega)
    obtain ⟨whole, ⟨fits, rfl⟩, back_eq⟩ := (tail value).covers (payload.drop front.sum) (by
      rw [List.length_drop]
      omega)
    refine ⟨whole, fits, ?_⟩
    rw [front_eq, back_eq, List.take_append_drop]
  reads whole fits consumed rest := by
    have headRead := head.reads (part whole) trivial consumed (backBytes whole ++ rest)
    have tailRead := (tail (part whole)).reads whole ⟨fits, rfl⟩
      (consumed ++ frontBytes (part whole)) rest
    rw [List.append_assoc]
    simp only [Bind.bind, StateT.bind, headRead, Except.bind, tailRead, List.append_assoc]
  cut consumed rest needed left missing := by
    -- Bytes are missing in the first part, or it is whole and they are missing behind it.
    rw [shortfall?_append] at missing
    cases early : shortfall? front rest.length with
    | some short =>
        rw [early] at missing
        cases missing
        have headRead := head.cut consumed rest needed left early
        simp only [Bind.bind, StateT.bind, headRead, Except.bind]
    | none =>
        rw [early, Option.none_or, ← List.length_drop] at missing
        have enough := shortfall?_eq_none_iff.mp early
        obtain ⟨value, _, front_eq⟩ := head.covers (rest.take front.sum)
          (List.length_take_of_le enough)
        have headRead := head.reads value trivial consumed (rest.drop front.sum)
        rw [front_eq, List.take_append_drop] at headRead
        have tailRead := (tail value).cut (consumed ++ rest.take front.sum)
          (rest.drop front.sum) needed left missing
        simp only [Bind.bind, StateT.bind, headRead, Except.bind, tailRead]

/-- The last part, from which the whole is made. -/
theorem last {first : Reader α} {front : List Nat} {frontBytes : α → Bytes} {Made : β → Prop}
    {make : α → β} (part : β → α) (head : Reads first front (fun _ => True) frontBytes)
    (only : ∀ value whole, Made whole ∧ part whole = value ↔ whole = make value) :
    Reads (first >>= fun value => pure (make value)) front Made
      (fun whole => frontBytes (part whole)) := by
  have both := bind part head fun value => done (only value)
  simpa using both

end Reads

/-! ### The parts of a frame -/

theorem reads_u8 : Reads Walk.u8 [1] (fun _ => True)
    (fun value => Bytes.ofNatLE 1 value.toNat) := by
  apply (Reads.uint 1).map
  · intro value fits
    exact ⟨trivial, by rw [UInt8.toNat_ofNat_of_lt' fits]⟩
  · intro value _
    exact ⟨value.toNat, value.toNat_lt, UInt8.ofNat_toNat⟩

theorem reads_u32 : Reads Walk.u32 [4] (fun _ => True)
    (fun value => Bytes.ofNatLE 4 value.toNat) := by
  apply (Reads.uint 4).map
  · intro value fits
    exact ⟨trivial, by rw [UInt32.toNat_ofNat_of_lt' fits]⟩
  · intro value _
    exact ⟨value.toNat, value.toNat_lt, UInt32.ofNat_toNat⟩

theorem reads_u64 : Reads Walk.u64 [8] (fun _ => True)
    (fun value => Bytes.ofNatLE 8 value.toNat) := by
  apply (Reads.uint 8).map
  · intro value fits
    exact ⟨trivial, by rw [UInt64.toNat_ofNat_of_lt' fits]⟩
  · intro value _
    exact ⟨value.toNat, value.toNat_lt, UInt64.ofNat_toNat⟩

theorem reads_i32 : Reads Walk.i32 [4] (fun _ => True)
    (fun value => Bytes.ofNatLE 4 value.toUInt32.toNat) := by
  apply reads_u32.map
  · intro value _
    exact ⟨trivial, by rw [UInt32.toUInt32_toInt32]⟩
  · intro value _
    exact ⟨value.toUInt32, trivial, Int32.toInt32_toUInt32 value⟩

/-- The bytes of a vector. -/
def vec3Bytes (vector : Vec3) : Bytes :=
  Bytes.ofNatLE 4 vector.x.toNat ++ (Bytes.ofNatLE 4 vector.y.toNat ++
    Bytes.ofNatLE 4 vector.z.toNat)

theorem reads_vec3 : Reads Walk.vec3 [4, 4, 4] (fun _ => True) vec3Bytes := by
  refine Reads.bind Vec3.x reads_u32 fun x => ?_
  refine Reads.bind Vec3.y reads_u32 fun y => ?_
  apply Reads.last Vec3.z reads_u32
  rintro z ⟨_, _, _⟩
  simp [and_assoc]

/-- The bytes of an orientation. -/
def quatBytes (rotation : Quat) : Bytes :=
  Bytes.ofNatLE 4 rotation.x.toNat ++ (Bytes.ofNatLE 4 rotation.y.toNat ++
    (Bytes.ofNatLE 4 rotation.z.toNat ++ Bytes.ofNatLE 4 rotation.w.toNat))

theorem reads_quat : Reads Walk.quat [4, 4, 4, 4] (fun _ => True) quatBytes := by
  refine Reads.bind Quat.x reads_u32 fun x => ?_
  refine Reads.bind Quat.y reads_u32 fun y => ?_
  refine Reads.bind Quat.z reads_u32 fun z => ?_
  apply Reads.last Quat.w reads_u32
  rintro w ⟨_, _, _, _⟩
  simp [and_assoc]

/-- The bytes of an avatar. -/
def avatarBytes (state : AvatarState) : Bytes :=
  Bytes.ofNatLE 8 state.id.toNat ++ (vec3Bytes state.position ++
    (quatBytes state.orientation ++ (vec3Bytes state.velocity ++
      Bytes.ofNatLE 4 state.input.toNat)))

/-- The widths of the numbers of an avatar: its identity, three for each vector, four for
the orientation, and the input. -/
def avatarWidths : List Nat :=
  [8, 4, 4, 4, 4, 4, 4, 4, 4, 4, 4, 4]

theorem reads_avatar : Reads Walk.avatar avatarWidths (fun _ => True) avatarBytes := by
  have parts : avatarWidths = [8] ++ ([4, 4, 4] ++ ([4, 4, 4, 4] ++ ([4, 4, 4] ++ [4]))) := rfl
  rw [parts]
  refine Reads.bind AvatarState.id reads_u64 fun id => ?_
  refine Reads.bind AvatarState.position reads_vec3 fun position => ?_
  refine Reads.bind AvatarState.orientation reads_quat fun orientation => ?_
  refine Reads.bind AvatarState.velocity reads_vec3 fun velocity => ?_
  apply Reads.last AvatarState.input reads_u32
  rintro input ⟨_, _, _, _, _⟩
  simp [and_assoc]

/-! ### Texts and the end -/

theorem finish_between (consumed rest : Bytes) :
    (between consumed rest).finish =
      if rest = [] then .ok () else .error (.trailingBits (8 * rest.length)) := by
  have left : (between consumed rest).remaining = 8 * rest.length := by
    rw [← BitStream.length_ahead, ahead_between, length_bitsOf]
  unfold BitStream.finish
  rw [left]
  cases rest with
  | nil => rfl
  | cons byte later =>
      have enough : 8 ≤ 8 * (byte :: later).length := by
        rw [List.length_cons]
        omega
      simp only [if_pos enough, reduceCtorEq, if_false]

/-- The length that stands in front of a text. -/
def textLength (low high : UInt8) : Nat :=
  low.toNat + 256 * high.toNat

section Text

variable {limit : Nat} (consumed : Bytes) {low high : UInt8}

theorem number_textLength (rest : Bytes) :
    number ((bitsOf (low :: high :: rest)).take 16) = textLength low high := by
  have front : (bitsOf (low :: high :: rest)).take 16 = bitsOf [low, high] := by
    have whole : low :: high :: rest = [low, high] ++ rest := rfl
    rw [whole, bitsOf_append]
    exact List.take_left' (length_bitsOf _)
  rw [front, ← toNatLE_eq_number]
  rfl

theorem takeText_short {rest : Bytes} (short : rest.length < 2) :
    ((between consumed rest).takeText limit).2 = .error (.truncated 16 (8 * rest.length)) := by
  have missing : (bitsOf rest).length < 16 := by
    rw [length_bitsOf]
    omega
  rw [BitStream.takeText_eq, ahead_between, if_pos missing, length_bitsOf]

/-- Behind a length that is complete. -/
theorem takeText_between (rest : Bytes) :
    (between consumed (low :: high :: rest)).takeText limit =
      if BitStream.textLimit limit < textLength low high then
        (between (consumed ++ [low, high]) rest,
          .error (.stringTooLong (textLength low high) (BitStream.textLimit limit)))
      else if rest.length < textLength low high then
        (between (consumed ++ [low, high]) rest,
          .error (.truncated (8 * textLength low high) (8 * rest.length)))
      else
        (between (consumed ++ [low, high] ++ rest.take (textLength low high))
            (rest.drop (textLength low high)),
          match Text.ofUtf8? (rest.take (textLength low high)) with
          | some text => .ok text
          | none => .error .invalidUtf8) := by
  have enough : ¬ (bitsOf (low :: high :: rest)).length < 16 := by
    rw [length_bitsOf, List.length_cons, List.length_cons]
    omega
  have left : (bitsOf (low :: high :: rest)).length - 16 = 8 * rest.length := by
    rw [length_bitsOf, List.length_cons, List.length_cons]
    omega
  have behind : (bitsOf (low :: high :: rest)).drop 16 = bitsOf rest := by
    have whole : low :: high :: rest = [low, high] ++ rest := rfl
    rw [whole, bitsOf_append]
    exact List.drop_left' (length_bitsOf _)
  have opened : (between consumed (low :: high :: rest)).advance 16 =
      between (consumed ++ [low, high]) rest := advance_between consumed [low, high] rest
  rw [BitStream.takeText_eq, ahead_between, if_neg enough]
  dsimp only
  rw [number_textLength, left, behind, opened]
  by_cases cut : rest.length < textLength low high
  · have bits : 8 * rest.length < 8 * textLength low high := by omega
    rw [if_pos bits, if_pos cut]
  · have bits : ¬ 8 * rest.length < 8 * textLength low high := by omega
    have moved : (between consumed (low :: high :: rest)).advance
        (16 + 8 * textLength low high) =
          between (consumed ++ [low, high] ++ rest.take (textLength low high))
            (rest.drop (textLength low high)) := by
      have further := advance_between (consumed ++ [low, high])
        (rest.take (textLength low high)) (rest.drop (textLength low high))
      rw [List.take_append_drop, List.length_take_of_le (Nat.le_of_not_lt cut), ← opened]
        at further
      rw [← further]
      simp [BitStream.advance, Nat.add_assoc]
    have content := pack_bitsOf (rest.take (textLength low high))
    rw [if_neg bits, if_neg cut, moved, ← bitsOf_take]
    cases decoded : Text.ofUtf8? (rest.take (textLength low high)) with
    | none => simp only [content, decoded]
    | some text => simp only [content, decoded]

end Text

end ReplicaBridge.Wire
