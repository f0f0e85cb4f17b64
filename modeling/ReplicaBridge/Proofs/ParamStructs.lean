/-
Module: ReplicaBridge.Proofs.ParamStructs
Purpose: Declared parameter structs against the layout of a host function.  A struct can be
  encoded just when the block has the declared size and each field finds a slot of its type's
  size.  Where the slots are disjoint each keeps what was written to it, so the block holds every
  field and zeros between them, and what is read back are the fields.  Memory is taken to
  suffice for a block.
Main exports: ParameterBlock.writeSlot_ok_iff, ParameterBlock.readSlot_eq,
  ParamSchema.writeFields_ok_iff, ParamSchema.holds_of_writeFields, ParamSchema.readFields_ok,
  ParamSchema.encode_ok_iff, Declaration.params_faithful
-/
import ReplicaBridge.Params.Declaration
import ReplicaBridge.Proofs.BlockBytes
import ReplicaBridge.Proofs.BlockLayout

namespace ReplicaBridge.Params

open Host (Property)

/-! ### Slots of a block -/

/-- One slot ends before the other starts. -/
def ParamSlot.Disjoint (left right : ParamSlot) : Prop :=
  left.bound ≤ right.offset.toNat ∨ right.bound ≤ left.offset.toNat

instance (left right : ParamSlot) : Decidable (left.Disjoint right) :=
  inferInstanceAs (Decidable (_ ∨ _))

theorem ParamSlot.Disjoint.covers_eq_false {left right : ParamSlot}
    (disjoint : left.Disjoint right) {index : Nat} (inside : left.covers index = true) :
    right.covers index = false := by
  have inside := of_decide_eq_true inside
  apply decide_eq_false
  rcases disjoint with before | after <;> omega

namespace ParameterBlock

variable {block : ParameterBlock} {slot : ParamSlot} {value : Scalar}

/-- The bytes of a slot. -/
def slotBytes (block : ParameterBlock) (slot : ParamSlot) : Bytes :=
  Bytes.slice block.bytes slot.offset.toNat slot.size.toNat

/-- The block with the bytes of a value from where a slot starts. -/
def put (block : ParameterBlock) (slot : ParamSlot) (value : Scalar) : ParameterBlock :=
  { bytes := Bytes.overwrite block.bytes slot.offset.toNat value.toBytes }

@[simp] theorem length_put (block : ParameterBlock) (slot : ParamSlot) (value : Scalar) :
    (block.put slot value).length = block.length :=
  Bytes.length_overwrite _ _ _

/-- A value is written into a slot of exactly its size that lies in the block. -/
theorem writeSlot_ok_iff {after : ParameterBlock} :
    block.writeSlot slot value = .ok after ↔
      slot.size.toNat = value.type.width ∧ slot.bound ≤ block.length ∧
        after = block.put slot value := by
  unfold writeSlot checkSlot write checkRange
  by_cases size : slot.size.toNat = value.type.width
  · rw [if_pos size, ParamSlot.bound, size]
    by_cases outside : block.length < slot.offset.toNat + value.type.width
    · rw [if_pos outside]
      exact ⟨nofun, fun ⟨_, within, _⟩ => absurd within (Nat.not_le_of_lt outside)⟩
    · rw [if_neg outside]
      constructor
      · rintro ⟨⟩
        exact ⟨rfl, Nat.le_of_not_lt outside, rfl⟩
      · rintro ⟨-, -, rfl⟩
        rfl
  · rw [if_neg size]
    exact ⟨nofun, fun ⟨same, _⟩ => absurd same size⟩

/-- A slot of exactly the type's size that lies in the block can be read. -/
theorem readSlot_eq {type : ScalarType} (size : slot.size.toNat = type.width)
    (within : slot.bound ≤ block.length) :
    block.readSlot slot type = .ok (type.ofBytes (block.slotBytes slot)) := by
  have inside : ¬block.length < slot.offset.toNat + type.width := by
    rw [← size]
    exact Nat.not_lt_of_le within
  rw [readSlot, checkSlot, if_pos size]
  simp only [read, checkRange, if_neg inside, slotBytes, size]

theorem length_slotBytes (within : slot.bound ≤ block.length) :
    (block.slotBytes slot).length = slot.size.toNat :=
  Bytes.length_slice within

theorem put_outside (size : slot.size.toNat = value.type.width)
    (within : slot.bound ≤ block.length) {index : Nat} (outside : slot.covers index = false) :
    (block.put slot value).bytes[index]? = block.bytes[index]? := by
  have width : slot.size.toNat = value.toBytes.length := size.trans value.length_toBytes.symm
  have apart := of_decide_eq_false outside
  rw [ParamSlot.bound, width] at apart within
  exact (Bytes.getElem?_overwrite within index).trans (if_neg apart)

theorem slotBytes_put (size : slot.size.toNat = value.type.width)
    (within : slot.bound ≤ block.length) :
    (block.put slot value).slotBytes slot = value.toBytes := by
  have width : slot.size.toNat = value.toBytes.length := size.trans value.length_toBytes.symm
  rw [ParamSlot.bound, width] at within
  rw [slotBytes, width]
  exact Bytes.slice_overwrite within

end ParameterBlock

/-! ### Fields and their slots -/

namespace FunctionDescriptor

/-- The parameter of a name is there, and as large as the type. -/
def Takes (descriptor : FunctionDescriptor) (property : String) (type : ScalarType) : Prop :=
  ∃ slot, descriptor.layout.slot? property = some slot ∧ slot.size.toNat = type.width

/-- A byte is one of the parameter's of a name. -/
def covers (descriptor : FunctionDescriptor) (property : String) (index : Nat) : Bool :=
  (descriptor.layout.slot? property).any (·.covers index)

/-- Of the parameters of two names one ends before the other starts. -/
def Apart (descriptor : FunctionDescriptor) (left right : String) : Prop :=
  ∀ one ∈ descriptor.layout.slot? left, ∀ other ∈ descriptor.layout.slot? right,
    one.Disjoint other

instance (descriptor : FunctionDescriptor) (left right : String) :
    Decidable (descriptor.Apart left right) :=
  inferInstanceAs (Decidable (∀ one ∈ _, ∀ other ∈ _, _))

/-- A block holds the bytes of a value where the parameter of a name lies. -/
def Holds (descriptor : FunctionDescriptor) (block : ParameterBlock) (property : String)
    (value : Scalar) : Prop :=
  ∃ slot, descriptor.layout.slot? property = some slot ∧ block.slotBytes slot = value.toBytes

/-- What a field is after a call: an output is what its slot stores, an input is as before. -/
def Leaves (descriptor : FunctionDescriptor) (block : ParameterBlock)
    (before : ParamField × Scalar) (after : Scalar) : Prop :=
  if before.1.out then
    ∃ slot, descriptor.layout.slot? before.1.property = some slot ∧
      after.type = before.2.type ∧ after.StoredAs (block.slotBytes slot)
  else after = before.2

variable {descriptor : FunctionDescriptor}

theorem slot_of_slot? {property : String} {slot : ParamSlot}
    (found : descriptor.layout.slot? property = some slot) :
    descriptor.slot property = .ok slot := by
  rw [FunctionDescriptor.slot, found]

/-- Every slot lies in a block of the function's size. -/
theorem Laid.slot_within (laid : descriptor.Laid) {property : String} {slot : ParamSlot}
    (found : descriptor.layout.slot? property = some slot) {block : ParameterBlock}
    (full : block.length = descriptor.blockSize) : slot.bound ≤ block.length := by
  rw [full]
  exact laid.bound_le_blockSize (ParamLayout.slot?_mem found)

/-- What was written to a slot is what is read from it. -/
theorem Leaves.eq_of_holds {block : ParameterBlock} {before : ParamField × Scalar}
    {after : Scalar} (leaves : descriptor.Leaves block before after)
    (holds : descriptor.Holds block before.1.property before.2) : after = before.2 := by
  unfold Leaves at leaves
  split at leaves
  · obtain ⟨slot, found, type, stored⟩ := leaves
    obtain ⟨same, here, written⟩ := holds
    cases found.symm.trans here
    rw [written] at stored
    exact stored.eq_of_toBytes type
  · exact leaves

end FunctionDescriptor

namespace ParamSchema

variable {descriptor : FunctionDescriptor} {block after : ParameterBlock}
  {pairs : List (ParamField × Scalar)}

/-! ### Writing the fields -/

theorem writeFields_cons_ok_iff {field : ParamField} {value : Scalar}
    {rest : List (ParamField × Scalar)} :
    writeFields descriptor block ((field, value) :: rest) = .ok after ↔
      ∃ slot, descriptor.layout.slot? field.property = some slot ∧
        slot.size.toNat = value.type.width ∧ slot.bound ≤ block.length ∧
        writeFields descriptor (block.put slot value) rest = .ok after := by
  rw [writeFields, FunctionDescriptor.slot]
  cases descriptor.layout.slot? field.property with
  | none => exact ⟨nofun, nofun⟩
  | some slot =>
      dsimp only
      cases written : block.writeSlot slot value with
      | ok next =>
          obtain ⟨size, within, rfl⟩ := ParameterBlock.writeSlot_ok_iff.mp written
          constructor
          · intro later
            exact ⟨slot, rfl, size, within, later⟩
          · rintro ⟨same, found, -, -, later⟩
            cases found
            exact later
      | error error =>
          refine ⟨nofun, fun ⟨same, found, size, within, _⟩ => ?_⟩
          cases found
          cases written.symm.trans (ParameterBlock.writeSlot_ok_iff.mpr ⟨size, within, rfl⟩)

/-- The fields are written just when each finds a slot of its size. -/
theorem writeFields_ok_iff (laid : descriptor.Laid) (full : block.length = descriptor.blockSize) :
    (∃ after, writeFields descriptor block pairs = .ok after) ↔
      ∀ pair ∈ pairs, descriptor.Takes pair.1.property pair.2.type := by
  induction pairs generalizing block with
  | nil => exact ⟨fun _ => nofun, fun _ => ⟨block, rfl⟩⟩
  | cons pair rest ih =>
      rw [List.forall_mem_cons]
      constructor
      · rintro ⟨after, wrote⟩
        obtain ⟨slot, found, size, -, later⟩ := writeFields_cons_ok_iff.mp wrote
        exact ⟨⟨slot, found, size⟩,
          (ih ((ParameterBlock.length_put _ _ _).trans full)).mp ⟨after, later⟩⟩
      · rintro ⟨⟨slot, found, size⟩, others⟩
        have within := laid.slot_within found full
        obtain ⟨after, later⟩ := (ih ((block.length_put slot pair.2).trans full)).mpr others
        exact ⟨after, writeFields_cons_ok_iff.mpr ⟨slot, found, size, within, later⟩⟩

/-- Writing the fields keeps the block's length and every byte that is in none of their slots. -/
theorem writeFields_outside (wrote : writeFields descriptor block pairs = .ok after) :
    after.length = block.length ∧
      ∀ index, (∀ pair ∈ pairs, descriptor.covers pair.1.property index = false) →
        after.bytes[index]? = block.bytes[index]? := by
  induction pairs generalizing block with
  | nil =>
      cases wrote
      exact ⟨rfl, fun _ _ => rfl⟩
  | cons pair rest ih =>
      obtain ⟨slot, found, size, within, later⟩ := writeFields_cons_ok_iff.mp wrote
      obtain ⟨length, outside⟩ := ih later
      refine ⟨length.trans (block.length_put _ _), fun index apart => ?_⟩
      obtain ⟨first, others⟩ := List.forall_mem_cons.mp apart
      rw [FunctionDescriptor.covers, found, Option.any_some] at first
      rw [outside index others, ParameterBlock.put_outside size within first]

/-- Where no two fields share a byte, each field's slot keeps what was written to it. -/
theorem holds_of_writeFields (wrote : writeFields descriptor block pairs = .ok after)
    (apart : pairs.Pairwise fun left right =>
      descriptor.Apart left.1.property right.1.property) :
    ∀ pair ∈ pairs, descriptor.Holds after pair.1.property pair.2 := by
  induction pairs generalizing block with
  | nil => exact nofun
  | cons pair rest ih =>
      obtain ⟨slot, found, size, within, later⟩ := writeFields_cons_ok_iff.mp wrote
      obtain ⟨first, others⟩ := List.pairwise_cons.mp apart
      refine List.forall_mem_cons.mpr ⟨⟨slot, found, ?_⟩, ih later others⟩
      -- The fields behind the first are written elsewhere, so its slot stays as it was put.
      have kept : after.slotBytes slot = (block.put slot pair.2).slotBytes slot := by
        apply Bytes.slice_congr
        intro index start stop
        have inside : slot.covers index = true := decide_eq_true ⟨start, stop⟩
        apply (writeFields_outside later).2
        intro other among
        unfold FunctionDescriptor.covers
        cases there : descriptor.layout.slot? other.1.property with
        | none => rfl
        | some next => exact (first other among slot found next there).covers_eq_false inside
      rw [kept, ParameterBlock.slotBytes_put size within]

/-! ### Reading them back -/

/-- Where each field finds a slot of its size, a block of the function's size can be read. -/
theorem readFields_ok (laid : descriptor.Laid) (full : block.length = descriptor.blockSize)
    (takes : ∀ pair ∈ pairs, descriptor.Takes pair.1.property pair.2.type) :
    ∃ found, readFields descriptor block pairs = .ok found ∧
      List.Forall₂ (descriptor.Leaves block) pairs found := by
  induction pairs with
  | nil => exact ⟨[], rfl, .nil⟩
  | cons pair rest ih =>
      obtain ⟨⟨slot, found, size⟩, others⟩ := List.forall_mem_cons.mp takes
      obtain ⟨values, later, each⟩ := ih others
      have within := laid.slot_within found full
      rw [readFields, later]
      by_cases out : pair.1.out = true
      · rw [if_pos out, FunctionDescriptor.slot_of_slot? found]
        simp only [ParameterBlock.readSlot_eq size within]
        refine ⟨_, rfl, .cons ?_ each⟩
        rw [FunctionDescriptor.Leaves, if_pos out]
        exact ⟨slot, found, Scalar.type_ofBits _ _,
          ScalarType.storedAs_ofBytes ((ParameterBlock.length_slotBytes within).trans size)⟩
      · rw [if_neg out]
        refine ⟨_, rfl, .cons ?_ each⟩
        rw [FunctionDescriptor.Leaves, if_neg out]

/-- Read from slots that hold the fields, all fields are what they were. -/
theorem eq_of_leaves {found : List Scalar}
    (leaves : List.Forall₂ (descriptor.Leaves block) pairs found)
    (holds : ∀ pair ∈ pairs, descriptor.Holds block pair.1.property pair.2) :
    found = pairs.map (·.2) := by
  induction leaves with
  | nil => rfl
  | cons first _ ih =>
      obtain ⟨here, others⟩ := List.forall_mem_cons.mp holds
      rw [List.map_cons, first.eq_of_holds here, ih others]

end ParamSchema

/-! ### Whole structs -/

theorem ScalarType.ofName?_name (type : ScalarType) : ScalarType.ofName? type.name = some type := by
  cases type <;> rfl

namespace ParamSchema

variable {descriptor : FunctionDescriptor} {schema : ParamSchema} {values : List Scalar}

theorem Fits.length_eq (fits : schema.Fits values) : values.length = schema.fields.length := by
  simpa only [List.length_map] using congrArg List.length fits

theorem Fits.map_fst_zip (fits : schema.Fits values) :
    (schema.fields.zip values).map (·.1) = schema.fields :=
  List.map_fst_zip (Nat.le_of_eq fits.length_eq.symm)

theorem Fits.map_snd_zip (fits : schema.Fits values) :
    (schema.fields.zip values).map (·.2) = values :=
  List.map_snd_zip (Nat.le_of_eq fits.length_eq)

/-- Each field stands with a value of the type it spells. -/
theorem Fits.ofName? (fits : schema.Fits values) : ∀ pair ∈ schema.fields.zip values,
    ScalarType.ofName? pair.1.typeName = some pair.2.type := by
  unfold Fits at fits
  generalize schema.fields = fields at fits
  induction fields generalizing values with
  | nil => exact nofun
  | cons field rest ih =>
      cases values with
      | nil => cases fits
      | cons value others =>
          obtain ⟨name, later⟩ := List.cons.inj fits
          refine List.forall_mem_cons.mpr ⟨?_, ih later⟩
          exact (congrArg ScalarType.ofName? name).symm.trans value.type.ofName?_name

theorem encode_eq_ok {block : ParameterBlock} :
    schema.encode values descriptor = .ok block ↔ descriptor.blockSize = schema.size ∧
      writeFields descriptor (.forFunction descriptor) (schema.fields.zip values) = .ok block := by
  unfold encode FunctionDescriptor.expectSize
  by_cases size : descriptor.blockSize = schema.size
  · rw [if_pos size]
    exact ⟨fun wrote => ⟨size, wrote⟩, And.right⟩
  · rw [if_neg size]
    exact ⟨nofun, fun ⟨same, _⟩ => absurd same size⟩

/-- Every field finds a slot of its type's size, whatever the values are. -/
theorem takes_iff (fits : schema.Fits values) :
    (∀ pair ∈ schema.fields.zip values, descriptor.Takes pair.1.property pair.2.type) ↔
      ∀ field ∈ schema.fields, ∃ type,
        ScalarType.ofName? field.typeName = some type ∧ descriptor.Takes field.property type := by
  constructor
  · intro takes field among
    rw [← fits.map_fst_zip] at among
    obtain ⟨pair, paired, rfl⟩ := List.mem_map.mp among
    exact ⟨pair.2.type, fits.ofName? pair paired, takes pair paired⟩
  · intro each pair paired
    obtain ⟨type, named, takes⟩ := each pair.1 (List.of_mem_zip paired).1
    cases named.symm.trans (fits.ofName? pair paired)
    exact takes

/-- A struct can be encoded just when the block has its size and each of its fields finds a slot
of its type's size. -/
theorem encode_ok_iff (laid : descriptor.Laid) (fits : schema.Fits values) :
    (∃ block, schema.encode values descriptor = .ok block) ↔
      descriptor.blockSize = schema.size ∧ ∀ field ∈ schema.fields, ∃ type,
        ScalarType.ofName? field.typeName = some type ∧ descriptor.Takes field.property type := by
  have full : (ParameterBlock.forFunction descriptor).length = descriptor.blockSize :=
    List.length_replicate
  rw [← takes_iff fits, ← writeFields_ok_iff laid full]
  simp only [encode_eq_ok, exists_and_left]

end ParamSchema

/-! ### Declarations -/

namespace Annotations

variable {α : Type} {read : AnnotationValue → Option α} {key : String} {annotations : Annotations}

/-- A required key without problems has a value that can be read. -/
theorem value?_isSome (sound : annotations.keyProblems read key = [])
    (present : annotations.missingProblems key = []) :
    (annotations.value? read key).isSome = true := by
  unfold keyProblems at sound
  unfold value?
  rw [← List.head?_filter]
  split at sound
  · rename_i unlisted
    unfold missingProblems at present
    rw [List.filter_eq_nil_iff] at unlisted
    split at present
    · rename_i listed
      obtain ⟨entry, among, keyed⟩ := List.any_eq_true.mp listed
      exact absurd keyed (unlisted entry among)
    · cases present
  · rename_i first again these
    have readable := (List.append_eq_nil_iff.mp sound).1
    rw [these, List.head?_cons, Option.bind_some]
    by_contra unread
    rw [if_neg unread] at readable
    cases readable

end Annotations

namespace Declaration

variable {declaration : Declaration} {schema : ParamSchema}

theorem ownProblems_of_schema (accepted : declaration.schema = .ok schema) :
    declaration.ownProblems = [] ∧ schema = declaration.toSchema := by
  unfold Declaration.schema at accepted
  split at accepted
  · rename_i faultless
    cases accepted
    refine ⟨?_, rfl⟩
    unfold problems at faultless
    split at faultless
    · assumption
    · rename_i own
      exact absurd faultless own
  · cases accepted

/-- An accepted struct has the declared size, and a field for each that was declared. -/
theorem schema_declared (accepted : declaration.schema = .ok schema) :
    declaration.annotations.value? AnnotationValue.asSize? "size" = some schema.size ∧
      schema.fields = declaration.fields.map (·.toParam) := by
  obtain ⟨faultless, rfl⟩ := ownProblems_of_schema accepted
  simp only [ownProblems, List.append_eq_nil_iff] at faultless
  obtain ⟨⟨⟨⟨-, sound⟩, -⟩, present⟩, -⟩ := faultless
  obtain ⟨size, found⟩ :=
    Option.isSome_iff_exists.mp (Annotations.value?_isSome sound present)
  refine ⟨?_, rfl⟩
  rw [toSchema, found]
  rfl

/-- Against every layout that was built from a property chain without wrapping, an accepted
struct is encoded just when the block has the declared size and each field finds a slot of its
type's size.  Where no two of these slots share a byte, the block holds each field in its slot
and zeros elsewhere; any block of that size can then be read back, which sets the outputs to
what their slots store; and read from the block just encoded, all fields are what they were. -/
theorem params_faithful (declaration : Declaration) (schema : ParamSchema)
    (descriptor : FunctionDescriptor) (properties : List Property) (values : List Scalar)
    (accepted : declaration.schema = .ok schema) (fits : schema.Fits values)
    (built : descriptor.layout = ParamLayout.ofProperties properties)
    (unwrapped : ParamLayout.Unwrapped descriptor.layout.slots) :
    declaration.annotations.value? AnnotationValue.asSize? "size" = some schema.size ∧
    schema.fields = declaration.fields.map (·.toParam) ∧
    ((∃ block, schema.encode values descriptor = .ok block) ↔
      descriptor.blockSize = schema.size ∧ ∀ field ∈ schema.fields, ∃ type,
        ScalarType.ofName? field.typeName = some type ∧ descriptor.Takes field.property type) ∧
    ∀ block, schema.encode values descriptor = .ok block →
      (schema.fields.Pairwise fun left right => descriptor.Apart left.property right.property) →
      block.length = schema.size ∧
      (∀ pair ∈ schema.fields.zip values, descriptor.Holds block pair.1.property pair.2) ∧
      (∀ index < block.length,
        (∀ field ∈ schema.fields, descriptor.covers field.property index = false) →
        block.bytes[index]? = some 0) ∧
      (∀ current left, schema.Fits current → left.length = schema.size →
        ∃ found, schema.decodeOutputs current descriptor left = .ok found ∧
          List.Forall₂ (descriptor.Leaves left) (schema.fields.zip current) found) ∧
      schema.decodeOutputs values descriptor block = .ok values := by
  have laid := FunctionDescriptor.laid_of_properties built unwrapped
  obtain ⟨declared, fields⟩ := schema_declared accepted
  refine ⟨declared, fields, ParamSchema.encode_ok_iff laid fits, fun block encoded apart => ?_⟩
  obtain ⟨size, takes⟩ := (ParamSchema.encode_ok_iff laid fits).mp ⟨block, encoded⟩
  obtain ⟨-, wrote⟩ := ParamSchema.encode_eq_ok.mp encoded
  obtain ⟨length, outside⟩ := ParamSchema.writeFields_outside wrote
  have full : block.length = descriptor.blockSize := length.trans List.length_replicate
  have holds := ParamSchema.holds_of_writeFields wrote <| by
    rw [← fits.map_fst_zip] at apart
    simpa only [List.pairwise_map] using apart
  have read (current : List Scalar) (left : ParameterBlock) (typed : schema.Fits current)
      (same : left.length = schema.size) :
      ∃ found, schema.decodeOutputs current descriptor left = .ok found ∧
        List.Forall₂ (descriptor.Leaves left) (schema.fields.zip current) found :=
    ParamSchema.readFields_ok laid (same.trans size.symm) ((ParamSchema.takes_iff typed).mpr takes)
  refine ⟨full.trans size, holds, fun index inside elsewhere => ?_, read, ?_⟩
  · rw [outside index fun pair paired => elsewhere pair.1 (List.of_mem_zip paired).1]
    exact List.getElem?_replicate_of_lt (full ▸ inside)
  · obtain ⟨found, decoded, each⟩ := read values block fits (full.trans size)
    rw [decoded, ParamSchema.eq_of_leaves each holds, fits.map_snd_zip]

/-- The layout has the output behind the input, and room between them.  A byte that is not zero
is read as true, and the input keeps its value whatever its slot is left with. -/
theorem params_faithful_reordered :
    let declaration : Declaration :=
      { ident := "ProbeParams", kind := .namedFields
        annotations := some [.keyed "function" (.text "Probe"), .keyed "size" (.number 8)]
        fields := [
          { ident := "_return_value", typeName := "bool",
            annotations := some [.keyed "out" .bare] },
          { ident := "hours", typeName := "i32",
            annotations := some [.keyed "name" (.text "InHours")] }] }
    let properties : List Property :=
      [{ name := "InHours", offset := 0, size := 4, flags := 0x80 },
        { name := "ReturnValue", offset := 5, size := 1, flags := 0x400 }]
    let descriptor : FunctionDescriptor :=
      { owningClass := .null, function := .null, className := "Game.Probe", name := "Probe",
        layout := ParamLayout.ofProperties properties }
    let schema := declaration.toSchema
    let values : List Scalar := [.bool false, .i32 (-2)]
    let left : ParameterBlock := { bytes := [9, 9, 9, 9, 9, 9, 9, 9] }
    (∃ block, schema.encode values descriptor = .ok block ∧ block.length = 8 ∧
      descriptor.Holds block "InHours" (.i32 (-2)) ∧ block.bytes[4]? = some 0 ∧
      schema.decodeOutputs values descriptor block = .ok values) ∧
    ∃ flag, flag.StoredAs [9] ∧
      schema.decodeOutputs values descriptor left = .ok [flag, .i32 (-2)] := by
  intro declaration properties descriptor schema values left
  have accepted : declaration.schema = .ok schema := by
    have faultless : declaration.problems = [] := by decide +kernel
    rw [Declaration.schema, faultless]
  have fits : schema.Fits values := by decide +kernel
  have output : descriptor.layout.slot? "ReturnValue" =
      some { name := "ReturnValue", offset := 5, size := 1, flags := 0x400 } := by decide +kernel
  have input : descriptor.layout.slot? "InHours" =
      some { name := "InHours", offset := 0, size := 4, flags := 0x80 } := by decide +kernel
  have fields : schema.fields =
      [{ ident := "_return_value", typeName := "bool", property := "ReturnValue", out := true },
        { ident := "hours", typeName := "i32", property := "InHours", out := false }] := by
    decide +kernel
  obtain ⟨-, -, encodes, whole⟩ := params_faithful declaration schema descriptor properties values
    accepted fits rfl ⟨by decide +kernel, by decide +kernel⟩
  rw [fields] at encodes whole
  obtain ⟨block, encoded⟩ := encodes.mpr ⟨by decide +kernel, by
    simp only [List.forall_mem_cons]
    exact ⟨⟨.bool, rfl, _, output, rfl⟩, ⟨.i32, rfl, _, input, rfl⟩, nofun⟩⟩
  obtain ⟨length, holds, zeros, read, back⟩ := whole block encoded (by decide +kernel)
  obtain ⟨found, decoded, each⟩ := read values left fits rfl
  refine ⟨⟨block, encoded, length, holds _ (.tail _ (.head _)), ?_, back⟩, ?_⟩
  · exact zeros 4 (length ▸ by decide) (by decide +kernel)
  · rcases each with _ | ⟨⟨slot, there, -, stored⟩, _ | ⟨kept, _ | _⟩⟩
    cases output.symm.trans there
    cases kept
    exact ⟨_, stored, decoded⟩

end Declaration

end ReplicaBridge.Params
