/-
Module: ReplicaBridge.Proofs.FullNames
Purpose: Full names that a function table writes to a buffer.  A table writes as much of a name
  as there is room for and reports how long the name is; what is read from it is the whole name
  at any length, whether the first buffer was enough or a second one was made to fit.  So a
  lookup by name goes by whole names.
Main exports: Host.NameReply.buffer_of_fits, Host.WritesNames, Host.WritesNames.readName_eq,
  Host.Bears, Host.WritesNames.lookup_by_whole_name
-/
import ReplicaBridge.Host.TableStore
import ReplicaBridge.Proofs.BlockBytes
import ReplicaBridge.Proofs.LossyText
import ReplicaBridge.Proofs.StoreGrowth

namespace ReplicaBridge.Host

open ReflectionHost (fullName)

/-- A reply that fits is at the front of its buffer. -/
theorem NameReply.buffer_of_fits {written : Bytes} {length capacity : Nat}
    (fits : written.length ≤ capacity) :
    NameReply.buffer { written, length } capacity written.length = written := by
  have within : 0 + written.length ≤ (Bytes.zeros capacity).length := by
    rw [Bytes.zeros, List.length_replicate, Nat.zero_add]
    exact fits
  exact Bytes.slice_overwrite within

variable {T : Type} [FunctionTable T] {table : T} {name : Object → Bytes}

/-- The name entry of a table writes as much of an object's name as fits into the buffer, and
reports the length of the whole name. -/
def WritesNames (table : T) (name : Object → Bytes) : Prop :=
  ∀ object, object.isNull = false → ∀ capacity, FunctionTable.fullName table object capacity =
    { written := (name object).take capacity, length := (name object).length }

/-- A slot of the table holds an entry that is not about to be destroyed and whose name is
decoded to the given one. -/
structure Bears (table : T) (name : Object → Bytes) (wanted : String) (slot : Nat) : Prop where
  solid : (FunctionTable.objectAt table slot).isNull = false
  live : FunctionTable.objectFlags table (FunctionTable.objectAt table slot) &&&
    Loaded.pendingKillFlag = 0
  named : Text.ofUtf8Lossy (name (FunctionTable.objectAt table slot)) = wanted

instance (wanted : String) (slot : Nat) : Decidable (Bears table name wanted slot) :=
  decidable_of_iff (_ ∧ _ ∧ _)
    ⟨fun ⟨solid, live, named⟩ => ⟨solid, live, named⟩,
      fun bears => ⟨bears.solid, bears.live, bears.named⟩⟩

namespace Loaded

theorem objectAt_eq_some_iff {slot : Nat} {object : Object} :
    objectAt table slot = some object ↔ FunctionTable.objectAt table slot = object ∧
      object.isNull = false ∧ FunctionTable.objectFlags table object &&& pendingKillFlag = 0 := by
  unfold objectAt Object.nonNull?
  cases solid : (FunctionTable.objectAt table slot).isNull with
  | true =>
      refine ⟨nofun, ?_⟩
      rintro ⟨rfl, absent, -⟩
      cases solid.symm.trans absent
  | false =>
      simp only [Bool.false_eq_true, if_false]
      by_cases live : FunctionTable.objectFlags table (FunctionTable.objectAt table slot) &&&
          pendingKillFlag = 0
      · simp only [live, bne_self_eq_false, Bool.false_eq_true, if_false]
        constructor
        · rintro ⟨⟩
          exact ⟨rfl, solid, live⟩
        · rintro ⟨rfl, -, -⟩
          rfl
      · simp only [bne_iff_ne.mpr live, if_true]
        refine ⟨nofun, ?_⟩
        rintro ⟨rfl, -, still⟩
        exact absurd still live

end Loaded

namespace WritesNames

variable (writes : WritesNames table name)

include writes

/-- Both ways of reading a name give the whole of it. -/
theorem readName_eq {object : Object} (solid : object.isNull = false) :
    readName table object =
      if name object = [] then none else some (Text.ofUtf8Lossy (name object)) := by
  unfold readName
  simp only [solid, Bool.false_eq_true, if_false, writes object solid, List.length_eq_zero_iff,
    Nat.min_self]
  split
  · rfl
  · split
    · rename_i short
      rw [List.take_of_length_le short, NameReply.buffer_of_fits short]
    · rw [List.take_length, NameReply.buffer_of_fits (Nat.le_refl _)]

/-- A name is wanted that is not empty, so it is no matter that an empty one is not read. -/
theorem fullName_eq_some_iff {object : Object} (solid : object.isNull = false)
    {wanted : String} (nonempty : wanted ≠ "") :
    fullName (H := Loaded T) { table } object = some wanted ↔
      Text.ofUtf8Lossy (name object) = wanted := by
  have read : fullName (H := Loaded T) { table } object = _ := writes.readName_eq solid
  rw [read]
  split
  · rename_i empty
    rw [empty]
    exact ⟨nofun, fun same => absurd same.symm nonempty⟩
  · exact Option.some_inj

theorem bears_iff {wanted : String} (nonempty : wanted ≠ "") {slot : Nat} :
    Bears table name wanted slot ↔ ∃ object, Loaded.objectAt table slot = some object ∧
      fullName (H := Loaded T) { table } object = some wanted := by
  constructor
  · intro bears
    exact ⟨_, Loaded.objectAt_eq_some_iff.mpr ⟨rfl, bears.solid, bears.live⟩,
      (writes.fullName_eq_some_iff bears.solid nonempty).mpr bears.named⟩
  · rintro ⟨object, lies, named⟩
    obtain ⟨rfl, solid, live⟩ := Loaded.objectAt_eq_some_iff.mp lies
    exact ⟨solid, live, (writes.fullName_eq_some_iff solid nonempty).mp named⟩

/-- The walk over a populated store ends at the lowest slot that bears the name. -/
theorem findByName?_eq_some_iff (ready : FunctionTable.isReady table = true) {wanted : String}
    (nonempty : wanted ≠ "") {object : Object} :
    findByName? (H := Loaded T) { table } wanted = some object ↔
      ∃ slot < FunctionTable.objectCount table, FunctionTable.objectAt table slot = object ∧
        Bears table name wanted slot ∧ ∀ earlier < slot, ¬Bears table name wanted earlier := by
  rw [Host.findByName?_eq_some_iff, FirstNamed]
  constructor
  · rintro ⟨-, slot, below, lies, named, first⟩
    refine ⟨slot, below, (Loaded.objectAt_eq_some_iff.mp lies).1,
      (writes.bears_iff nonempty).mpr ⟨object, lies, named⟩, fun earlier less bears => ?_⟩
    obtain ⟨other, lies', named'⟩ := (writes.bears_iff nonempty).mp bears
    exact first earlier less other lies' named'
  · rintro ⟨slot, below, rfl, bears, first⟩
    refine ⟨ready, slot, below,
      Loaded.objectAt_eq_some_iff.mpr ⟨rfl, bears.solid, bears.live⟩,
      (writes.fullName_eq_some_iff bears.solid nonempty).mpr bears.named, ?_⟩
    intro earlier less other lies named
    exact first earlier less ((writes.bears_iff nonempty).mpr ⟨other, lies, named⟩)

/-- The walk comes back with nothing only if no slot bears the name: the lowest of them would
have been found. -/
theorem findByName?_eq_none_iff (ready : FunctionTable.isReady table = true) {wanted : String}
    (nonempty : wanted ≠ "") :
    findByName? (H := Loaded T) { table } wanted = none ↔
      ∀ slot < FunctionTable.objectCount table, ¬Bears table name wanted slot := by
  constructor
  · intro missed slot
    induction slot using Nat.strongRecOn with
    | ind slot earlier =>
        intro below bears
        have found := (writes.findByName?_eq_some_iff ready nonempty).mpr
          ⟨slot, below, rfl, bears, fun other less => earlier other less (less.trans below)⟩
        cases missed.symm.trans found
  · intro borne
    cases found : findByName? (H := Loaded T) { table } wanted with
    | none => rfl
    | some object =>
        obtain ⟨slot, below, -, bears, -⟩ :=
          (writes.findByName?_eq_some_iff ready nonempty).mp found
        exact absurd bears (borne slot below)

/-- From a table that writes names as far as they fit, an object's name is read to its end: nothing
is read exactly for an empty name, and any other name is decoded as a whole, however long it is;
the bytes of a text are decoded to that text.  So once the store is populated, the lookup of a
name that is not empty finds the object in the lowest slot that bears it, and nothing if there is
no such slot. -/
theorem lookup_by_whole_name :
    let host : Loaded T := { table }
    (∀ object, object.isNull = false →
      (fullName host object = none ↔ name object = []) ∧
      (name object ≠ [] → fullName host object = some (Text.ofUtf8Lossy (name object))) ∧
      (∀ text ≠ "", name object = Text.utf8 text → fullName host object = some text)) ∧
    (FunctionTable.isReady table = true → ∀ wanted ≠ "",
      (∀ object, findByName? host wanted = some object ↔
        ∃ slot < FunctionTable.objectCount table, FunctionTable.objectAt table slot = object ∧
          Bears table name wanted slot ∧ ∀ earlier < slot, ¬Bears table name wanted earlier) ∧
      (findByName? host wanted = none ↔
        ∀ slot < FunctionTable.objectCount table, ¬Bears table name wanted slot)) := by
  intro host
  refine ⟨fun object solid => ⟨?_, fun filled => ?_, fun text nonempty spelled => ?_⟩,
    fun ready wanted nonempty =>
      ⟨fun _ => writes.findByName?_eq_some_iff ready nonempty,
        writes.findByName?_eq_none_iff ready nonempty⟩⟩
  · have read : fullName host object = _ := writes.readName_eq solid
    rw [read]
    simp
  · exact (writes.readName_eq solid).trans (if_neg filled)
  · refine (writes.fullName_eq_some_iff solid nonempty).mpr ?_
    rw [spelled, Text.ofUtf8Lossy_utf8]

end WritesNames

/-! ### A store of entries -/

namespace TableStore

/-- The name of an entry, empty if there is none. -/
def nameOf (store : TableStore) (object : Object) : Bytes :=
  (store.entry? object).elim [] (·.name)

/-- A store whose entries have one name each writes that name for every buffer. -/
theorem writesNames {store : TableStore}
    (steady : ∀ entry ∈ store.slots.reduceOption, entry.retryName = none) :
    WritesNames store store.nameOf := by
  intro object _ capacity
  change store.fullName object capacity = _
  unfold fullName nameOf
  cases found : store.entry? object with
  | none => simp
  | some entry =>
      have one : entry.retryName = none := by
        unfold entry? at found
        split at found
        · cases found
        · rename_i index _
          have slot := Option.join_eq_some_iff.mp found
          exact steady entry (List.reduceOption_mem_iff.mpr (List.mem_of_getElem? slot))
      have same : entry.nameFor capacity = entry.name := by
        unfold TableEntry.nameFor
        rw [one, Option.getD_none, ite_self]
      simp only [same, Option.elim_some]

end TableStore

/-- A name of 256 bytes fills the first buffer, and one of 257 is a byte too long for it.  The slots
before the one that is found are free, about to be destroyed, or of an entry whose name is the
front of the wanted one. -/
theorem WritesNames.lookup_past_the_first_buffer :
    let text (count : Nat) := String.ofList (List.replicate count 'n')
    let entry (count : Nat) (flags : UInt32) : TableEntry :=
      { TableEntry.named (Text.utf8 (text count)) 0 with flags }
    let store : TableStore :=
      { slots := [none, some (entry 257 2), some (entry 256 0), some (entry 257 0),
          some (entry 257 0)] }
    let host : Loaded TableStore := { table := store }
    WritesNames store store.nameOf ∧
      fullName host (TableStore.addressOf 2) = some (text 256) ∧
      fullName host (TableStore.addressOf 3) = some (text 257) ∧
      findByName? host (text 257) = some (TableStore.addressOf 3) ∧
      findByName? host (text 258) = none := by
  intro text entry store host
  have writes : WritesNames store store.nameOf := TableStore.writesNames (by decide +kernel)
  obtain ⟨names, lookup⟩ := writes.lookup_by_whole_name
  have first : ∀ earlier < 3, ¬Bears store store.nameOf (text 257) earlier := by decide +kernel
  have unborne : ∀ slot < 5, ¬Bears store store.nameOf (text 258) slot := by decide +kernel
  refine ⟨writes, (names (TableStore.addressOf 2) rfl).2.2 _ ?_ ?_,
    (names (TableStore.addressOf 3) rfl).2.2 _ ?_ ?_,
    ((lookup rfl (text 257) ?_).1 _).mpr ⟨3, by decide, rfl, ?_, first⟩,
    (lookup rfl (text 258) ?_).2.mpr unborne⟩
  all_goals decide +kernel

end ReplicaBridge.Host
