/-
Module: ReplicaBridge.Proofs.Deliveries
Purpose: What the host is told of a change of the environment, and when.  With a host that
  keeps its contract a change is delivered in full, or the objects it needs are missing and
  nothing is called, or the host turns out to be unsupported.  Where the calls of a delivery
  fail, the first ones came back and the gate is closed, whatever the host was found to be.
Main exports: Change, Delivery, Bridge.delivery?, Bridge.Reliable, Bridge.Ends, Bridge.Told,
  Bridge.setCurrentSeason_told, Bridge.advanceHours_told, Bridge.Trusted, Bridge.Answered,
  Bridge.setCurrentSeason_answered, Bridge.advanceHours_answered
-/
import ReplicaBridge.Proofs.HostContract
import ReplicaBridge.Proofs.UnsupportedHost

namespace ReplicaBridge

open Host (HostCall Object Recorded ReflectionHost TypeTag)
open Params (FunctionDescriptor ParamLayout ParamSchema ParameterBlock Scalar)

/-! ### Changes and deliveries -/

/-- A change of the environment that the host is told of. -/
inductive Change where
  | season (target : Season)
  | hours (delta : Int32)
deriving DecidableEq

namespace Change

/-- The parameter that tells the change. -/
def value : Change → Scalar
  | .season target => .u8 target.toByte
  | .hours delta => .i32 delta

/-- The struct that the parameter goes into. -/
def schema : Change → ParamSchema
  | .season _ => setCurrentSeasonSchema
  | .hours _ => advanceHoursSchema

def season? : Change → Option Season
  | .season target => some target
  | .hours _ => none

def hours? : Change → Option Int32
  | .season _ => none
  | .hours delta => some delta

theorem carries (change : Change) : change.schema.Carries change.value := by
  cases change with
  | season target => exact ⟨⟨_, rfl, rfl⟩, rfl⟩
  | hours delta => exact ⟨⟨_, rfl, rfl⟩, rfl⟩

end Change

/-- A change that the host was told of: what the host was like at that moment, the class
whose instances were called, and the function. -/
structure Delivery (H : Type) where
  change : Change
  store : H
  owner : Object
  function : Object

namespace Delivery

variable {H : Type} [ReflectionHost H]

/-- A season is told to the first live instance, hours to every one, in store order. -/
def targets (delivery : Delivery H) : List Object :=
  match delivery.change with
  | .season _ => (Host.instances delivery.store delivery.owner).take 1
  | .hours _ => Host.instances delivery.store delivery.owner

/-- One call for each target. -/
def calls (delivery : Delivery H) : List HostCall :=
  delivery.targets.map fun target =>
    { target, function := delivery.function, frame := delivery.change.value.toBytes }

end Delivery

namespace Bridge

variable {H : Type} [ReflectionHost H]

/-- What a full name stands for: the handle kept for it, or what a walk finds. -/
def named? (bridge : Bridge H) (name : String) : Option Object :=
  (bridge.registry.object? name).or (Host.findByName? bridge.host.store name)

/-- The function that a method of a class stands for. -/
def method? (bridge : Bridge H) (className method : String) : Option Object :=
  ((bridge.registry.function? className method).map (·.function)).or
    ((bridge.named? className).bind (ReflectionHost.findFunction bridge.host.store · method))

/-- How a change is delivered, if all that it takes is there: the class, an instance of it
and the function. -/
def delivery? (bridge : Bridge H) (className : String) (change : Change) :
    Option (Delivery H) :=
  match bridge.named? className, bridge.method? className change.schema.function with
  | some owner, some function =>
    if (Host.instances bridge.host.store owner).isEmpty then none
    else some { change, store := bridge.host.store, owner, function }
  | _, _ => none

end Bridge

/-! ### Looking names up -/

namespace Registry

theorem object?_keepObject (registry : Registry) (name other : String) (object : Object) :
    (registry.keepObject name object).object? other =
      if other = name then some object else registry.object? other := by
  simp only [object?, keepObject, List.lookup]
  by_cases same : other = name
  · simp [same]
  · simp [same, beq_eq_false_iff_ne.2 same]

theorem function?_keepFunction (registry : Registry) (className method otherClass other : String)
    (descriptor : FunctionDescriptor) :
    (registry.keepFunction className method descriptor).function? otherClass other =
      if (otherClass, other) = (className, method) then some descriptor
      else registry.function? otherClass other := by
  simp only [function?, keepFunction, List.lookup]
  by_cases same : (otherClass, other) = (className, method)
  · simp [same]
  · simp [same, beq_eq_false_iff_ne.2 same]

theorem mem_of_function? {registry : Registry} {className method : String}
    {descriptor : FunctionDescriptor}
    (kept : registry.function? className method = some descriptor) :
    ((className, method), descriptor) ∈ registry.functions := by
  unfold function? at kept
  obtain ⟨_, _, split, _⟩ := List.lookup_eq_some_iff.1 kept
  rw [split]
  simp

end Registry

namespace Bridge

variable {H : Type} [ReflectionHost H]

/-- The host keeps its contract, and every function resolved so far can be called. -/
structure Reliable (sound : H → Prop) (bridge : Bridge (Recorded H)) : Prop where
  store : sound bridge.host.store.store
  functions : ∀ key descriptor, (key, descriptor) ∈ bridge.registry.functions → descriptor.Sound

/-- The host keeps its contract, every function resolved so far can be called, and the gate
is open. -/
structure Trusted (sound : H → Prop) (bridge : Bridge (Recorded H)) : Prop where
  store : sound bridge.host.store.store
  functions : ∀ key descriptor, (key, descriptor) ∈ bridge.registry.functions → descriptor.Sound
  gate : bridge.gate.disabled = false

omit [ReflectionHost H] in
theorem Trusted.reliable {sound : H → Prop} {bridge : Bridge (Recorded H)}
    (trusted : bridge.Trusted sound) : bridge.Reliable sound :=
  ⟨trusted.store, trusted.functions⟩

/-- Names were looked up: the host and the gate are as they were, and every name stands for
what it did. -/
structure Consults (sound : H → Prop) (before after : Bridge (Recorded H)) : Prop where
  reliable : after.Reliable sound
  gate : after.gate = before.gate
  store : after.host.store = before.host.store
  named : ∀ name, after.named? name = before.named? name
  method : ∀ className method, after.method? className method = before.method? className method

/-- Names were looked up, with an answer that is right; or the host turned out to be
unsupported, or what was asked for is missing. -/
structure Finds {α : Type} (sound : H → Prop) (before : Bridge (Recorded H))
    (found : α → Prop) (missing : Prop) (result : Bridge (Recorded H) × Except RegistryError α) :
    Prop where
  consults : Consults sound before result.1
  answer : match result.2 with
    | .ok answer => found answer
    | .error error => result.1.unsupported = true ∨ missing ∧ error.kind = .notFoundYet

section Lookups

variable {sound : H → Prop} {bridge : Bridge (Recorded H)}

theorem Consults.trans {middle after : Bridge (Recorded H)} (first : Consults sound bridge middle)
    (second : Consults sound middle after) : Consults sound bridge after where
  reliable := second.reliable
  gate := second.gate.trans first.gate
  store := second.store.trans first.store
  named name := (second.named name).trans (first.named name)
  method className method := (second.method className method).trans (first.method className method)

theorem Consults.of_alike {after other : Bridge (Recorded H)}
    (consults : Consults sound bridge after) (alike : after.Alike other) :
    Consults sound bridge other := by
  obtain ⟨host, report, registry, gate⟩ := after
  obtain ⟨_, _, _, _⟩ := other
  obtain ⟨rfl, rfl, rfl⟩ := alike
  obtain ⟨⟨fine, functions⟩, passable, store, entry, methods⟩ := consults
  exact ⟨⟨fine, functions⟩, passable, store, entry, methods⟩

theorem Consults.calls {after : Bridge (Recorded H)} (consults : Consults sound bridge after) :
    after.calls = bridge.calls :=
  congrArg Recorded.calls consults.store

/-- An entry of another kind makes the host unsupported. -/
theorem checkTag_cases (bridge : Bridge (Recorded H)) (name : String) (object : Object)
    (expected : TypeTag) :
    (∃ raised error, bridge.checkTag name object expected = (raised, .error error) ∧
        raised.unsupported = true ∧ bridge.Alike raised) ∨
      bridge.checkTag name object expected = (bridge, .ok ()) := by
  unfold checkTag
  dsimp only
  split
  · exact Or.inr rfl
  · exact Or.inl ⟨_, _, rfl, rfl, ⟨rfl, rfl, rfl⟩⟩

variable (reliable : bridge.Reliable sound)

include reliable

theorem Consults.refl : Consults sound bridge bridge :=
  ⟨reliable, rfl, rfl, fun _ => rfl, fun _ _ => rfl⟩

theorem finds_lookup (name : String) :
    Finds sound bridge (bridge.named? name = some ·) (bridge.named? name = none)
      (bridge.lookup name) := by
  unfold lookup
  cases kept : bridge.registry.object? name with
  | some object =>
      refine ⟨.refl reliable, ?_⟩
      simp [named?, kept]
  | none =>
      dsimp only [Host.CountedHost.find]
      cases found : Host.findByName? bridge.host.store name with
      | none =>
          refine ⟨⟨⟨reliable.store, reliable.functions⟩, rfl, rfl, fun _ => rfl,
            fun _ _ => rfl⟩, Or.inr ⟨?_, rfl⟩⟩
          simp [named?, kept, found]
      | some object =>
          have stands : bridge.named? name = some object := by
            simp [named?, kept, found]
          let after := { bridge with
            host := { bridge.host with
              nameQueries := bridge.host.nameQueries + Host.findCost bridge.host.store name }
            registry := bridge.registry.countScan.keepObject name object }
          have entry (other : String) : after.named? other = bridge.named? other := by
            by_cases same : other = name
            · rw [same, stands]
              simp [after, named?, Registry.object?_keepObject]
            · have kept := Registry.object?_keepObject bridge.registry.countScan name other object
              rw [if_neg same] at kept
              exact congrArg (·.or (Host.findByName? bridge.host.store other)) kept
          refine ⟨⟨⟨reliable.store, reliable.functions⟩, rfl, rfl, entry, ?_⟩, stands⟩
          intro className method
          exact congrArg (fun owner => Option.or _ (Option.bind owner _)) (entry className)

theorem finds_lookupClass (name : String) :
    Finds sound bridge (bridge.named? name = some ·) (bridge.named? name = none)
      (bridge.lookupClass name) := by
  obtain ⟨consults, answer⟩ := finds_lookup reliable name
  simp only [lookupClass, lookupAs]
  rcases resolved : bridge.lookup name with ⟨found, outcome⟩
  rw [resolved] at consults answer
  cases outcome with
  | error error => exact ⟨consults, answer⟩
  | ok object =>
      dsimp only
      rcases checkTag_cases found name object .classType with
        ⟨raised, error, refused, unsupported, alike⟩ | fine
      · rw [refused]
        exact ⟨consults.of_alike alike, Or.inl unsupported⟩
      · rw [fine]
        exact ⟨consults, answer⟩

/-- The instances of a class are right if there are any. -/
theorem finds_instancesOf (className : String) :
    Finds sound bridge
      (fun found => found ≠ [] ∧ ∃ owner, bridge.named? className = some owner ∧
        Host.instances bridge.host.store owner = found)
      (∀ owner, bridge.named? className = some owner →
        Host.instances bridge.host.store owner = [])
      (bridge.instancesOf className) := by
  obtain ⟨consults, answer⟩ := finds_lookupClass reliable className
  simp only [instancesOf]
  rcases resolved : bridge.lookupClass className with ⟨found, outcome⟩
  rw [resolved] at consults answer
  cases outcome with
  | error error =>
      refine ⟨consults, answer.imp_right (And.imp_left ?_)⟩
      intro missing owner stands
      rw [missing] at stands
      cases stands
  | ok owner =>
      have store : found.host.store = bridge.host.store := consults.store
      dsimp only
      rw [store]
      cases listed : Host.instances bridge.host.store owner with
      | nil =>
          refine ⟨consults, Or.inr ⟨?_, rfl⟩⟩
          intro other stands
          have same : owner = other := Option.some.inj (answer.symm.trans stands)
          rw [← same]
          exact listed
      | cons first rest =>
          exact ⟨consults, List.cons_ne_nil first rest, owner, answer, listed⟩

/-- A function that was found is kept; it is the one that the method stood for. -/
theorem consults_keepFunction (className method : String) {descriptor : FunctionDescriptor}
    (callable : descriptor.Sound)
    (stands : bridge.method? className method = some descriptor.function) :
    Consults sound bridge
      { bridge with registry := bridge.registry.keepFunction className method descriptor } where
  reliable := by
    refine ⟨reliable.store, ?_⟩
    intro key other among
    rcases List.mem_cons.1 among with same | earlier
    · cases same
      exact callable
    · exact reliable.functions key other earlier
  gate := rfl
  store := rfl
  named _ := rfl
  method otherClass other := by
    have kept := Registry.function?_keepFunction bridge.registry className method otherClass other
      descriptor
    by_cases same : (otherClass, other) = (className, method)
    · cases same
      rw [stands]
      rw [if_pos rfl] at kept
      simp [method?, kept]
    · rw [if_neg same] at kept
      exact congrArg (fun found => (Option.map FunctionDescriptor.function found).or _) kept

/-- A method is found with the function that it stood for, which can be called. -/
theorem finds_lookupFunction (contract : Host.Contract sound) (className method : String) :
    Finds sound bridge
      (fun found => found.Sound ∧ bridge.method? className method = some found.function)
      (bridge.method? className method = none) (bridge.lookupFunction className method) := by
  cases kept : bridge.registry.function? className method with
  | some descriptor =>
      simp only [lookupFunction, kept]
      refine ⟨.refl reliable, reliable.functions _ _ (Registry.mem_of_function? kept), ?_⟩
      simp [method?, kept]
  | none =>
      obtain ⟨consults, answer⟩ := finds_lookupClass reliable className
      have means : bridge.method? className method = (bridge.named? className).bind
          (ReflectionHost.findFunction bridge.host.store · method) := by
        simp [method?, kept]
      have store : (bridge.lookupClass className).1.host.store = bridge.host.store :=
        consults.store
      simp only [lookupFunction, kept]
      rcases resolved : bridge.lookupClass className with ⟨found, outcome⟩
      rw [resolved] at consults answer store
      cases outcome with
      | error error =>
          refine ⟨consults, answer.imp_right (And.imp_left fun missing => ?_)⟩
          rw [means, missing]
          rfl
      | ok owner =>
          rw [answer, Option.bind_some, ← store] at means
          dsimp only at store ⊢
          cases sought : ReflectionHost.findFunction found.host.store owner method with
          | none => exact ⟨consults, Or.inr ⟨means.trans sought, rfl⟩⟩
          | some function =>
              have stands := means.trans sought
              dsimp only
              rcases checkTag_cases found (className ++ "::" ++ method) function .function with
                ⟨raised, error, refused, unsupported, alike⟩ | fine
              · rw [refused]
                exact ⟨consults.of_alike alike, Or.inl unsupported⟩
              · rw [fine]
                let descriptor : FunctionDescriptor :=
                  { owningClass := owner, function, className, name := method
                    layout := ParamLayout.ofProperties
                      (Host.readableProperties found.host.store function) }
                have callable : descriptor.Sound :=
                  contract.sound_descriptor consults.reliable.store sought rfl
                have keeps := consults_keepFunction consults.reliable className method callable
                  ((consults.method className method).trans stands)
                refine ⟨(consults.trans keeps).of_alike ⟨?_, ?_, ?_⟩, callable, stands⟩
                · simp [Bridge.note]
                · simp [Bridge.note, descriptor]
                · simp [Bridge.note]

end Lookups

end Bridge

/-! ### Calls -/

/-- The calls that come back, if calls are dispatched one after another. -/
def Host.completed {H : Type} [ReflectionHost H] (store : H) : List HostCall → List HostCall
  | [] => []
  | call :: rest =>
    match ReflectionHost.dispatch store call.target call.function call.frame with
    | (after, some _) => call :: completed after rest
    | (after, none) => completed after rest

namespace Bridge

variable {H : Type} [ReflectionHost H] {sound : H → Prop} {α : Type}

/-- How calls that are asked for one after another end: all of them come back, through the
gate as it was; or some come back and the next one does not, whether or not it was made, and
then the gate is closed.  It was closed before, or the host turned out to be unsupported. -/
inductive Ends (sound : H → Prop) (before : Bridge (Recorded H)) (calls : List HostCall) :
    Bridge (Recorded H) × Except (Halt CallError) α → Prop
  | returned {after : Bridge (Recorded H)} {answer : α} (reliable : after.Reliable sound)
      (gate : after.gate.disabled = before.gate.disabled)
      (made : after.calls = before.calls ++ calls)
      (back : ∀ later, Host.completed before.host.store (calls ++ later) =
        calls ++ Host.completed after.host.store later) :
      Ends sound before calls (after, .ok answer)
  | failed {after : Bridge (Recorded H)} {error : InvokeError} (count reached : Nat)
      (reliable : after.Reliable sound) (closed : after.gate.disabled = true)
      (raised : before.gate.disabled = false → after.unsupported = true)
      (made : after.calls = before.calls ++ calls.take count) (fewer : reached < calls.length)
      (back : Host.completed before.host.store (calls.take count) = calls.take reached) :
      Ends sound before calls (after, .error (.refused (.invoke error)))

namespace Ends

variable {before middle : Bridge (Recorded H)} {call : HostCall} {calls : List HostCall}

/-- What the answer is does not matter. -/
theorem map {β : Type} (change : α → β) {outcome : Except (Halt CallError) α}
    (ends : Ends sound before calls (middle, outcome)) :
    Ends sound before calls (middle, outcome.map change) := by
  cases ends with
  | returned reliable gate made back => exact .returned reliable gate made back
  | failed count reached reliable closed raised made fewer back =>
      exact .failed count reached reliable closed raised made fewer back

/-- After a call that came back the others go on. -/
theorem cons {β : Type} {answer : β} {result : Bridge (Recorded H) × Except (Halt CallError) α}
    (first : Ends sound before [call] (middle, .ok answer))
    (rest : Ends sound middle calls result) : Ends sound before (call :: calls) result := by
  cases first with
  | returned _ gate made back =>
      cases rest with
      | returned reliable gate' made' back' =>
          refine .returned reliable (gate'.trans gate) ?_ fun later => ?_
          · rw [made', made, List.append_assoc]
            rfl
          · have goes := back (calls ++ later)
            rw [back'] at goes
            exact goes
      | failed count reached reliable closed raised made' fewer back' =>
          refine .failed (count + 1) (reached + 1) reliable closed ?_ ?_
            (Nat.succ_lt_succ fewer) ?_
          · intro passable
            exact raised (gate.trans passable)
          · rw [made', made, List.append_assoc]
            rfl
          · have goes := back (calls.take count)
            rw [back'] at goes
            exact goes

/-- After a call that did not come back there is nothing but reports. -/
theorem stop {β : Type} {after : Bridge (Recorded H)} {halt : Halt CallError}
    (first : Ends (α := β) sound before [call] (middle, .error halt))
    (alike : middle.Alike after) (raised : middle.unsupported = true → after.unsupported = true) :
    Ends (α := α) sound before (call :: calls) (after, .error halt) := by
  obtain ⟨host, report, registry, gate⟩ := middle
  obtain ⟨_, _, _, _⟩ := after
  obtain ⟨rfl, rfl, rfl⟩ := alike
  cases first with
  | failed count reached reliable closed raised' made fewer back =>
      have unreached : reached = 0 := by simpa using fewer
      subst unreached
      have taken : (call :: calls).take (min count 1) = [call].take count := by
        cases count <;> simp
      refine .failed (min count 1) 0 ⟨reliable.store, reliable.functions⟩ closed
        (fun passable => raised (raised' passable)) ?_ (Nat.succ_pos _) ?_
      · rw [taken]
        exact made
      · rw [taken]
        exact back

end Ends

section Layout

omit [ReflectionHost H]

theorem host_failLayout (bridge : Bridge (Recorded H)) (error : InvokeError) :
    (bridge.failLayout error).host = bridge.host := by
  unfold failLayout
  split <;> rfl

theorem registry_failLayout (bridge : Bridge (Recorded H)) (error : InvokeError) :
    (bridge.failLayout error).registry = bridge.registry := by
  unfold failLayout
  split <;> rfl

theorem Reliable.failLayout {bridge : Bridge (Recorded H)} (reliable : bridge.Reliable sound)
    (error : InvokeError) : (bridge.failLayout error).Reliable sound := by
  constructor
  · rw [host_failLayout]
    exact reliable.store
  · rw [registry_failLayout]
    exact reliable.functions

end Layout

section Calls

variable (contract : Host.Contract sound) {bridge : Bridge (Recorded H)}
  (reliable : bridge.Reliable sound)

include contract reliable

/-- A call whose block has the size of the function comes back with its outputs taken over,
or the host faults. -/
theorem dispatch_cases (target : Object)
    {function : FunctionDescriptor} (callable : function.Sound) {block : ParameterBlock}
    (size : function.blockSize = block.length) (filled : block.length ≠ 0) :
    let done := bridge.dispatch target function block
    Ends sound bridge [{ target, function := function.function, frame := block.bytes }]
        (done.bridge, done.outcome.mapError (Halt.map .invoke)) ∧
      ∀ outcome, done.outcome = .ok outcome → outcome = .dispatched := by
  have kept := contract.dispatch bridge.host.store.store target function.function block.bytes
    reliable.store
  have recorded : (ReflectionHost.dispatch bridge.host.store target function.function
      block.bytes).1.calls =
        bridge.calls ++ [{ target, function := function.function, frame := block.bytes }] := rfl
  have same : (ReflectionHost.dispatch bridge.host.store target function.function
      block.bytes).1.store = (ReflectionHost.dispatch bridge.host.store.store target
        function.function block.bytes).1 := rfl
  rw [← same] at kept
  have within : ∀ slot ∈ function.layout.outputs, slot.offset.toNat ≤ slot.stop.toNat ∧
      slot.stop.toNat ≤ block.bytes.length := by
    intro slot among
    obtain ⟨forward, inside⟩ := callable.outputs slot among
    rw [size] at inside
    exact ⟨forward, inside.resolve_left filled⟩
  rcases bridge.dispatch_within target within with
    ⟨store, dispatched, ended⟩ | ⟨store, left, bytes, dispatched, -, -, ended⟩
  · rw [dispatched] at recorded kept
    rw [ended]
    have faulted : ({ bridge with host := { bridge.host with store } }).Reliable sound :=
      ⟨kept, reliable.functions⟩
    refine ⟨.failed 1 0 (faulted.failLayout _) rfl (fun _ => rfl) ?_ Nat.one_pos ?_, nofun⟩
    · unfold calls
      rw [host_failLayout]
      exact recorded
    · simp [Host.completed, dispatched]
  · rw [dispatched] at recorded kept
    rw [ended]
    refine ⟨.returned ⟨kept, reliable.functions⟩ rfl recorded fun later => ?_, ?_⟩
    · simp [Host.completed, dispatched, countCall]
    · rintro _ ⟨⟩
      rfl

/-- A function that can be called on a target that is there is called, unless the gate is closed
or closes. -/
theorem callWith_ends {target : Object} (live : target.isNull = false)
    {function : FunctionDescriptor} (callable : function.Sound) (change : Change) :
    Ends sound bridge [{ target, function := function.function, frame := change.value.toBytes }]
      (bridge.callWith .gameThread function target change.schema [change.value]) := by
  simp only [callWith]
  cases encoded : change.schema.encode [change.value] function with
  | error error =>
      refine .failed 0 0 (reliable.failLayout _) rfl (fun _ => rfl) ?_ Nat.one_pos rfl
      unfold calls
      rw [host_failLayout]
      exact (List.append_nil _).symm
  | ok block =>
      obtain ⟨size, bytes⟩ := change.carries.bytes_of_encode encoded
      have length : block.length = change.value.type.width := by
        rw [← change.value.length_toBytes, ← bytes]
        rfl
      have filled : block.length ≠ 0 := by
        rw [length]
        cases change <;> exact Nat.succ_ne_zero _
      have solid : (target.isNull || function.function.isNull) = false := by
        rw [live, callable.function]
        rfl
      cases passable : bridge.gate.disabled with
      | true =>
          simp only [invoke, passable, if_true]
          refine .failed 0 0 reliable passable ?_ (List.append_nil _).symm Nat.one_pos rfl
          intro clear
          cases passable.symm.trans clear
      | false =>
          have invoked : bridge.invoke .gameThread target function block =
              bridge.dispatch target function block := by
            simp only [invoke, passable, solid, length, size]
            simp
          obtain ⟨ends, dispatched⟩ := dispatch_cases contract reliable target callable
            (size.trans length.symm) filled
          rw [bytes] at ends
          dsimp only at ends dispatched ⊢
          rw [invoked]
          cases ended : (bridge.dispatch target function block).outcome with
          | error halt =>
              rw [ended] at ends
              exact ends.map fun _ => CallResult.mk .dispatched [change.value]
          | ok outcome =>
              rw [ended] at ends
              cases dispatched outcome ended
              dsimp only
              rw [change.carries.decodeOutputs_eq]
              exact ends.map fun _ => CallResult.mk .dispatched [change.value]

/-- The schedulers are advanced one after another, up to the first call that does not come
back. -/
theorem advanceEach_ends {function : FunctionDescriptor} (callable : function.Sound)
    (hours : Int32) (count index : Nat) {schedulers : List Object}
    (live : ∀ scheduler ∈ schedulers, scheduler.isNull = false) :
    Ends sound bridge
      (schedulers.map fun target =>
        { target, function := function.function, frame := (Scalar.i32 hours).toBytes })
      (advanceEach .gameThread function hours count index schedulers bridge) := by
  induction schedulers generalizing index bridge with
  | nil => exact .returned reliable rfl (List.append_nil _).symm fun _ => rfl
  | cons scheduler rest ih =>
      obtain ⟨first, others⟩ := List.forall_mem_cons.mp live
      have called : Ends sound bridge _ (bridge.callWith .gameThread function scheduler
        advanceHoursSchema [.i32 hours]) :=
          callWith_ends contract reliable first callable (.hours hours)
      simp only [advanceEach, List.map_cons]
      rcases ended : bridge.callWith .gameThread function scheduler advanceHoursSchema
        [.i32 hours] with ⟨after, outcome⟩
      rw [ended] at called
      cases outcome with
      | ok result =>
          have middle : after.Reliable sound := by
            cases called with
            | returned reliable gate made back => exact reliable
          exact called.cons (ih middle (index + 1) others)
      | error halt =>
          cases halt with
          | unwound fault => cases called
          | refused error =>
              refine called.stop ?_ ?_
              · split <;> exact ⟨rfl, rfl, rfl⟩
              · intro raised
                split <;> exact raised

end Calls

/-! ### Changes -/

section Changes

/-- A change was delivered in full; or there was nothing to deliver it to, and nothing was
called. -/
structure Answered (sound : H → Prop) (before : Bridge (Recorded H))
    (delivery? : Option (Delivery (Recorded H)))
    (result : Bridge (Recorded H) × Except (Halt CallError) α) : Prop where
  trusted : result.1.Trusted sound
  outcome :
    (∃ delivery answer, delivery? = some delivery ∧ result.2 = .ok answer ∧
      result.1.calls = before.calls ++ delivery.calls) ∨
    (∃ error, delivery? = none ∧ result.2 = .error (.refused error) ∧
      error.kind = .notFoundYet ∧ result.1.calls = before.calls)

/-- How the attempt to tell the host of a change ends: before anything was called, because the
host turned out to be unsupported or something is missing; or with the calls of the delivery,
of which all come back, to the right answer, or only the first ones do. -/
inductive Told (sound : H → Prop) (before : Bridge (Recorded H))
    (delivery? : Option (Delivery (Recorded H))) (right : Delivery (Recorded H) → α → Prop) :
    Bridge (Recorded H) × Except (Halt CallError) α → Prop
  | missing {after : Bridge (Recorded H)} {error : RegistryError}
      (consults : Consults sound before after)
      (cause : after.unsupported = true ∨ delivery? = none ∧ error.kind = .notFoundYet) :
      Told sound before delivery? right (after, .error (.refused (.registry error)))
  | called {asked : Bridge (Recorded H)} {delivery : Delivery (Recorded H)}
      {result : Bridge (Recorded H) × Except (Halt CallError) α}
      (consults : Consults sound before asked) (delivers : delivery? = some delivery)
      (ends : Ends sound asked delivery.calls result)
      (answers : ∀ answer, result.2 = .ok answer → right delivery answer) :
      Told sound before delivery? right result

variable {bridge : Bridge (Recorded H)}

omit [ReflectionHost H] in
theorem Leads.raised {before after : Bridge (Recorded H)} {passes : List (Bridge (Recorded H))}
    (leads : Leads before passes after) (raised : before.unsupported = true) :
    after.unsupported = true :=
  (leads.between before List.mem_cons_self).2.raised raised

/-- Unless the host turns out to be unsupported, a change is delivered in full or waits. -/
theorem Told.answered (trusted : bridge.Trusted sound)
    {delivery? : Option (Delivery (Recorded H))} {right : Delivery (Recorded H) → α → Prop}
    {result : Bridge (Recorded H) × Except (Halt CallError) α}
    (told : Told sound bridge delivery? right result) :
    result.1.unsupported = true ∨ Answered sound bridge delivery? result := by
  cases told with
  | missing consults cause =>
      refine cause.imp_right fun nothing => ?_
      have passable := (congrArg CallGate.disabled consults.gate).trans trusted.gate
      exact ⟨⟨consults.reliable.store, consults.reliable.functions, passable⟩,
        Or.inr ⟨_, nothing.1, rfl, nothing.2, consults.calls⟩⟩
  | called consults delivers ends answers =>
      have passable := (congrArg CallGate.disabled consults.gate).trans trusted.gate
      cases ends with
      | returned reliable gate made back =>
          right
          refine ⟨⟨reliable.store, reliable.functions, gate.trans passable⟩,
            Or.inl ⟨_, _, delivers, rfl, ?_⟩⟩
          rw [made, consults.calls]
      | failed count reached reliable closed raised made fewer back =>
          exact Or.inl (raised passable)

/-- What the answer is does not matter. -/
theorem Told.map {β : Type} (change : α → β) {delivery? : Option (Delivery (Recorded H))}
    {right : Delivery (Recorded H) → α → Prop} {after : Bridge (Recorded H)}
    {outcome : Except (Halt CallError) α}
    (told : Told sound bridge delivery? right (after, outcome)) :
    Told sound bridge delivery? (fun _ _ => True) (after, outcome.map change) := by
  cases told with
  | missing consults cause => exact .missing consults cause
  | called consults delivers ends answers =>
      exact .called consults delivers (ends.map change) fun _ _ => trivial

/-- What the answer is does not matter. -/
theorem Answered.map {β : Type} (change : α → β) {before after : Bridge (Recorded H)}
    {delivery? : Option (Delivery (Recorded H))} {outcome : Except (Halt CallError) α}
    (answered : Answered sound before delivery? (after, outcome)) :
    Answered sound before delivery? (after, outcome.map change) := by
  obtain ⟨trusted, ⟨delivery, answer, delivers, ended, calls⟩ |
    ⟨error, nothing, ended, missing, calls⟩⟩ := answered
  · exact ⟨trusted, Or.inl ⟨delivery, change answer, delivers,
      congrArg (Except.map change) ended, calls⟩⟩
  · exact ⟨trusted, Or.inr ⟨error, nothing,
      congrArg (Except.map change) ended, missing, calls⟩⟩

/-! Whether a change is delivered. -/

theorem delivery?_of_found {className : String} (change : Change)
    {owner function : Object} (stands : bridge.named? className = some owner)
    (method : bridge.method? className change.schema.function = some function)
    (populated : Host.instances bridge.host.store owner ≠ []) :
    bridge.delivery? className change =
      some { change, store := bridge.host.store, owner, function } := by
  simp [delivery?, stands, method, populated]

theorem delivery?_of_no_method {className : String}
    (change : Change) (missing : bridge.method? className change.schema.function = none) :
    bridge.delivery? className change = none := by
  simp [delivery?, missing]

theorem delivery?_of_no_instances {className : String}
    (change : Change) (missing : ∀ owner, bridge.named? className = some owner →
      Host.instances bridge.host.store owner = []) :
    bridge.delivery? className change = none := by
  simp only [delivery?]
  split
  · rename_i owner function stands _
    simp [missing owner stands]
  · rfl

variable (contract : Host.Contract sound)

include contract

/-- Hours are told to every scheduler that is there; the answer is how many there are. -/
theorem advanceHours_told (reliable : bridge.Reliable sound) (className : String)
    (hours : Int32) :
    Told sound bridge (bridge.delivery? className (.hours hours))
      (fun delivery count => count = delivery.targets.length)
      (bridge.advanceHours .gameThread className hours) := by
  obtain ⟨consults, looked⟩ :=
    finds_lookupFunction reliable contract className advanceHoursSchema.function
  simp only [advanceHours]
  rcases resolved : bridge.lookupFunction className advanceHoursSchema.function with
    ⟨found, outcome⟩
  rw [resolved] at consults looked
  cases outcome with
  | error error =>
      exact .missing consults
        (looked.imp_right (And.imp_left (delivery?_of_no_method (.hours hours))))
  | ok function =>
      obtain ⟨callable, method⟩ := looked
      dsimp only at consults ⊢
      obtain ⟨consults', listed⟩ := finds_instancesOf consults.reliable className
      rcases enumerated : found.instancesOf className with ⟨listing, outcome⟩
      rw [enumerated] at consults' listed
      rw [consults.store] at listed
      simp only [consults.named] at listed
      cases outcome with
      | error error =>
          exact .missing (consults.trans consults')
            (listed.imp_right (And.imp_left (delivery?_of_no_instances (.hours hours))))
      | ok schedulers =>
          obtain ⟨present, owner, stands, instances⟩ := listed
          have live : ∀ scheduler ∈ schedulers, scheduler.isNull = false := by
            intro scheduler among
            rw [← instances] at among
            exact contract.instances reliable.store among
          have ends := advanceEach_ends contract consults'.reliable callable hours
            schedulers.length 0 live
          rw [← instances] at present
          refine .called (consults.trans consults')
            (delivery?_of_found (.hours hours) stands method present) ?_ ?_
          · simp only [Delivery.calls, Delivery.targets, Change.value, instances]
            rcases ended : advanceEach .gameThread function hours schedulers.length 0 schedulers
              listing with ⟨after, outcome⟩
            rw [ended] at ends
            cases outcome with
            | error halt => exact ends.map fun _ => schedulers.length
            | ok fine => exact ends.map fun _ => schedulers.length
          · intro count answered
            dsimp only at answered
            split at answered <;> cases answered
            simp [Delivery.targets, instances]

/-- Hours reach every scheduler that is there. -/
theorem advanceHours_answered (trusted : bridge.Trusted sound) (className : String)
    (hours : Int32) : (bridge.advanceHours .gameThread className hours).1.unsupported = true ∨
      Answered sound bridge (bridge.delivery? className (.hours hours))
        (bridge.advanceHours .gameThread className hours) :=
  (advanceHours_told contract trusted.reliable className hours).answered trusted

/-- A season is told to the first changer that is there. -/
theorem setCurrentSeason_told (reliable : bridge.Reliable sound) (className : String)
    (season : Season) :
    Told sound bridge (bridge.delivery? className (.season season))
      (fun delivery changer => delivery.targets = [changer])
      (bridge.setCurrentSeason .gameThread className season) := by
  obtain ⟨consults, listed⟩ := finds_instancesOf reliable className
  simp only [setCurrentSeason]
  rcases enumerated : bridge.instancesOf className with ⟨found, outcome⟩
  rw [enumerated] at consults listed
  cases outcome with
  | error error =>
      exact .missing consults
        (listed.imp_right (And.imp_left (delivery?_of_no_instances (.season season))))
  | ok instances =>
      obtain ⟨present, owner, stands, same⟩ := listed
      cases instances with
      | nil => exact absurd rfl present
      | cons changer others =>
          have live : changer.isNull = false := by
            have among : changer ∈ Host.instances bridge.host.store owner := by
              rw [same]
              exact List.mem_cons_self
            exact contract.instances reliable.store among
          dsimp only at consults ⊢
          simp only [call]
          obtain ⟨consults', looked⟩ := finds_lookupFunction consults.reliable contract className
            setCurrentSeasonSchema.function
          rcases resolved : found.lookupFunction className setCurrentSeasonSchema.function with
            ⟨ready, outcome⟩
          rw [resolved] at consults' looked
          rw [consults.method] at looked
          cases outcome with
          | error error =>
              exact .missing (consults.trans consults')
                (looked.imp_right (And.imp_left (delivery?_of_no_method (.season season))))
          | ok function =>
              obtain ⟨callable, method⟩ := looked
              have ends := callWith_ends contract consults'.reliable live callable
                (.season season)
              rw [← same] at present
              refine .called (consults.trans consults')
                (delivery?_of_found (.season season) stands method present) ?_ ?_
              · simp only [Delivery.calls, Delivery.targets, same]
                dsimp only [Change.schema, Change.value] at ends ⊢
                rcases ended : ready.callWith .gameThread function changer
                  setCurrentSeasonSchema [.u8 season.toByte] with ⟨after, outcome⟩
                rw [ended] at ends
                cases outcome with
                | error halt => exact ends.map fun _ => changer
                | ok result => exact ends.map fun _ => changer
              · intro answer answered
                dsimp only at answered
                split at answered <;> cases answered
                simp [Delivery.targets, same]

/-- A season reaches the first changer that is there. -/
theorem setCurrentSeason_answered (trusted : bridge.Trusted sound) (className : String)
    (season : Season) :
    (bridge.setCurrentSeason .gameThread className season).1.unsupported = true ∨
      Answered sound bridge (bridge.delivery? className (.season season))
        (bridge.setCurrentSeason .gameThread className season) :=
  (setCurrentSeason_told contract trusted.reliable className season).answered trusted

end Changes

end Bridge

end ReplicaBridge
