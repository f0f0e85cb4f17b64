/-
Module: ReplicaBridge.Proofs.HostCalls
Purpose: What the way into a host can do: look names up, make one call, or close the gate.
  A closed gate stays closed and lets no call through; a host counts as unsupported if the
  gate was closed, or if a name stood for something of another kind.
Main exports: Report.TellsMismatch, Bridge.Looks, Bridge.Moves, Bridge.Leads,
  Bridge.leads_setCurrentSeason, Bridge.leads_advanceHours
-/
import ReplicaBridge.Proofs.SessionRun

namespace ReplicaBridge

open Host (HostCall Object Recorded ReflectionHost TypeTag)
open Params (FunctionDescriptor ParameterBlock ParamSchema Scalar)

/-- A name stood for something of another kind, and that was reported. -/
def Report.TellsMismatch (report : Report) : Prop :=
  ∃ entry ∈ report.journal, ∃ name expected found, found ≠ expected ∧
    (entry.notice = .hostUnsupported (RegistryError.typeMismatch name expected found).message ∨
      entry.notice = .furtherMismatch (RegistryError.typeMismatch name expected found).message)

/-- What was reported stays reported. -/
theorem Report.TellsMismatch.mono {before after : Report} (tells : before.TellsMismatch)
    (journal : before.journal <+: after.journal) : after.TellsMismatch := by
  obtain ⟨entry, among, mismatch⟩ := tells
  exact ⟨entry, journal.subset among, mismatch⟩

namespace Bridge

variable {H : Type}

/-- The calls made so far, oldest first. -/
def calls (bridge : Bridge (Recorded H)) : List HostCall :=
  bridge.host.store.calls

/-- The host was found to be unsupported. -/
def unsupported (bridge : Bridge (Recorded H)) : Bool :=
  bridge.report.status.hostUnsupported

/-! ### What one operation can do -/

/-- No call was made and the gate is as it was; if the host is unsupported now, it was so
before, or something was of another kind. -/
structure Looks (before after : Bridge (Recorded H)) : Prop where
  calls : after.calls = before.calls
  gate : after.gate = before.gate
  journal : before.report.journal <+: after.report.journal
  raised : before.unsupported = true → after.unsupported = true
  cause : after.unsupported = true → before.unsupported = true ∨ after.report.TellsMismatch

/-- At most one call was made, and none through a closed gate.  If the host is unsupported
now, it was so before, or the gate is closed, or something was of another kind and no call
was made. -/
structure Moves (before after : Bridge (Recorded H)) : Prop where
  journal : before.report.journal <+: after.report.journal
  raised : before.unsupported = true → after.unsupported = true
  closed : before.gate.disabled = true →
    after.gate.disabled = true ∧ after.calls = before.calls
  called : after.calls = before.calls ∨ ∃ call, after.calls = before.calls ++ [call]
  cause : after.unsupported = true → before.unsupported = true ∨ after.gate.disabled = true ∨
    after.report.TellsMismatch ∧ after.calls = before.calls

theorem Looks.refl (bridge : Bridge (Recorded H)) : Looks bridge bridge :=
  ⟨rfl, rfl, List.prefix_refl _, id, Or.inl⟩

theorem Looks.trans {before middle after : Bridge (Recorded H)} (first : Looks before middle)
    (second : Looks middle after) : Looks before after where
  calls := second.calls.trans first.calls
  gate := second.gate.trans first.gate
  journal := first.journal.trans second.journal
  raised unsupported := second.raised (first.raised unsupported)
  cause unsupported := by
    rcases second.cause unsupported with earlier | tells
    · rcases first.cause earlier with earliest | tells
      · exact Or.inl earliest
      · exact Or.inr (tells.mono second.journal)
    · exact Or.inr tells

theorem Looks.moves {before after : Bridge (Recorded H)} (looks : Looks before after) :
    Moves before after where
  journal := looks.journal
  raised := looks.raised
  closed shut := ⟨(congrArg CallGate.disabled looks.gate).trans shut, looks.calls⟩
  called := Or.inl looks.calls
  cause unsupported := by
    rcases looks.cause unsupported with earlier | tells
    · exact Or.inl earlier
    · exact Or.inr (Or.inr ⟨tells, looks.calls⟩)

theorem looks_note (bridge : Bridge (Recorded H)) (notice : Notice) :
    Looks bridge (bridge.note notice) :=
  ⟨rfl, rfl, List.prefix_append _ _, id, Or.inl⟩

theorem looks_noteAll (bridge : Bridge (Recorded H)) (notices : List Notice) :
    Looks bridge (bridge.noteAll notices) := by
  induction notices generalizing bridge with
  | nil => exact .refl bridge
  | cons notice rest ih => exact (looks_note bridge notice).trans (ih (bridge.note notice))

/-- Whatever led up to it, closing the gate is the last that happens. -/
theorem Moves.failLayout {before after : Bridge (Recorded H)} (moves : Moves before after)
    (error : InvokeError) : Moves before (after.failLayout error) := by
  have calls : (after.failLayout error).calls = after.calls := by
    unfold Bridge.failLayout
    split <;> rfl
  have journal : after.report.journal <+: (after.failLayout error).report.journal := by
    unfold Bridge.failLayout
    split
    · exact List.prefix_append _ _
    · exact (List.prefix_append _ _).trans (List.prefix_append _ _)
  constructor
  · exact moves.journal.trans journal
  · exact fun _ => rfl
  · intro shut
    exact ⟨rfl, calls.trans (moves.closed shut).2⟩
  · rw [calls]
    exact moves.called
  · exact fun _ => Or.inr (Or.inl rfl)

/-- A call through an open gate. -/
theorem Moves.of_call {before after : Bridge (Recorded H)} {call : HostCall}
    (passable : before.gate.disabled = false) (report : after.report = before.report)
    (calls : after.calls = before.calls ++ [call]) : Moves before after where
  journal := by simp [report]
  raised unsupported := (congrArg (·.status.hostUnsupported) report).trans unsupported
  closed shut := absurd (passable.symm.trans shut) Bool.false_ne_true
  called := Or.inr ⟨call, calls⟩
  cause unsupported :=
    Or.inl ((congrArg (·.status.hostUnsupported) report).symm.trans unsupported)

/-- From one bridge to another through others, each a move away from the one before. -/
inductive Leads :
    Bridge (Recorded H) → List (Bridge (Recorded H)) → Bridge (Recorded H) → Prop
  | nil (bridge : Bridge (Recorded H)) : Leads bridge [] bridge
  | cons {before next after : Bridge (Recorded H)} {rest : List (Bridge (Recorded H))}
      (moves : Moves before next) (leads : Leads next rest after) :
      Leads before (next :: rest) after

namespace Leads

variable {before middle after : Bridge (Recorded H)}

theorem append {earlier later : List (Bridge (Recorded H))} (first : Leads before earlier middle)
    (second : Leads middle later after) : Leads before (earlier ++ later) after := by
  induction first with
  | nil bridge => exact second
  | cons moves _ ih => exact .cons moves (ih second)

/-- One more move. -/
theorem concat {passes : List (Bridge (Recorded H))} (leads : Leads before passes middle)
    (moves : Moves middle after) : Leads before (passes ++ [after]) after :=
  leads.append (.cons moves (.nil after))

end Leads

variable [ReflectionHost H]

/-! ### Resolving names -/

theorem looks_lookup (bridge : Bridge (Recorded H)) (name : String) :
    Looks bridge (bridge.lookup name).1 := by
  simp only [lookup]
  cases bridge.registry.object? name with
  | some object => exact .refl bridge
  | none =>
      dsimp only [Host.CountedHost.find]
      cases Host.findByName? bridge.host.store name with
      | none => exact ⟨rfl, rfl, List.prefix_append _ _, id, Or.inl⟩
      | some object => exact ⟨rfl, rfl, List.prefix_append _ _, id, Or.inl⟩

/-- A host with an entry of another kind is unsupported, but its gate stays open. -/
theorem looks_checkTag (bridge : Bridge (Recorded H)) (name : String) (object : Object)
    (expected : TypeTag) : Looks bridge (bridge.checkTag name object expected).1 := by
  unfold checkTag
  dsimp only
  split
  · exact .refl bridge
  · rename_i different
    refine ⟨rfl, rfl, List.prefix_append _ _, fun _ => rfl, fun _ => Or.inr ?_⟩
    refine ⟨_, List.mem_append_right _ List.mem_cons_self, name, expected, _, different, ?_⟩
    split
    · exact Or.inr rfl
    · exact Or.inl rfl

theorem looks_lookupClass (bridge : Bridge (Recorded H)) (name : String) :
    Looks bridge (bridge.lookupClass name).1 := by
  have looked := looks_lookup bridge name
  simp only [lookupClass, lookupAs]
  rcases resolved : bridge.lookup name with ⟨found, answer⟩
  rw [resolved] at looked
  cases answer with
  | error error => exact looked
  | ok object =>
      have checked := looks_checkTag found name object .classType
      dsimp only
      rcases verified : found.checkTag name object .classType with ⟨after, verdict⟩
      rw [verified] at checked
      cases verdict with
      | error error => exact looked.trans checked
      | ok fine => exact looked.trans checked

theorem looks_lookupFunction (bridge : Bridge (Recorded H)) (className method : String) :
    Looks bridge (bridge.lookupFunction className method).1 := by
  have looked := looks_lookupClass bridge className
  simp only [lookupFunction]
  cases bridge.registry.function? className method with
  | some descriptor => exact .refl bridge
  | none =>
      rcases resolved : bridge.lookupClass className with ⟨found, answer⟩
      rw [resolved] at looked
      cases answer with
      | error error => exact looked
      | ok owningClass =>
          dsimp only
          cases ReflectionHost.findFunction found.host.store owningClass method with
          | none => exact looked
          | some function =>
              have checked := looks_checkTag found (className ++ "::" ++ method) function .function
              dsimp only
              rcases verified : found.checkTag (className ++ "::" ++ method) function .function
                with ⟨after, verdict⟩
              rw [verified] at checked
              cases verdict with
              | error error => exact looked.trans checked
              | ok fine =>
                  have noted := (looked.trans checked).trans (looks_noteAll after
                    (unreadableNotices after.host.store function))
                  exact noted.trans ⟨rfl, rfl, List.prefix_append _ _, id, Or.inl⟩

theorem looks_instancesOf (bridge : Bridge (Recorded H)) (className : String) :
    Looks bridge (bridge.instancesOf className).1 := by
  have looked := looks_lookupClass bridge className
  simp only [instancesOf]
  rcases resolved : bridge.lookupClass className with ⟨found, answer⟩
  rw [resolved] at looked
  cases answer with
  | error error => exact looked
  | ok owner =>
      dsimp only
      split
      · exact looked
      · exact looked

/-! ### Calling functions -/

theorem moves_dispatch (bridge : Bridge (Recorded H)) (passable : bridge.gate.disabled = false)
    (target : Object) (function : FunctionDescriptor) (block : ParameterBlock) :
    Moves bridge (bridge.dispatch target function block).bridge := by
  have recorded : (ReflectionHost.dispatch bridge.host.store target function.function
      block.bytes).1.calls = bridge.calls ++
        [{ target, function := function.function, frame := block.bytes }] := rfl
  simp only [dispatch]
  rcases dispatched : ReflectionHost.dispatch bridge.host.store target function.function
    block.bytes with ⟨store, answer⟩
  rw [dispatched] at recorded
  cases answer with
  | none =>
      apply Moves.failLayout
      exact .of_call passable rfl recorded
  | some frame =>
      dsimp only
      cases copyOutputs frame function.layout.outputs block.bytes with
      | error fault => exact .of_call passable rfl recorded
      | ok bytes => exact .of_call passable rfl recorded

theorem moves_invoke (bridge : Bridge (Recorded H)) (caller : Caller) (target : Object)
    (function : FunctionDescriptor) (block : ParameterBlock) :
    Moves bridge (bridge.invoke caller target function block).bridge := by
  simp only [invoke]
  cases caller with
  | elsewhere => exact (looks_note bridge _).moves
  | gameThread =>
      dsimp only
      split
      · exact (Looks.refl bridge).moves
      · rename_i passable
        split
        · exact (looks_note bridge _).moves
        · split
          · exact (Looks.refl bridge).moves.failLayout _
          · exact moves_dispatch bridge (Bool.eq_false_iff.2 passable) target function block

theorem moves_callWith (bridge : Bridge (Recorded H)) (caller : Caller)
    (function : FunctionDescriptor) (target : Object) (schema : ParamSchema)
    (values : List Scalar) :
    Moves bridge (bridge.callWith caller function target schema values).1 := by
  simp only [callWith]
  cases schema.encode values function with
  | error error => exact (Looks.refl bridge).moves.failLayout error
  | ok block =>
      have invoked := moves_invoke bridge caller target function block
      dsimp only
      cases (bridge.invoke caller target function block).outcome with
      | error halt => exact invoked
      | ok outcome =>
          cases outcome with
          | skipped => exact invoked
          | dispatched =>
              dsimp only
              split
              · exact invoked.failLayout _
              · exact invoked

/-! ### Passes

The states that a bridge passes through, one operation after another.  An operation either
makes no call at all, or makes one and nothing but the end of that call follows, so between
two states that follow each other there is no call behind a mismatch. -/

def callPasses (bridge : Bridge H) (caller : Caller) (className : String) (target : Object)
    (schema : ParamSchema) (values : List Scalar) : List (Bridge H) :=
  match bridge.lookupFunction className schema.function with
  | (found, .error _) => [found]
  | (found, .ok function) => [found, (found.callWith caller function target schema values).1]

def setCurrentSeasonPasses (bridge : Bridge H) (caller : Caller) (className : String)
    (season : Season) : List (Bridge H) :=
  match bridge.instancesOf className with
  | (found, .ok (changer :: _)) =>
    found :: found.callPasses caller className changer setCurrentSeasonSchema [.u8 season.toByte]
  | (found, _) => [found]

def advanceEachPasses (caller : Caller) (function : FunctionDescriptor) (hours : Int32) :
    List Object → Bridge H → List (Bridge H)
  | [], _ => []
  | scheduler :: rest, bridge =>
    match bridge.callWith caller function scheduler advanceHoursSchema [.i32 hours] with
    | (called, .ok _) => called :: advanceEachPasses caller function hours rest called
    | (called, .error _) => [called]

def advanceHoursPasses (bridge : Bridge H) (caller : Caller) (className : String)
    (hours : Int32) : List (Bridge H) :=
  match bridge.lookupFunction className advanceHoursSchema.function with
  | (found, .error _) => [found]
  | (found, .ok function) =>
    match found.instancesOf className with
    | (listed, .error _) => [found, listed]
    | (listed, .ok schedulers) =>
      found :: listed :: advanceEachPasses caller function hours schedulers listed ++
        [(bridge.advanceHours caller className hours).1]

theorem leads_call (bridge : Bridge (Recorded H)) (caller : Caller) (className : String)
    (target : Object) (schema : ParamSchema) (values : List Scalar) :
    Leads bridge (bridge.callPasses caller className target schema values)
      (bridge.call caller className target schema values).1 := by
  have looked := looks_lookupFunction bridge className schema.function
  simp only [callPasses, call]
  rcases resolved : bridge.lookupFunction className schema.function with ⟨found, answer⟩
  rw [resolved] at looked
  cases answer with
  | error error => exact .cons looked.moves (.nil found)
  | ok function =>
      have called := moves_callWith found caller function target schema values
      exact .cons looked.moves (.cons called (.nil _))

theorem leads_setCurrentSeason (bridge : Bridge (Recorded H)) (caller : Caller)
    (className : String) (season : Season) :
    Leads bridge (bridge.setCurrentSeasonPasses caller className season)
      (bridge.setCurrentSeason caller className season).1 := by
  have looked := looks_instancesOf bridge className
  simp only [setCurrentSeasonPasses, setCurrentSeason]
  rcases resolved : bridge.instancesOf className with ⟨found, answer⟩
  rw [resolved] at looked
  cases answer with
  | error error => exact .cons looked.moves (.nil found)
  | ok instances =>
      cases instances with
      | nil => exact .cons looked.moves (.nil found)
      | cons changer others =>
          have called := leads_call found caller className changer setCurrentSeasonSchema
            [.u8 season.toByte]
          dsimp only
          rcases outcome : found.call caller className changer setCurrentSeasonSchema
            [.u8 season.toByte] with ⟨after, ended⟩
          rw [outcome] at called
          cases ended with
          | error halt => exact .cons looked.moves called
          | ok result => exact .cons looked.moves called

/-- Only a note may follow the last call. -/
theorem leads_advanceEach (caller : Caller) (function : FunctionDescriptor) (hours : Int32)
    (count index : Nat) (schedulers : List Object) (bridge : Bridge (Recorded H)) :
    ∃ last, Leads bridge (advanceEachPasses caller function hours schedulers bridge) last ∧
      Looks last (advanceEach caller function hours count index schedulers bridge).1 := by
  induction schedulers generalizing index bridge with
  | nil => exact ⟨bridge, .nil bridge, .refl bridge⟩
  | cons scheduler rest ih =>
      have called := moves_callWith bridge caller function scheduler advanceHoursSchema
        [.i32 hours]
      simp only [advanceEachPasses, advanceEach]
      rcases ended : bridge.callWith caller function scheduler advanceHoursSchema [.i32 hours]
        with ⟨after, outcome⟩
      rw [ended] at called
      cases outcome with
      | ok result =>
          obtain ⟨last, leads, looks⟩ := ih (index + 1) after
          exact ⟨last, .cons called leads, looks⟩
      | error halt =>
          refine ⟨after, .cons called (.nil after), ?_⟩
          cases halt with
          | unwound fault => exact .refl after
          | refused error =>
              dsimp only
              split
              · exact .refl after
              · exact looks_note after _

theorem leads_advanceHours (bridge : Bridge (Recorded H)) (caller : Caller)
    (className : String) (hours : Int32) :
    Leads bridge (bridge.advanceHoursPasses caller className hours)
      (bridge.advanceHours caller className hours).1 := by
  have looked := looks_lookupFunction bridge className advanceHoursSchema.function
  simp only [advanceHoursPasses, advanceHours]
  rcases resolved : bridge.lookupFunction className advanceHoursSchema.function with
    ⟨found, answer⟩
  rw [resolved] at looked
  cases answer with
  | error error => exact .cons looked.moves (.nil found)
  | ok function =>
      have listed := looks_instancesOf found className
      dsimp only
      rcases enumerated : found.instancesOf className with ⟨listing, answer⟩
      rw [enumerated] at listed
      cases answer with
      | error error => exact .cons looked.moves (.cons listed.moves (.nil listing))
      | ok schedulers =>
          obtain ⟨last, leads, looks⟩ :=
            leads_advanceEach caller function hours schedulers.length 0 schedulers listing
          dsimp only
          refine .cons looked.moves (.cons listed.moves (leads.concat ?_))
          rcases outcome : advanceEach caller function hours schedulers.length 0 schedulers listing
            with ⟨after, ended⟩
          rw [outcome] at looks
          cases ended with
          | error halt => exact looks.moves
          | ok fine => exact looks.moves

end Bridge

end ReplicaBridge
