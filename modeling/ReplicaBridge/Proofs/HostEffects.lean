/-
Module: ReplicaBridge.Proofs.HostEffects
Purpose: What the host is asked to do does not depend on what was reported: bridges that
  differ in their reports alone make the same calls and give the same answers, and worlds
  before one backdrop carry every host effect out alike.  Host effects leave the tracks
  alone.
Main exports: Bridge.Alike, Bridge.setCurrentSeason_agree, Bridge.advanceHours_agree,
  World.SameBackdrop.performJob, World.retryPending_agree
-/
import ReplicaBridge.Proofs.EntityTrack

namespace ReplicaBridge

open Host (CountedHost Object ReflectionHost TypeTag)
open Params (FunctionDescriptor ParameterBlock ParamSchema Scalar)

namespace Bridge

variable {H : Type}

/-- The bridges differ in their reports at most. -/
structure Alike (left right : Bridge H) : Prop where
  host : left.host = right.host
  registry : left.registry = right.registry
  gate : left.gate = right.gate

/-- Two operations answered the same and left bridges that are alike. -/
def Agree {α : Type} (left right : Bridge H × α) : Prop :=
  ∃ leftBridge rightBridge answer,
    left = (leftBridge, answer) ∧ right = (rightBridge, answer) ∧
    leftBridge.Alike rightBridge

theorem Alike.agree {α : Type} {left right : Bridge H} (alike : left.Alike right) (answer : α) :
    Agree (left, answer) (right, answer) :=
  ⟨left, right, answer, rfl, rfl, alike⟩

@[simp] theorem host_noteAll (bridge : Bridge H) (notices : List Notice) :
    (bridge.noteAll notices).host = bridge.host := by
  induction notices generalizing bridge with
  | nil => rfl
  | cons notice rest ih => exact ih (bridge.note notice)

@[simp] theorem registry_noteAll (bridge : Bridge H) (notices : List Notice) :
    (bridge.noteAll notices).registry = bridge.registry := by
  induction notices generalizing bridge with
  | nil => rfl
  | cons notice rest ih => exact ih (bridge.note notice)

@[simp] theorem gate_noteAll (bridge : Bridge H) (notices : List Notice) :
    (bridge.noteAll notices).gate = bridge.gate := by
  induction notices generalizing bridge with
  | nil => rfl
  | cons notice rest ih => exact ih (bridge.note notice)

theorem status_noteAll (bridge : Bridge H) (notices : List Notice) :
    (bridge.noteAll notices).report.status = bridge.report.status := by
  induction notices generalizing bridge with
  | nil => rfl
  | cons notice rest ih => exact ih (bridge.note notice)

section Reports

variable {left right : Bridge H} (alike : left.Alike right)

include alike

theorem Alike.note (leftNotice rightNotice : Notice) :
    (left.note leftNotice).Alike (right.note rightNotice) :=
  ⟨alike.host, alike.registry, alike.gate⟩

theorem Alike.failLayout (error : InvokeError) :
    (left.failLayout error).Alike (right.failLayout error) := by
  have closed : ({ left.gate with disabled := true } : CallGate) =
      { right.gate with disabled := true } := by rw [alike.gate]
  simp only [Bridge.failLayout]
  rw [alike.gate]
  split
  · exact ⟨alike.host, alike.registry, closed⟩
  · exact ⟨alike.host, alike.registry, closed⟩

end Reports

section Calls

variable [ReflectionHost H] {left right : Bridge H} (alike : left.Alike right)

include alike

/-! ### Resolving names -/

theorem lookup_agree (name : String) : Agree (left.lookup name) (right.lookup name) := by
  obtain ⟨host, leftReport, registry, gate⟩ := left
  obtain ⟨_, rightReport, _, _⟩ := right
  obtain ⟨rfl, rfl, rfl⟩ := alike
  unfold lookup
  cases registry.object? name with
  | some object => exact ⟨_, _, _, rfl, rfl, ⟨rfl, rfl, rfl⟩⟩
  | none =>
      rcases host.find name with ⟨after, found⟩
      cases found with
      | none => exact ⟨_, _, _, rfl, rfl, ⟨rfl, rfl, rfl⟩⟩
      | some object => exact ⟨_, _, _, rfl, rfl, ⟨rfl, rfl, rfl⟩⟩

theorem checkTag_agree (name : String) (object : Object) (expected : TypeTag) :
    Agree (left.checkTag name object expected) (right.checkTag name object expected) := by
  unfold checkTag
  rw [alike.host]
  dsimp only
  split
  · exact alike.agree _
  · exact ⟨_, _, _, rfl, rfl, ⟨rfl, alike.registry, alike.gate⟩⟩

theorem lookupAs_agree (name : String) (expected : TypeTag) :
    Agree (left.lookupAs name expected) (right.lookupAs name expected) := by
  obtain ⟨left', right', found, leftFound, rightFound, alike'⟩ := lookup_agree alike name
  simp only [lookupAs]
  rw [leftFound, rightFound]
  cases found with
  | error error => exact alike'.agree _
  | ok object =>
      obtain ⟨left'', right'', checked, leftChecked, rightChecked, alike''⟩ :=
        checkTag_agree alike' name object expected
      dsimp only
      rw [leftChecked, rightChecked]
      cases checked with
      | error error => exact alike''.agree _
      | ok answer => exact alike''.agree _

theorem lookupFunction_agree (className method : String) :
    Agree (left.lookupFunction className method) (right.lookupFunction className method) := by
  simp only [lookupFunction]
  rw [alike.registry]
  cases right.registry.function? className method with
  | some descriptor => exact alike.agree _
  | none =>
      obtain ⟨left', right', found, leftFound, rightFound, alike'⟩ :=
        lookupAs_agree alike className .classType
      simp only [lookupClass]
      rw [leftFound, rightFound]
      cases found with
      | error error => exact alike'.agree _
      | ok owningClass =>
          dsimp only
          rw [alike'.host]
          cases ReflectionHost.findFunction right'.host.store owningClass method with
          | none => exact alike'.agree _
          | some function =>
              obtain ⟨left'', right'', checked, leftChecked, rightChecked, alike''⟩ :=
                checkTag_agree alike' (className ++ "::" ++ method) function .function
              dsimp only
              rw [leftChecked, rightChecked]
              cases checked with
              | error error => exact alike''.agree _
              | ok answer =>
                  dsimp only
                  rw [alike''.host]
                  refine ⟨_, _, _, rfl, rfl, ⟨?_, ?_, ?_⟩⟩
                  · simp [Bridge.note, alike''.host]
                  · simp [Bridge.note, alike''.registry]
                  · simp [Bridge.note, alike''.gate]

theorem instancesOf_agree (className : String) :
    Agree (left.instancesOf className) (right.instancesOf className) := by
  obtain ⟨left', right', found, leftFound, rightFound, alike'⟩ :=
    lookupAs_agree alike className .classType
  simp only [instancesOf, lookupClass]
  rw [leftFound, rightFound]
  cases found with
  | error error => exact alike'.agree _
  | ok owner =>
      dsimp only
      rw [alike'.host]
      cases Host.instances right'.host.store owner with
      | nil => exact alike'.agree _
      | cons first rest => exact alike'.agree _

/-! ### Calling functions -/

/-- Two invocations ended the same way. -/
structure Invocation.Alike (left right : Invocation H) : Prop where
  bridge : left.bridge.Alike right.bridge
  block : left.block = right.block
  outcome : left.outcome = right.outcome

theorem dispatch_alike (target : Object) (function : FunctionDescriptor)
    (block : ParameterBlock) : Invocation.Alike (left.dispatch target function block)
      (right.dispatch target function block) := by
  obtain ⟨host, leftReport, registry, gate⟩ := left
  obtain ⟨_, rightReport, _, _⟩ := right
  obtain ⟨rfl, rfl, rfl⟩ := alike
  unfold dispatch
  rcases ReflectionHost.dispatch host.store target function.function block.bytes with
    ⟨store, answer⟩
  cases answer with
  | none =>
      refine ⟨Alike.failLayout ?_ _, rfl, rfl⟩
      exact ⟨rfl, rfl, rfl⟩
  | some frame =>
      dsimp only
      cases copyOutputs frame function.layout.outputs block.bytes with
      | error fault => exact ⟨⟨rfl, rfl, rfl⟩, rfl, rfl⟩
      | ok bytes => exact ⟨⟨rfl, rfl, rfl⟩, rfl, rfl⟩

theorem invoke_alike (caller : Caller) (target : Object) (function : FunctionDescriptor)
    (block : ParameterBlock) : Invocation.Alike (left.invoke caller target function block)
      (right.invoke caller target function block) := by
  simp only [invoke]
  rw [alike.gate]
  cases caller with
  | elsewhere => exact ⟨alike.note _ _, rfl, rfl⟩
  | gameThread =>
      dsimp only
      split
      · exact ⟨alike, rfl, rfl⟩
      · split
        · exact ⟨alike.note _ _, rfl, rfl⟩
        · split
          · exact ⟨alike.failLayout _, rfl, rfl⟩
          · exact dispatch_alike alike target function block

theorem callWith_agree (caller : Caller) (function : FunctionDescriptor) (target : Object)
    (schema : ParamSchema) (values : List Scalar) :
    Agree (left.callWith caller function target schema values)
      (right.callWith caller function target schema values) := by
  simp only [callWith]
  cases schema.encode values function with
  | error error => exact (alike.failLayout error).agree _
  | ok block =>
      have ended := invoke_alike alike caller target function block
      dsimp only
      rw [ended.outcome, ended.block]
      cases (right.invoke caller target function block).outcome with
      | error halt => exact ended.bridge.agree _
      | ok outcome =>
          cases outcome with
          | skipped => exact ended.bridge.agree _
          | dispatched =>
              cases schema.decodeOutputs values function
                  (right.invoke caller target function block).block with
              | error error => exact (ended.bridge.failLayout error).agree _
              | ok values => exact ended.bridge.agree _

theorem call_agree (caller : Caller) (className : String) (target : Object)
    (schema : ParamSchema) (values : List Scalar) :
    Agree (left.call caller className target schema values)
      (right.call caller className target schema values) := by
  obtain ⟨left', right', found, leftFound, rightFound, alike'⟩ :=
    lookupFunction_agree alike className schema.function
  simp only [call]
  rw [leftFound, rightFound]
  cases found with
  | error error => exact alike'.agree _
  | ok function => exact callWith_agree alike' caller function target schema values

theorem setCurrentSeason_agree (caller : Caller) (className : String) (season : Season) :
    Agree (left.setCurrentSeason caller className season)
      (right.setCurrentSeason caller className season) := by
  obtain ⟨left', right', found, leftFound, rightFound, alike'⟩ :=
    instancesOf_agree alike className
  simp only [setCurrentSeason]
  rw [leftFound, rightFound]
  cases found with
  | error error => exact alike'.agree _
  | ok instances =>
      cases instances with
      | nil => exact alike'.agree _
      | cons changer others =>
          obtain ⟨left'', right'', called, leftCalled, rightCalled, alike''⟩ :=
            call_agree alike' caller className changer setCurrentSeasonSchema
              [.u8 season.toByte]
          dsimp only
          rw [leftCalled, rightCalled]
          cases called with
          | error halt => exact alike''.agree _
          | ok result => exact alike''.agree _

omit alike in
theorem advanceEach_agree (caller : Caller) (function : FunctionDescriptor) (hours : Int32)
    (count index : Nat) (schedulers : List Object) {left right : Bridge H}
    (alike : left.Alike right) :
    Agree (advanceEach caller function hours count index schedulers left)
      (advanceEach caller function hours count index schedulers right) := by
  induction schedulers generalizing index left right with
  | nil => exact alike.agree _
  | cons scheduler rest ih =>
      obtain ⟨left', right', called, leftCalled, rightCalled, alike'⟩ :=
        callWith_agree alike caller function scheduler advanceHoursSchema [.i32 hours]
      simp only [advanceEach]
      rw [leftCalled, rightCalled]
      cases called with
      | ok result => exact ih (index + 1) alike'
      | error halt =>
          cases halt with
          | unwound fault => exact alike'.agree _
          | refused error =>
              dsimp only
              split
              · exact alike'.agree _
              · exact (alike'.note _ _).agree _

theorem advanceHours_agree (caller : Caller) (className : String) (hours : Int32) :
    Agree (left.advanceHours caller className hours)
      (right.advanceHours caller className hours) := by
  obtain ⟨left', right', resolved, leftResolved, rightResolved, alike'⟩ :=
    lookupFunction_agree alike className advanceHoursSchema.function
  simp only [advanceHours]
  rw [leftResolved, rightResolved]
  cases resolved with
  | error error => exact alike'.agree _
  | ok function =>
      obtain ⟨left'', right'', found, leftFound, rightFound, alike''⟩ :=
        instancesOf_agree alike' className
      dsimp only
      rw [leftFound, rightFound]
      cases found with
      | error error => exact alike''.agree _
      | ok schedulers =>
          obtain ⟨left₃, right₃, advanced, leftAdvanced, rightAdvanced, alike₃⟩ :=
            advanceEach_agree caller function hours schedulers.length 0 schedulers alike''
          dsimp only
          rw [leftAdvanced, rightAdvanced]
          cases advanced with
          | error halt => exact alike₃.agree _
          | ok answer => exact alike₃.agree _

end Calls

end Bridge

namespace World

variable {H : Type}

/-- The worlds stand before one backdrop. -/
def SameBackdrop (left right : World H) : Prop :=
  left.backdrop = right.backdrop

/-- Two operations answered the same and left worlds before one backdrop. -/
def Agree {α : Type} (left right : World H × α) : Prop :=
  ∃ leftWorld rightWorld answer, left = (leftWorld, answer) ∧ right = (rightWorld, answer) ∧
    leftWorld.SameBackdrop rightWorld

section Steps

variable {left right : World H} (same : left.SameBackdrop right)

include same

/-- The same change of both backdrops. -/
theorem SameBackdrop.change {left' right' : World H} (change : Backdrop H → Backdrop H)
    (leftChanged : left'.backdrop = change left.backdrop)
    (rightChanged : right'.backdrop = change right.backdrop) : left'.SameBackdrop right' := by
  unfold SameBackdrop at same ⊢
  rw [leftChanged, rightChanged, same]

theorem SameBackdrop.agree {α : Type} (answer : α) : Agree (left, answer) (right, answer) :=
  ⟨left, right, answer, rfl, rfl, same⟩

theorem SameBackdrop.alike : left.bridge.Alike right.bridge :=
  ⟨congrArg Backdrop.host same, congrArg Backdrop.registry same, congrArg Backdrop.gate same⟩

theorem SameBackdrop.withBridge {leftBridge rightBridge : Bridge H}
    (alike : leftBridge.Alike rightBridge) :
    ({ left with bridge := leftBridge }).SameBackdrop { right with bridge := rightBridge } := by
  simp only [SameBackdrop]
  calc
    ({ left with bridge := leftBridge }).backdrop =
        { left.backdrop with
          host := leftBridge.host, registry := leftBridge.registry, gate := leftBridge.gate } := rfl
    _ = { right.backdrop with
          host := rightBridge.host, registry := rightBridge.registry
          gate := rightBridge.gate } := by
        rw [show left.backdrop = right.backdrop from same, alike.host, alike.registry,
          alike.gate]
    _ = ({ right with bridge := rightBridge }).backdrop := rfl

theorem SameBackdrop.note (leftNotice rightNotice : Notice) :
    (left.note leftNotice).SameBackdrop (right.note rightNotice) :=
  same

theorem SameBackdrop.setPending (change : PendingEffects → PendingEffects) :
    (left.setPending change).SameBackdrop (right.setPending change) :=
  same.change (fun backdrop => { backdrop with pending := change backdrop.pending }) rfl rfl

theorem SameBackdrop.keepHours (hours : List Int32) :
    (left.keepHours hours).SameBackdrop (right.keepHours hours) :=
  same.setPending _

theorem SameBackdrop.deferOrDrop (error : CallError)
    (change : PendingEffects → PendingEffects) :
    (left.deferOrDrop error change).SameBackdrop (right.deferOrDrop error change) := by
  simp only [World.deferOrDrop]
  split
  · exact (same.note _ _).setPending change
  · exact same.note _ _

theorem SameBackdrop.noteSchedulerCount (count : Nat) :
    (left.noteSchedulerCount count).SameBackdrop (right.noteSchedulerCount count) := by
  have noted : left.replica.manySchedulersNoted = right.replica.manySchedulersNoted :=
    congrArg Backdrop.manySchedulersNoted same
  simp only [World.noteSchedulerCount]
  rw [noted]
  split
  · exact same.change (fun backdrop => { backdrop with manySchedulersNoted := true }) rfl rfl
  · exact same

variable [ReflectionHost H]

theorem callSetSeason_agree (season : Season) :
    Agree (left.callSetSeason season) (right.callSetSeason season) := by
  have reflection : left.settings.reflection = right.settings.reflection :=
    congrArg (fun backdrop => backdrop.footing.reflection) same
  simp only [callSetSeason]
  rw [reflection]
  obtain ⟨leftBridge, rightBridge, answer, leftCalled, rightCalled, alike⟩ :=
    Bridge.setCurrentSeason_agree same.alike .gameThread
      right.settings.reflection.seasonChangerClass season
  rw [leftCalled, rightCalled]
  exact (same.withBridge alike).agree _

theorem callAdvanceHours_agree (hours : Int32) :
    Agree (left.callAdvanceHours hours) (right.callAdvanceHours hours) := by
  have reflection : left.settings.reflection = right.settings.reflection :=
    congrArg (fun backdrop => backdrop.footing.reflection) same
  simp only [callAdvanceHours]
  rw [reflection]
  obtain ⟨leftBridge, rightBridge, answer, leftCalled, rightCalled, alike⟩ :=
    Bridge.advanceHours_agree same.alike .gameThread
      right.settings.reflection.schedulerClass hours
  rw [leftCalled, rightCalled]
  exact (same.withBridge alike).agree _

theorem applySeason_agree (season : Season) :
    Agree (left.applySeason season) (right.applySeason season) := by
  have taken : (({ left with replica := { left.replica with season } }.note
      (.seasonSet season)).setPending fun pending => { pending with season := none }).SameBackdrop
        (({ right with replica := { right.replica with season } }.note
      (.seasonSet season)).setPending fun pending => { pending with season := none }) :=
    same.change (fun backdrop =>
      { backdrop with season, pending := { backdrop.pending with season := none } }) rfl rfl
  obtain ⟨left', right', answer, leftCalled, rightCalled, same'⟩ :=
    callSetSeason_agree taken season
  unfold applySeason
  dsimp only
  rw [leftCalled, rightCalled]
  cases answer with
  | ok answer => exact same'.agree _
  | error halt =>
      cases halt with
      | unwound fault => exact same'.agree _
      | refused error => exact (same'.deferOrDrop error _).agree _

theorem advanceHours_agree (hours : Int32) :
    Agree (left.advanceHours hours) (right.advanceHours hours) := by
  have advanced : ({ left with
      replica := { left.replica with clock := left.replica.clock + hours.toInt64 } }.note
        (.clockAdvanced hours (left.replica.clock + hours.toInt64))).SameBackdrop
      ({ right with
        replica := { right.replica with clock := right.replica.clock + hours.toInt64 } }.note
          (.clockAdvanced hours (right.replica.clock + hours.toInt64))) :=
    same.change (fun backdrop => { backdrop with clock := backdrop.clock + hours.toInt64 })
      rfl rfl
  have waiting : left.replica.pending.hours.isEmpty = right.replica.pending.hours.isEmpty :=
    congrArg (fun backdrop => backdrop.pending.hours.isEmpty) same
  change Agree (if left.replica.pending.hours.isEmpty then _ else _)
    (if right.replica.pending.hours.isEmpty then _ else _)
  rw [waiting]
  split
  · obtain ⟨left', right', answer, leftCalled, rightCalled, same'⟩ :=
      callAdvanceHours_agree advanced hours
    rw [leftCalled, rightCalled]
    cases answer with
    | ok count => exact (same'.noteSchedulerCount count).agree _
    | error halt =>
        cases halt with
        | unwound fault => exact same'.agree _
        | refused error => exact (same'.deferOrDrop error _).agree _
  · exact (advanced.setPending _).agree _

theorem retrySeason_agree : Agree left.retrySeason right.retrySeason := by
  have waiting : left.replica.pending.season = right.replica.pending.season :=
    congrArg (fun backdrop => backdrop.pending.season) same
  simp only [retrySeason]
  rw [waiting]
  cases right.replica.pending.season with
  | none => exact same.agree _
  | some season =>
      obtain ⟨left', right', answer, leftCalled, rightCalled, same'⟩ :=
        callSetSeason_agree same season
      dsimp only
      rw [leftCalled, rightCalled]
      cases answer with
      | ok answer => exact ((same'.note _ _).setPending _).agree _
      | error halt =>
          cases halt with
          | unwound fault => exact same'.agree _
          | refused error =>
              dsimp only
              split
              · exact same'.agree _
              · exact ((same'.note _ _).setPending _).agree _

omit same in
theorem replayHours_agree (waiting : List Int32) {left right : World H}
    (same : left.SameBackdrop right) :
    Agree (replayHours waiting left) (replayHours waiting right) := by
  induction waiting generalizing left right with
  | nil => exact (same.keepHours []).agree _
  | cons hours rest ih =>
      obtain ⟨left', right', answer, leftCalled, rightCalled, same'⟩ :=
        callAdvanceHours_agree same hours
      simp only [replayHours]
      rw [leftCalled, rightCalled]
      cases answer with
      | ok count => exact ih (same'.noteSchedulerCount count)
      | error halt =>
          cases halt with
          | unwound fault => exact (same'.keepHours _).agree _
          | refused error =>
              dsimp only
              split
              · exact (same'.keepHours _).agree _
              · exact ((same'.note _ _).keepHours []).agree _

theorem retryPending_agree : Agree left.retryPending right.retryPending := by
  obtain ⟨left', right', answer, leftRetried, rightRetried, same'⟩ := retrySeason_agree same
  have hours : left'.replica.pending.hours = right'.replica.pending.hours :=
    congrArg (fun backdrop => backdrop.pending.hours) same'
  simp only [retryPending]
  rw [leftRetried, rightRetried]
  cases answer with
  | error fault => exact same'.agree _
  | ok answer =>
      dsimp only
      rw [hours]
      exact replayHours_agree _ same'

end Steps

/-! ### What host effects leave alone -/

/-- From one world to another neither the footing nor a track has changed. -/
structure Undisturbed (before after : World H) : Prop where
  footing : after.footing = before.footing
  tracks : ∀ id, after.track id = before.track id

theorem Undisturbed.of_view {before after : World H} (quiet : after.view = before.view) :
    Undisturbed before after where
  footing := congrArg (fun view => view.backdrop.footing) quiet
  tracks id := congrArg (View.track · id) quiet

theorem Undisturbed.trans {before middle after : World H} (first : Undisturbed before middle)
    (second : Undisturbed middle after) : Undisturbed before after where
  footing := second.footing.trans first.footing
  tracks id := (second.tracks id).trans (first.tracks id)

theorem undisturbed_deferOrDrop (world : World H) (error : CallError)
    (change : PendingEffects → PendingEffects) :
    Undisturbed world (world.deferOrDrop error change) := by
  simp only [deferOrDrop]
  split <;> exact ⟨rfl, fun _ => rfl⟩

theorem undisturbed_noteSchedulerCount (world : World H) (count : Nat) :
    Undisturbed world (world.noteSchedulerCount count) := by
  simp only [noteSchedulerCount]
  split <;> exact ⟨rfl, fun _ => rfl⟩

section Effects

variable [ReflectionHost H]

theorem undisturbed_callSetSeason (world : World H) (season : Season) :
    Undisturbed world (world.callSetSeason season).1 :=
  ⟨rfl, fun _ => rfl⟩

theorem undisturbed_callAdvanceHours (world : World H) (hours : Int32) :
    Undisturbed world (world.callAdvanceHours hours).1 :=
  ⟨rfl, fun _ => rfl⟩

theorem undisturbed_applySeason (world : World H) (season : Season) :
    Undisturbed world (world.applySeason season).1 := by
  have called := undisturbed_callSetSeason
    (({ world with replica := { world.replica with season } }.note
      (.seasonSet season)).setPending fun pending => { pending with season := none }) season
  unfold applySeason
  dsimp only
  split
  · rename_i after answered
    rw [answered] at called
    exact ⟨called.footing, called.tracks⟩
  · rename_i after fault answered
    rw [answered] at called
    exact ⟨called.footing, called.tracks⟩
  · rename_i after error answered
    rw [answered] at called
    have ended := called.trans (undisturbed_deferOrDrop after error
      fun pending => { pending with season := some season })
    exact ⟨ended.footing, ended.tracks⟩

theorem undisturbed_advanceHours (world : World H) (hours : Int32) :
    Undisturbed world (world.advanceHours hours).1 := by
  unfold advanceHours
  dsimp only
  split
  · have called := undisturbed_callAdvanceHours ({ world with
      replica := { world.replica with clock := world.replica.clock + hours.toInt64 } }.note
        (.clockAdvanced hours (world.replica.clock + hours.toInt64))) hours
    split
    · rename_i after count answered
      rw [answered] at called
      have ended := called.trans (undisturbed_noteSchedulerCount after count)
      exact ⟨ended.footing, ended.tracks⟩
    · rename_i after fault answered
      rw [answered] at called
      exact ⟨called.footing, called.tracks⟩
    · rename_i after error answered
      rw [answered] at called
      have ended := called.trans (undisturbed_deferOrDrop after error (queueHours hours))
      exact ⟨ended.footing, ended.tracks⟩
  · exact ⟨rfl, fun _ => rfl⟩

theorem undisturbed_retrySeason (world : World H) :
    Undisturbed world world.retrySeason.1 := by
  unfold retrySeason
  split
  · exact ⟨rfl, fun _ => rfl⟩
  · rename_i season _
    have called := undisturbed_callSetSeason world season
    split
    · rename_i after answered
      rw [answered] at called
      exact ⟨called.footing, called.tracks⟩
    · rename_i after fault answered
      rw [answered] at called
      exact called
    · rename_i after error answered
      rw [answered] at called
      split
      · exact called
      · exact ⟨called.footing, called.tracks⟩

theorem undisturbed_replayHours (waiting : List Int32) (world : World H) :
    Undisturbed world (replayHours waiting world).1 := by
  induction waiting generalizing world with
  | nil => exact ⟨rfl, fun _ => rfl⟩
  | cons hours rest ih =>
      have called := undisturbed_callAdvanceHours world hours
      simp only [replayHours]
      split
      · rename_i after count answered
        rw [answered] at called
        exact (called.trans (undisturbed_noteSchedulerCount after count)).trans (ih _)
      · rename_i after fault answered
        rw [answered] at called
        exact ⟨called.footing, called.tracks⟩
      · rename_i after error answered
        rw [answered] at called
        split
        · exact ⟨called.footing, called.tracks⟩
        · exact ⟨called.footing, called.tracks⟩

theorem undisturbed_retryPending (world : World H) :
    Undisturbed world world.retryPending.1 := by
  have retried := undisturbed_retrySeason world
  simp only [retryPending]
  split
  · rename_i after fault answered
    rw [answered] at retried
    exact retried
  · rename_i after answered
    rw [answered] at retried
    exact retried.trans (undisturbed_replayHours _ after)

/-! ### Jobs before a backdrop -/

theorem undisturbed_performJob {job : Job} (posted : Job.Posted job)
    (about : job.deed? = none) (world : World H) :
    Undisturbed world (world.performJob job) := by
  have acted : Undisturbed world (world.perform job.work).1 := by
    cases posted with
    | localWrite id valid => cases about
    | message valid =>
        rename_i message
        cases message with
        | humanSpawn state => cases about
        | humanDespawn id => cases about
        | humanUpdate state => cases about
        | envSeason value =>
            change Undisturbed world (world.receiveSeason value).1
            simp only [receiveSeason]
            split
            · exact undisturbed_applySeason world _
            · exact .of_view (view_note world _)
        | envClockAdvance hours => exact undisturbed_advanceHours world hours
        | chat text => exact .of_view (view_fire world _)
  exact acted.trans (.of_view (view_performJob world job))

/-- No job changes the footing. -/
theorem footing_performJob {job : Job} (posted : Job.Posted job) (world : World H) :
    (world.performJob job).footing = world.footing := by
  cases about : job.deed? with
  | none => exact (undisturbed_performJob posted about world).footing
  | some subject =>
      exact congrArg Backdrop.footing (retracks_performJob about world).backdrop

/-- Before one backdrop a job leaves one backdrop, whatever the tracks. -/
theorem SameBackdrop.performJob {job : Job} (posted : Job.Posted job) {left right : World H}
    (same : left.SameBackdrop right) :
    (left.performJob job).SameBackdrop (right.performJob job) := by
  cases about : job.deed? with
  | some subject =>
      exact ((retracks_performJob about left).backdrop.trans same).trans
        (retracks_performJob about right).backdrop.symm
  | none =>
      have acted : (left.perform job.work).1.SameBackdrop (right.perform job.work).1 := by
        cases posted with
        | localWrite id valid => cases about
        | message valid =>
            rename_i message
            cases message with
            | humanSpawn state => cases about
            | humanDespawn id => cases about
            | humanUpdate state => cases about
            | envSeason value =>
                change (left.receiveSeason value).1.SameBackdrop (right.receiveSeason value).1
                simp only [receiveSeason]
                split
                · obtain ⟨left', right', answer, leftApplied, rightApplied, same'⟩ :=
                    applySeason_agree same _
                  rw [leftApplied, rightApplied]
                  exact same'
                · exact same.note _ _
            | envClockAdvance hours =>
                obtain ⟨left', right', answer, leftAdvanced, rightAdvanced, same'⟩ :=
                  advanceHours_agree same hours
                change (left.advanceHours hours).1.SameBackdrop (right.advanceHours hours).1
                rw [leftAdvanced, rightAdvanced]
                exact same'
            | chat text =>
                have fired (world : World H) :
                    (world.fire (.chat text)).1.backdrop = world.backdrop :=
                  congrArg View.backdrop (view_fire world _)
                exact ((fired left).trans same).trans (fired right).symm
      have left' := congrArg View.backdrop (view_performJob left job)
      have right' := congrArg View.backdrop (view_performJob right job)
      exact (left'.trans acted).trans right'.symm

end Effects

end World

end ReplicaBridge
