/-
Module: ReplicaBridge.Proofs.FrameTeardown
Purpose: When a frame of the game ends without the teardown that was asked for.  The flag
  is looked at after the frame, so a frame that unwinds skips it.  Tasks may do as they
  like: what unwinds in them ends with them, and no drain changes what the frame listeners
  are going to do.  A frame listener that unwinds, and a retry that does, are what is left.
Main exports: Listeners.Unwinds, Listeners.unwinds_fire_iff, World.frameListener,
  Session.FrameUnwinds, Session.runFrame_unwinds_iff, Plugin.FrameUnwinds,
  Plugin.shutdownRequested_gameFrame_iff
-/
import ReplicaBridge.Host.TableStore
import ReplicaBridge.Plugin
import ReplicaBridge.Proofs.Hearing
import ReplicaBridge.Proofs.SteadyLoop

namespace ReplicaBridge

open Host (Loaded PropertyRecord ReflectionHost TableEntry TableStore)
open Schedule (GameLoop QueueEvent Script Workplace)
open Wire (Message)

/-! ### A round of listeners -/

namespace Listeners

variable {σ : Type} {listeners : Listeners} {index : Nat} {listener : Listener}

/-- Some listener of the kind is going to unwind at its next call. -/
def Unwinds (listeners : Listeners) (kind : SignalKind) : Prop :=
  ∃ index listener, listeners.hearing? kind index = some listener ∧
    listener.panics listener.calls = true

/-- A listener that hears a kind of signal was registered for it, in a slot there is. -/
theorem of_hearing? {kind : SignalKind} (heard : listeners.hearing? kind index = some listener) :
    index < listeners.slots.length ∧ (listeners.slots.getD index {}).listener = some listener ∧
      listener.kind = kind := by
  obtain ⟨registered, sameKind⟩ := Option.filter_eq_some_iff.mp heard
  refine ⟨?_, registered, by simpa using sameKind⟩
  rcases Nat.lt_or_ge index listeners.slots.length with inside | outside
  · exact inside
  · rw [List.getD_eq_getElem?_getD, List.getElem?_eq_none outside] at registered
    cases registered

/-- A counted call is nothing to the listeners in other slots. -/
theorem hearing?_countCall_of_ne {other : Nat} (kind : SignalKind) (ne : index ≠ other) :
    (listeners.countCall index listener).hearing? kind other = listeners.hearing? kind other := by
  simp only [hearing?, countCall, List.getD_eq_getElem?_getD, List.getElem?_set_ne ne]

/-- A counted call is nothing to the listeners of other kinds. -/
theorem hearing?_countCall_of_kind {kind : SignalKind}
    (registered : (listeners.slots.getD index {}).listener = some listener)
    (ne : listener.kind ≠ kind) (other : Nat) :
    (listeners.countCall index listener).hearing? kind other = listeners.hearing? kind other := by
  by_cases same : index = other
  · subst same
    have before : listeners.hearing? kind index = none := by
      unfold hearing?
      rw [registered]
      simp [ne]
    rw [before]
    by_cases inside : index < listeners.slots.length
    · simp [hearing?, countCall, List.getD_eq_getElem?_getD, inside, ne]
    · simp [hearing?, countCall, List.getD_eq_getElem?_getD, inside]
  · exact hearing?_countCall_of_ne kind same

/-- A round for one kind of signal is nothing to the listeners of other kinds. -/
theorem hearing?_fireEach {signal : Signal} {kind : SignalKind} (ne : signal.kind ≠ kind)
    (react : Reaction → σ → σ) (indices : List Nat) (listeners : Listeners) (world : σ)
    (other : Nat) : (fireEach signal react indices listeners world).1.1.hearing? kind other =
      listeners.hearing? kind other := by
  induction indices generalizing listeners world with
  | nil => rfl
  | cons index rest ih =>
      simp only [fireEach]
      split
      · exact ih listeners world
      · rename_i listener heard
        obtain ⟨-, registered, sameKind⟩ := of_hearing? heard
        have counted := hearing?_countCall_of_kind registered (sameKind ▸ ne) other
        split
        · exact counted
        · exact (ih _ _).trans counted

/-- A round unwinds exactly if one of the listeners in it is going to: the calls before it
are those of other slots. -/
theorem unwinds_fireEach_iff (signal : Signal) (react : Reaction → σ → σ) {indices : List Nat}
    (distinct : indices.Nodup) (listeners : Listeners) (world : σ) :
    (fireEach signal react indices listeners world).2 = true ↔
      ∃ index ∈ indices, ∃ listener, listeners.hearing? signal.kind index = some listener ∧
        listener.panics listener.calls = true := by
  induction indices generalizing listeners world with
  | nil => simp [fireEach]
  | cons index rest ih =>
      obtain ⟨fresh, distinct⟩ := List.nodup_cons.mp distinct
      simp only [fireEach]
      split
      · rename_i silent
        simp [ih distinct, silent]
      · rename_i listener heard
        split
        · rename_i panics
          exact iff_of_true rfl ⟨index, List.mem_cons_self, listener, heard, panics⟩
        · rename_i calm
          -- The rest of the round does not come back to the slot whose call was counted.
          have later : ∀ other ∈ rest,
              (listeners.countCall index listener).hearing? signal.kind other =
                listeners.hearing? signal.kind other := by
            intro other among
            exact hearing?_countCall_of_ne _ fun same => fresh (same ▸ among)
          rw [ih distinct]
          constructor
          · rintro ⟨other, among, unwinding⟩
            exact ⟨other, List.mem_cons_of_mem _ among, later other among ▸ unwinding⟩
          · rintro ⟨other, among, unwinding, listed, panics⟩
            cases among with
            | head =>
                rw [heard] at listed
                cases listed
                exact absurd panics calm
            | tail _ among =>
                exact ⟨other, among, unwinding, (later other among).trans listed, panics⟩

/-- A signal unwinds exactly if some listener of its kind is going to. -/
theorem unwinds_fire_iff (listeners : Listeners) (signal : Signal) (react : Reaction → σ → σ)
    (world : σ) :
    (listeners.fire signal react world).2 = true ↔ listeners.Unwinds signal.kind := by
  refine (unwinds_fireEach_iff signal react List.nodup_range listeners world).trans ?_
  constructor
  · rintro ⟨index, -, listener, heard, panics⟩
    exact ⟨index, listener, heard, panics⟩
  · rintro ⟨index, listener, heard, panics⟩
    exact ⟨index, List.mem_range.mpr (of_hearing? heard).1, listener, heard, panics⟩

end Listeners

/-! ### The frame listeners of a world -/

namespace World

variable {H : Type}

/-- The frame listener in a slot, with the calls it has had. -/
def frameListener (world : World H) (index : Nat) : Option Listener :=
  world.listeners.hearing? .frame index

/-- What never reaches the ears leaves the frame listeners alone. -/
theorem frameListener_of_ears {before after : World H} (same : after.ears = before.ears) :
    after.frameListener = before.frameListener := by
  have listeners : after.listeners = before.listeners := congrArg Prod.fst same
  unfold frameListener
  rw [listeners]

/-- A signal of another kind counts no call of a frame listener. -/
theorem frameListener_fire (world : World H) {signal : Signal} (other : signal.kind ≠ .frame) :
    (world.fire signal).1.frameListener = world.frameListener := by
  have announced : ((announcement? signal).elim world world.note).listeners = world.listeners := by
    cases announcement? signal <;> rfl
  funext index
  refine (Listeners.hearing?_fireEach other _ _ _ _ index).trans ?_
  rw [announced]
  rfl

theorem frameListener_tells {before after : World H} {signal : Option Signal}
    (tells : before.Tells signal after)
    (others : ∀ other, signal = some other → other.kind ≠ .frame) :
    after.frameListener = before.frameListener := by
  obtain ⟨quiet, unheard, ears⟩ := tells
  refine (frameListener_of_ears ears).trans (Eq.trans ?_ (frameListener_of_ears unheard))
  cases signal with
  | none => rfl
  | some signal => exact frameListener_fire quiet (others signal rfl)

theorem frameListener_hear (event : QueueEvent) (world : World H) :
    (world.hear event).frameListener = world.frameListener := by
  cases event <;> rfl

section Jobs

variable [ReflectionHost H]

theorem frameListener_perform (work : Work) (world : World H) :
    (perform work world).1.frameListener = world.frameListener := by
  cases work with
  | note label => rfl
  | _ =>
      exact frameListener_tells (tells_perform (fun _ same => Work.noConfusion same) world)
        fun signal => Work.kind_signal?

/-- No work and nothing about the queue changes what the frame listeners are going to do. -/
theorem steady_frameListener :
    GameLoop.Steady (frameListener : World H → Nat → Option Listener) where
  perform work world := frameListener_perform work world
  hear event world := frameListener_hear event world
  onThread _ _ := rfl

end Jobs

/-- A world's frame signal unwinds exactly if one of its frame listeners is going to. -/
theorem unwinds_fire_frame_iff (world : World H) (number : Nat) :
    (∃ fault, (world.fire (.frame number)).2 = .error fault) ↔
      world.listeners.Unwinds .frame := by
  refine Iff.trans ?_ (Listeners.unwinds_fire_iff world.listeners (.frame number)
    (react (.frame number)) world)
  by_cases unwound : (world.listeners.fire (.frame number) (react (.frame number)) world).2 = true
  · simp [fire, announcement?, unwound]
  · simp [fire, announcement?, unwound]

theorem unwinds_congr {before after : World H}
    (same : after.frameListener = before.frameListener) :
    after.listeners.Unwinds .frame ↔ before.listeners.Unwinds .frame := by
  have each : ∀ index, after.listeners.hearing? .frame index =
      before.listeners.hearing? .frame index := congrFun same
  simp only [Listeners.Unwinds, each]

end World

/-! ### The frame of a session -/

namespace Session

variable {H : Type} [ReflectionHost H]

/-- What waits for the host unwinds when it is tried, after the queue was drained. -/
def RetryUnwinds (session : Session H) (caller : Caller) : Prop :=
  ∃ fault, (retryPending (GameLoop.drain session caller).1 caller).2 = .error fault

/-- The session's next frame unwinds: what waits for the host does, or a frame listener. -/
def FrameUnwinds (session : Session H) (caller : Caller) : Prop :=
  session.RetryUnwinds caller ∨ session.world.listeners.Unwinds .frame

theorem frameListener_retryPending (session : Session H) (caller : Caller) :
    (session.retryPending caller).1.world.frameListener = session.world.frameListener := by
  cases caller with
  | gameThread => exact World.frameListener_of_ears (World.ears_retryPending session.world)
  | elsewhere => rfl

/-- A frame unwinds exactly if the retry in it does or some frame listener is going to: what
the queue holds, its tasks and the other listeners do not matter. -/
theorem runFrame_unwinds_iff (session : Session H) (caller : Caller) (number : Nat) :
    (∃ fault, (session.runFrame caller number).2 = .error fault) ↔
      session.FrameUnwinds caller := by
  have drained : (GameLoop.drain session caller).1.world.frameListener =
      session.world.frameListener :=
    World.steady_frameListener.observe_drain session caller
  have retried := (frameListener_retryPending (GameLoop.drain session caller).1 caller).trans
    drained
  unfold runFrame FrameUnwinds RetryUnwinds
  dsimp only
  split
  · rename_i after fault unwound
    exact iff_of_true ⟨fault, rfl⟩ (Or.inl ⟨fault, by rw [unwound]⟩)
  · rename_i after calm
    have listeners : after.world.tick.frameListener = session.world.frameListener := by
      rw [calm] at retried
      exact (World.frameListener_of_ears (World.ears_tick after.world)).trans retried
    have fired := (World.unwinds_fire_frame_iff after.world.tick number).trans
      (World.unwinds_congr listeners)
    -- The retry is behind us, and it did not unwind.
    have quiet : ¬∃ fault, (retryPending (GameLoop.drain session caller).1 caller).2 =
        .error fault := by
      rw [calm]
      rintro ⟨fault, unwound⟩
      cases unwound
    rw [or_iff_right quiet, ← fired]
    simp only [onWorld]
    cases (after.world.tick.fire (.frame number)).2 <;> simp [Except.map]

end Session

/-! ### The frame of the game -/

namespace Plugin

variable {H : Type} [ReflectionHost H]

/-- A session is running and its next frame unwinds. -/
def FrameUnwinds (plugin : Plugin H) (thread : Thread) : Prop :=
  ∃ gameThread session, plugin.phase = .running gameThread session ∧
    session.FrameUnwinds (thread.callerFor gameThread)

/-- A session that was torn down is not to be torn down. -/
theorem shutdownRequested_shutDown (plugin : Plugin H) (thread : Thread) :
    (plugin.shutDown thread).1.shutdownRequested = false := by
  unfold shutDown
  split
  · rename_i idle
    simp [shutdownRequested, isRunning, session?, idle]
  · rfl

/-- While no session is running a frame of the game is only counted. -/
theorem gameFrame_idle {plugin : Plugin H} {host : Host.CountedHost H} {report : Report}
    (idle : plugin.phase = .idle host report) (thread : Thread) :
    plugin.gameFrame thread = ({ plugin with frames := plugin.frames + 1 }, 0) := by
  simp [gameFrame, onSession, idle, shutdownRequested, isRunning, session?]

/-- The frame of a running session: one that does not unwind is followed by the teardown that
was asked for. -/
theorem shutdownRequested_gameFrame_running {plugin : Plugin H} {gameThread : Thread}
    {session : Session H} (running : plugin.phase = .running gameThread session)
    (thread : Thread) :
    (plugin.gameFrame thread).1.shutdownRequested = true ↔
      session.FrameUnwinds (thread.callerFor gameThread) ∧
        (plugin.gameFrame thread).1.status.shutdownRequested = true := by
  have unwinds := session.runFrame_unwinds_iff (thread.callerFor gameThread) (plugin.frames + 1)
  unfold gameFrame onSession
  rw [running]
  dsimp only
  rw [← unwinds]
  cases outcome : (session.runFrame (thread.callerFor gameThread) (plugin.frames + 1)).2 with
  | error fault => simp [shutdownRequested, isRunning, session?, resume]
  | ok executed =>
      have torn := fun plugin : Plugin H => shutdownRequested_shutDown plugin thread
      dsimp only
      split
      · simp [torn]
      · rename_i calm
        simp [calm]

/-- A session that is to be torn down outlives the frame of the game exactly if the frame
unwinds: every other frame tears it down. -/
theorem shutdownRequested_gameFrame_iff (plugin : Plugin H) (thread : Thread) :
    (plugin.gameFrame thread).1.shutdownRequested = true ↔
      plugin.FrameUnwinds thread ∧
        (plugin.gameFrame thread).1.status.shutdownRequested = true := by
  unfold FrameUnwinds
  cases running : plugin.phase with
  | idle host report =>
      rw [gameFrame_idle running]
      simp [shutdownRequested, isRunning, session?, running]
  | running gameThread session =>
      rw [shutdownRequested_gameFrame_running running]
      constructor
      · rintro ⟨unwinds, requested⟩
        exact ⟨⟨gameThread, session, rfl, unwinds⟩, requested⟩
      · rintro ⟨⟨_, _, same, unwinds⟩, requested⟩
        cases same
        exact ⟨unwinds, requested⟩

/-- The parameter of `AdvanceHours` is wider than expected, so the hours make the host
unsupported and the teardown is asked for; then a frame listener unwinds, and the session
is still there. -/
theorem gameFrame_keeps_doomed_session :
    let scheduler : TableEntry :=
      { TableEntry.named (Text.utf8 "Game.Scheduler") 1 with
        methods := [(Text.utf8 "AdvanceHours", { address := 32 })] }
    let hours : PropertyRecord :=
      { name := Text.utf8 "InHours", offset := 0, elementSize := 8, arrayDim := 1, flags := 128 }
    let advanceHours : TableEntry :=
      { TableEntry.named (Text.utf8 "Game.Scheduler.AdvanceHours") 2 with
        chain := [{ record := hours, readable := true }] }
    let instance_ : TableEntry :=
      { TableEntry.named (Text.utf8 "Level.Scheduler_0") 0 with owner := { address := 16 } }
    let table : TableStore := { slots := [some scheduler, some advanceHours, some instance_] }
    let game : Thread := { number := 0 }
    let fresh : Plugin (Loaded TableStore) := { phase := .idle { store := { table } } {} }
    let started := ((fresh.load game (some { version := 1, missing := [] })).1.registryReady game).1
    let heard (listener : Listener) := (started.listen game listener).1
    let asked (plugin : Plugin (Loaded TableStore)) :=
      (plugin.receive game 0 ((Message.envClockAdvance 6).encode.toOption.getD [])).1
    let panicking : Listener :=
      { kind := .frame, reaction := .record "frame", panics := fun calls => calls == 0 }
    ((asked started).gameFrame game).1.isRunning = false ∧
      ((asked (heard panicking)).gameFrame game).1.isRunning = true ∧
      ((asked (heard panicking)).gameFrame game).1.status.word = 7 ∧
      ((asked (heard panicking)).gameFrame game).1.shutdownRequested = true := by
  decide +kernel

end Plugin

end ReplicaBridge
