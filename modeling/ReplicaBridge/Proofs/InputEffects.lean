/-
Module: ReplicaBridge.Proofs.InputEffects
Purpose: What each input does to the view of a session's world.  Frames that run off the
  game thread, refused messages and new listeners touch the footing at most; a frame on the
  game thread performs the queue, and then either unwinds or ages every track by a tick.
Main exports: Footing.afterReject, World.view_tick, World.finishFrame_cases,
  Session.viewAfter, Session.view_step, Session.view_step_congr, Session.track_step,
  Session.Holds.runFrame_cases, Session.Holds.untimed_step
-/
import ReplicaBridge.Proofs.HostEffects

namespace ReplicaBridge

open Host (CountedHost Recorded ReflectionHost)
open Schedule (Scheduler)

/-! ### The footing -/

namespace Footing

/-- A frame has passed. -/
def afterTick (footing : Footing) : Footing :=
  { footing with tick := footing.tick + 1 }

/-- A message was refused at a time; too many of them close the channel. -/
def afterReject (now : Nat) (footing : Footing) : Footing :=
  let settings := footing.replication
  let recent := (footing.recentRejects ++ [now]).dropWhile fun at_ =>
    decide (settings.invalidBurstWindowMs * Channel.nanosPerMilli < now - at_)
  { footing with
    recentRejects := recent
    closed := if max settings.invalidBurstThreshold 1 ≤ recent.length then true
      else footing.closed }

/-- The footing without its clock: what decides which frames and local writes are taken over. -/
def untimed (footing : Footing) : Footing :=
  { footing with tick := 0 }

end Footing

namespace View

variable {H : Type}

/-- The same view over another footing. -/
def onFooting (change : Footing → Footing) (view : View H) : View H :=
  { view with backdrop := { view.backdrop with footing := change view.backdrop.footing } }

/-- A tick has passed: the updates that waited too long are gone. -/
def aged (view : View H) : View H :=
  { view.onFooting .afterTick with
    held := view.held.filter (EarlyUpdates.isFresh (view.backdrop.footing.tick + 1)
      view.backdrop.footing.replication.pendingUpdateTicks) }

/-- A row is written. -/
def withRow (id : EntityId) (state : AvatarState) (view : View H) : View H :=
  { view with rows := view.rows.insert id (state.withId id) }

theorem track_aged (view : View H) (id : EntityId) : view.aged.track id =
    (view.track id).aged (view.backdrop.footing.tick + 1)
      view.backdrop.footing.replication.pendingUpdateTicks := by
  simp [track, aged, onFooting, Track.aged, EntityMap.get?_filter]

theorem track_withRow (view : View H) (id other : EntityId) (state : AvatarState) :
    (view.withRow id state).track other =
      if id = other then { view.track id with row := some (state.withId id) }
      else view.track other := by
  simp only [track, withRow]
  rw [EntityMap.get?_insert]
  split
  · rename_i same
    rw [same]
  · rfl

end View

namespace World

variable {H : Type}

theorem view_tick (world : World H) : world.tick.view = world.view.aged := by
  unfold tick
  rw [view_noteIf]
  rfl

theorem view_reject (world : World H) (now : Nat) (error : ChannelError) :
    (world.reject now error).view = world.view.onFooting (.afterReject now) := by
  let counted := world.channel.countReject world.settings.replication.invalidBurstWindowMs now
  let limit := max world.settings.replication.invalidBurstThreshold 1
  change _ = View.mk { world.backdrop with
    footing := { world.footing with
      recentRejects := counted.recentRejects
      closed := if limit ≤ counted.burst then true else world.channel.closed } } _ _
  unfold reject
  dsimp only
  split
  · rename_i tooMany
    have closes : (if limit ≤ counted.burst then true else world.channel.closed) = true :=
      if_pos tooMany
    simp only [close]
    rw [view_noteIf, closes]
    rfl
  · rename_i few
    have stays : (if limit ≤ counted.burst then true else world.channel.closed) =
        world.channel.closed := if_neg few
    rw [stays]
    rfl

theorem view_setLocalEntity (world : World H) (id : EntityId) :
    (world.setLocalEntity id).view =
      world.view.onFooting ({ · with localEntity := Replica.assigned id }) := by
  unfold setLocalEntity
  rw [view_noteIf]
  rfl

/-- Worlds of one view stand before one backdrop. -/
theorem SameBackdrop.of_view {left right : World H} (same : left.view = right.view) :
    left.SameBackdrop right :=
  congrArg View.backdrop same

section Frames

variable [ReflectionHost H]

/-- The part of a frame that follows the drain either unwinds, and then no tick passes, or
ages the tracks by a tick. -/
theorem finishFrame_cases (world : World H) (caller : Caller) (number : Nat) :
    Undisturbed world (world.finishFrame caller number) ∨
      ∃ retried, Undisturbed world retried ∧
        (world.finishFrame caller number).view = retried.view.aged := by
  simp only [finishFrame]
  cases caller with
  | elsewhere =>
      exact Or.inr ⟨world, .of_view rfl, (view_fire _ _).trans (view_tick world)⟩
  | gameThread =>
      have retried := undisturbed_retryPending world
      dsimp only
      split
      · rename_i after fault answered
        rw [answered] at retried
        exact Or.inl retried
      · rename_i after answered
        rw [answered] at retried
        exact Or.inr ⟨after, retried, (view_fire _ _).trans (view_tick after)⟩

theorem view_finishFrame_congr {left right : World H} (same : left.view = right.view)
    (caller : Caller) (number : Nat) :
    (left.finishFrame caller number).view = (right.finishFrame caller number).view := by
  simp only [finishFrame]
  cases caller with
  | elsewhere => simp only [view_fire, view_tick, same]
  | gameThread =>
      have leftRetried := undisturbed_retryPending left
      have rightRetried := undisturbed_retryPending right
      obtain ⟨left', right', answer, leftAnswer, rightAnswer, same'⟩ :=
        retryPending_agree (.of_view same)
      rw [leftAnswer] at leftRetried ⊢
      rw [rightAnswer] at rightRetried ⊢
      have retried : left'.view = right'.view := View.ext_track same' fun id => by
        have tracks : left.track id = right.track id := congrArg (View.track · id) same
        exact ((leftRetried.tracks id).trans tracks).trans (rightRetried.tracks id).symm
      cases answer with
      | error fault => exact retried
      | ok answer => simp only [view_fire, view_tick, retried]

theorem footing_performAll {jobs : List Job} (posted : ∀ job ∈ jobs, Job.Posted job)
    (world : World H) : (world.performAll jobs).footing = world.footing := by
  induction jobs generalizing world with
  | nil => rfl
  | cons job rest ih =>
      rw [performAll_cons, ih fun other waits => posted other (List.mem_cons_of_mem job waits),
        footing_performJob (posted job List.mem_cons_self)]

end Frames

end World

namespace Session

variable {H : Type}

/-- Why the message of a frame is refused, if it is; a closed channel refuses nothing, it
does not listen any more. -/
def refused? (session : Session H) (frame : Bytes) : Option ChannelError :=
  if session.world.channel.closed then none
  else match accept session.world.settings.replication frame with
    | .error error => some error
    | .ok _ => none

theorem untimed_of_view {left right : Session H} (same : left.world.view = right.world.view) :
    left.world.footing.untimed = right.world.footing.untimed :=
  congrArg (fun view => view.backdrop.footing.untimed) same

section Congruence

variable {left right : Session H}
  (same : left.world.footing.untimed = right.world.footing.untimed)

include same

/-- What a session takes over depends on its footing alone, and not on the time. -/
theorem accepted?_congr (frame : Bytes) : left.accepted? frame = right.accepted? frame := by
  have closed : left.world.channel.closed = right.world.channel.closed :=
    congrArg Footing.closed same
  have settings : left.world.settings.replication = right.world.settings.replication :=
    congrArg Footing.replication same
  simp only [accepted?]
  rw [closed, settings]

theorem refused?_congr (frame : Bytes) : left.refused? frame = right.refused? frame := by
  have closed : left.world.channel.closed = right.world.channel.closed :=
    congrArg Footing.closed same
  have settings : left.world.settings.replication = right.world.settings.replication :=
    congrArg Footing.replication same
  simp only [refused?]
  rw [closed, settings]

theorem localWrite?_congr (state : AvatarState) :
    left.localWrite? state = right.localWrite? state := by
  have closed : left.world.channel.closed = right.world.channel.closed :=
    congrArg Footing.closed same
  have localEntity : left.world.replica.localEntity = right.world.replica.localEntity :=
    congrArg Footing.localEntity same
  simp only [localWrite?]
  rw [closed, localEntity]

end Congruence

/-- What an input posts depends on the footing, too. -/
theorem posted?_congr {left right : Session (Recorded H)}
    (same : left.world.footing.untimed = right.world.footing.untimed) (input : Input H) :
    left.posted? input = right.posted? input := by
  cases input with
  | receive now frame => exact congrArg (Option.map jobFor) (accepted?_congr same frame)
  | sendLocal caller state =>
      cases caller with
      | gameThread => rfl
      | elsewhere =>
          exact congrArg (Option.map (localJob · state)) (localWrite?_congr same state)
  | _ => rfl

section Inputs

variable [ReflectionHost H]

theorem view_queue (session : Session H) (kind : Schedule.TaskKind) (work : Work) :
    (session.queue kind work).world.view = session.world.view := by
  unfold queue Schedule.GameLoop.post Schedule.GameLoop.hear
  dsimp only
  split
  · rfl
  · exact World.view_hear session.world _

theorem view_receive (session : Session H) (now : Nat) (frame : Bytes) :
    (session.receive now frame).1.world.view =
      match session.refused? frame with
      | some _ => session.world.view.onFooting (.afterReject now)
      | none => session.world.view := by
  simp only [receive, refused?]
  split
  · rfl
  · cases accept session.world.settings.replication frame with
    | error error => exact World.view_reject _ now error
    | ok message => exact view_queue _ _ _

theorem view_sendLocal (session : Session H) (caller : Caller) (state : AvatarState) :
    (session.sendLocal caller state).1.world.view =
      match caller, session.localWrite? state with
      | .gameThread, some id => session.world.view.withRow id (state.withId id)
      | _, _ => session.world.view := by
  simp only [sendLocal, updateLocal, localWrite?]
  cases session.world.channel.closed with
  | true => cases caller <;> rfl
  | false =>
      cases session.world.replica.localEntity with
      | none => cases caller <;> cases state.isValid <;> rfl
      | some id =>
          cases state.isValid with
          | false => cases caller <;> rfl
          | true =>
              cases caller with
              | gameThread =>
                  exact World.view_enqueue (session.world.writeRow id (state.withId id))
                    (.humanUpdate (state.withId id))
              | elsewhere =>
                  exact (World.view_enqueue _ (.humanUpdate (state.withId id))).trans
                    (view_queue (session.mapWorld (·.note (.threadViolation
                      "Replica.updateLocal"))) (.localAvatarUpdate id)
                      (.writeRow id (state.withId id)))

theorem view_runFrame_elsewhere (session : Session (Recorded H)) (number : Nat) :
    (session.step (.runFrame .elsewhere number)).world.view = session.world.view.aged := by
  rw [world_runFrame_elsewhere]
  exact (World.view_fire _ _).trans ((World.view_tick _).trans rfl)

/-- The view after an input that leaves the queue alone or posts to it. -/
def viewAfter (session : Session (Recorded H)) : Input H → View (Recorded H)
  | .receive now frame =>
    if (session.refused? frame).isSome then session.world.view.onFooting (.afterReject now)
    else session.world.view
  | .runFrame _ _ => session.world.view.aged
  | .setLocalEntity id =>
    session.world.view.onFooting ({ · with localEntity := Replica.assigned id })
  | .sendLocal .gameThread state =>
    match session.localWrite? state with
    | some id => session.world.view.withRow id (state.withId id)
    | none => session.world.view
  | .registryChanged => session.registryChanged.world.view
  | .hostChanges store => (session.changeHost store).world.view
  | .sendLocal .elsewhere _ | .listen _ | .unlisten _ => session.world.view

theorem view_step (session : Session (Recorded H)) {input : Input H}
    (waits : input.drains = false) : (session.step input).world.view = session.viewAfter input := by
  cases input with
  | receive now frame =>
      refine (view_receive session now frame).trans ?_
      simp only [viewAfter]
      cases session.refused? frame <;> rfl
  | runFrame caller number =>
      cases caller with
      | gameThread => cases waits
      | elsewhere => exact view_runFrame_elsewhere session number
  | setLocalEntity id => exact World.view_setLocalEntity session.world id
  | sendLocal caller state =>
      refine (view_sendLocal session caller state).trans ?_
      cases caller with
      | elsewhere => rfl
      | gameThread =>
          simp only [viewAfter]
          cases session.localWrite? state <;> rfl
  | _ => rfl

omit [ReflectionHost H] in
theorem footing_viewAfter (session : Session (Recorded H)) (input : Input H) :
    (session.viewAfter input).backdrop.footing =
      match input with
      | .receive now frame =>
        if (session.refused? frame).isSome then session.world.footing.afterReject now
        else session.world.footing
      | .runFrame _ _ => session.world.footing.afterTick
      | .setLocalEntity id => { session.world.footing with localEntity := Replica.assigned id }
      | _ => session.world.footing := by
  cases input with
  | receive now frame =>
      simp only [viewAfter]
      split <;> rfl
  | sendLocal caller state =>
      cases caller with
      | elsewhere => rfl
      | gameThread =>
          simp only [viewAfter]
          split <;> rfl
  | _ => rfl

/-- Sessions of one view are of one view after any input that leaves their queues alone or
posts to them. -/
theorem view_step_congr {left right : Session (Recorded H)}
    (same : left.world.view = right.world.view) (input : Input H)
    (waits : input.drains = false) :
    (left.step input).world.view = (right.step input).world.view := by
  rw [view_step left waits, view_step right waits]
  have footing := untimed_of_view same
  cases input with
  | receive now frame => simp only [viewAfter, refused?_congr footing, same]
  | sendLocal caller state =>
      cases caller with
      | elsewhere => exact same
      | gameThread => simp only [viewAfter, localWrite?_congr footing, same]
  | registryChanged =>
      exact congrArg (fun view => { view with backdrop := { view.backdrop with
        registry := view.backdrop.registry.forget } }) same
  | hostChanges store =>
      exact congrArg (fun view => { view with backdrop := { view.backdrop with
        host := { view.backdrop.host with
          store := { view.backdrop.host.store with store } } } }) same
  | _ => simp only [viewAfter, same]

/-! ### What a run keeps -/

omit [ReflectionHost H] in
theorem drains_of_not_frame {input : Input H}
    (notFrame : ∀ caller number, input ≠ .runFrame caller number) : input.drains = false := by
  cases input with
  | runFrame caller number => exact absurd rfl (notFrame caller number)
  | _ => rfl

/-- Only frames tick. -/
theorem tick_step (session : Session (Recorded H)) {input : Input H}
    (notFrame : ∀ caller number, input ≠ .runFrame caller number) :
    (session.step input).world.channel.tick = session.world.channel.tick := by
  have seen := view_step session (drains_of_not_frame notFrame)
  have footing := (congrArg (fun view => view.backdrop.footing) seen).trans
    (footing_viewAfter session input)
  refine (congrArg Footing.tick footing).trans ?_
  cases input with
  | runFrame caller number => exact absurd rfl (notFrame caller number)
  | receive now frame =>
      dsimp only
      split <;> rfl
  | _ => rfl

/-- Other inputs leave the tracks alone, but for a local write on the game thread. -/
theorem track_step (session : Session (Recorded H)) {input : Input H}
    (notFrame : ∀ caller number, input ≠ .runFrame caller number) {id : EntityId} :
    (session.step input).world.track id =
      match input with
      | .sendLocal .gameThread state =>
        if session.localWrite? state = some id then
          { session.world.track id with row := some (state.withId id) }
        else session.world.track id
      | _ => session.world.track id := by
  refine (congrArg (View.track · id)
    (view_step session (drains_of_not_frame notFrame))).trans ?_
  cases input with
  | runFrame caller number => exact absurd rfl (notFrame caller number)
  | receive now frame =>
      simp only [viewAfter]
      split <;> rfl
  | sendLocal caller state =>
      cases caller with
      | elsewhere => rfl
      | gameThread =>
          simp only [viewAfter]
          cases written : session.localWrite? state with
          | none => rfl
          | some owner =>
              rw [View.track_withRow]
              by_cases same : owner = id
              · subst same
                rw [if_pos rfl, if_pos rfl]
                rfl
              · rw [if_neg same, if_neg fun claimed => same (Option.some.inj claimed)]
                rfl
  | _ => rfl

/-- A frame on the game thread performs the queue; then it unwinds, or a tick passes. -/
theorem Holds.runFrame_cases {session : Session (Recorded H)} {backlog : Scheduler Work}
    (holds : session.Holds backlog) (number : Nat) :
    let performed := session.world.performAll backlog.queue
    let after := (session.step (.runFrame .gameThread number)).world
    (after.footing = session.world.footing ∧ ∀ id, after.track id = performed.track id) ∨
      (after.footing = session.world.footing.afterTick ∧
        ∀ id, after.track id = (performed.track id).aged (session.world.channel.tick + 1)
          session.world.settings.replication.pendingUpdateTicks) := by
  have footing := World.footing_performAll holds.posted session.world
  rw [holds.world_runFrame]
  rcases World.finishFrame_cases (session.world.performAll backlog.queue) .gameThread number with
    same | ⟨retried, same, ticked⟩
  · exact Or.inl ⟨same.footing.trans footing, same.tracks⟩
  · have grounds : retried.footing = session.world.footing := same.footing.trans footing
    refine Or.inr ⟨?_, fun id => ?_⟩
    · exact (congrArg (fun view => view.backdrop.footing) ticked).trans
        (congrArg Footing.afterTick grounds)
    · rw [← same.tracks id]
      refine (congrArg (View.track · id) ticked).trans ?_
      rw [View.track_aged]
      change (retried.track id).aged (retried.footing.tick + 1)
        retried.footing.replication.pendingUpdateTicks = _
      rw [grounds]
      rfl

/-- In a frame that comes to its end a tick passes. -/
theorem Holds.tick_runFrame {session : Session (Recorded H)} {backlog : Scheduler Work}
    (holds : session.Holds backlog) {number : Nat}
    (completed : (session.runFrame .gameThread number).2.isOk = true) :
    (session.step (.runFrame .gameThread number)).world.channel.tick =
      session.world.channel.tick + 1 := by
  have drained := drain_gameThread holds.queued holds.accepting
  have footing := World.footing_performAll holds.posted session.world
  have retried := World.undisturbed_retryPending (session.world.performAll backlog.queue)
  rw [holds.world_runFrame]
  unfold runFrame at completed
  rcases answered : Schedule.GameLoop.drain session .gameThread with ⟨after, executed⟩
  rw [answered] at completed drained
  have performed : after.world = session.world.performAll backlog.queue :=
    congrArg Schedule.GameLoop.world drained
  simp only [World.finishFrame]
  unfold Session.retryPending onWorld at completed
  dsimp only at completed ⊢
  rw [performed] at completed
  rcases outcome : (session.world.performAll backlog.queue).retryPending with ⟨left, result⟩
  rw [outcome] at completed retried
  cases result with
  | error fault => cases completed
  | ok answer =>
      have ticked := (World.view_fire left.tick (.frame number)).trans (World.view_tick left)
      refine (congrArg (fun view => view.backdrop.footing.tick) ticked).trans ?_
      exact congrArg (fun footing => footing.tick + 1) (retried.footing.trans footing)

/-- The footing after an input, but for its clock, follows from the one before. -/
theorem Holds.untimed_step {session : Session (Recorded H)} {backlog : Scheduler Work}
    (holds : session.Holds backlog) (input : Input H) :
    (session.step input).world.footing.untimed =
      match input with
      | .receive now frame =>
        if (session.refused? frame).isSome then session.world.footing.untimed.afterReject now
        else session.world.footing.untimed
      | .setLocalEntity id =>
        { session.world.footing.untimed with localEntity := Replica.assigned id }
      | _ => session.world.footing.untimed := by
  cases drains : input.drains with
  | false =>
      have footing := (congrArg (fun view => view.backdrop.footing)
        (view_step session drains)).trans (footing_viewAfter session input)
      refine (congrArg Footing.untimed footing).trans ?_
      cases input with
      | receive now frame =>
          dsimp only
          split <;> rfl
      | _ => rfl
  | true =>
      obtain ⟨number, rfl⟩ := Input.eq_frame_of_drains drains
      rcases holds.runFrame_cases number with ⟨footing, _⟩ | ⟨footing, _⟩
      · exact congrArg Footing.untimed footing
      · rw [footing]
        rfl

/-- Only an assignment changes the local entity. -/
theorem Holds.localEntity_step {session : Session (Recorded H)} {backlog : Scheduler Work}
    (holds : session.Holds backlog) (input : Input H) :
    (session.step input).world.replica.localEntity =
      match input with
      | .setLocalEntity id => Replica.assigned id
      | _ => session.world.replica.localEntity := by
  refine (congrArg Footing.localEntity (holds.untimed_step input)).trans ?_
  cases input with
  | receive now frame =>
      dsimp only
      split <;> rfl
  | _ => rfl

/-- Only its own assignment makes an entity the local player's. -/
theorem Holds.localEntity_ne_step {session : Session (Recorded H)} {backlog : Scheduler Work}
    (holds : session.Holds backlog) {id : EntityId}
    (foreign : session.world.replica.localEntity ≠ some id) {input : Input H}
    (keeps : input ≠ .setLocalEntity id) :
    (session.step input).world.replica.localEntity ≠ some id := by
  rw [holds.localEntity_step]
  cases input with
  | setLocalEntity other =>
      have different : other ≠ id := fun same => keeps (by rw [same])
      simp only [Replica.assigned]
      split
      · nofun
      · simpa using different
  | _ => exact foreign

/-- The replication settings stay as they are. -/
theorem Holds.replication_step {session : Session (Recorded H)} {backlog : Scheduler Work}
    (holds : session.Holds backlog) (input : Input H) :
    (session.step input).world.settings.replication =
      session.world.settings.replication := by
  refine (congrArg Footing.replication (holds.untimed_step input)).trans ?_
  cases input with
  | receive now frame =>
      dsimp only
      split <;> rfl
  | _ => rfl

theorem Holds.replication_run {session : Session (Recorded H)} {backlog : Scheduler Work}
    (holds : session.Holds backlog) (inputs : List (Input H)) :
    (session.run inputs).world.settings.replication = session.world.settings.replication := by
  induction inputs generalizing session backlog with
  | nil => rfl
  | cons input rest ih => exact (ih (holds.step input)).trans (holds.replication_step input)

end Inputs

/-- A local write is posted for the local entity. -/
theorem localEntity_of_posted? {H : Type} {session : Session (Recorded H)} {input : Input H}
    {job : Job} (posted : session.posted? input = some job) {id : EntityId}
    {state : AvatarState} (about : job.deed? = some (id, .write state)) :
    session.world.replica.localEntity = some id := by
  cases input with
  | receive now frame =>
      obtain ⟨message, accepted, rfl⟩ := Option.map_eq_some_iff.1 posted
      cases message <;> cases about
  | sendLocal caller state =>
      cases caller with
      | gameThread => cases posted
      | elsewhere =>
          obtain ⟨owner, written, rfl⟩ := Option.map_eq_some_iff.1 posted
          cases about
          exact (localWrite?_eq_some_iff.1 written).2.2
  | _ => cases posted

end Session

end ReplicaBridge
