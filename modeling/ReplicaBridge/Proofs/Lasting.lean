/-
Module: ReplicaBridge.Proofs.Lasting
Purpose: What is said of a world's local entity and of the tracks of its avatars lasts through
  everything that is asked of the session, on any thread and whatever tasks are posted, if no
  work ends it and no tick.  Only a new assignment and the end of all that was replicated are
  left out.
Main exports: World.Unmoved, World.Lasting, Work.Covers, Operation.reassigns,
  World.Lasting.operate, World.Lasting.operateAll
-/
import ReplicaBridge.Proofs.InputEffects
import ReplicaBridge.Proofs.SessionOperations
import ReplicaBridge.Proofs.SteadyLoop

namespace ReplicaBridge

open Host (ReflectionHost)
open Schedule (GameLoop Script)
open Wire (Message)

namespace World

variable {H : Type} {before after : World H}

/-- Neither the local entity nor the track of any avatar changed. -/
structure Unmoved (before after : World H) : Prop where
  owner : after.replica.localEntity = before.replica.localEntity
  tracks : ∀ id, after.track id = before.track id

theorem Unmoved.of_undisturbed (undisturbed : Undisturbed before after) : before.Unmoved after where
  owner := congrArg Footing.localEntity undisturbed.footing
  tracks := undisturbed.tracks

theorem Unmoved.of_view (same : after.view = before.view) : before.Unmoved after :=
  .of_undisturbed (.of_view same)

/-- The footing may change, as long as it is the same local entity's. -/
theorem Unmoved.of_footing {change : Footing → Footing}
    (same : after.view = before.view.onFooting change)
    (owner : ∀ footing, (change footing).localEntity = footing.localEntity) :
    before.Unmoved after where
  owner := (congrArg (·.backdrop.footing.localEntity) same).trans (owner before.footing)
  tracks id := (congrArg (View.track · id) same).trans rfl

/-- A season from the server touches no avatar, whether or not it is one. -/
theorem undisturbed_receiveSeason [ReflectionHost H] (world : World H) (value : UInt8) :
    Undisturbed world (world.receiveSeason value).1 := by
  simp only [receiveSeason]
  split
  · exact undisturbed_applySeason world _
  · exact .of_view (view_note world _)

/-- What holds of the local entity and the tracks is not ended by fine work, by a tick or by
forgetting what is held back. -/
structure Lasting [ReflectionHost H] (fine : Work → Prop) (holds : World H → Prop) : Prop where
  perform : ∀ {world work}, fine work → holds world → holds (world.perform work).1
  unmoved : ∀ {before after}, Unmoved before after → holds before → holds after
  aged : ∀ {before after}, after.view = before.view.aged → holds before → holds after
  cleared : ∀ {world}, holds world → holds { world with channel := world.channel.clear }

end World

/-- With the same queue only the world has to be looked at. -/
theorem Schedule.GameLoop.Guarded.of_scheduler {α σ : Type} {holds : σ → Prop}
    {fits : Schedule.Task (Script α) → Prop} {loop after : GameLoop α σ}
    (guarded : loop.Guarded holds fits) (scheduler : after.scheduler = loop.scheduler)
    (world : holds after.world) : after.Guarded holds fits :=
  ⟨world, scheduler ▸ guarded.queue⟩

/-- All that a session queues of itself is fine: messages, and changes of the replica that were
found sound. -/
structure Work.Covers (fine : Work → Prop) : Prop where
  message : ∀ message, fine (Session.jobFor message).work
  mutation : ∀ {mutation owner job}, Mutation.job owner mutation = .ok job → fine job.work

theorem Work.covers_all : Work.Covers fun _ => True :=
  ⟨fun _ => trivial, fun _ => trivial⟩

/-- A task takes fine actions only. -/
def Work.All (fine : Work → Prop) (task : Schedule.Task (Script Work)) : Prop :=
  task.work.Does fine

theorem Work.fits_of_forall {fine : Work → Prop} (all : ∀ work, fine work)
    (task : Schedule.Task (Script Work)) : task.Fits (Work.All fine) :=
  ⟨task.work.does_of_forall all, task.work.posts_of_forall fun task => task.work.does_of_forall all⟩

namespace Operation

variable {H : Type}

/-- Tasks that are posted take fine actions only, and so do the tasks that they post. -/
def Fits (fine : Work → Prop) : Operation H → Prop
  | .post _ kind body => Schedule.Task.Fits (Work.All fine) { kind, work := body }
  | _ => True

/-- The operation assigns a local entity, or takes the replica away with it. -/
def reassigns : Operation H → Bool
  | .setLocalEntity _ | .clearReplica | .shutDown _ => true
  | _ => false

theorem fits_of_forall {fine : Work → Prop} (all : ∀ work, fine work) (operation : Operation H) :
    operation.Fits fine := by
  cases operation with
  | post caller kind body => exact Work.fits_of_forall all _
  | _ => trivial

end Operation

namespace World.Lasting

variable {H : Type} [ReflectionHost H] {fine : Work → Prop} {holds : World H → Prop}
  (lasting : Lasting fine holds)

include lasting

/-- Nothing about the queue ends what lasts. -/
theorem keeps : GameLoop.KeepsWhere fine holds where
  perform _ _ fits holding := lasting.perform fits holding
  hear event world holding := lasting.unmoved (.of_view (view_hear world event)) holding
  onThread caller world holding := lasting.unmoved (.of_view (view_reportOn world caller)) holding

variable {session after : Session H} (guarded : session.Guarded holds (Work.All fine))

include guarded

theorem of_unmoved (scheduler : after.scheduler = session.scheduler)
    (unmoved : session.world.Unmoved after.world) : after.Guarded holds (Work.All fine) :=
  guarded.of_scheduler scheduler (lasting.unmoved unmoved guarded.world)

theorem of_post {job : Job} (fits : fine job.work)
    (scheduler : after.scheduler = (session.scheduler.post (job.map Script.once)).1)
    (unmoved : session.world.Unmoved after.world) : after.Guarded holds (Work.All fine) := by
  refine ⟨lasting.unmoved unmoved guarded.world, fun task waits => ?_⟩
  rw [scheduler] at waits
  rcases Schedule.Scheduler.mem_queue_post waits with earlier | rfl
  · exact guarded.queue task earlier
  · exact ⟨⟨fits, trivial⟩, trivial⟩

theorem drain (caller : Caller) :
    (GameLoop.drain session caller).1.Guarded holds (Work.All fine) :=
  lasting.keeps.drain (fun _ does => does) guarded caller

theorem runFrame (caller : Caller) (number : Nat) :
    (session.runFrame caller number).1.Guarded holds (Work.All fine) := by
  have drained := lasting.drain guarded caller
  rw [Session.runFrame_eq]
  refine drained.of_scheduler rfl ?_
  rcases finishFrame_cases (GameLoop.drain session caller).1.world caller number with
    unwound | ⟨retried, undisturbed, aged⟩
  · exact lasting.unmoved (.of_undisturbed unwound) drained.world
  · exact lasting.aged aged (lasting.unmoved (.of_undisturbed undisturbed) drained.world)

theorem poll : session.poll.1.Guarded holds (Work.All fine) := by
  refine lasting.of_unmoved guarded rfl ⟨rfl, fun id => ?_⟩
  have early : session.world.channel.poll.1.early = session.world.channel.early := by
    simp only [Channel.poll]
    split <;> rfl
  exact congrArg (fun early => Track.mk (session.world.replica.rows.get? id)
    (EntityMap.get? early.held id)) early

theorem close : (session.mapWorld (·.close)).Guarded holds (Work.All fine) := by
  have closed : (session.mapWorld (·.close)).world.view =
      session.world.view.onFooting ({ · with closed := true }) := by
    simp only [Session.mapWorld, World.close]
    exact view_noteIf _ _ _
  exact lasting.of_unmoved guarded rfl (.of_footing closed fun _ => rfl)

variable (covers : Work.Covers fine)

include covers

theorem receive (now : Nat) (frame : Bytes) :
    (session.receive now frame).1.Guarded holds (Work.All fine) := by
  have scheduled := Session.scheduler_receive session now frame
  have view := Session.view_receive session now frame
  have unmoved : session.world.Unmoved (session.receive now frame).1.world := by
    split at view
    · exact .of_footing view fun _ => rfl
    · exact .of_view view
  split at scheduled
  · exact lasting.of_post guarded (covers.message _) scheduled unmoved
  · exact lasting.of_unmoved guarded scheduled unmoved

theorem mutate (caller : Caller) (mutation : Mutation) :
    (session.mutate caller mutation).1.Guarded holds (Work.All fine) := by
  rw [Session.mutate_eq]
  split
  · rename_i job made
    have fits := covers.mutation made
    cases caller with
    | gameThread => exact guarded.of_scheduler rfl (lasting.perform fits guarded.world)
    | elsewhere =>
        exact lasting.of_post guarded fits (Session.scheduler_queue _ _ _)
          (.of_view (Session.view_queue _ _ _))
  · exact guarded

theorem sendLocal (caller : Caller) (state : AvatarState) :
    (session.sendLocal caller state).1.Guarded holds (Work.All fine) := by
  have scheduled := Session.scheduler_sendLocal session caller state
  have view := Session.view_sendLocal session caller state
  cases written : session.localWrite? state with
  | none =>
      rw [written] at scheduled view
      cases caller <;> exact lasting.of_unmoved guarded scheduled (.of_view view)
  | some id =>
      rw [written] at scheduled view
      have made : Mutation.job (some id) (.updateLocal state) = .ok (Session.localJob id state) :=
        if_pos (Session.localWrite?_eq_some_iff.mp written).2.1
      have fits := covers.mutation made
      cases caller with
      | gameThread =>
          have wrote : holds (session.world.writeRow id (state.withId id)) :=
            lasting.perform fits guarded.world
          have same : (session.sendLocal .gameThread state).1.world.view =
            (session.world.writeRow id (state.withId id)).view := view
          exact guarded.of_scheduler scheduled (lasting.unmoved (.of_view same) wrote)
      | elsewhere => exact lasting.of_post guarded fits scheduled (.of_view view)

/-- Whatever is asked of the session, short of another local entity. -/
theorem operate {operation : Operation H} (fits : operation.Fits fine)
    (stays : operation.reassigns = false) :
    (session.operate operation).Guarded holds (Work.All fine) := by
  cases operation with
  | receive now frame => exact lasting.receive guarded covers now frame
  | mutate caller mutation => exact lasting.mutate guarded covers caller mutation
  | sendLocal caller state => exact lasting.sendLocal guarded covers caller state
  | sendChat text => exact lasting.of_unmoved guarded rfl (.of_view (view_sendChat _ text))
  | poll => exact lasting.poll guarded
  | post caller kind body =>
      exact lasting.keeps.handTo caller
        (fun _ guarded => lasting.keeps.post guarded fits) guarded
  | drain caller => exact lasting.drain guarded caller
  | retryPending caller =>
      cases caller with
      | gameThread =>
          exact lasting.of_unmoved guarded rfl (.of_undisturbed (undisturbed_retryPending _))
      | elsewhere => exact guarded
  | tick => exact guarded.of_scheduler rfl (lasting.aged (view_tick _) guarded.world)
  | fire signal => exact lasting.of_unmoved guarded rfl (.of_view (view_fire _ signal))
  | runFrame caller number => exact lasting.runFrame guarded caller number
  | close => exact lasting.close guarded
  | clearChannel => exact guarded.of_scheduler rfl (lasting.cleared guarded.world)
  | stop caller =>
      exact lasting.keeps.handTo caller (fun _ guarded => lasting.keeps.shutDown guarded) guarded
  | listen listener | unlisten key | bridge change | clearListeners =>
      exact lasting.of_unmoved guarded rfl ⟨rfl, fun _ => rfl⟩
  | setLocalEntity id | clearReplica | shutDown caller => cases stays

theorem operateAll {operations : List (Operation H)}
    (fits : ∀ operation ∈ operations, operation.Fits fine)
    (stays : ∀ operation ∈ operations, operation.reassigns = false) :
    (session.operateAll operations).Guarded holds (Work.All fine) := by
  induction operations generalizing session with
  | nil => exact guarded
  | cons operation rest ih =>
      obtain ⟨first, later⟩ := List.forall_mem_cons.mp fits
      obtain ⟨stays, others⟩ := List.forall_mem_cons.mp stays
      exact ih (lasting.operate guarded covers first stays) later others

end World.Lasting

end ReplicaBridge
