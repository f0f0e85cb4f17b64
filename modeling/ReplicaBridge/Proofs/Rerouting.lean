/-
Module: ReplicaBridge.Proofs.Rerouting
Purpose: It does not matter on which thread the replica is changed.  Off the game thread each
  change that is not refused is only posted, as one job; on the game thread the work of that
  job is done at once.  After a drain the two cannot be told apart, however many updates were
  coalesced in the meantime, and the same changes were refused for the same reasons.
Main exports: Mutation.jobs, Mutation.rejected?, Session.mutateAll,
  Session.mutateAll_gameThread, Session.Reroutes
-/
import ReplicaBridge.Proofs.ReplicaJobs
import ReplicaBridge.Proofs.SessionOperations

namespace ReplicaBridge

open Host (CountedHost Loaded Recorded ReflectionHost TableStore)
open Schedule (GameLoop Scheduler Script coalesce)

namespace Mutation

/-- The error that a change was refused with, if it was; one that unwound was not. -/
def rejected? : Except (Halt ReplicaError) Unit → Option ReplicaError
  | .error (.refused error) => some error
  | .error (.unwound _) | .ok () => none

/-- The jobs that changes become, without those that are refused. -/
def jobs (owner : Option EntityId) (mutations : List Mutation) : List Job :=
  mutations.filterMap fun mutation => (mutation.job owner).toOption

/-- Why the changes are refused, each of them. -/
def refusals (owner : Option EntityId) (mutations : List Mutation) :
    List (Option ReplicaError) :=
  mutations.map fun mutation =>
    match mutation.job owner with
    | .error error => some error
    | .ok _ => none

section Cons

variable {owner : Option EntityId} {mutation : Mutation} (rest : List Mutation)

theorem jobs_cons_of_error {error : ReplicaError} (refused : mutation.job owner = .error error) :
    jobs owner (mutation :: rest) = jobs owner rest :=
  List.filterMap_cons_none (by rw [refused]; rfl)

theorem jobs_cons_of_ok {job : Job} (becomes : mutation.job owner = .ok job) :
    jobs owner (mutation :: rest) = job :: jobs owner rest :=
  List.filterMap_cons_some (by rw [becomes]; rfl)

theorem refusals_cons_of_error {error : ReplicaError}
    (refused : mutation.job owner = .error error) :
    refusals owner (mutation :: rest) = some error :: refusals owner rest := by
  rw [refusals, List.map_cons, refused]
  rfl

theorem refusals_cons_of_ok {job : Job} (becomes : mutation.job owner = .ok job) :
    refusals owner (mutation :: rest) = none :: refusals owner rest := by
  rw [refusals, List.map_cons, becomes]
  rfl

end Cons

theorem direct_of_job {owner : Option EntityId} {mutation : Mutation} {job : Job}
    (becomes : mutation.job owner = .ok job) : job.Direct := by
  cases mutation with
  | applySeason season =>
      simp only [Mutation.job] at becomes
      split at becomes
      · cases becomes
        exact .season season
      · cases becomes
  | applySeasonByte value =>
      simp only [Mutation.job] at becomes
      split at becomes
      · cases becomes
        exact .season _
      · cases becomes
  | advanceHours hours =>
      cases becomes
      exact .hours hours
  | applyUpdate id state =>
      simp only [Mutation.job] at becomes
      split at becomes
      · rename_i valid
        cases becomes
        exact .update id valid
      · cases becomes
  | spawn id state =>
      simp only [Mutation.job] at becomes
      split at becomes
      · rename_i valid
        cases becomes
        exact .spawn id valid
      · cases becomes
  | despawn id =>
      cases becomes
      exact .despawn id
  | updateLocal state =>
      cases owner with
      | none => cases becomes
      | some id =>
          simp only [Mutation.job] at becomes
          split at becomes
          · cases becomes
            exact .write id _
          · cases becomes

theorem direct_of_jobs {owner : Option EntityId} {mutations : List Mutation} {job : Job}
    (among : job ∈ jobs owner mutations) : job.Direct := by
  obtain ⟨mutation, _, becomes⟩ := List.mem_filterMap.mp among
  cases taken : mutation.job owner with
  | error error =>
      rw [taken] at becomes
      cases becomes
  | ok other =>
      rw [taken] at becomes
      cases becomes
      exact direct_of_job taken

end Mutation

theorem World.OnlyNotes.view {H : Type} {before after : World H}
    (noted : before.OnlyNotes after) : after.view = before.view := by
  obtain ⟨notices, rfl⟩ := noted
  simp only [World.view, World.backdrop, World.footing, Bridge.host_noteAll,
    Bridge.registry_noteAll, Bridge.gate_noteAll]

namespace Session

variable {H : Type} [ReflectionHost H]

/-! ### Changes one after another -/

/-- What is carried out was not refused. -/
theorem rejected?_carryOut (session : Session H) (caller : Caller) (operation : String)
    (job : Job) : Mutation.rejected? (session.carryOut caller operation job).2 = none := by
  cases caller with
  | elsewhere => rfl
  | gameThread =>
      simp only [carryOut]
      cases (session.world.perform job.work).2 <;> rfl

/-- Ask for changes one after another, whatever becomes of each; gives their outcomes. -/
def mutateAll (session : Session H) (caller : Caller) :
    List Mutation → Session H × List (Except (Halt ReplicaError) Unit)
  | [] => (session, [])
  | mutation :: rest =>
    let (session, outcome) := session.mutate caller mutation
    let (session, later) := mutateAll session caller rest
    (session, outcome :: later)

/-- No job that changes the replica assigns the local entity. -/
theorem localEntity_perform {job : Job} (direct : job.Direct) (world : World H) :
    (world.perform job.work).1.replica.localEntity = world.replica.localEntity := by
  have performed := congrArg (fun view => view.backdrop.footing.localEntity)
    (World.view_performJob world job)
  exact performed.symm.trans
    (congrArg Footing.localEntity (World.footing_performDirect direct world))

/-- On the game thread the changes are the jobs that they become, done in order. -/
theorem mutateAll_gameThread (session : Session H) (mutations : List Mutation) :
    let owner := session.world.replica.localEntity
    (session.mutateAll .gameThread mutations).1.world.view =
        (session.world.performAll (Mutation.jobs owner mutations)).view ∧
      (session.mutateAll .gameThread mutations).2.map Mutation.rejected? =
        Mutation.refusals owner mutations := by
  intro owner
  induction mutations generalizing session with
  | nil => exact ⟨rfl, rfl⟩
  | cons mutation rest ih =>
      have first := mutate_eq session .gameThread mutation
      cases becomes : mutation.job session.world.replica.localEntity with
      | error error =>
          rw [becomes] at first
          obtain ⟨view, refused⟩ := ih session
          rw [mutateAll, first, Mutation.jobs_cons_of_error rest becomes,
            Mutation.refusals_cons_of_error rest becomes]
          exact ⟨view, congrArg (some error :: ·) refused⟩
      | ok job =>
          rw [becomes] at first
          have direct := Mutation.direct_of_job becomes
          let done := session.mapWorld fun world => (world.perform job.work).1
          have same : done.world.replica.localEntity = owner := localEntity_perform direct _
          obtain ⟨view, refused⟩ := ih done
          rw [same] at view refused
          rw [mutateAll, first, Mutation.jobs_cons_of_ok rest becomes,
            Mutation.refusals_cons_of_ok rest becomes]
          constructor
          · -- The call and the job in a drain may note different things: only the views agree.
            have all : ∀ other ∈ Mutation.jobs owner rest, Job.Direct other :=
              fun other among => Mutation.direct_of_jobs among
            rw [World.performAll_cons]
            refine view.trans (World.view_performDirect ?_ rfl all all)
            exact (World.view_performJob session.world job).symm
          · dsimp only
            rw [List.map_cons, rejected?_carryOut]
            exact congrArg (none :: ·) refused

/-!
### Off the game thread

The queue is not the list of the posted jobs: a pass may have dropped some of them, and when it
did depends on the soft cap.  It stays a list of some of them that coalesces to the same, and
that is enough for a drain.
-/

/-- From a session with an empty queue, jobs were only posted: what the queue holds, the
backlog, coalesces to what all of them do, and nothing was done to the world. -/
structure Reroutes (before : Session H) (jobs : List Job) (after : Session H)
    (backlog : Scheduler Work) : Prop where
  queued : after.scheduler = backlog.map Script.once
  accepting : backlog.shuttingDown = false
  passed : coalesce backlog.queue = coalesce jobs
  among : ∀ job ∈ backlog.queue, job ∈ jobs
  world : before.world.OnlyNotes after.world

omit [ReflectionHost H] in
theorem Reroutes.start {session : Session H} (empty : session.scheduler.queue = [])
    (accepting : session.scheduler.shuttingDown = false) :
    ∃ backlog, Reroutes session [] session backlog := by
  obtain ⟨⟨softCap, queue, coalesceAt, shuttingDown, posted, executed, coalesced, discarded⟩,
    world⟩ := session
  cases empty
  exact ⟨⟨softCap, [], coalesceAt, shuttingDown, posted, executed, coalesced, discarded⟩,
    rfl, accepting, rfl, nofun, .refl world⟩

theorem Reroutes.reroute {before after : Session H} {jobs : List Job} {backlog : Scheduler Work}
    (reroutes : Reroutes before jobs after backlog) (operation : String) (job : Job) :
    Reroutes before (jobs ++ [job]) (after.reroute operation job.kind job.work)
      (backlog.post job).1 where
  queued := by
    refine (scheduler_queue _ job.kind job.work).trans ?_
    have posted := congrArg Prod.fst (Scheduler.post_map Script.once backlog job)
    rw [← reroutes.queued] at posted
    exact posted
  accepting := Scheduler.shuttingDown_post reroutes.accepting job
  passed := by
    rw [Scheduler.coalesce_queue_post reroutes.accepting, ← Schedule.coalesce_append,
      reroutes.passed, Schedule.coalesce_append]
  among other waits := by
    have posted := (Scheduler.queue_post_sublist reroutes.accepting job).subset waits
    rcases List.mem_append.mp posted with earlier | last
    · exact List.mem_append_left _ (reroutes.among other earlier)
    · exact List.mem_append_right _ last
  world := (reroutes.world.trans (World.onlyNotes_note _ _)).trans (onlyNotes_queue _ _ _)

/-- Off the game thread the jobs that changes become are posted in order. -/
theorem Reroutes.mutateAll {before after : Session H} {jobs : List Job}
    {backlog : Scheduler Work} (reroutes : Reroutes before jobs after backlog)
    (mutations : List Mutation) :
    let owner := before.world.replica.localEntity
    (∃ backlog, Reroutes before (jobs ++ Mutation.jobs owner mutations)
        (after.mutateAll .elsewhere mutations).1 backlog) ∧
      (after.mutateAll .elsewhere mutations).2.map Mutation.rejected? =
        Mutation.refusals owner mutations := by
  intro owner
  induction mutations generalizing after jobs backlog with
  | nil =>
      refine ⟨⟨backlog, ?_⟩, rfl⟩
      rw [show jobs ++ Mutation.jobs owner [] = jobs from List.append_nil jobs]
      exact reroutes
  | cons mutation rest ih =>
      have first := mutate_eq after .elsewhere mutation
      have same : after.world.replica.localEntity = owner := by
        obtain ⟨notices, noted⟩ := reroutes.world
        rw [noted]
      rw [same] at first
      cases becomes : mutation.job owner with
      | error error =>
          rw [becomes] at first
          obtain ⟨posted, refused⟩ := ih reroutes
          rw [Session.mutateAll, first, Mutation.jobs_cons_of_error rest becomes,
            Mutation.refusals_cons_of_error rest becomes]
          exact ⟨posted, congrArg (some error :: ·) refused⟩
      | ok job =>
          rw [becomes] at first
          obtain ⟨posted, refused⟩ := ih (reroutes.reroute mutation.operation job)
          rw [Session.mutateAll, first, Mutation.jobs_cons_of_ok rest becomes,
            Mutation.refusals_cons_of_ok rest becomes, List.append_cons]
          exact ⟨posted, congrArg (none :: ·) refused⟩

/-! ### The two threads -/

/-- From any state of the replica, with nothing waiting in a queue that accepts work, changes
that are asked for off the game thread are refused exactly if they are on it, and for the same
reasons; they do nothing but add to the journal.  After the next drain on the game thread the
rows, the season, the clock, the effects that wait for the host and the calls that the host got
are what they are when the changes were asked for on the game thread, and so is all that
decides what happens next. -/
theorem rerouted_as_direct (session : Session (Recorded H)) (mutations : List Mutation)
    (empty : session.scheduler.queue = [])
    (accepting : session.scheduler.shuttingDown = false) :
    let posted := session.mutateAll .elsewhere mutations
    let direct := session.mutateAll .gameThread mutations
    let drained := (GameLoop.drain posted.1 .gameThread).1.world
    session.world.OnlyNotes posted.1.world ∧
      posted.2.map Mutation.rejected? = direct.2.map Mutation.rejected? ∧
      drained.replica.rows = direct.1.world.replica.rows ∧
      drained.replica.season = direct.1.world.replica.season ∧
      drained.replica.clock = direct.1.world.replica.clock ∧
      drained.replica.pending = direct.1.world.replica.pending ∧
      drained.bridge.host.store.calls = direct.1.world.bridge.host.store.calls ∧
      drained.view = direct.1.world.view := by
  intro posted direct drained
  obtain ⟨fresh, starts⟩ := Reroutes.start empty accepting
  obtain ⟨⟨backlog, reroutes⟩, offThread⟩ := starts.mutateAll mutations
  obtain ⟨done, onThread⟩ := mutateAll_gameThread session mutations
  have all : ∀ job ∈ Mutation.jobs session.world.replica.localEntity mutations, Job.Direct job :=
    fun job among => Mutation.direct_of_jobs among
  have performed : drained = posted.1.world.performAll backlog.queue :=
    congrArg GameLoop.world (drain_gameThread reroutes.queued reroutes.accepting)
  have same : drained.view = direct.1.world.view := by
    rw [performed, done]
    apply World.view_performDirect reroutes.world.view reroutes.passed ?_ all
    intro job waits
    exact all job (reroutes.among job waits)
  have backdrop := congrArg View.backdrop same
  refine ⟨reroutes.world, offThread.trans onThread.symm, congrArg View.rows same,
    congrArg Backdrop.season backdrop, congrArg Backdrop.clock backdrop,
    congrArg Backdrop.pending backdrop, ?_, same⟩
  exact congrArg (fun backdrop => backdrop.host.store.calls) backdrop

/-- A despawn stands between two local writes, the first of which is coalesced away; a byte that
is no season is refused; and the host has nothing yet that a season or hours could be applied
to, so they wait. -/
theorem rerouted_as_direct_past_despawn :
    let host : CountedHost (Loaded TableStore) := { store := { table := {} } }
    let session :=
      ((begin host {} { scheduler := { softCap := 1 } }).step (.setLocalEntity 7))
    let mutations : List Mutation :=
      [.updateLocal (.resting 1), .despawn 7, .updateLocal (.resting 2), .applySeasonByte 9,
        .applySeason .fall, .advanceHours 3]
    let posted := session.mutateAll .elsewhere mutations
    let direct := session.mutateAll .gameThread mutations
    let drained := (GameLoop.drain posted.1 .gameThread).1.world
    session.scheduler.queue = [] ∧ session.scheduler.shuttingDown = false ∧
      posted.1.scheduler.coalesced = 1 ∧ posted.1.scheduler.queue.length = 4 ∧
      posted.2.map Mutation.rejected? =
        [none, none, none, some (.invalidSeason 9), none, none] ∧
      drained.replica.rows = direct.1.world.replica.rows ∧
      drained.replica.pending = { season := some .fall, hours := [3] } ∧
      drained.view = direct.1.world.view := by
  intro host session mutations posted direct drained
  have empty : session.scheduler.queue = [] := rfl
  have accepting : session.scheduler.shuttingDown = false := rfl
  obtain ⟨_, _, rows, _, _, _, _, view⟩ := rerouted_as_direct session mutations empty accepting
  exact ⟨empty, accepting, by decide +kernel, by decide +kernel, by decide +kernel, rows,
    by decide +kernel, view⟩

end Session

end ReplicaBridge
