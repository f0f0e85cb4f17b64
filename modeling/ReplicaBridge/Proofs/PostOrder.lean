/-
Module: ReplicaBridge.Proofs.PostOrder
Purpose: The order in which tasks run.  The tasks that were begun, those of the drain under
  way and those that wait form one line in the order of posting, which misses no posted task
  but updates that a later one superseded.  No step of a drain moves the line: a drain begins
  the tasks that waited when it started.
Main exports: Schedule.Superseded, Schedule.InLine, Schedule.Script.isPlain,
  Schedule.Watch.Orderly, Schedule.Watch.Progress, Schedule.Watch.Orderly.drain,
  Schedule.Watch.Orderly.run, Schedule.Watch.begun_in_order
-/
import ReplicaBridge.Proofs.WatchedLoop

namespace ReplicaBridge.Schedule

/-! ### Superseded updates -/

section Superseded

variable {α : Type}

/-- A full-state update after which one of the same kind for the same entity was posted. -/
def Superseded (posts : List (Task α)) (number : Nat) : Prop :=
  ∃ later task newer id, number < later ∧ posts[number]? = some task ∧
    posts[later]? = some newer ∧ newer.kind = task.kind ∧
    (task.kind = .avatarUpdate id ∨ task.kind = .localAvatarUpdate id)

theorem Superseded.append {posts : List (Task α)} {number : Nat}
    (superseded : Superseded posts number) (more : List (Task α)) :
    Superseded (posts ++ more) number := by
  obtain ⟨later, task, newer, id, after, found, foundNewer, same, update⟩ := superseded
  have keeps : ∀ {place : Nat} {task : Task α}, posts[place]? = some task →
      (posts ++ more)[place]? = some task := by
    intro place task found
    rw [List.getElem?_append_left (List.getElem?_eq_some_iff.mp found).1, found]
  exact ⟨later, task, newer, id, after, keeps found, keeps foundNewer, same, update⟩

/-- The keys of tasks are their kinds. -/
theorem coalesceKey?_eq_some_iff {kind key : TaskKind} : kind.coalesceKey? = some key ↔
    key = kind ∧ ∃ id, kind = .avatarUpdate id ∨ kind = .localAvatarUpdate id := by
  cases kind <;> simp [TaskKind.coalesceKey?, eq_comm]

/-- A pass over tasks in order keeps each, or there is one after it that supersedes it. -/
theorem mem_coalesce_or {queue : List (Task α)} {Before : Task α → Task α → Prop}
    (ordered : queue.Pairwise Before) {task : Task α} (waits : task ∈ queue) :
    task ∈ coalesce queue ∨ ∃ newer ∈ queue, Before task newer ∧ newer.kind = task.kind ∧
      ∃ id, task.kind = .avatarUpdate id ∨ task.kind = .localAvatarUpdate id := by
  induction queue with
  | nil => cases waits
  | cons first later ih =>
      obtain ⟨before, ordered⟩ := List.pairwise_cons.mp ordered
      rw [coalesce]
      cases waits with
      | head =>
          by_cases superseded : task.isSupersededBy later = true
          · right
            rw [Task.isSupersededBy] at superseded
            cases keyed : task.kind.coalesceKey? with
            | none =>
                rw [keyed] at superseded
                cases superseded
            | some key =>
                rw [keyed] at superseded
                obtain ⟨newer, waits, same⟩ := List.any_eq_true.mp superseded
                obtain ⟨rfl, update⟩ := coalesceKey?_eq_some_iff.mp keyed
                obtain ⟨kinds, _⟩ := coalesceKey?_eq_some_iff.mp (eq_of_beq same)
                exact ⟨newer, .tail _ waits, before newer waits, kinds.symm, update⟩
          · left
            rw [if_neg superseded]
            exact .head _
      | tail _ waits =>
          rcases ih ordered waits with kept | ⟨newer, newerWaits, superseding⟩
          · left
            split
            · exact kept
            · exact .tail _ kept
          · exact .inr ⟨newer, .tail _ newerWaits, superseding⟩

end Superseded

/-! ### Tasks in line -/

/-- Tasks that stand in the order of their posting, each under the number of its post call,
with none missing but superseded ones. -/
structure InLine {α : Type} (line : List (Numbered α)) (posts : List (Task (Script α))) :
    Prop where
  ordered : line.Pairwise fun earlier later => earlier.number < later.number
  posted : ∀ task ∈ line, posts[task.number]? = some task.task
  complete : ∀ number < posts.length,
    (∃ task ∈ line, task.number = number) ∨ Superseded posts number

namespace InLine

variable {α : Type} {line front queue : List (Numbered α)} {posts : List (Task (Script α))}

theorem number_lt (inLine : InLine line posts) {task : Numbered α} (stands : task ∈ line) :
    task.number < posts.length :=
  (List.getElem?_eq_some_iff.mp (inLine.posted task stands)).1

/-- A posted task goes to the end of the line. -/
theorem post (inLine : InLine line posts) (task : Task (Script α)) :
    InLine (line ++ [{ kind := task.kind, work := (posts.length, task.work) }])
      (posts ++ [task]) where
  ordered := by
    apply List.pairwise_append.mpr
    refine ⟨inLine.ordered, List.pairwise_singleton _ _, ?_⟩
    intro earlier stands later last
    rw [List.mem_singleton.mp last]
    exact inLine.number_lt stands
  posted := by
    intro other stands
    rcases List.mem_append.mp stands with stands | last
    · rw [List.getElem?_append_left (inLine.number_lt stands)]
      exact inLine.posted other stands
    · rw [List.mem_singleton.mp last]
      exact List.getElem?_concat_length
  complete := by
    intro number below
    rw [List.length_append, List.length_singleton] at below
    rcases Nat.lt_succ_iff_lt_or_eq.mp below with below | rfl
    · rcases inLine.complete number below with ⟨other, stands, same⟩ | superseded
      · exact .inl ⟨other, List.mem_append_left _ stands, same⟩
      · exact .inr (superseded.append _)
    · exact .inl ⟨_, List.mem_append_right _ (.head _), rfl⟩

/-- A pass over the end of the line leaves it complete. -/
theorem coalesce (inLine : InLine (front ++ queue) posts) :
    InLine (front ++ coalesce queue) posts where
  ordered := inLine.ordered.sublist ((coalesce_sublist queue).append_left front)
  posted := fun task stands =>
    inLine.posted task (((coalesce_sublist queue).append_left front).subset stands)
  complete := by
    intro number below
    rcases inLine.complete number below with ⟨task, stands, rfl⟩ | superseded
    · rcases List.mem_append.mp stands with ahead | waits
      · exact .inl ⟨task, List.mem_append_left _ ahead, rfl⟩
      · -- Only what still waits can be dropped, and then for a task behind it.
        have ordered := (List.pairwise_append.mp inLine.ordered).2.1
        rcases mem_coalesce_or ordered waits with kept | ⟨newer, later, after, kinds, id, update⟩
        · exact .inl ⟨task, List.mem_append_right _ kept, rfl⟩
        · have posted := inLine.posted newer (List.mem_append_right _ later)
          exact .inr ⟨Numbered.number newer, task.task, Numbered.task newer, id, after,
            inLine.posted task stands, posted, kinds, update⟩
    · exact .inr superseded

/-- The tasks of the line are some of the posted ones, in the order of posting. -/
theorem sublist (inLine : InLine line posts) : (line.map Numbered.task).Sublist posts := by
  -- The numbers are the places of the tasks among the posts.
  let places : List (Fin posts.length) :=
    line.pmap (fun task below => ⟨task.number, below⟩) fun _ stands => inLine.number_lt stands
  have increasing : places.Pairwise (· < ·) := by
    apply inLine.ordered.pmap
    intro earlier _ later _ before
    exact before
  have found : places.map (fun place => posts[place]) = line.map Numbered.task := by
    rw [List.map_pmap, ← List.pmap_eq_map (p := fun _ => True) fun _ _ => trivial]
    apply List.pmap_congr_left line
    intro task stands below _
    exact (List.getElem?_eq_some_iff.mp (inLine.posted task stands)).2
  rw [← found]
  exact List.map_getElem_sublist increasing

end InLine

/-! ### Scripts that neither drain nor shut down -/

/-- The script, and all that it posts, starts no drain and does not shut the queue down. -/
def Script.isPlain {α : Type} : Script α → Bool
  | .done | .panic => true
  | .act _ next => next.isPlain
  | .post _ _ body next => body.isPlain && next.isPlain
  | .drain _ _ | .shutDown _ _ => false

/-- Posts of plain scripts, and drains. -/
def Event.isPlain {α : Type} : Event α → Bool
  | .post _ task => task.work.isPlain
  | .drain _ => true
  | .shutDown _ => false

namespace Watch

variable {α σ : Type}

/-- Behind `front` the waiting tasks stand in line; all that was posted and will be posted
meanwhile is plain. -/
structure Orderly (front : List (Numbered α)) (watch : Watch α σ) : Prop where
  accepting : watch.scheduler.shuttingDown = false
  inLine : InLine (front ++ watch.scheduler.queue) watch.posts
  plain : ∀ task ∈ watch.posts, task.work.isPlain = true
  plainLater : ∀ tasks ∈ watch.meanwhile, ∀ task ∈ tasks, task.work.isPlain = true

/-- From one moment to a later one the tasks were begun, and the line behind `front` has only
grown. -/
structure Progress (front tasks : List (Numbered α)) (before after : Watch α σ) : Prop where
  orderly : Orderly front after
  posts : before.posts <+: after.posts
  begun : after.begun = before.begun ++ tasks

namespace Progress

variable {front first second : List (Numbered α)} {before between after : Watch α σ}

theorem trans (earlier : Progress front first before between)
    (later : Progress front second between after) :
    Progress front (first ++ second) before after where
  orderly := later.orderly
  posts := earlier.posts.trans later.posts
  begun := by rw [later.begun, earlier.begun, List.append_assoc]

theorem andThen (earlier : Progress front first before between)
    (later : Orderly front between → Progress front second between after) :
    Progress front (first ++ second) before after :=
  earlier.trans (later earlier.orderly)

theorem countExecuted (progress : Progress front first before after) (count : Nat) :
    Progress front first before
      { after with scheduler := after.scheduler.countExecuted count } := by
  obtain ⟨⟨accepting, inLine, plain, plainLater⟩, posts, begun⟩ := progress
  exact ⟨⟨accepting, inLine, plain, plainLater⟩, posts, begun⟩

/-- Where everything in front was begun. -/
theorem settled (progress : Progress front first before after)
    (all : before.begun ++ first = front) : Orderly after.begun after := by
  rw [progress.begun, all]
  exact progress.orderly

end Progress

namespace Orderly

variable {front : List (Numbered α)} {watch : Watch α σ}

theorem still (orderly : Orderly front watch) (world : σ) :
    Progress front [] watch { watch with world } where
  orderly := ⟨orderly.accepting, orderly.inLine, orderly.plain, orderly.plainLater⟩
  posts := List.prefix_rfl
  begun := (List.append_nil _).symm

/-- The tasks of the line are plain. -/
theorem plain_of_mem (orderly : Orderly front watch) {task : Numbered α} (stands : task ∈ front) :
    task.work.2.isPlain = true := by
  have posted := orderly.inLine.posted task (List.mem_append_left _ stands)
  exact orderly.plain task.task (List.mem_of_getElem? posted)

/-- A drain takes the waiting tasks from the queue to the front. -/
theorem take (orderly : Orderly watch.begun watch) :
    Progress (watch.begun ++ watch.scheduler.queue) [] watch
      { watch with scheduler := watch.scheduler.take.1 } := by
  have line : InLine (watch.begun ++ watch.scheduler.queue ++ []) watch.posts := by
    rw [List.append_nil]
    exact orderly.inLine
  exact ⟨⟨orderly.accepting, line, orderly.plain, orderly.plainLater⟩, List.prefix_rfl,
    (List.append_nil _).symm⟩

/-- At the start nothing stands in line. -/
theorem start (softCap : Nat) (world : σ) {meanwhile : List (List (Task (Script α)))}
    (plain : ∀ tasks ∈ meanwhile, ∀ task ∈ tasks, task.work.isPlain = true) :
    Orderly [] (Watch.start softCap world meanwhile) where
  accepting := rfl
  inLine := ⟨.nil, nofun, nofun⟩
  plain := nofun
  plainLater := plain

variable [Workplace σ α]

theorem hear (orderly : Orderly front watch) (event : Option QueueEvent) :
    Progress front [] watch (watch.hear event) := by
  cases event with
  | none => exact orderly.still watch.world
  | some event => exact orderly.still _

theorem post (orderly : Orderly front watch) (task : Task (Script α))
    (plain : task.work.isPlain = true) : Progress front [] watch (watch.post task) := by
  let numbered : Numbered α := { kind := task.kind, work := (watch.posts.length, task.work) }
  have line := orderly.inLine.post task
  rw [List.append_assoc] at line
  have inLine : InLine (front ++ (watch.scheduler.post numbered).1.queue)
      (watch.posts ++ [task]) := by
    rcases Scheduler.queue_post orderly.accepting numbered with appended | passed
    · rw [appended]
      exact line
    · rw [passed]
      exact line.coalesce
  have plainPosts : ∀ posted ∈ watch.posts ++ [task], posted.work.isPlain = true := by
    intro posted mem
    rcases List.mem_append.mp mem with old | new
    · exact orderly.plain posted old
    · rw [List.mem_singleton.mp new]
      exact plain
  have posted : Progress front [] watch { watch with
      scheduler := (watch.scheduler.post numbered).1, posts := watch.posts ++ [task] } :=
    ⟨⟨Scheduler.shuttingDown_post orderly.accepting numbered, inLine, plainPosts,
      orderly.plainLater⟩, List.prefix_append _ _, (List.append_nil _).symm⟩
  exact posted.andThen fun orderly => orderly.hear _

theorem handTo (orderly : Orderly front watch) (caller : Caller)
    {work : Watch α σ → Watch α σ}
    (worked : ∀ {watch}, Orderly front watch → Progress front [] watch (work watch)) :
    Progress front [] watch (watch.handTo caller work) := by
  have called := orderly.still (Workplace.onThread caller watch.world)
  exact (called.andThen worked).andThen fun orderly => orderly.still _

theorem postAll {tasks : List (Task (Script α))}
    (plain : ∀ task ∈ tasks, task.work.isPlain = true) (orderly : Orderly front watch) :
    Progress front [] watch
      (tasks.foldl (fun watch task => Watch.handTo .elsewhere (·.post task) watch) watch) := by
  induction tasks generalizing watch with
  | nil => exact orderly.still watch.world
  | cons task later ih =>
      have posted := orderly.handTo .elsewhere fun orderly =>
        orderly.post task (plain task (.head _))
      exact posted.andThen (ih fun task mem => plain task (.tail _ mem))

theorem interrupt (orderly : Orderly front watch) :
    Progress front [] watch watch.interrupt := by
  rw [Watch.interrupt]
  split
  · exact orderly.still watch.world
  · rename_i tasks later waiting
    have plain := orderly.plainLater
    rw [waiting] at plain
    have plainLater : ∀ tasks ∈ later, ∀ task ∈ tasks, task.work.isPlain = true :=
      fun tasks mem => plain tasks (.tail _ mem)
    have moved : Progress front [] watch { watch with meanwhile := later } :=
      ⟨⟨orderly.accepting, orderly.inLine, orderly.plain, plainLater⟩, List.prefix_rfl,
        (List.append_nil _).symm⟩
    exact moved.andThen (postAll (plain tasks (.head _)))

section Nested

variable (nested : Nested α σ)

theorem runScript {script : Script α} (plain : script.isPlain = true)
    (orderly : Orderly front watch) :
    Progress front [] watch (Watch.runScript nested script watch).1 := by
  -- What the script posts is only queued: the induction goes over its own steps.
  induction script generalizing watch with
  | done => exact orderly.interrupt
  | panic => exact orderly.interrupt
  | act action next ih =>
      have acted := orderly.interrupt.andThen fun orderly =>
        orderly.still (Workplace.perform action watch.interrupt.world).1
      simp only [Watch.runScript]
      split
      · exact acted
      · exact acted.andThen (ih plain)
  | post caller kind body next _ ih =>
      obtain ⟨plainBody, plainNext⟩ := Bool.and_eq_true_iff.mp plain
      have posted := orderly.interrupt.andThen fun orderly => orderly.handTo caller
        fun orderly => orderly.post { kind, work := body } plainBody
      exact posted.andThen (ih plainNext)
  | drain caller next _ => cases plain
  | shutDown caller next _ => cases plain

/-- A task is begun once, whether or not it unwinds. -/
theorem runTask {task : Numbered α} (stands : task ∈ front) (orderly : Orderly front watch) :
    Progress front [task] watch (Watch.runTask nested task watch) := by
  have begun : Progress front [task] watch { watch with begun := watch.begun ++ [task] } :=
    ⟨⟨orderly.accepting, orderly.inLine, orderly.plain, orderly.plainLater⟩, List.prefix_rfl, rfl⟩
  -- The front of the line already holds the task, so beginning it moves nothing.
  have ran := begun.andThen (runScript nested (orderly.plain_of_mem stands))
  rw [Watch.runTask]
  revert ran
  rcases Watch.runScript nested task.work.2 _ with ⟨after, unwound⟩
  intro ran
  cases unwound with
  | false => exact ran
  | true => exact ran.andThen fun orderly => orderly.hear _

/-- A batch is begun from its first task to its last, whatever its tasks do. -/
theorem runBatch {batch : List (Numbered α)} (stand : ∀ task ∈ batch, task ∈ front)
    (orderly : Orderly front watch) :
    Progress front batch watch (Watch.runBatch nested false batch watch).1 := by
  induction batch generalizing watch with
  | nil => exact orderly.interrupt
  | cons task rest ih =>
      have ran := orderly.interrupt.andThen (runTask nested (stand task (.head _)))
      exact ran.andThen (ih fun task waits => stand task (.tail _ waits))

end Nested

/-- A drain on the game thread begins exactly the tasks that wait. -/
theorem drain (orderly : Orderly watch.begun watch) :
    Progress (watch.begun ++ watch.scheduler.queue) watch.scheduler.queue watch
      (watch.drain .gameThread).1 := by
  have ran := orderly.take.andThen (runBatch
    (drainTo (GameLoop.queuedDrains (watch.forget.scheduler.queue ++ watch.meanwhile.flatten)))
    fun task waits => List.mem_append_right _ waits)
  have accepting : watch.scheduler.take.1.shuttingDown = false := orderly.accepting
  rw [Watch.drain, drainTo, drainOnce]
  dsimp only
  rw [accepting]
  exact ran.countExecuted _

theorem handle {event : Event α} (plain : event.isPlain = true)
    (orderly : Orderly watch.begun watch) :
    Orderly (watch.handle event).begun (watch.handle event) := by
  cases event with
  | post caller task =>
      exact (orderly.handTo caller fun orderly => orderly.post task plain).settled
        (List.append_nil _)
  | drain caller =>
      cases caller with
      | gameThread => exact orderly.drain.settled rfl
      | elsewhere =>
          exact (orderly.handTo .elsewhere fun orderly => orderly.hear _).settled
            (List.append_nil _)
  | shutDown caller => cases plain

theorem run {events : List (Event α)} (plain : ∀ event ∈ events, event.isPlain = true)
    (orderly : Orderly watch.begun watch) :
    Orderly (watch.run events).begun (watch.run events) := by
  induction events generalizing watch with
  | nil => exact orderly
  | cons event later ih =>
      have handled := orderly.handle (plain event (.head _))
      exact ih (fun event mem => plain event (.tail _ mem)) handled

end Orderly

variable [Workplace σ α]

/-- Whatever was posted by whom, and whatever the tasks do short of draining and shutting down:
the tasks are begun in the order of their posting and none of them twice.  A drain on the game
thread begins exactly the tasks that wait when it starts; then every task that was posted
before has been begun, but for updates that a later one of these posts superseded.  Where no
other thread posts during a drain, all this is said of the loop itself. -/
theorem begun_in_order (softCap : Nat) (world : σ) (events : List (Event α))
    (meanwhile : List (List (Task (Script α))))
    (plain : ∀ event ∈ events, event.isPlain = true)
    (plainLater : ∀ tasks ∈ meanwhile, ∀ task ∈ tasks, task.work.isPlain = true) :
    let before := (start softCap world meanwhile).run events
    let after := (before.drain .gameThread).1
    before.begun.Pairwise (fun earlier later => earlier.number < later.number) ∧
    (∀ task ∈ before.begun, before.posts[task.number]? = some task.task) ∧
    (before.begun.map Numbered.task).Sublist before.posts ∧
    after.begun = before.begun ++ before.scheduler.queue ∧
    (∀ task ∈ before.scheduler.queue, Numbered.number task < before.posts.length) ∧
    (∀ number < before.posts.length,
      (∃ task ∈ after.begun, task.number = number) ∨ Superseded before.posts number) ∧
    before.posts <+: after.posts ∧
    ((start softCap world []).run events).forget = (GameLoop.start softCap world).run events := by
  intro before after
  have orderly : Orderly before.begun before := (Orderly.start softCap world plainLater).run plain
  have line := orderly.inLine
  have drained := orderly.drain
  refine ⟨(List.pairwise_append.mp line.ordered).1, ?_, ?_, drained.begun, ?_, ?_,
    drained.posts, forget_run softCap world events⟩
  · intro task begun
    exact line.posted task (List.mem_append_left _ begun)
  · exact ((List.sublist_append_left _ _).map Numbered.task).trans line.sublist
  · intro task waits
    exact line.number_lt (List.mem_append_right _ waits)
  · intro number below
    rw [drained.begun]
    exact line.complete number below

/-- Where the reports are all that there is to a world, and no action unwinds. -/
instance : Workplace (List QueueEvent) Unit where
  perform _ reports := (reports, false)
  hear report reports := reports ++ [report]
  thread _ := .gameThread
  onThread _ reports := reports

/-- The first of four tasks posts another and unwinds, while another thread posts too: of the
three updates of one entity only the last is run, and what was posted meanwhile waits. -/
theorem begun_in_order_past_panic :
    let update : Task (Script Unit) := { kind := .avatarUpdate 1, work := .once () }
    let posting := Script.post .gameThread .spawn .done .panic
    let events := [Event.post .elsewhere { kind := .general, work := posting },
      .post .elsewhere update, .post .gameThread update, .post .elsewhere update]
    let meanwhile := [[{ kind := .environment, work := .done }]]
    let reports : List QueueEvent := []
    let after := (((start 1 reports meanwhile).run events).drain .gameThread).1
    (∀ event ∈ events, event.isPlain = true) ∧
      (∀ tasks ∈ meanwhile, ∀ task ∈ tasks, task.work.isPlain = true) ∧
      after.begun.map Numbered.number = [0, 3] ∧
      after.scheduler.queue.map Numbered.number = [4, 5] ∧
      Superseded ((start 1 reports meanwhile).run events).posts 1 := by
  intro update posting events meanwhile reports after
  have plain : ∀ event ∈ events, event.isPlain = true := by decide
  have plainLater : ∀ tasks ∈ meanwhile, ∀ task ∈ tasks, task.work.isPlain = true := by decide
  obtain ⟨_, _, _, _, _, complete, _⟩ :=
    begun_in_order 1 reports events meanwhile plain plainLater
  refine ⟨plain, plainLater, by decide +kernel, by decide +kernel, ?_⟩
  rcases complete 1 (by decide +kernel) with begun | superseded
  · exact absurd begun (by decide +kernel)
  · exact superseded

end Watch

end ReplicaBridge.Schedule
