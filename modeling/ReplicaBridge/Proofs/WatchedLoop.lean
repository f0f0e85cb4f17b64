/-
Module: ReplicaBridge.Proofs.WatchedLoop
Purpose: The game loop under watch.  Post calls are numbered, the tasks that are begun are
  written down, and other threads may post at every step of a drain.  Where they do not, the
  watched loop goes through the states of the loop itself.
Main exports: Schedule.Event, Schedule.GameLoop.run, Schedule.Watch, Schedule.Watch.run,
  Schedule.Watch.forget, Schedule.Watch.Follows, Schedule.Watch.forget_run
-/
import ReplicaBridge.Proofs.Coalescing
import ReplicaBridge.Schedule.Loop

namespace ReplicaBridge.Schedule

/-! ### Runs -/

/-- What is asked of a loop from outside. -/
inductive Event (α : Type) where
  | post (caller : Caller) (task : Task (Script α))
  | drain (caller : Caller)
  | shutDown (caller : Caller)
deriving Repr, Inhabited, DecidableEq

namespace GameLoop

variable {α σ : Type} [Workplace σ α]

/-- A loop that has done nothing yet. -/
def start (softCap : Nat) (world : σ) : GameLoop α σ :=
  { scheduler := Scheduler.ofSoftCap softCap, world }

def handle (loop : GameLoop α σ) : Event α → GameLoop α σ
  | .post caller task => handTo caller (·.post task.kind task.work) loop
  | .drain caller => (loop.drain caller).1
  | .shutDown caller => handTo caller shutDown loop

def run (loop : GameLoop α σ) (events : List (Event α)) : GameLoop α σ :=
  events.foldl handle loop

end GameLoop

/-! ### The loop under watch -/

/-- A task with the number of the call that posted it. -/
abbrev Numbered (α : Type) := Task (Nat × Script α)

namespace Numbered

variable {α : Type}

def number (task : Numbered α) : Nat :=
  task.work.1

/-- The task as it was posted. -/
def task (task : Numbered α) : Task (Script α) :=
  task.map Prod.snd

end Numbered

/-- A game loop of which is known what was posted and what was begun. -/
structure Watch (α σ : Type) where
  scheduler : Scheduler (Nat × Script α)
  world : σ
  /-- The tasks of all post calls, in the order of the calls: the number of a call is its
  place here. -/
  posts : List (Task (Script α))
  /-- The tasks that were begun, in order. -/
  begun : List (Numbered α)
  /-- What other threads post while tasks run: at each step the next of these lists. -/
  meanwhile : List (List (Task (Script α)))

namespace Watch

variable {α σ : Type}

/-- The loop that is watched. -/
def forget (watch : Watch α σ) : GameLoop α σ :=
  { scheduler := watch.scheduler.map Prod.snd, world := watch.world }

def start (softCap : Nat) (world : σ) (meanwhile : List (List (Task (Script α)))) : Watch α σ :=
  { scheduler := Scheduler.ofSoftCap softCap, world, posts := [], begun := [], meanwhile }

/-- A watch stands for a loop, and no other thread posts. -/
structure Follows (watch : Watch α σ) (loop : GameLoop α σ) : Prop where
  forget : watch.forget = loop
  alone : watch.meanwhile = []

/-- Results that stand for each other, with the same answer. -/
def Agree {β : Type} (result : Watch α σ × β) (result' : GameLoop α σ × β) : Prop :=
  Follows result.1 result'.1 ∧ result.2 = result'.2

namespace Follows

variable {watch : Watch α σ} {loop : GameLoop α σ}

theorem world (follows : Follows watch loop) : watch.world = loop.world :=
  congrArg GameLoop.world follows.forget

/-- Where both worlds change in the same way. -/
theorem onWorld (follows : Follows watch loop) (change : σ → σ) :
    Follows { watch with world := change watch.world }
      { loop with world := change loop.world } := by
  obtain ⟨rfl, alone⟩ := follows
  exact ⟨rfl, alone⟩

theorem countExecuted (follows : Follows watch loop) {count count' : Nat}
    (same : count = count') :
    Follows { watch with scheduler := watch.scheduler.countExecuted count }
      { loop with scheduler := loop.scheduler.countExecuted count' } := by
  obtain ⟨rfl, alone⟩ := follows
  subst same
  exact ⟨rfl, alone⟩

end Follows

/-! ### Steps -/

variable [Workplace σ α]

def hear (watch : Watch α σ) (event : Option QueueEvent) : Watch α σ :=
  match event with
  | none => watch
  | some event => { watch with world := Workplace.hear event watch.world }

/-- Post a task under the next number. -/
def post (watch : Watch α σ) (task : Task (Script α)) : Watch α σ :=
  let (scheduler, event) :=
    watch.scheduler.post { kind := task.kind, work := (watch.posts.length, task.work) }
  { watch with scheduler, posts := watch.posts ++ [task] }.hear event

def shutDown (watch : Watch α σ) : Watch α σ :=
  let (scheduler, event) := watch.scheduler.shutDown
  { watch with scheduler }.hear event

def handTo (caller : Caller) (work : Watch α σ → Watch α σ) (watch : Watch α σ) : Watch α σ :=
  let worked := work { watch with world := Workplace.onThread caller watch.world }
  { worked with world := Workplace.onThread (Workplace.thread watch.world) worked.world }

/-- Other threads post what they post at this step. -/
def interrupt (watch : Watch α σ) : Watch α σ :=
  match watch.meanwhile with
  | [] => watch
  | tasks :: later =>
    tasks.foldl (fun watch task => handTo .elsewhere (·.post task) watch)
      { watch with meanwhile := later }

/-- How a drain started by a script runs. -/
abbrev Nested (α σ : Type) := Watch α σ → Watch α σ × Nat

def refuseDrain (watch : Watch α σ) : Watch α σ × Nat :=
  (handTo .elsewhere (·.hear (some .drainRefused)) watch, 0)

def runScript (nested : Nested α σ) : Script α → Watch α σ → Watch α σ × Bool
  | .done, watch => (watch.interrupt, false)
  | .panic, watch => (watch.interrupt, true)
  | .act action next, watch =>
    let watch := watch.interrupt
    let (world, unwound) := Workplace.perform action watch.world
    if unwound then ({ watch with world }, true) else runScript nested next { watch with world }
  | .post caller kind body next, watch =>
    runScript nested next (handTo caller (·.post { kind, work := body }) watch.interrupt)
  | .drain caller next, watch =>
    let (watch, count) := match caller with
      | .gameThread => nested watch.interrupt
      | .elsewhere => watch.interrupt.refuseDrain
    runScript nested next (watch.hear (some (.nestedDrain count)))
  | .shutDown caller next, watch =>
    runScript nested next (handTo caller shutDown watch.interrupt)

/-- Begin a task, run it to its end and report it if it unwinds. -/
def runTask (nested : Nested α σ) (task : Numbered α) (watch : Watch α σ) : Watch α σ :=
  match runScript nested task.work.2 { watch with begun := watch.begun ++ [task] } with
  | (watch, false) => watch
  | (watch, true) => watch.hear (some (.taskPanicked task.kind))

def runBatch (nested : Nested α σ) (shuttingDown : Bool) :
    List (Numbered α) → Watch α σ → Watch α σ × Nat
  | [], watch => (watch.interrupt, 0)
  | task :: rest, watch =>
    if shuttingDown && task.kind != .despawn then
      runBatch nested shuttingDown rest
        { watch with scheduler := watch.scheduler.countDiscarded 1 }
    else
      let (watch, count) := runBatch nested shuttingDown rest (runTask nested task watch.interrupt)
      (watch, count + 1)

def drainOnce (nested : Nested α σ) (watch : Watch α σ) : Watch α σ × Nat :=
  let (scheduler, batch) := watch.scheduler.take
  let (watch, count) := runBatch nested scheduler.shuttingDown batch { watch with scheduler }
  ({ watch with scheduler := watch.scheduler.countExecuted count }, count)

def drainTo : (depth : Nat) → Nested α σ
  | 0 => fun watch => (watch, 0)
  | depth + 1 => drainOnce (drainTo depth)

/-- Drains nest at most as deep as the queued scripts and those still to be posted let them. -/
def drain (watch : Watch α σ) (caller : Caller) : Watch α σ × Nat :=
  match caller with
  | .gameThread =>
    let waiting := watch.forget.scheduler.queue ++ watch.meanwhile.flatten
    drainTo (GameLoop.queuedDrains waiting + 1) watch
  | .elsewhere => watch.refuseDrain

def handle (watch : Watch α σ) : Event α → Watch α σ
  | .post caller task => handTo caller (·.post task) watch
  | .drain caller => (watch.drain caller).1
  | .shutDown caller => handTo caller shutDown watch

def run (watch : Watch α σ) (events : List (Event α)) : Watch α σ :=
  events.foldl handle watch

/-! ### Watching changes nothing -/

namespace Follows

variable {watch : Watch α σ} {loop : GameLoop α σ}

theorem hear (follows : Follows watch loop) (event : Option QueueEvent) :
    Follows (watch.hear event) (loop.hear event) := by
  cases event with
  | none => exact follows
  | some event => exact follows.onWorld (Workplace.hear event)

theorem post (follows : Follows watch loop) (task : Task (Script α)) :
    Follows (watch.post task) (loop.post task.kind task.work) := by
  obtain ⟨rfl, alone⟩ := follows
  have same : watch.forget.scheduler.post { kind := task.kind, work := task.work } = _ :=
    watch.scheduler.post_map Prod.snd
      { kind := task.kind, work := (watch.posts.length, task.work) }
  rw [Watch.post, GameLoop.post, same]
  apply Follows.hear
  exact ⟨rfl, alone⟩

theorem shutDown (follows : Follows watch loop) : Follows watch.shutDown loop.shutDown := by
  obtain ⟨rfl, alone⟩ := follows
  have same : watch.forget.scheduler.shutDown = _ := watch.scheduler.shutDown_map Prod.snd
  rw [Watch.shutDown, GameLoop.shutDown, same]
  apply Follows.hear
  exact ⟨rfl, alone⟩

theorem handTo (follows : Follows watch loop) (caller : Caller) {work : Watch α σ → Watch α σ}
    {work' : GameLoop α σ → GameLoop α σ}
    (both : ∀ {watch loop}, Follows watch loop → Follows (work watch) (work' loop)) :
    Follows (watch.handTo caller work) (GameLoop.handTo caller work' loop) := by
  have worked := both (follows.onWorld (Workplace.onThread caller))
  have back := worked.onWorld (Workplace.onThread (Workplace.thread loop.world))
  rw [Watch.handTo, GameLoop.handTo, follows.world]
  rw [follows.world] at back
  exact back

theorem interrupt (follows : Follows watch loop) : Follows watch.interrupt loop := by
  rw [Watch.interrupt, follows.alone]
  exact follows

theorem refuseDrain (follows : Follows watch loop) : Agree watch.refuseDrain loop.refuseDrain :=
  ⟨follows.handTo .elsewhere fun follows => follows.hear _, rfl⟩

section Nested

variable {nested : Nested α σ} {nested' : GameLoop.Nested α σ}
  (both : ∀ {watch loop}, Follows watch loop → Agree (nested watch) (nested' loop))

include both

theorem runScript (script : Script α) (follows : Follows watch loop) :
    Agree (Watch.runScript nested script watch) (GameLoop.runScript nested' script loop) := by
  -- A task that is posted carries its script along unchanged, whatever its number.
  induction script generalizing watch loop with
  | done => exact ⟨follows.interrupt, rfl⟩
  | panic => exact ⟨follows.interrupt, rfl⟩
  | act action next ih =>
      have interrupted := follows.interrupt
      have acted := interrupted.onWorld fun world => (Workplace.perform action world).1
      simp only [Watch.runScript, GameLoop.runScript]
      rw [interrupted.world] at acted ⊢
      split
      · exact ⟨acted, rfl⟩
      · exact ih acted
  | post caller kind body next _ ih =>
      exact ih (follows.interrupt.handTo caller fun follows => follows.post _)
  | drain caller next ih =>
      cases caller with
      | gameThread =>
          obtain ⟨drained, counts⟩ := both follows.interrupt
          simp only [Watch.runScript, GameLoop.runScript]
          rw [counts]
          exact ih (drained.hear _)
      | elsewhere => exact ih (follows.interrupt.refuseDrain.1.hear _)
  | shutDown caller next ih =>
      exact ih (follows.interrupt.handTo caller fun follows => follows.shutDown)

theorem runTask (task : Numbered α) (follows : Follows watch loop) :
    Follows (Watch.runTask nested task watch) (GameLoop.runTask nested' task.task loop) := by
  have begun : Follows { watch with begun := watch.begun ++ [task] } loop :=
    ⟨follows.forget, follows.alone⟩
  obtain ⟨ran, unwound⟩ := begun.runScript both task.work.2
  have body : task.task.work = task.work.2 := rfl
  rw [Watch.runTask, GameLoop.runTask, body]
  revert ran unwound
  rcases Watch.runScript nested task.work.2 _ with ⟨after, unwound⟩
  rcases GameLoop.runScript nested' task.work.2 loop with ⟨after', unwound'⟩
  rintro ran (rfl : unwound = unwound')
  cases unwound with
  | false => exact ran
  | true => exact ran.hear _

theorem runBatch (shuttingDown : Bool) (batch : List (Numbered α))
    (follows : Follows watch loop) : Agree (Watch.runBatch nested shuttingDown batch watch)
      (GameLoop.runBatch nested' shuttingDown (batch.map Numbered.task) loop) := by
  induction batch generalizing watch loop with
  | nil => exact ⟨follows.interrupt, rfl⟩
  | cons task rest ih =>
      have kind : task.task.kind = task.kind := rfl
      rw [List.map_cons, Watch.runBatch, GameLoop.runBatch, kind]
      split
      · apply ih
        obtain ⟨rfl, alone⟩ := follows
        exact ⟨rfl, alone⟩
      · obtain ⟨ran, counts⟩ := ih (follows.interrupt.runTask both task)
        exact ⟨ran, congrArg (· + 1) counts⟩

theorem drainOnce (follows : Follows watch loop) :
    Agree (Watch.drainOnce nested watch) (GameLoop.drainOnce nested' loop) := by
  obtain ⟨rfl, alone⟩ := follows
  have taken : Follows { watch with scheduler := watch.scheduler.take.1 }
      { watch.forget with scheduler := watch.forget.scheduler.take.1 } := ⟨rfl, alone⟩
  obtain ⟨ran, counts⟩ := taken.runBatch both watch.scheduler.shuttingDown watch.scheduler.queue
  exact ⟨ran.countExecuted counts, counts⟩

end Nested

theorem drainTo (depth : Nat) (follows : Follows watch loop) :
    Agree (Watch.drainTo depth watch) (GameLoop.drainTo depth loop) := by
  induction depth generalizing watch loop with
  | zero => exact ⟨follows, rfl⟩
  | succ depth ih => exact follows.drainOnce ih

theorem drain (caller : Caller) (follows : Follows watch loop) :
    Agree (watch.drain caller) (loop.drain caller) := by
  cases caller with
  | gameThread =>
      have waiting : watch.forget.scheduler.queue ++ watch.meanwhile.flatten =
          loop.scheduler.queue := by
        rw [follows.forget, follows.alone, List.flatten_nil, List.append_nil]
      rw [Watch.drain, GameLoop.drain, waiting]
      exact follows.drainTo _
  | elsewhere => exact follows.refuseDrain

theorem handle (event : Event α) (follows : Follows watch loop) :
    Follows (watch.handle event) (loop.handle event) := by
  cases event with
  | post caller task => exact follows.handTo caller fun follows => follows.post task
  | drain caller => exact (follows.drain caller).1
  | shutDown caller => exact follows.handTo caller fun follows => follows.shutDown

theorem run (events : List (Event α)) (follows : Follows watch loop) :
    Follows (watch.run events) (loop.run events) := by
  induction events generalizing watch loop with
  | nil => exact follows
  | cons event later ih => exact ih (follows.handle event)

end Follows

/-- Where no other thread posts during a drain, watching a loop changes nothing. -/
theorem forget_run (softCap : Nat) (world : σ) (events : List (Event α)) :
    ((start softCap world []).run events).forget = (GameLoop.start softCap world).run events := by
  have begins : Follows (start softCap world []) (GameLoop.start (α := α) softCap world) :=
    ⟨rfl, rfl⟩
  exact (begins.run events).forget

end Watch

end ReplicaBridge.Schedule
