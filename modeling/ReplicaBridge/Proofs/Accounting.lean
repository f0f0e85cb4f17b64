/-
Module: ReplicaBridge.Proofs.Accounting
Purpose: What the counters of a scheduler add up to.  Whoever posts, drains and shuts down, and
  whatever tasks do, no task gets lost between the counters, and no despawn is lost at all.
Main exports: Schedule.Ledger.Accounted, Schedule.Ledger.Reachable.accounted,
  Schedule.Watch.accounts_conserved
-/
import ReplicaBridge.Proofs.LoopLedger
import ReplicaBridge.Proofs.NestingDepth
import ReplicaBridge.Proofs.PostOrder

namespace ReplicaBridge.Schedule

variable {α : Type}

namespace Ledger

/-- What the counters of a scheduler say about the post calls, and what a drain that starts after
the shutdown does to its batch. -/
structure Accounted (ledger : Ledger α) : Prop where
  /-- Every post call is counted once, unless a drain is under way. -/
  total : ledger.drains = [] →
    ledger.calls.length = ledger.scheduler.queue.length + ledger.scheduler.executed +
      ledger.scheduler.coalesced + ledger.scheduler.discarded
  /-- What the counters count are the tasks themselves. -/
  divided : ledger.drains = [] →
    ledger.calls.Perm (ledger.scheduler.queue ++ ledger.begun ++ ledger.outdated ++
      (ledger.refused ++ ledger.dropped))
  executed : ledger.drains = [] → ledger.scheduler.executed = ledger.begun.length
  coalesced : ledger.scheduler.coalesced = ledger.outdated.length
  discarded : ledger.scheduler.discarded = ledger.refused.length + ledger.dropped.length
  posted : ledger.scheduler.posted + ledger.refused.length = ledger.calls.length
  refused : ledger.refused ≠ [] → ledger.scheduler.shuttingDown = true
  spared : ∀ task ∈ ledger.outdated ++ (ledger.refused ++ ledger.dropped),
    task.kind ≠ .despawn
  late : ∀ drain ∈ ledger.ended, drain.late = true →
    drain.begun = drain.batch.filter (·.kind == .despawn) ∧
      drain.dropped = drain.batch.filter (·.kind != .despawn) ∧
      drain.begun.Sublist ledger.begun ∧ drain.dropped.Sublist ledger.dropped

theorem Balanced.divided {ledger : Ledger α} (balanced : Balanced ledger)
    (idle : ledger.drains = []) :
    ledger.calls.Perm (ledger.scheduler.queue ++ ledger.begun ++ ledger.outdated ++
      (ledger.refused ++ ledger.dropped)) := by
  have conserved := balanced.conserved
  rw [idle, List.map_nil, List.sum_nil, add_zero] at conserved
  exact Multiset.coe_eq_coe.mp conserved

theorem Balanced.executed_of_idle {ledger : Ledger α} (balanced : Balanced ledger)
    (idle : ledger.drains = []) : ledger.scheduler.executed = ledger.begun.length := by
  have executed := balanced.executed
  rwa [idle, List.map_nil, List.sum_nil, Nat.add_zero] at executed

theorem Balanced.total {ledger : Ledger α} (balanced : Balanced ledger)
    (idle : ledger.drains = []) :
    ledger.calls.length = ledger.scheduler.queue.length + ledger.scheduler.executed +
      ledger.scheduler.coalesced + ledger.scheduler.discarded := by
  rw [(balanced.divided idle).length_eq, balanced.executed_of_idle idle, balanced.coalesced,
    balanced.discarded]
  simp only [List.length_append]

theorem Reachable.accounted {softCap : Nat} {ledger : Ledger α}
    (reachable : Reachable softCap ledger) : Accounted ledger := by
  obtain ⟨balanced, closing, recorded⟩ := reachable.kept
  refine ⟨balanced.total, balanced.divided, balanced.executed_of_idle, balanced.coalesced,
    balanced.discarded, balanced.posted, closing.refused, balanced.spared, ?_⟩
  intro drain ended late
  obtain ⟨faithful, begun, dropped⟩ := recorded.entered drain (List.mem_append_right _ ended)
  obtain ⟨despawns, others⟩ := faithful.of_late late (recorded.done drain ended)
  exact ⟨despawns, others, begun, dropped⟩

end Ledger

namespace Watch

variable {σ : Type}

theorem length_numbered (posts : List (Task (Script α))) :
    (numbered posts).length = posts.length :=
  List.length_mapIdx

/-- The counters account for every post call: in whatever order threads post, drain and shut
down, and in every run of the game loop, with drains that nest as deep as they like, tasks that
unwind and other threads that post all the while. -/
theorem accounts_conserved :
    (∀ {α : Type} {softCap : Nat} {ledger : Ledger α},
      Ledger.Reachable softCap ledger → ledger.Accounted) ∧
    (∀ {α σ : Type} [Workplace σ α] (softCap : Nat) (world : σ)
      (meanwhile : List (List (Task (Script α)))) (events : List (Event α)),
      let watch := (start softCap world meanwhile).run events
      watch.posts.length = watch.scheduler.queue.length + watch.scheduler.executed +
        watch.scheduler.coalesced + watch.scheduler.discarded ∧
      watch.scheduler.executed = watch.begun.length ∧
      ∃ ledger, Ledger.Reachable softCap ledger ∧ InBooks watch ledger ∧ ledger.drains = [] ∧
        ∃ after drain, Ledger.Steps ledger after ∧
          InBooks (watch.drain .gameThread).1 after ∧ after.drains = [] ∧
          drain ∈ after.ended ∧ drain.batch = watch.scheduler.queue ∧
          drain.late = watch.scheduler.shuttingDown ∧
          drain.begun.length = (watch.drain .gameThread).2) ∧
    ∀ {α σ : Type} [Workplace σ α] (softCap : Nat) (world : σ) (events : List (Event α)),
      let loop := (GameLoop.start softCap world).run events
      ((start softCap world []).run events).forget = loop ∧
      ∀ extra, GameLoop.drainTo (GameLoop.queuedDrains loop.scheduler.queue + 1 + extra) loop =
        loop.drain .gameThread := by
  refine ⟨fun reachable => reachable.accounted, ?_, ?_⟩
  · intro α σ _ softCap world meanwhile events watch
    obtain ⟨ledger, reachable, books, idle⟩ := exists_ledger softCap world meanwhile events
    obtain ⟨after, drain, steps, books', same, ended⟩ :=
      books.drain_record (by rw [idle]; nofun)
    have accounted := reachable.accounted
    have total := accounted.total idle
    have executed := accounted.executed idle
    rw [books.calls, length_numbered, books.scheduler] at total
    rw [books.scheduler, books.begun] at executed
    exact ⟨total, executed, ledger, reachable, books, idle, after, drain, steps, books',
      same.trans idle, ended⟩
  · intro α σ _ softCap world events loop
    exact ⟨forget_run softCap world events, GameLoop.drainTo_of_enough loop⟩

/-- A task drains, posts, shuts the queue down, posts in vain and unwinds, while another thread
posts too: of the seven post calls two tasks wait, and of these the next drain runs the despawn
only. -/
theorem accounts_conserved_past_shutdown :
    let update : Task (Script Unit) := { kind := .avatarUpdate 1, work := .done }
    let busy : Script Unit := .drain .gameThread (.post .gameThread .spawn .done
      (.shutDown .elsewhere (.post .elsewhere .general .done .panic)))
    let events := [Event.post .elsewhere update, .post .gameThread update,
      .post .elsewhere { kind := .general, work := busy }, .drain .elsewhere,
      .drain .gameThread, .post .gameThread { kind := .despawn, work := .panic }]
    let reports : List QueueEvent := []
    let watch := (start 1 reports [[update]]).run events
    watch.posts.length = 2 + 3 + 1 + 1 ∧ watch.begun.length = 3 ∧
      ∃ ledger after drain, Ledger.Reachable 1 ledger ∧ ledger.Accounted ∧
        InBooks watch ledger ∧ Ledger.Steps ledger after ∧ drain ∈ after.ended ∧
        drain.batch.map (·.kind) = [.spawn, .despawn] ∧
        drain.begun = drain.batch.filter (·.kind == .despawn) ∧ drain.begun.length = 1 := by
  intro update busy events reports watch
  obtain ⟨accounted, runs, _⟩ := accounts_conserved
  obtain ⟨total, executed, ledger, reachable, books, idle, after, drain, steps, _, _, ended,
    batch, late, count⟩ := runs 1 reports [[update]] events
  have shut : watch.scheduler.shuttingDown = true := by decide +kernel
  have waiting : watch.scheduler.queue.map (·.kind) = [.spawn, .despawn] := by decide +kernel
  obtain ⟨begun, _⟩ := (accounted (reachable.trans steps)).late drain ended (late.trans shut)
  refine ⟨total.trans (by decide +kernel), executed.symm.trans (by decide +kernel), ledger, after,
    drain, reachable, accounted reachable, books, steps, ended, ?_, begun, ?_⟩
  · rw [batch]
    exact waiting
  · exact count.trans (by decide +kernel)

end Watch

end ReplicaBridge.Schedule
