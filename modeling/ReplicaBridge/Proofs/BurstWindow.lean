/-
Module: ReplicaBridge.Proofs.BurstWindow
Purpose: When refused frames end the connection.  The channel keeps only the recent rejects,
  but along any run what it keeps tells as much as all rejects so far would: the channel asks for
  the disconnect and closes at the first reject in whose window there are too many, and from then
  on it takes nothing in and sends nothing.
Main exports: Session.rejectTimes, Channel.IsBurst, Channel.Remembers, Channel.Remembers.push,
  Session.Watched, Session.TurnsAway, Session.closes_at_first_burst
-/
import ReplicaBridge.Host.TableStore
import ReplicaBridge.Proofs.Receiving

namespace ReplicaBridge

open Host (CountedHost Loaded ReflectionHost TableStore)
open Wire (Message)

/-! ### The window -/

namespace Channel

/-- The length of the window in the unit of arrival times. -/
def window (settings : ReplicationSettings) : Nat :=
  settings.invalidBurstWindowMs * nanosPerMilli

/-- A time lies at most the window before now. -/
def isRecent (window now at_ : Nat) : Bool :=
  decide (now ≤ at_ + window)

/-- Of all rejects so far, those in the window of the last one are so many that the connection
ends. -/
def IsBurst (settings : ReplicationSettings) (times : List Nat) : Prop :=
  ∃ last, times.getLast? = some last ∧
    max settings.invalidBurstThreshold 1 ≤ times.countP (isRecent (window settings) last)

theorem not_isBurst_nil {settings : ReplicationSettings} : ¬IsBurst settings [] :=
  nofun

theorem isBurst_concat_iff {settings : ReplicationSettings} {times : List Nat} {now : Nat} :
    IsBurst settings (times ++ [now]) ↔ max settings.invalidBurstThreshold 1 ≤
      ((times ++ [now]).filter (isRecent (window settings) now)).length := by
  rw [← List.countP_eq_length_filter]
  simp [IsBurst]

/-- Some one of the times completed a burst. -/
def HadBurst (settings : ReplicationSettings) (times : List Nat) : Prop :=
  ∃ earlier, earlier <+: times ∧ IsBurst settings earlier

theorem not_hadBurst_nil {settings : ReplicationSettings} : ¬HadBurst settings [] := by
  rintro ⟨earlier, before, burst⟩
  rw [List.prefix_nil.mp before] at burst
  exact not_isBurst_nil burst

theorem hadBurst_concat_iff {settings : ReplicationSettings} {times : List Nat} {now : Nat} :
    HadBurst settings (times ++ [now]) ↔
      HadBurst settings times ∨ IsBurst settings (times ++ [now]) := by
  constructor
  · rintro ⟨earlier, before, burst⟩
    rcases List.prefix_concat_iff.mp before with rfl | within
    · exact .inr burst
    · exact .inl ⟨earlier, within, burst⟩
  · rintro (⟨earlier, within, burst⟩ | burst)
    · exact ⟨earlier, within.trans (List.prefix_append times [now]), burst⟩
    · exact ⟨_, List.prefix_refl _, burst⟩

/-- From times in order, dropping the stale ones at the front drops all of them. -/
theorem dropWhile_stale {window now : Nat} {times : List Nat} (ordered : times.Pairwise (· ≤ ·)) :
    times.dropWhile (fun at_ => decide (window < now - at_)) =
      times.filter (isRecent window now) := by
  induction times with
  | nil => rfl
  | cons first rest ih =>
      obtain ⟨least, later⟩ := List.pairwise_cons.mp ordered
      by_cases stale : window < now - first
      · have old : isRecent window now first = false := decide_eq_false (by omega)
        rw [List.dropWhile_cons_of_pos (by simpa using stale),
          List.filter_cons_of_neg (by simp [old]), ih later]
      · have recent : ∀ at_ ∈ first :: rest, isRecent window now at_ = true := by
          intro at_ among
          have since : first ≤ at_ := by
            rcases List.mem_cons.mp among with rfl | behind
            · exact Nat.le_refl _
            · exact least at_ behind
          exact decide_eq_true (by omega)
        rw [List.dropWhile_cons_of_neg (by simpa using stale), List.filter_eq_self.mpr recent]

/-- What is kept of the times so far and one more. -/
def keptAfter (window : Nat) (kept : List Nat) (now : Nat) : List Nat :=
  (kept ++ [now]).dropWhile fun at_ => decide (window < now - at_)

/-- What was kept of the times tells as much as all of them: whenever it is asked for the recent
ones from now on, the answer is the same. -/
structure Remembers (window : Nat) (kept times : List Nat) : Prop where
  among : kept.Sublist times
  recent : ∀ now, (∀ at_ ∈ times, at_ ≤ now) →
    kept.filter (isRecent window now) = times.filter (isRecent window now)

theorem remembers_nil {window : Nat} : Remembers window [] [] :=
  ⟨List.Sublist.refl _, fun _ _ => rfl⟩

namespace Remembers

variable {window now : Nat} {kept times : List Nat} (remembers : Remembers window kept times)
  (ordered : (times ++ [now]).Pairwise (· ≤ ·))

include remembers ordered

/-- One more time is kept, and what is stale by now is forgotten. -/
theorem push_eq : keptAfter window kept now = (times ++ [now]).filter (isRecent window now) := by
  have last : ∀ at_ ∈ times, at_ ≤ now := fun at_ before =>
    (List.pairwise_append.mp ordered).2.2 at_ before now (List.mem_singleton.mpr rfl)
  rw [keptAfter, dropWhile_stale (ordered.sublist (remembers.among.append_right [now])),
    List.filter_append, List.filter_append, remembers.recent now last]

theorem push : Remembers window (keptAfter window kept now) (times ++ [now]) := by
  rw [push_eq remembers ordered]
  refine ⟨List.filter_sublist, fun later since => ?_⟩
  -- Time only goes on: what is recent later is recent now.
  have now_le : now ≤ later := since now (by simp)
  rw [List.filter_filter]
  apply List.filter_congr
  intro at_ _
  simp only [isRecent, Bool.and_eq_left_iff_imp, decide_eq_true_eq]
  omega

end Remembers

end Channel

/-! ### Rejects in a world -/

namespace World

variable {H : Type}

/-- How the channel stands with the server, and the settings that it goes by. -/
def standing (world : World H) : ReplicationSettings × List Nat × Bool :=
  (world.settings.replication, world.channel.recentRejects, world.channel.closed)

theorem sheltered_standing :
    Sheltered (standing : World H → ReplicationSettings × List Nat × Bool) where
  bridge _ _ := rfl
  replica _ _ := rfl
  channel _ _ _ _ _ _ _ := rfl
  listeners _ _ := rfl
  events _ _ := rfl

theorem standing_close (world : World H) :
    world.close.standing = (world.settings.replication, world.channel.recentRejects, true) :=
  sheltered_standing.observe_noteIf _ _ _

theorem status_noteIf (world : World H) (condition : Bool) (notice : Notice) :
    (world.noteIf condition notice).bridge.report.status = world.bridge.report.status := by
  cases condition <;> rfl

/-- A refused message closes the channel and asks for the disconnect, or does neither. -/
theorem reject_cases (world : World H) (now : Nat) (error : ChannelError)
    {settings : ReplicationSettings} (agrees : world.settings.replication = settings) :
    let kept := Channel.keptAfter (Channel.window settings) world.channel.recentRejects now
    let after := world.reject now error
    (max settings.invalidBurstThreshold 1 ≤ kept.length ∧
      after.standing = (settings, kept, true) ∧
      after.bridge.report.status =
        { world.bridge.report.status with disconnectRequested := true }) ∨
    (¬max settings.invalidBurstThreshold 1 ≤ kept.length ∧
      after.standing = (settings, kept, world.channel.closed) ∧
      after.bridge.report.status = world.bridge.report.status) := by
  subst agrees
  intro kept after
  by_cases many : max world.settings.replication.invalidBurstThreshold 1 ≤ kept.length
  · refine .inl ⟨many, ?_⟩
    have ends : after = _ := if_pos many
    rw [ends]
    exact ⟨standing_close _, (status_noteIf _ _ _).trans (Report.status_requestDisconnect _ _)⟩
  · refine .inr ⟨many, ?_⟩
    have stays : after = _ := if_neg many
    rw [stays]
    exact ⟨rfl, rfl⟩

end World

/-! ### Rejects along a run -/

/-- The operation closes the channel, whatever came in before. -/
def Operation.closes {H : Type} : Operation H → Bool
  | .close | .shutDown _ => true
  | _ => false

namespace Session

variable {H : Type}

/-- The time of a frame that the checks refuse. -/
def rejectTime? (settings : ReplicationSettings) : Operation H → Option Nat
  | .receive now frame => if (accept settings frame).isOk then none else some now
  | _ => none

/-- The times of the frames that the checks refuse, in the order in which they came. -/
def rejectTimes (settings : ReplicationSettings) (operations : List (Operation H)) : List Nat :=
  operations.filterMap (rejectTime? settings)

theorem rejectTimes_concat (settings : ReplicationSettings) (operations : List (Operation H))
    (operation : Operation H) : rejectTimes settings (operations ++ [operation]) =
      rejectTimes settings operations ++ (rejectTime? settings operation).toList := by
  rw [rejectTimes, List.filterMap_append, List.filterMap_cons]
  cases rejectTime? settings operation <;> rfl

/-- Frames, local writes and chat lines come back with the answer that the channel is closed, and
nothing at all has changed. -/
structure TurnsAway [ReflectionHost H] (session : Session H) : Prop where
  receive : ∀ now frame, session.receive now frame = (session, .error .closed)
  sendChat : ∀ text, session.onWorld (·.sendChat text) = (session, .error .closed)
  sendLocal : ∀ caller state, session.sendLocal caller state = (session, .error .closed)

theorem turnsAway_of_closed [ReflectionHost H] {session : Session H}
    (closed : session.world.channel.closed = true) : session.TurnsAway :=
  ⟨receive_of_closed closed, sendChat_of_closed closed, sendLocal_of_closed closed⟩

/-- The channel is closed exactly if there was a burst among the rejects; until then it
remembers them. -/
structure Watched (settings : ReplicationSettings) (times : List Nat) (session : Session H) :
    Prop where
  agrees : session.world.settings.replication = settings
  closed : session.world.channel.closed = true ↔ Channel.HadBurst settings times
  remembers : session.world.channel.closed = false →
    Channel.Remembers (Channel.window settings) session.world.channel.recentRejects times

theorem watched_start (host : CountedHost H) (report : Report) (settings : Settings) :
    Watched settings.replication [] (start host report settings) where
  agrees := rfl
  closed := ⟨nofun, fun burst => absurd burst Channel.not_hadBurst_nil⟩
  remembers _ := Channel.remembers_nil

namespace Watched

variable {settings : ReplicationSettings} {times : List Nat} {session after : Session H}
  (watched : session.Watched settings times)

include watched

theorem of_standing (same : after.world.standing = session.world.standing) :
    after.Watched settings times := by
  obtain ⟨replication, rejects, closed⟩ : _ ∧ _ ∧ _ := by simpa [World.standing] using same
  constructor
  case agrees => exact replication.trans watched.agrees
  case closed => exact closed ▸ watched.closed
  case remembers =>
    intro listens
    rw [rejects]
    exact watched.remembers (closed ▸ listens)

/-- A time more does not matter to a channel that is closed. -/
theorem of_closed (closed : session.world.channel.closed = true) (now : Nat) :
    session.Watched settings (times ++ [now]) where
  agrees := watched.agrees
  closed := by
    have burst := watched.closed.mp closed
    exact ⟨fun _ => Channel.hadBurst_concat_iff.mpr (.inl burst), fun _ => closed⟩
  remembers listens := absurd (listens.symm.trans closed) Bool.false_ne_true

variable [ReflectionHost H]

/-- A refused frame ends the connection exactly if it completes a burst; otherwise nothing is
asked for. -/
theorem receive_refused (listens : session.world.channel.closed = false) {now : Nat}
    {frame : Bytes} {error : ChannelError} (refused : accept settings frame = .error error)
    (ordered : (times ++ [now]).Pairwise (· ≤ ·)) :
    let next := (session.receive now frame).1
    next.Watched settings (times ++ [now]) ∧
      (Channel.IsBurst settings (times ++ [now]) → next.world.bridge.report.status =
        { session.world.bridge.report.status with disconnectRequested := true }) ∧
      (¬Channel.IsBurst settings (times ++ [now]) → next.world.bridge.report.status =
        session.world.bridge.report.status) := by
  intro next
  have received : next.world = session.world.countReceived.reject now error :=
    congrArg (·.1.world) (receive_of_refusal listens now (watched.agrees ▸ refused))
  have remembers := watched.remembers listens
  have before : ¬Channel.HadBurst settings times := fun burst =>
    absurd (listens.symm.trans (watched.closed.mpr burst)) Bool.false_ne_true
  have either := session.world.countReceived.reject_cases now error watched.agrees
  have burst : Channel.IsBurst settings (times ++ [now]) ↔ max settings.invalidBurstThreshold 1 ≤
      (Channel.keptAfter (Channel.window settings) session.world.countReceived.channel.recentRejects
        now).length := by
    rw [Channel.isBurst_concat_iff, ← remembers.push_eq ordered]
    rfl
  dsimp only at either
  rw [← burst] at either
  rcases either with ⟨ends, standing, status⟩ | ⟨goesOn, standing, status⟩
  · rw [← received] at standing status
    refine ⟨⟨?_, ?_, ?_⟩, fun _ => status, fun goesOn => absurd ends goesOn⟩
    · exact congrArg Prod.fst standing
    · have closed : next.world.channel.closed = true := congrArg (·.2.2) standing
      exact ⟨fun _ => Channel.hadBurst_concat_iff.mpr (.inr ends), fun _ => closed⟩
    · intro listens
      exact absurd (listens.symm.trans (congrArg (·.2.2) standing)) Bool.false_ne_true
  · rw [← received] at standing status
    have closed : next.world.channel.closed = false :=
      (congrArg (·.2.2) standing).trans listens
    refine ⟨⟨?_, ?_, fun _ => ?_⟩, fun ends => absurd ends goesOn, fun _ => status⟩
    · exact congrArg Prod.fst standing
    · rw [closed, Channel.hadBurst_concat_iff]
      exact ⟨nofun, fun either => absurd either (not_or.mpr ⟨before, goesOn⟩)⟩
    · rw [show next.world.channel.recentRejects = _ from congrArg (·.2.1) standing]
      exact remembers.push ordered

/-- A frame that is taken over changes nothing about the connection. -/
theorem receive_accepted (now : Nat) {frame : Bytes} {message : Message}
    (accepted : accept settings frame = .ok message) :
    let next := (session.receive now frame).1
    next.Watched settings times ∧
      next.world.bridge.report.status = session.world.bridge.report.status := by
  intro next
  cases listens : session.world.channel.closed with
  | true =>
      have unheard : next = session := congrArg Prod.fst (receive_of_closed listens now frame)
      rw [unheard]
      exact ⟨watched, rfl⟩
  | false =>
      have received : next = (queue _ _ _) :=
        congrArg Prod.fst (receive_of_accept listens now (watched.agrees ▸ accepted))
      rw [received]
      refine ⟨watched.of_standing (World.sheltered_standing.observe_queue _ _ _), ?_⟩
      obtain ⟨notices, noted⟩ := onlyNotes_queue
        (session.mapWorld (·.countReceived)) (taskKind message) (taskOf message).2
      rw [noted]
      exact Bridge.status_noteAll _ notices

theorem operate {operation : Operation H} (lasting : operation.closes = false)
    (ordered : (times ++ (rejectTime? settings operation).toList).Pairwise (· ≤ ·)) :
    (session.operate operation).Watched settings
      (times ++ (rejectTime? settings operation).toList) := by
  have minor (quiet : operation.governs = false) (rejects : rejectTime? settings operation = none) :
      (session.operate operation).Watched settings
        (times ++ (rejectTime? settings operation).toList) := by
    rw [rejects, Option.toList_none, List.append_nil]
    exact watched.of_standing (World.sheltered_standing.observe_operate session quiet)
  cases operation with
  | close => cases lasting
  | shutDown caller => cases lasting
  | receive now frame =>
      cases checked : accept settings frame with
      | ok message =>
          have rejects : rejectTime? settings (.receive now frame : Operation H) = none := by
            simp [rejectTime?, checked, Except.isOk, Except.toBool]
          rw [rejects, Option.toList_none, List.append_nil]
          exact (watched.receive_accepted now checked).1
      | error error =>
          have rejects : rejectTime? settings (.receive now frame : Operation H) = some now := by
            simp [rejectTime?, checked, Except.isOk, Except.toBool]
          rw [rejects, Option.toList_some] at ordered ⊢
          cases listens : session.world.channel.closed with
          | true =>
              rw [show session.operate (.receive now frame) = session from
                congrArg Prod.fst (receive_of_closed listens now frame)]
              exact watched.of_closed listens now
          | false => exact (watched.receive_refused listens checked ordered).1
  | _ => exact minor rfl rfl

theorem operateAll {operations : List (Operation H)}
    (lasting : ∀ operation ∈ operations, operation.closes = false)
    (ordered : (times ++ rejectTimes settings operations).Pairwise (· ≤ ·)) :
    (session.operateAll operations).Watched settings
      (times ++ rejectTimes settings operations) := by
  induction operations generalizing session times with
  | nil => simpa [rejectTimes, Session.operateAll] using watched
  | cons operation rest ih =>
      obtain ⟨first, others⟩ := List.forall_mem_cons.mp lasting
      have split : times ++ rejectTimes settings (operation :: rest) =
          (times ++ (rejectTime? settings operation).toList) ++ rejectTimes settings rest := by
        rw [List.append_assoc, rejectTimes, List.filterMap_cons]
        cases rejectTime? settings operation <;> rfl
      rw [split] at ordered ⊢
      exact ih (watched.operate first (List.pairwise_append.mp ordered).1) others ordered

end Watched

/-! ### After the end -/

variable [ReflectionHost H]

/-- Nothing opens a closed channel again. -/
theorem closed_operate {session : Session H} (closed : session.world.channel.closed = true)
    (operation : Operation H) : (session.operate operation).world.channel.closed = true := by
  have minor (quiet : operation.governs = false) :
      (session.operate operation).world.channel.closed = true :=
    (congrArg (·.2.2) (World.sheltered_standing.observe_operate session quiet)).trans closed
  cases operation with
  | receive now frame =>
      rw [operate, receive_of_closed closed]
      exact closed
  | close => exact congrArg (·.2.2) (World.standing_close session.world)
  | shutDown caller =>
      exact congrArg (·.2.2) ((World.sheltered_standing.observe_shutDown session caller).trans
        (World.standing_close session.world))
  | _ => exact minor rfl

theorem closed_operateAll {session : Session H} (closed : session.world.channel.closed = true)
    (operations : List (Operation H)) :
    (session.operateAll operations).world.channel.closed = true := by
  induction operations generalizing session with
  | nil => exact closed
  | cons operation rest ih => exact ih (closed_operate closed operation)

/-- Take any run that does not close the channel on purpose and in which the refused frames come
in order of time, and one more frame.  The channel is closed before that frame exactly if some
earlier reject completed a burst.  If it is not, the frame closes it and the disconnect stands
requested, with every other flag as it was, when the frame is refused and completes a burst
itself; otherwise the channel and all flags stay.  Once the channel is closed it stays so whatever
happens, and turns away whatever comes in or is to be sent. -/
theorem closes_at_first_burst (host : CountedHost H) (report : Report) (settings : Settings)
    (operations : List (Operation H)) (now : Nat) (frame : Bytes)
    (lasting : ∀ operation ∈ operations, operation.closes = false)
    (ordered : (rejectTimes settings.replication
      (operations ++ [.receive now frame])).Pairwise (· ≤ ·)) :
    let limits := settings.replication
    let times := rejectTimes limits operations
    let before := (start host report settings).operateAll operations
    let after := (before.receive now frame).1
    let completes := (∀ message, accept limits frame ≠ .ok message) ∧
      Channel.IsBurst limits (times ++ [now])
    (before.world.channel.closed = true ↔ Channel.HadBurst limits times) ∧
      (before.world.channel.closed = false →
        (completes → after.world.channel.closed = true ∧
          after.world.bridge.report.status.contains 2 = true ∧
          after.world.bridge.report.status =
            { before.world.bridge.report.status with disconnectRequested := true }) ∧
        (¬completes → after.world.channel.closed = false ∧
          after.world.bridge.report.status = before.world.bridge.report.status)) ∧
      (after.world.channel.closed = true → ∀ later,
        (after.operateAll later).world.channel.closed = true ∧
          (after.operateAll later).TurnsAway) := by
  intro limits times before after completes
  rw [rejectTimes_concat] at ordered
  have watched : before.Watched limits times := by
    have fresh := watched_start host report settings
    exact fresh.operateAll lasting (List.pairwise_append.mp ordered).1
  refine ⟨watched.closed, fun listens => ?_, fun closed later => ?_⟩
  · cases checked : accept limits frame with
    | ok message =>
        have incomplete : ¬completes := fun ⟨refused, _⟩ => refused message checked
        obtain ⟨stays, status⟩ := watched.receive_accepted now checked
        refine ⟨fun complete => absurd complete incomplete, fun _ => ⟨?_, status⟩⟩
        rw [Bool.eq_false_iff, Ne, stays.closed, ← watched.closed, listens]
        exact Bool.false_ne_true
    | error error =>
        have rejects : rejectTime? limits (.receive now frame : Operation H) = some now := by
          simp [rejectTime?, checked, Except.isOk, Except.toBool]
        rw [rejects, Option.toList_some] at ordered
        have refused : ∀ message, accept limits frame ≠ .ok message := by
          intro message accepted
          cases checked.symm.trans accepted
        obtain ⟨stays, ends, goesOn⟩ := watched.receive_refused listens checked ordered
        constructor
        · rintro ⟨-, burst⟩
          have asked := ends burst
          refine ⟨stays.closed.mpr (Channel.hadBurst_concat_iff.mpr (.inr burst)), ?_, asked⟩
          rw [asked]
          exact (Status.contains_flags _).2.1
        · intro incomplete
          have few : ¬Channel.IsBurst limits (times ++ [now]) := fun burst =>
            incomplete ⟨refused, burst⟩
          refine ⟨?_, goesOn few⟩
          rw [Bool.eq_false_iff, Ne, stays.closed, Channel.hadBurst_concat_iff, ← watched.closed,
            listens]
          exact not_or.mpr ⟨Bool.false_ne_true, few⟩
  · have gone := closed_operateAll closed later
    exact ⟨gone, turnsAway_of_closed gone⟩

/-- Two rejects within five milliseconds end the connection.  The second one here comes a
nanosecond too late after the first, and a chat line and a frame pass, with no flag set; the third
comes exactly five milliseconds after the second, closes the channel and sets the flag. -/
theorem closes_at_first_burst_at_boundary :
    let host : CountedHost (Loaded TableStore) := { store := { table := {} } }
    let settings : Settings :=
      { replication := { invalidBurstThreshold := 2, invalidBurstWindowMs := 5 } }
    let bad : Bytes := [0xEE]
    let operations : List (Operation (Loaded TableStore)) :=
      [.receive 0 bad, .receive 5000001 bad,
        .receive 5000002 ((Message.chat "hello").encode.toOption.getD []), .runFrame .gameThread 1]
    let before := (start host {} settings).operateAll operations
    let after := (before.receive 10000001 bad).1
    rejectTimes settings.replication operations = [0, 5000001] ∧
      before.world.channel.closed = false ∧
      before.world.bridge.report.status.contains 2 = false ∧
      after.world.channel.closed = true ∧ after.world.bridge.report.status.contains 2 = true ∧
      after.world.bridge.report.status = { disconnectRequested := true } ∧
      (after.operateAll [.clearChannel, .runFrame .gameThread 2]).TurnsAway := by
  intro host settings bad operations before after
  have listens : before.world.channel.closed = false := by decide +kernel
  obtain ⟨-, next, gone⟩ := closes_at_first_burst host {} settings operations 10000001 bad
    (by decide +kernel) (by decide +kernel)
  have unreadable : (accept settings.replication bad).isOk = false := by decide +kernel
  have refused : ∀ message, accept settings.replication bad ≠ .ok message := by
    intro message accepted
    rw [accepted] at unreadable
    cases unreadable
  have burst : Channel.IsBurst settings.replication
      (rejectTimes settings.replication operations ++ [10000001]) :=
    ⟨10000001, by decide +kernel, by decide +kernel⟩
  obtain ⟨closed, requested, asked⟩ := (next listens).1 ⟨refused, burst⟩
  have clear : before.world.bridge.report.status = {} := by decide +kernel
  refine ⟨by decide +kernel, listens, ?_, closed, requested, ?_, (gone closed _).2⟩
  · rw [clear]
    decide
  · rw [asked, clear]

end Session

end ReplicaBridge
