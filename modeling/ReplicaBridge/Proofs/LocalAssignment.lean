/-
Module: ReplicaBridge.Proofs.LocalAssignment
Purpose: What comes of assigning the local player an entity.  Through everything that is asked of
  the session it stays the local entity until the next assignment; updates of it make no
  difference to any frame and none is held back; every valid state is sent under its identity.
  This holds for every identity but the one that stands for no local entity: where that is
  assigned there is none.
Main exports: Work.updates, World.Owned, Session.PlaysAs, Session.assignment_takes_effect_iff
-/
import ReplicaBridge.Proofs.IdleSteps
import ReplicaBridge.Proofs.Lasting
import ReplicaBridge.Proofs.LocalAuthority
import ReplicaBridge.Proofs.ReplicaJobs
import ReplicaBridge.Proofs.Sending

namespace ReplicaBridge

open Host (CountedHost Loaded ReflectionHost TableStore)
open Schedule (GameLoop Script)
open Wire (Message)

/-- The work is an update of the entity, with a valid state. -/
def Work.updates (id : EntityId) : Work → Bool
  | .receiveUpdate state => state.id == id && state.isValid
  | .applyUpdate other state => other == id && state.isValid
  | _ => false

/-- Of the local player's entity nothing is held back that was not held before. -/
theorem Track.held_of_after {id : EntityId} {track : Track} {tick : Nat} {deed : Deed}
    {update : HeldUpdate} (held : (track.after id true tick deed).held = some update) :
    track.held = some update := by
  cases deed with
  | spawn state =>
      simp only [after] at held
      split at held
      · cases held
      · exact held
  | despawn => cases held
  | update state => exact held
  | write state => exact held

/-! ### Worlds -/

namespace World

variable {H : Type}

/-- The entity is the local player's, and no update is held back for it but the one that was
when it became so. -/
structure Owned (id : EntityId) (early : Option HeldUpdate) (world : World H) : Prop where
  owner : world.replica.localEntity = some id
  held : ∀ update, world.held id = some update → early = some update

variable {id : EntityId} {early : Option HeldUpdate} {world after : World H}

theorem Owned.of_unmoved (owned : world.Owned id early) (unmoved : world.Unmoved after) :
    after.Owned id early where
  owner := unmoved.owner.trans owned.owner
  held update found := owned.held update
    ((congrArg Track.held (unmoved.tracks id)).symm.trans found)

/-- The track of one entity changed, and if it is the local player's nothing more is held back. -/
theorem Owned.of_retracks (owned : world.Owned id early) {other : EntityId} {track : Track}
    (changed : Retracks other track world after)
    (quiet : other = id → ∀ update, track.held = some update → world.held id = some update) :
    after.Owned id early where
  owner := (congrArg (·.footing.localEntity) changed.backdrop).trans owned.owner
  held update found := by
    change (after.track id).held = some update at found
    rw [changed.track_eq id] at found
    split at found
    · rename_i same
      exact owned.held update (quiet same.symm update found)
    · exact owned.held update found

theorem Owned.of_aged (owned : world.Owned id early) (aged : after.view = world.view.aged) :
    after.Owned id early where
  owner := (congrArg (·.backdrop.footing.localEntity) aged).trans owned.owner
  held update found := by
    change (after.view.track id).held = some update at found
    rw [aged, View.track_aged] at found
    exact owned.held update (Option.filter_eq_some_iff.mp found).1

/-- An update of the local player's entity is ignored. -/
theorem Owned.applyUpdate_ignored (owned : world.Owned id early) {state : AvatarState}
    (valid : state.isValid = true) : world.applyUpdate id state = (world, .ok .ignoredLocal) := by
  have owns : world.owns id = true := beq_iff_eq.mpr owned.owner
  rw [World.applyUpdate_eq, if_pos valid, if_pos owns]

theorem Owned.receiveUpdate_ignored (owned : world.Owned id early) {state : AvatarState}
    (same : state.id = id) (valid : state.isValid = true) : world.receiveUpdate state = world := by
  rw [receiveUpdate, same, owned.applyUpdate_ignored valid]

section Work

variable [ReflectionHost H]

/-- What a message or a local write does to the entity holds nothing back. -/
theorem Owned.deed (owned : world.Owned id early) (job : Job) {other : EntityId} {deed : Deed}
    (about : job.deed? = some (other, deed)) : (world.perform job.work).1.Owned id early := by
  have changed := (retracks_performJob about world).of_view (view_performJob world job).symm
  refine owned.of_retracks changed ?_
  rintro rfl update found
  have owns : world.owns other = true := beq_iff_eq.mpr owned.owner
  rw [owns] at found
  exact Track.held_of_after found

theorem Owned.perform (owned : world.Owned id early) (work : Work) :
    (world.perform work).1.Owned id early := by
  have unchanged (other : EntityId) : Retracks other (world.track other) world world :=
    Retracks.quiet rfl other
  have still (row : Option AvatarState) (other : EntityId) (same : other = id)
      (update : HeldUpdate) (found : ({ world.track other with row } : Track).held = some update) :
      world.held id = some update := same ▸ found
  cases work with
  | receiveSpawn state => exact owned.deed { kind := .spawn, work := .receiveSpawn state } rfl
  | receiveDespawn other =>
      exact owned.deed { kind := .despawn, work := .receiveDespawn other } rfl
  | receiveUpdate state =>
      exact owned.deed { kind := .avatarUpdate state.id, work := .receiveUpdate state } rfl
  | writeRow other state =>
      exact owned.deed { kind := .localAvatarUpdate other, work := .writeRow other state } rfl
  | receiveSeason value =>
      exact owned.of_unmoved (.of_undisturbed (undisturbed_receiveSeason world value))
  | receiveChat text => exact owned.of_unmoved (.of_view (view_fire world _))
  | applySeason season =>
      exact owned.of_unmoved (.of_undisturbed (undisturbed_applySeason world season))
  | advanceHours hours =>
      exact owned.of_unmoved (.of_undisturbed (undisturbed_advanceHours world hours))
  | spawn other state =>
      simp only [World.perform, World.spawn]
      split
      · exact owned.of_retracks (((unchanged other).writeRow state).of_view (view_note _ _))
          (still _ other)
      · exact owned
  | applyUpdate other state =>
      simp only [World.perform]
      rw [applyUpdate_eq]
      split
      · split
        · exact owned
        · split
          · exact owned.of_retracks ((unchanged other).writeRow state) (still _ other)
          · exact owned
      · exact owned
  | despawn other => exact owned.of_retracks (unchanged other).despawn (still _ other)
  | note label => exact owned.of_unmoved (.of_view (view_tell world _))

theorem lasting_owned (id : EntityId) (early : Option HeldUpdate) :
    Lasting (fun _ => True) (Owned id early : World H → Prop) where
  perform _ owned := owned.perform _
  unmoved unmoved owned := owned.of_unmoved unmoved
  aged aged owned := owned.of_aged aged
  cleared owned := ⟨owned.owner, fun _ found =>
    absurd ((EntityMap.get?_empty id).symm.trans found) nofun⟩

/-- Updates are idle work while the entity is the local player's. -/
theorem idles_owned (id : EntityId) (early : Option HeldUpdate) :
    GameLoop.Idles (Work.updates id) (Owned id early : World H → Prop) where
  perform _ _ owned := (lasting_owned id early).perform trivial owned
  hear := (lasting_owned id early).keeps.hear
  onThread := (lasting_owned id early).keeps.onThread
  rest work world idle owned := by
    cases work with
    | receiveUpdate state =>
        obtain ⟨same, valid⟩ := Bool.and_eq_true_iff.mp idle
        exact congrArg (·, false) (owned.receiveUpdate_ignored (eq_of_beq same) valid)
    | applyUpdate other state =>
        obtain ⟨same, valid⟩ := Bool.and_eq_true_iff.mp idle
        cases eq_of_beq same
        exact congrArg (fun answer => (answer.1, false)) (owned.applyUpdate_ignored valid)
    | _ => cases idle

end Work

end World

/-! ### Sessions -/

namespace Session

variable {H : Type} [ReflectionHost H]

/-- The local player plays as an entity: it is the local entity and no other is the local
player's, updates of it are ignored wherever they come up, none was held back for it since the
start, and every valid state is sent under its identity while the channel is open. -/
structure PlaysAs (id : EntityId) (start now : Session H) : Prop where
  owner : now.world.replica.localEntity = some id
  authority : ∀ other, now.world.replica.authority other = .localPlayer ↔ other = id
  ignores : ∀ state, state.isValid = true →
    now.applyUpdate .gameThread id state = (now, .ok .ignoredLocal) ∧
      (state.id = id → now.world.receiveUpdate state = now.world)
  /-- Leaving the updates out of all that is queued, and out of all that it posts, makes no
  difference to a frame. -/
  frames : ∀ caller number, Session.runFrame (now.without (Work.updates id)) caller number =
    ((now.runFrame caller number).1.without (Work.updates id), (now.runFrame caller number).2)
  /-- A frame that brings an update amounts to one that posts an empty task. -/
  receives : now.world.channel.closed = false → ∀ time frame state,
    Admits now.world.settings.replication frame (.humanUpdate state) → state.id = id →
      (now.receive time frame).1.without (Work.updates id) =
        ((now.mapWorld (·.countReceived)).without (Work.updates id)).post (.avatarUpdate id) .done
  held : ∀ update, now.world.held id = some update → start.world.held id = some update
  sends : now.world.channel.closed = false → ∀ caller state, state.isValid = true →
    (now.sendLocal caller state).2 = .ok () ∧
      ∃ frame, Message.decode frame = .ok (.humanUpdate (state.withId id)) ∧
        (now.sendLocal caller state).1.world.channel.outgoing =
          now.world.channel.outgoing ++ [frame]

section Owned

variable {id : EntityId} {early : Option HeldUpdate} {session : Session H}
  (owned : session.world.Owned id early)

include owned

theorem runFrame_without (caller : Caller) (number : Nat) :
    Session.runFrame (session.without (Work.updates id)) caller number =
      ((session.runFrame caller number).1.without (Work.updates id),
        (session.runFrame caller number).2) := by
  have drained := (World.idles_owned id early).drain owned caller
  simp only [runFrame]
  rw [drained]
  generalize GameLoop.drain session caller = ran
  cases caller with
  | elsewhere => rfl
  | gameThread =>
      have same : (ran.1.without (Work.updates id)).world = ran.1.world := rfl
      simp only [retryPending, onWorld, same]
      rcases ran.1.world.retryPending with ⟨world, outcome⟩
      cases outcome with
      | error fault => rfl
      | ok answer => rfl

omit owned in
theorem receive_without (listens : session.world.channel.closed = false) (time : Nat)
    {frame : Bytes} {state : AvatarState}
    (admitted : Admits session.world.settings.replication frame (.humanUpdate state))
    (same : state.id = id) :
    (session.receive time frame).1.without (Work.updates id) =
      ((session.mapWorld (·.countReceived)).without (Work.updates id)).post
        (.avatarUpdate id) .done := by
  have valid : state.isValid = true := admitted.valid
  have idle : (Script.once (Work.receiveUpdate state)).without (Work.updates id) = .done :=
    if_pos (Bool.and_eq_true_iff.mpr ⟨beq_iff_eq.mpr same, valid⟩)
  rw [receive_of_accept listens time (accept_eq_ok_iff.mpr admitted), ← idle, ← same]
  exact (GameLoop.post_without _ (session.mapWorld (·.countReceived)) _ _).symm

omit [ReflectionHost H] in
theorem authority_eq_localPlayer_iff (other : EntityId) :
    session.world.replica.authority other = .localPlayer ↔ other = id := by
  rw [Replica.authority, owned.owner]
  by_cases same : other = id
  · rw [same, if_pos rfl]
    exact iff_of_true rfl rfl
  · rw [if_neg fun owner => same (Option.some.inj owner).symm]
    exact iff_of_false (by decide) same

theorem sendLocal_owned (listens : session.world.channel.closed = false) (caller : Caller)
    {state : AvatarState} (valid : state.isValid = true) :
    (session.sendLocal caller state).2 = .ok () ∧
      ∃ frame, Message.decode frame = .ok (.humanUpdate (state.withId id)) ∧
        (session.sendLocal caller state).1.world.channel.outgoing =
          session.world.channel.outgoing ++ [frame] := by
  have writes : session.localWrite? state = some id :=
    localWrite?_eq_some_iff.mpr ⟨listens, valid, owned.owner⟩
  have sending := session.sendLocal_spec caller state
  rw [writes] at sending
  obtain ⟨done, exchange⟩ := sending
  have unrefused := exchange.unrefused _ (List.mem_singleton.mpr rfl)
  exact ⟨done, _, (admits_bytes unrefused).decodes, exchange.frames⟩

/-- All that is promised follows from whose the entity is and what is held back for it. -/
theorem playsAs_of_owned {start : Session H} (early : start.world.held id = early) :
    PlaysAs id start session where
  owner := owned.owner
  authority := authority_eq_localPlayer_iff owned
  ignores state valid := by
    refine ⟨?_, fun same => owned.receiveUpdate_ignored same valid⟩
    rw [Session.applyUpdate, if_pos valid]
    exact congrArg (fun answer => ({ session with world := answer.1 }, answer.2))
      (owned.applyUpdate_ignored valid)
  frames := runFrame_without owned
  receives listens time _ _ admitted same := receive_without listens time admitted same
  held update found := early.trans (owned.held update found)
  sends listens caller _ valid := sendLocal_owned owned listens caller valid

end Owned

theorem localEntity_assigned (session : Session H) (id : EntityId) :
    (session.operate (.setLocalEntity id)).world.replica.localEntity = Replica.assigned id :=
  congrArg (·.backdrop.footing.localEntity) (World.view_setLocalEntity session.world id)

/-- From any session and whatever is queued in it: once an entity is assigned, the local player
plays as it until another one is assigned or the replica is cleared, whatever is asked of the
session on any thread.  The one identity that stands for no local entity is the only exception,
and always one. -/
theorem assignment_takes_effect_iff (session : Session H) (id : EntityId) :
    (∀ operations : List (Operation H),
      (∀ operation ∈ operations, operation.reassigns = false) →
      let start := session.operate (.setLocalEntity id)
      PlaysAs id start (start.operateAll operations)) ↔ id ≠ Replica.noEntity := by
  constructor
  · intro plays unreal
    have owner := (plays [] nofun).owner
    cases (owner.symm.trans (localEntity_assigned session id)).trans (if_pos unreal)
  · intro real operations stays start
    have owned : start.world.Owned id (start.world.held id) :=
      ⟨(localEntity_assigned session id).trans (if_neg real), fun _ found => found⟩
    have guarded : start.Guarded (World.Owned id (start.world.held id)) (Work.All fun _ => True) :=
      ⟨owned, fun task _ => Work.fits_of_forall (fun _ => trivial) task⟩
    have lasts := (World.lasting_owned id (start.world.held id)).operateAll guarded
      Work.covers_all (fun operation _ => operation.fits_of_forall fun _ => trivial) stays
    exact playsAs_of_owned lasts.world rfl

/-- The identity of all ones comes from the server like any other, but it is never the local
player's: after it is assigned there is no local entity, its updates are held back for a spawn,
and nothing can be sent. -/
theorem assignment_of_last_identity_lost :
    let host : CountedHost (Loaded TableStore) := { store := { table := {} } }
    let session := (start host {} {}).operate (.setLocalEntity 0xFFFFFFFFFFFFFFFF)
    let update := (Message.humanUpdate (.resting 0xFFFFFFFFFFFFFFFF)).bytes
    let later := session.operateAll [.receive 0 update, .runFrame .gameThread 1]
    session.world.channel.closed = false ∧
      session.world.replica.localEntity = none ∧
      session.world.replica.authority 0xFFFFFFFFFFFFFFFF = .replicated ∧
      (later.world.held 0xFFFFFFFFFFFFFFFF).map (·.state) =
        some (.resting 0xFFFFFFFFFFFFFFFF) ∧
      (session.sendLocal .gameThread (.resting 1)).2 = .error (.replica .noLocalEntity) := by
  decide +kernel

end Session

end ReplicaBridge
