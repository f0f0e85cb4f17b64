/-
Module: ReplicaBridge.Plugin
Purpose: The bridge as its loader sees it, over the life of the process: loading and
  unloading, the session that may be running, the frames of the game and the frames of
  the server.  Nothing unwinds into the loader.
Main exports: Phase, Plugin, Plugin.load, Plugin.unload, Plugin.start, Plugin.shutDown,
  Plugin.registryReady, Plugin.gameFrame, Plugin.gameFrames, Plugin.receive, Plugin.poll,
  Plugin.sendChat
-/
import ReplicaBridge.Host.FunctionTable
import ReplicaBridge.Session
import ReplicaBridge.Settings.Store

namespace ReplicaBridge

open Host (ReflectionHost TableHeader)

/-! ### What the loader is told -/

/-- How the plugin introduces itself: what the loader can ask for, with the answers. -/
def introduction : List (String × String) :=
  [ ("author", "dollan")
  , ("name", "coopbridge")
  , ("description", "Co-op reflection bridge and state replication")
  , ("license", "MIT")
  , ("version", "0.1.0")
  , ("log_tag", "COOPBRIDGE") ]

/-- What the networking layer hears about a frame that it handed in. -/
inductive Receipt where
  | accepted
  /-- No session is running. -/
  | notRunning
  /-- The frame was malformed or invalid. -/
  | rejected
  /-- The channel is closed. -/
  | closed
deriving Repr, Inhabited, DecidableEq

namespace Receipt

/-- The number that stands for a receipt. -/
def code : Receipt → Int
  | .accepted => 0
  | .notRunning => -1
  | .rejected => -2
  | .closed => -3

end Receipt

/-- Write a text to a buffer of the loader and end it by a zero byte.  What does not fit
is cut off; the rest of the buffer stays. -/
def writeText (buffer : Bytes) (text : String) : Bytes :=
  if buffer.isEmpty then buffer
  else Bytes.overwrite buffer 0 ((Text.utf8 text).take (buffer.length - 1) ++ [0])

/-! ### The plugin -/

/-- Whether a session is running.  The host and the report outlive it. -/
inductive Phase (H : Type) where
  | idle (host : Host.CountedHost H) (report : Report)
  | running (gameThread : Thread) (session : Session H)

/-- What is kept of a successful load. -/
structure Loading where
  /-- The thread that loaded the plugin, which is the game thread. -/
  thread : Thread
  /-- The host signalled that its store is populated. -/
  registryReady : Bool := false
deriving Repr, Inhabited, DecidableEq

/-- The state of the process. -/
structure Plugin (H : Type) where
  phase : Phase H
  loading : Option Loading := none
  /-- The settings of every session, once they were read. -/
  settings : Option Settings := none
  files : FileTree := {}
  /-- The file of the settings. -/
  settingsPath : FilePath := []
  /-- The frames of the game so far. -/
  frames : Nat := 0
  /-- The loader listens to chat lines. -/
  listensToChat : Bool := false
  /-- What was delivered to the loader, oldest first. -/
  delivered : List Event := []

namespace Plugin

variable {H : Type}

/-- The running session, if there is one. -/
def session? (plugin : Plugin H) : Option (Session H) :=
  match plugin.phase with
  | .idle _ _ => none
  | .running _ session => some session

/-- A session is running. -/
def isRunning (plugin : Plugin H) : Bool :=
  plugin.session?.isSome

def host (plugin : Plugin H) : Host.CountedHost H :=
  match plugin.phase with
  | .idle host _ => host
  | .running _ session => session.world.bridge.host

def report (plugin : Plugin H) : Report :=
  match plugin.phase with
  | .idle _ report => report
  | .running _ session => session.world.bridge.report

/-- The flags that the outer layers act on. -/
def status (plugin : Plugin H) : Status :=
  plugin.report.status

/-- A running session is to be torn down. -/
def shutdownRequested (plugin : Plugin H) : Bool :=
  plugin.isRunning && plugin.status.shutdownRequested

/-- Change the host and the report, in a session or outside one. -/
def withHostAndReport (plugin : Plugin H) (host : Host.CountedHost H) (report : Report) :
    Plugin H :=
  match plugin.phase with
  | .idle _ _ => { plugin with phase := .idle host report }
  | .running gameThread session =>
    { plugin with
      phase := .running gameThread (session.mapWorld fun world =>
        { world with bridge := { world.bridge with host, report } }) }

/-- Whether an event reaches the loader: a chat line does only while it listens. -/
def delivers (plugin : Plugin H) : Event → Bool
  | .forwarded _ => plugin.listensToChat
  | _ => true

/-- Deliver what happened in a session. -/
def deliver (plugin : Plugin H) (session : Session H) : Plugin H :=
  { plugin with
    delivered := plugin.delivered ++ session.world.events.filter plugin.delivers }

/-- Go on with a session, once what happened in it is delivered. -/
def resume (plugin : Plugin H) (gameThread : Thread) (session : Session H) : Plugin H :=
  { plugin.deliver session with
    phase := .running gameThread (session.mapWorld fun world => { world with events := [] }) }

/-- Do something with the running session; without one nothing happens. -/
def onSession {α : Type} (plugin : Plugin H) (thread : Thread) (otherwise : α)
    (change : Caller → Session H → Session H × α) : Plugin H × α :=
  match plugin.phase with
  | .idle _ _ => (plugin, otherwise)
  | .running gameThread session =>
    let (session, answer) := change (thread.callerFor gameThread) session
    (plugin.resume gameThread session, answer)

/-- Read the settings, unless that was done before.  If it fails the usual ones are
taken. -/
def configure (plugin : Plugin H) : Plugin H × Settings :=
  match plugin.settings with
  | some settings => (plugin, settings)
  | none =>
    let (files, outcome) := Settings.loadFrom plugin.files plugin.settingsPath
    let settings := outcome.toOption.getD {}
    ({ plugin with files, settings := some settings }, settings)

/-! ### Loading -/

/-- The text for the loader when a function table is refused. -/
def refusalText (error : HostError) : String :=
  "Host error: " ++ error.message

/-- The loader hands in its function table on the game thread.  A second load reuses the
first. -/
def load (plugin : Plugin H) (thread : Thread) (table : Option TableHeader) :
    Plugin H × Except HostError Unit :=
  let (plugin, _) := plugin.configure
  match plugin.loading with
  | some _ => (plugin, .ok ())
  | none =>
    match TableHeader.check table with
    | .error error => (plugin, .error error)
    | .ok () => ({ plugin with loading := some { thread } }, .ok ())

/-- The thread is the one that loaded the plugin. -/
def isGameThread (plugin : Plugin H) (thread : Thread) : Bool :=
  plugin.loading.any (·.thread == thread)

/-- Remember whether the host signalled that its store is populated. -/
def markReady (plugin : Plugin H) (registryReady : Bool) : Plugin H :=
  { plugin with loading := plugin.loading.map ({ · with registryReady }) }

variable [ReflectionHost H]

/-! ### Sessions -/

/-- Start a session on the calling thread.  The host must be ready, no session may be
running, and a host once found unsupported stays out. -/
def start (plugin : Plugin H) (thread : Thread) (settings : Settings) :
    Plugin H × Except (Halt HostError) Unit :=
  if ReflectionHost.isReady plugin.host.store then
    match plugin.phase with
    | .running _ _ => (plugin, .error (.refused .alreadyInitialized))
    | .idle host report =>
      if report.status.hostUnsupported then (plugin, .error (.refused .unsupported))
      else
        let cleared := { report with status := report.status.clear }
        match Session.start? host cleared settings with
        | .error fault => ({ plugin with phase := .idle host cleared }, .error (.unwound fault))
        | .ok session => ({ plugin with phase := .running thread session }, .ok ())
  else (plugin, .error (.refused .notReady))

/-- End the running session; says whether there was one. -/
def shutDown (plugin : Plugin H) (thread : Thread) : Plugin H × Bool :=
  match plugin.phase with
  | .idle _ _ => (plugin, false)
  | .running gameThread session =>
    let ended := session.shutDown (thread.callerFor gameThread)
    let bridge := ended.world.bridge
    ({ plugin.deliver ended with phase := .idle bridge.host bridge.report }, true)

/-- The loader unloads the plugin.  What was loaded stays for a later load. -/
def unload (plugin : Plugin H) (thread : Thread) : Plugin H :=
  (plugin.shutDown thread).1.markReady false

/-- The listener that hands chat lines to the loader. -/
def chatForwarder : Listener :=
  { kind := .chat, reaction := .forward, panics := fun _ => false }

/-- Register a listener with the running session; says whether there is one. -/
def listen (plugin : Plugin H) (thread : Thread) (listener : Listener) : Plugin H × Bool :=
  plugin.onSession thread false fun _ session =>
    (session.mapWorld fun world =>
      { world with listeners := (world.listeners.add listener).1 }, true)

/-- Start the session of the loader, which hears the chat lines of it. -/
def startForLoader (plugin : Plugin H) (thread : Thread) : Plugin H × Bool :=
  let (plugin, settings) := plugin.configure
  match plugin.start thread settings with
  | (plugin, .error _) => (plugin, false)
  | (plugin, .ok ()) => plugin.listen thread chatForwarder

/-- The host signalled on the game thread that its store is populated: a session starts
unless the signal is only repeated while one is running.  Says whether one is running. -/
def registryReady (plugin : Plugin H) (thread : Thread) : Plugin H × Bool :=
  match plugin.loading with
  | none => (plugin, false)
  | some loading =>
    if thread = loading.thread then
      if loading.registryReady && plugin.isRunning then (plugin, true)
      else startForLoader (plugin.markReady true) thread
    else (plugin, false)

/-- The host rebuilt its store. -/
def registryChanged (plugin : Plugin H) (thread : Thread) : Plugin H :=
  (plugin.onSession thread () fun _ session => (session.registryChanged, ())).1

/-- The game ran a frame.  A fatal condition tears the session down at its end.  Gives the
number of tasks run, and none if the frame unwound. -/
def gameFrame (plugin : Plugin H) (thread : Thread) : Plugin H × Nat :=
  let counted := { plugin with frames := plugin.frames + 1 }
  match counted.onSession thread (.ok 0) fun caller session =>
      session.runFrame caller counted.frames with
  | (plugin, .error _) => (plugin, 0)
  | (plugin, .ok executed) =>
    if plugin.shutdownRequested then ((plugin.shutDown thread).1, executed)
    else (plugin, executed)

/-- Run frames of the game one after another; gives the number of tasks run in each. -/
def gameFrames (plugin : Plugin H) (thread : Thread) : (times : Nat) → Plugin H × List Nat
  | 0 => (plugin, [])
  | times + 1 =>
    let (plugin, executed) := gameFrame plugin thread
    let (plugin, later) := gameFrames plugin thread times
    (plugin, executed :: later)

/-! ### The networking layer -/

/-- A frame came from the server. -/
def receive (plugin : Plugin H) (thread : Thread) (now : Nat) (frame : Bytes) :
    Plugin H × Receipt :=
  plugin.onSession thread .notRunning fun _ session =>
    match session.receive now frame with
    | (session, .ok _) => (session, .accepted)
    | (session, .error .closed) => (session, .closed)
    | (session, .error _) => (session, .rejected)

/-- Take the next frame for the server. -/
def poll (plugin : Plugin H) (thread : Thread) : Plugin H × Option Bytes :=
  plugin.onSession thread none fun _ session => session.poll

/-- Assign the local entity; says whether a session is running. -/
def setLocalEntity (plugin : Plugin H) (thread : Thread) (id : EntityId) : Plugin H × Bool :=
  plugin.onSession thread false fun _ session =>
    (session.mapWorld (·.setLocalEntity id), true)

/-- Write the local player's avatar and queue it for the server; says whether that was
done. -/
def sendLocal (plugin : Plugin H) (thread : Thread) (state : AvatarState) :
    Plugin H × Bool :=
  plugin.onSession thread false fun caller session =>
    let (session, outcome) := session.sendLocal caller state
    (session, outcome.isOk)

/-- Queue a chat line for the server, given as bytes that end before the first zero byte;
says whether that was done. -/
def sendChat (plugin : Plugin H) (thread : Thread) (bytes : Bytes) : Plugin H × Bool :=
  match Text.ofUtf8? (bytes.takeWhile (· != 0)) with
  | none => (plugin, false)
  | some text =>
    plugin.onSession thread false fun _ session =>
      let (session, outcome) := session.onWorld (·.sendChat text)
      (session, outcome.isOk)

end Plugin

end ReplicaBridge
