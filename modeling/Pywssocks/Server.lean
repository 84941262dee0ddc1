-- The server object and the event loop it runs on: the fields of `WSSocksServer`,
-- each kind of task as the await point it stands at, and the clock. The methods
-- of the server and the steps of the loop are in the modules that import this one.
import Pywssocks.Frame
import Pywssocks.PortPool
import Pywssocks.SocketManager

namespace pywssocks.server

/-- The fields of `WSSocksServer` that the control plane reads and writes. A dict is a
function to `Option`, a set a function to `Bool`; `_forward_clients` is the list of its
items in insertion order, since `remove_token` iterates it. A client id is what `uuid4()`
returned, a websocket is the number of its session task. `message_queues` maps a
channel id to the websocket of the relay that registered the queue. -/
structure WSSocksServer where
  loop : Bool
  socks_wait_client : Bool
  pending_tokens : List String
  clients : Nat → Option Nat
  token_locks : String → Bool
  token_clients : String → Option (List (Nat × Nat))
  token_indexes : String → Option Nat
  tokens : String → Option Nat
  socks_tasks : Nat → Option Nat
  message_queues : String → Option Nat
  socks_auth : String → Option (String × String)
  forward_tokens : String → Bool
  forward_clients : List (Nat × Nat)
  socks_port_pool : PortPool
  socket_manager : SocketManager

/-- What an authenticated session holds in `_handle_websocket`'s locals. -/
structure Login where
  client_id : Nat
  token : String
  reverse : Bool
  deriving DecidableEq, Repr

/-- Where `_handle_websocket` stands. -/
inductive SessionPhase where
  /-- awaiting the auth message -/
  | auth
  /-- registered, awaiting the send of the auth response -/
  | sending (l : Login)
  /-- the dispatcher and the heartbeat run -/
  | serving (l : Login)
  /-- one of them ended; both are cancelled and gathered -/
  | ending (l : Login)
  /-- `_cleanup_connection` has run; the login, if the session had one -/
  | done (l : Option Login)
  deriving DecidableEq, Repr

/-- Where `_run_socks_server` stands. -/
inductive SupervisorPhase where
  /-- the task has not run yet -/
  | created
  /-- waiting for the manager's lock in `get_socket` -/
  | getting
  /-- in the accept loop on the socket it got -/
  | serving (sock : Nat)
  /-- cancelled, waiting for its handlers to finish -/
  | draining (sock : Nat)
  /-- waiting for the lock in `release_socket`; the socket, if it got one -/
  | releasing (sock : Option Nat)
  /-- cancelled again in its `finally`: `CancelledError` is raised at the `await` it stands
  at, the gather once its handlers are done or the lock of `release_socket`, and the task
  ends without releasing -/
  | aborting
  | done
  deriving DecidableEq, Repr

/-- Where `_handle_socks_request` stands. -/
inductive HandlerPhase where
  | start
  /-- polling every 0.1 s for a client of its token, since the time it started waiting -/
  | waiting (since : Nat)
  /-- handed to the relay with the websocket it chose -/
  | relaying (ws : Nat)
  | done
  deriving DecidableEq, Repr

/-- A task of the loop. A supervisor, a handler and a `_handle_pending_token` task carry
whether `cancel()` was called on them; a handler, the supervisor that spawned it. -/
inductive Task where
  | session (ph : SessionPhase)
  | supervisor (token : String) (port : Nat) (ph : SupervisorPhase) (cancelled : Bool)
  | handler (token : String) (sup : Nat) (ph : HandlerPhase) (cancelled : Bool)
  | pending (token : String) (ran : Bool) (cancelled : Bool)
  deriving DecidableEq, Repr

/-- Where a `serve()` call stands. -/
inductive ServePhase where
  /-- inside `async with serve(...)`: the WebSocket server is up -/
  | running
  /-- in its `finally`, before `SocketManager.close` has the lock: cancelled while serving, or
  the WebSocket port was taken by another call and the bind raised -/
  | stopping
  /-- in `SocketManager.close`, holding its lock while the cleanup tasks finish -/
  | closing
  | stopped
  deriving DecidableEq, Repr

/-- The server and its event loop. `uuids` counts the ids `uuid4()` has handed out, each
fresh. `serves` holds the `serve()` calls in the order they started (each `wait_ready()`
starts one). `closes` records the `ws.close(code, reason)` tasks `remove_token` created, `puts`
every message a dispatcher put into a queue, with the websocket it came in on, and
`network_handlers` every `_handle_network_connection(websocket, data)` task a dispatcher
created, with its websocket and message: those tasks belong to the relay, outside this model. -/
structure World where
  server : WSSocksServer
  tasks : List Task
  now : Nat
  uuids : Nat
  serves : List ServePhase
  closes : List (Nat × Nat × String)
  puts : List (Nat × String × List (String × JsonValue))
  network_handlers : List (Nat × List (String × JsonValue))

/-- The arguments of `WSSocksServer(...)` that the control plane reads. -/
structure Config where
  socks_port_pool : List Nat
  socks_wait_client : Bool
  socks_grace : Nat

/-- The defaults of `WSSocksServer.__init__`: ports `range(1024, 10240)`, wait for a client,
a grace of 30 s. -/
def Config.default : Config := ⟨List.range' 1024 (10240 - 1024), true, 30⟩

/-- `WSSocksServer(...)`, before `serve()`. -/
def World.init (c : Config) : World where
  server :=
    { loop := false
      socks_wait_client := c.socks_wait_client
      pending_tokens := []
      clients := fun _ => none
      token_locks := fun _ => false
      token_clients := fun _ => none
      token_indexes := fun _ => none
      tokens := fun _ => none
      socks_tasks := fun _ => none
      message_queues := fun _ => none
      socks_auth := fun _ => none
      forward_tokens := fun _ => false
      forward_clients := []
      socks_port_pool := PortPool.init c.socks_port_pool
      socket_manager := SocketManager.init c.socks_grace }
  tasks := []
  now := 0
  uuids := 0
  serves := []
  closes := []
  puts := []
  network_handlers := []

/-! ## Logins and liveness -/

def SessionPhase.login : SessionPhase → Option Login
  | .auth => none
  | .sending l | .serving l | .ending l => some l
  | .done l => l

/-- The session has authenticated and not yet run its cleanup. -/
def SessionPhase.live : SessionPhase → Bool
  | .sending _ | .serving _ | .ending _ => true
  | _ => false

def Task.phase : Task → Option SessionPhase
  | .session ph => some ph
  | _ => none

/-- Where the session whose websocket is `ws` stands. -/
def World.session (w : World) (ws : Nat) : Option SessionPhase := w.tasks[ws]?.bind Task.phase

/-- The login of the session whose websocket is `ws`. -/
def World.login (w : World) (ws : Nat) : Option Login := (w.session ws).bind SessionPhase.login

/-- The session of websocket `ws` is authenticated and not yet cleaned up. -/
def World.live (w : World) (ws : Nat) : Bool := (w.session ws).any SessionPhase.live

/-- What a task runs, with its arguments: fixed when the task is created. -/
inductive Role where
  | session
  | supervisor (token : String) (port : Nat)
  | handler (token : String) (sup : Nat)
  | pending (token : String)
  deriving DecidableEq, Repr

def Task.role : Task → Role
  | .session _ => .session
  | .supervisor t p _ _ => .supervisor t p
  | .handler t s _ _ => .handler t s
  | .pending t _ _ => .pending t

def World.role (w : World) (i : Nat) : Option Role := w.tasks[i]?.map Task.role

/-- The fields only the admin calls write (and `serve()`, for `_pending_tokens`). -/
structure SameAdmin (s s' : WSSocksServer) : Prop where
  tokens : s'.tokens = s.tokens
  token_locks : s'.token_locks = s.token_locks
  socks_auth : s'.socks_auth = s.socks_auth
  forward_tokens : s'.forward_tokens = s.forward_tokens
  socks_port_pool : s'.socks_port_pool = s.socks_port_pool

theorem SameAdmin.refl (s : WSSocksServer) : SameAdmin s s := ⟨rfl, rfl, rfl, rfl, rfl⟩

theorem SameAdmin.trans {s s' s'' : WSSocksServer} (h : SameAdmin s s') (h' : SameAdmin s' s'') :
    SameAdmin s s'' :=
  ⟨h'.tokens.trans h.tokens, h'.token_locks.trans h.token_locks, h'.socks_auth.trans h.socks_auth,
    h'.forward_tokens.trans h.forward_tokens, h'.socks_port_pool.trans h.socks_port_pool⟩

/-- The client and supervisor registries, which sessions, handlers and `serve()` write. -/
structure SameRegistry (s s' : WSSocksServer) : Prop where
  clients : s'.clients = s.clients
  token_clients : s'.token_clients = s.token_clients
  token_indexes : s'.token_indexes = s.token_indexes
  forward_clients : s'.forward_clients = s.forward_clients
  socks_tasks : s'.socks_tasks = s.socks_tasks
  pending_tokens : s'.pending_tokens = s.pending_tokens

theorem SameRegistry.refl (s : WSSocksServer) : SameRegistry s s := ⟨rfl, rfl, rfl, rfl, rfl, rfl⟩

/-- The fields of the reverse registry that sessions, handlers and `serve()` write. -/
structure SameReverse (s s' : WSSocksServer) : Prop where
  clients : s'.clients = s.clients
  token_clients : s'.token_clients = s.token_clients
  token_indexes : s'.token_indexes = s.token_indexes
  socks_tasks : s'.socks_tasks = s.socks_tasks
  pending_tokens : s'.pending_tokens = s.pending_tokens

theorem SameRegistry.reverse {s s' : WSSocksServer} (h : SameRegistry s s') : SameReverse s s' :=
  ⟨h.clients, h.token_clients, h.token_indexes, h.socks_tasks, h.pending_tokens⟩

/-! ## Updates of the loop -/

def World.setTask (w : World) (i : Nat) (t : Task) : World := { w with tasks := w.tasks.set i t }

def World.spawn (w : World) (t : Task) : World := { w with tasks := w.tasks ++ [t] }

def World.setSm (w : World) (m : SocketManager) : World :=
  { w with server := { w.server with socket_manager := m } }

@[simp] theorem setTask_server (w : World) (i : Nat) (t : Task) : (w.setTask i t).server = w.server := rfl
@[simp] theorem setTask_uuids (w : World) (i : Nat) (t : Task) : (w.setTask i t).uuids = w.uuids := rfl
@[simp] theorem setTask_now (w : World) (i : Nat) (t : Task) : (w.setTask i t).now = w.now := rfl
@[simp] theorem setTask_serves (w : World) (i : Nat) (t : Task) : (w.setTask i t).serves = w.serves := rfl
@[simp] theorem setTask_closes (w : World) (i : Nat) (t : Task) : (w.setTask i t).closes = w.closes := rfl
@[simp] theorem setTask_puts (w : World) (i : Nat) (t : Task) : (w.setTask i t).puts = w.puts := rfl
@[simp] theorem setTask_network_handlers (w : World) (i : Nat) (t : Task) :
    (w.setTask i t).network_handlers = w.network_handlers := rfl
@[simp] theorem setTask_tasks (w : World) (i : Nat) (t : Task) : (w.setTask i t).tasks = w.tasks.set i t := rfl

@[simp] theorem spawn_server (w : World) (t : Task) : (w.spawn t).server = w.server := rfl
@[simp] theorem spawn_uuids (w : World) (t : Task) : (w.spawn t).uuids = w.uuids := rfl
@[simp] theorem spawn_now (w : World) (t : Task) : (w.spawn t).now = w.now := rfl
@[simp] theorem spawn_serves (w : World) (t : Task) : (w.spawn t).serves = w.serves := rfl
@[simp] theorem spawn_closes (w : World) (t : Task) : (w.spawn t).closes = w.closes := rfl
@[simp] theorem spawn_puts (w : World) (t : Task) : (w.spawn t).puts = w.puts := rfl
@[simp] theorem spawn_network_handlers (w : World) (t : Task) :
    (w.spawn t).network_handlers = w.network_handlers := rfl
@[simp] theorem spawn_tasks (w : World) (t : Task) : (w.spawn t).tasks = w.tasks ++ [t] := rfl

@[simp] theorem setSm_tasks (w : World) (m : SocketManager) : (w.setSm m).tasks = w.tasks := rfl
@[simp] theorem setSm_uuids (w : World) (m : SocketManager) : (w.setSm m).uuids = w.uuids := rfl
@[simp] theorem setSm_now (w : World) (m : SocketManager) : (w.setSm m).now = w.now := rfl
@[simp] theorem setSm_serves (w : World) (m : SocketManager) : (w.setSm m).serves = w.serves := rfl
@[simp] theorem setSm_closes (w : World) (m : SocketManager) : (w.setSm m).closes = w.closes := rfl
@[simp] theorem setSm_puts (w : World) (m : SocketManager) : (w.setSm m).puts = w.puts := rfl
@[simp] theorem setSm_network_handlers (w : World) (m : SocketManager) :
    (w.setSm m).network_handlers = w.network_handlers := rfl
@[simp] theorem setSm_socket_manager (w : World) (m : SocketManager) :
    (w.setSm m).server.socket_manager = m := rfl

/-! ## What an update does to the tasks -/

theorem session_setTask {w : World} {i : Nat} (hi : i < w.tasks.length) (t : Task) :
    (w.setTask i t).session = Function.update w.session i t.phase := by
  funext j
  by_cases h : j = i
  · subst h; simp [World.session, hi]
  · simp [World.session, List.getElem?_set, Ne.symm h, h]

theorem session_spawn (w : World) (t : Task) :
    (w.spawn t).session = Function.update w.session w.tasks.length t.phase := by
  funext j
  rcases Nat.lt_trichotomy j w.tasks.length with h | rfl | h
  · simp [World.session, List.getElem?_append_left h, Nat.ne_of_lt h]
  · simp [World.session]
  · simp [World.session, List.getElem?_eq_none (Nat.le_of_lt h), Nat.ne_of_gt h,
      List.getElem?_eq_none (show (w.tasks ++ [t]).length ≤ j by simpa using h)]

/-- The tasks of `w` are in `w'`, each running what it ran. -/
def RolesKept (w w' : World) : Prop := ∀ i r, w.role i = some r → w'.role i = some r

theorem RolesKept.refl (w : World) : RolesKept w w := fun _ _ h => h

theorem RolesKept.trans {w w' w'' : World} (h : RolesKept w w') (h' : RolesKept w' w'') : RolesKept w w'' :=
  fun i r e => h' i r (h i r e)

theorem RolesKept.of_tasks {w w' : World} (h : w'.tasks = w.tasks) : RolesKept w w' := by
  intro i r e; simpa [World.role, h] using e

theorem roles_setTask {w : World} {i : Nat} {t₀ t : Task} (hi : w.tasks[i]? = some t₀) (ht : t.role = t₀.role) :
    RolesKept w (w.setTask i t) := by
  intro j r e
  by_cases h : i = j
  · subst h; simpa [World.role, List.getElem?_set, (List.getElem?_eq_some_iff.mp hi).1, ht, hi] using e
  · simpa [World.role, List.getElem?_set, h] using e

theorem roles_spawn (w : World) (t : Task) : RolesKept w (w.spawn t) := by
  intro j r e
  have hj : j < w.tasks.length := by
    by_contra hj; simp [World.role, List.getElem?_eq_none (Nat.le_of_not_lt hj)] at e
  simpa [World.role, List.getElem?_append_left hj] using e

/-- `w'` keeps the tasks of `w`, moves no session and draws no client id: what every step
but a session's does. -/
structure Quiet (w w' : World) : Prop where
  roles : RolesKept w w'
  sessions : w'.session = w.session
  uuids : w'.uuids = w.uuids

theorem Quiet.refl (w : World) : Quiet w w := ⟨.refl w, rfl, rfl⟩

theorem Quiet.trans {w w' w'' : World} (h : Quiet w w') (h' : Quiet w' w'') : Quiet w w'' :=
  ⟨h.roles.trans h'.roles, h'.sessions.trans h.sessions, h'.uuids.trans h.uuids⟩

theorem Quiet.of_tasks {w w' : World} (h : w'.tasks = w.tasks) (hu : w'.uuids = w.uuids) : Quiet w w' :=
  ⟨.of_tasks h, by funext j; simp [World.session, h], hu⟩

theorem Quiet.logins {w w' : World} (h : Quiet w w') : w'.login = w.login := by
  funext ws; simp [World.login, h.sessions]

/-- Task `i` moves on with its role, and at its phase if it is a session; `w'` may differ
from `w` in anything but the tasks. -/
theorem quiet_setTask {w w' : World} {i : Nat} {t₀ t : Task} (hi : w.tasks[i]? = some t₀)
    (h : w'.tasks = w.tasks.set i t) (hu : w'.uuids = w.uuids) (ht : t.role = t₀.role) (hp : t.phase = t₀.phase) :
    Quiet w w' := by
  refine ⟨(roles_setTask hi ht).trans (.of_tasks h), ?_, hu⟩
  rw [show w'.session = (w.setTask i t).session by funext j; simp [World.session, h],
    session_setTask (List.getElem?_eq_some_iff.mp hi).1, hp]
  funext j
  by_cases h : j = i
  · subst h; simp [World.session, hi]
  · simp [h]

theorem quiet_spawn (w : World) (t : Task) (hs : t.phase = none) : Quiet w (w.spawn t) := by
  refine ⟨roles_spawn w t, ?_, rfl⟩
  rw [session_spawn, hs]
  funext j
  by_cases h : j = w.tasks.length
  · subst h; simp [World.session, List.getElem?_eq_none (Nat.le_refl _)]
  · simp [h]

@[simp] theorem session_eq_some {w : World} {ws : Nat} {ph : SessionPhase} :
    w.session ws = some ph ↔ w.tasks[ws]? = some (.session ph) := by
  unfold World.session
  cases h : w.tasks[ws]? with
  | none => simp
  | some t => cases t <;> simp [Task.phase]

/-- Session `ws` moves to phase `ph'`. -/
theorem set_session {w : World} {ws : Nat} {ph : SessionPhase} (hi : w.session ws = some ph) (ph' : SessionPhase) :
    RolesKept w (w.setTask ws (.session ph')) ∧
      (w.setTask ws (.session ph')).session = Function.update w.session ws (some ph') := by
  have hi' := session_eq_some.mp hi
  exact ⟨roles_setTask hi' rfl, session_setTask (List.getElem?_eq_some_iff.mp hi').1 _⟩

theorem login_of_session {w w' : World} {ws : Nat} {ph : SessionPhase}
    (h : w'.session = Function.update w.session ws (some ph)) : w'.login = Function.update w.login ws ph.login := by
  funext j; by_cases hj : j = ws
  · subst hj; simp [World.login, h]
  · simp [World.login, h, hj]

theorem live_of_session {w w' : World} {ws : Nat} {ph : SessionPhase}
    (h : w'.session = Function.update w.session ws (some ph)) : w'.live = Function.update w.live ws ph.live := by
  funext j; by_cases hj : j = ws
  · subst hj; simp [World.live, h]
  · simp [World.live, h, hj]

/-- A session that moves on with its login leaves every login as it was. -/
theorem login_move {w w' : World} {ws : Nat} {ph ph' : SessionPhase} (hi : w.session ws = some ph)
    (h : w'.session = Function.update w.session ws (some ph')) (hl : ph'.login = ph.login) : w'.login = w.login := by
  rw [login_of_session h, hl]
  exact Function.update_eq_self_iff.mpr (by simp [World.login, hi])

theorem login_set_session {w : World} {ws : Nat} {ph : SessionPhase} (hi : w.tasks[ws]? = some (.session ph))
    {ph' : SessionPhase} (hl : ph'.login = ph.login) : (w.setTask ws (.session ph')).login = w.login :=
  login_move (session_eq_some.mpr hi) (set_session (session_eq_some.mpr hi) ph').2 hl

theorem quiet_map (w : World) {f : Task → Task} (hr : ∀ t, (f t).role = t.role) (hp : ∀ t, (f t).phase = t.phase) :
    Quiet w { w with tasks := w.tasks.map f } := by
  refine ⟨fun i r e => ?_, ?_, rfl⟩
  · simpa [World.role, hr] using e
  · funext j; cases h : w.tasks[j]? <;> simp [World.session, h, hp]

end pywssocks.server
