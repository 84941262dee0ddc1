-- The event loop: every step a task takes from one await to the next, the admin
-- calls, the clock and the relays' channels, as one relation; and the states a
-- server reaches from `WSSocksServer(...)` by any interleaving of those steps.
import Pywssocks.Session

namespace pywssocks.server

/-! ## Supervisors -/

/-- A cancelled `_run_socks_server` reaches `await self._socket_manager.release_socket(port)`
in its `finally`: it releases at once when the lock is free, else it waits for it. -/
def releaseStep (w : World) (i : Nat) (token : String) (port : Nat) (sock : Option Nat) : World :=
  if w.server.socket_manager.locked then w.setTask i (.supervisor token port (.releasing sock) true)
  else (w.setTask i (.supervisor token port .done true)).setSm
    (w.server.socket_manager.release_socket port w.now)

theorem releaseStep_quiet {w : World} {i : Nat} {t : String} {p : Nat} {ph : SupervisorPhase} {c : Bool}
    (hi : w.tasks[i]? = some (.supervisor t p ph c)) (sock : Option Nat) : Quiet w (releaseStep w i t p sock) := by
  unfold releaseStep; split
  · exact quiet_setTask hi rfl rfl rfl rfl
  · exact quiet_setTask hi rfl rfl rfl rfl

theorem releaseStep_registry (w : World) (i : Nat) (t : String) (p : Nat) (sock : Option Nat) :
    SameRegistry w.server (releaseStep w i t p sock).server := by
  unfold releaseStep; split <;> exact ⟨rfl, rfl, rfl, rfl, rfl, rfl⟩

theorem releaseStep_admin (w : World) (i : Nat) (t : String) (p : Nat) (sock : Option Nat) :
    SameAdmin w.server (releaseStep w i t p sock).server := by
  unfold releaseStep; split <;> exact ⟨rfl, rfl, rfl, rfl, rfl⟩

/-- `socks_server = await self._socket_manager.get_socket(socks_port)`: the task waits while
`close` holds the lock; a bind error lands in `except Exception`, and the `finally`
releases at once. -/
def getStep (w : World) (i : Nat) (token : String) (port : Nat) (bind_ok : Bool) : World :=
  if w.server.socket_manager.locked then w.setTask i (.supervisor token port .getting false)
  else
    match w.server.socket_manager.get_socket port bind_ok with
    | some (sock, m) => (w.setTask i (.supervisor token port (.serving sock) false)).setSm m
    | none => (w.setTask i (.supervisor token port .done false)).setSm
        (w.server.socket_manager.release_socket port w.now)

theorem getStep_admin (w : World) (i : Nat) (t : String) (p : Nat) (b : Bool) :
    SameAdmin w.server (getStep w i t p b).server := by
  unfold getStep; split
  · exact .refl _
  · split <;> exact ⟨rfl, rfl, rfl, rfl, rfl⟩

theorem getStep_quiet {w : World} {i : Nat} {t : String} {p : Nat} {ph : SupervisorPhase} {c : Bool}
    (hi : w.tasks[i]? = some (.supervisor t p ph c)) (b : Bool) : Quiet w (getStep w i t p b) := by
  unfold getStep; split
  · exact quiet_setTask hi rfl rfl rfl rfl
  · split <;> exact quiet_setTask hi rfl rfl rfl rfl

theorem getStep_registry (w : World) (i : Nat) (t : String) (p : Nat) (b : Bool) :
    SameRegistry w.server (getStep w i t p b).server := by
  unfold getStep; split
  · exact .refl _
  · split <;> exact ⟨rfl, rfl, rfl, rfl, rfl, rfl⟩

/-- A handler of supervisor `i` that has not finished: a member of `socks_handler_tasks`. -/
def Task.liveHandlerOf (i : Nat) : Task → Bool
  | .handler _ s ph _ => s == i && ph != .done
  | _ => false

/-- `for task in socks_handler_tasks: task.cancel()` for supervisor `i`. -/
def cancelHandlers (w : World) (i : Nat) : World :=
  { w with tasks := w.tasks.map fun t => if t.liveHandlerOf i then t.cancel else t }

theorem cancelHandlers_quiet (w : World) (i : Nat) : Quiet w (cancelHandlers w i) :=
  quiet_map w (fun t => by split <;> simp) (fun t => by split <;> simp)

theorem cancelHandlers_get (w : World) (i j : Nat) :
    (cancelHandlers w i).tasks[j]? = w.tasks[j]?.map fun t => if t.liveHandlerOf i then t.cancel else t := by
  simp [cancelHandlers]

/-- A cancelled supervisor at its next step. Never started, it just ends; in `get_socket` or
in the accept loop, its `finally` cancels its handlers, waits for them if there are any,
then releases. -/
def cancelStep (w : World) (i : Nat) (token : String) (port : Nat) : SupervisorPhase → World
  | .created => w.setTask i (.supervisor token port .done true)
  | .getting => releaseStep w i token port none
  | .serving sock =>
    if w.tasks.any (Task.liveHandlerOf i) then
      (cancelHandlers w i).setTask i (.supervisor token port (.draining sock) true)
    else releaseStep w i token port (some sock)
  | _ => w

theorem cancelStep_quiet {w : World} {i : Nat} {t : String} {p : Nat} {ph : SupervisorPhase} {c : Bool}
    (hi : w.tasks[i]? = some (.supervisor t p ph c)) : Quiet w (cancelStep w i t p ph) := by
  cases ph <;> simp only [cancelStep]
  case created => exact quiet_setTask hi rfl rfl rfl rfl
  case getting => exact releaseStep_quiet hi _
  case serving sock =>
    split
    · have hi' : (cancelHandlers w i).tasks[i]? = some (.supervisor t p (.serving sock) c) := by
        simp [cancelHandlers_get, hi, Task.liveHandlerOf]
      exact (cancelHandlers_quiet w i).trans (quiet_setTask hi' rfl rfl rfl rfl)
    · exact releaseStep_quiet hi _
  all_goals exact .refl w

theorem cancelStep_registry (w : World) (i : Nat) (t : String) (p : Nat) (ph : SupervisorPhase) :
    SameRegistry w.server (cancelStep w i t p ph).server := by
  cases ph <;> simp only [cancelStep]
  case getting => exact releaseStep_registry ..
  case serving => split
                  · exact .refl _
                  · exact releaseStep_registry ..
  all_goals exact .refl _

theorem cancelStep_admin (w : World) (i : Nat) (t : String) (p : Nat) (ph : SupervisorPhase) :
    SameAdmin w.server (cancelStep w i t p ph).server := by
  cases ph <;> simp only [cancelStep]
  case getting => exact releaseStep_admin ..
  case serving => split
                  · exact .refl _
                  · exact releaseStep_admin ..
  all_goals exact .refl _

/-! ## Handlers -/

/-- `websocket = await self._get_next_websocket(token)`, then the relay with it, or a
refusal (also when a lookup raises). -/
def selectStep (w : World) (i : Nat) (token : String) (sup : Nat) : World :=
  match _get_next_websocket w.server token with
  | some (some ws, s) => { w.setTask i (.handler token sup (.relaying ws) false) with server := s }
  | some (none, s) => { w.setTask i (.handler token sup .done false) with server := s }
  | none => w.setTask i (.handler token sup .done false)

theorem selectStep_quiet {w : World} {i : Nat} {t : String} {sup : Nat} {ph : HandlerPhase} {c : Bool}
    (hi : w.tasks[i]? = some (.handler t sup ph c)) : Quiet w (selectStep w i t sup) := by
  unfold selectStep; split
  · exact quiet_setTask hi rfl rfl rfl rfl
  · exact quiet_setTask hi rfl rfl rfl rfl
  · exact quiet_setTask hi rfl rfl rfl rfl

theorem selectStep_admin (w : World) (i : Nat) (t : String) (sup : Nat) :
    SameAdmin w.server (selectStep w i t sup).server := by
  unfold selectStep; split
  · exact _get_next_websocket_admin ‹_›
  · exact _get_next_websocket_admin ‹_›
  · exact .refl _

/-- The SOCKS5 credentials `_handle_socks_request` hands to the relay with the websocket:
`auth = self._socks_auth.get(token, None)`, then its username and password, or `None` for
both. -/
def socksCredentials (s : WSSocksServer) (token : String) : Option String × Option String :=
  match s.socks_auth token with
  | some (u, pw) => (some u, some pw)
  | none => (none, none)

/-- One step of `_handle_socks_request` before the relay: with no client list it waits,
polling until 10 s have passed (`while loop.time() - wait_start < 10`), then refuses. -/
def handlerStep (w : World) (i : Nat) (token : String) (sup : Nat) : HandlerPhase → World
  | .start =>
    if (w.server.token_clients token).isSome then selectStep w i token sup
    else w.setTask i (.handler token sup (.waiting w.now) false)
  | .waiting since =>
    if w.now < since + 10 then
      match w.server.token_clients token with
      | some (_ :: _) => selectStep w i token sup
      | _ => w
    else w.setTask i (.handler token sup .done false)
  | _ => w

theorem handlerStep_quiet {w : World} {i : Nat} {t : String} {sup : Nat} {ph : HandlerPhase} {c : Bool}
    (hi : w.tasks[i]? = some (.handler t sup ph c)) (ph' : HandlerPhase) : Quiet w (handlerStep w i t sup ph') := by
  cases ph' <;> simp only [handlerStep]
  case start => split
                · exact selectStep_quiet hi
                · exact quiet_setTask hi rfl rfl rfl rfl
  case waiting => split
                  · split
                    · exact selectStep_quiet hi
                    · exact .refl w
                  · exact quiet_setTask hi rfl rfl rfl rfl
  all_goals exact .refl w

theorem handlerStep_forward (w : World) (i : Nat) (t : String) (sup : Nat) (ph : HandlerPhase) :
    (handlerStep w i t sup ph).server.forward_clients = w.server.forward_clients := by
  have hs : (selectStep w i t sup).server.forward_clients = w.server.forward_clients := by
    unfold selectStep; split
    · exact _get_next_websocket_forward ‹_›
    · exact _get_next_websocket_forward ‹_›
    · rfl
  cases ph <;> simp only [handlerStep]
  case start => split
                · exact hs
                · rfl
  case waiting => split
                  · split
                    · exact hs
                    · rfl
                  · rfl

theorem handlerStep_admin (w : World) (i : Nat) (t : String) (sup : Nat) (ph : HandlerPhase) :
    SameAdmin w.server (handlerStep w i t sup ph).server := by
  cases ph <;> simp only [handlerStep]
  case start => split
                · exact selectStep_admin ..
                · exact .refl _
  case waiting => split
                  · split
                    · exact selectStep_admin ..
                    · exact .refl _
                  · exact .refl _
  all_goals exact .refl _

/-! ## Serving and shutting down -/

/-- The loop of `serve()` over `_pending_tokens`; `false` when `_handle_pending_token`
raises, which ends `serve()` before its `try`. -/
def servePending (w : World) : List String → World × Bool
  | [] => (w, true)
  | t :: ts =>
    match _handle_pending_token w t with
    | some w' => servePending w' ts
    | none => (w, false)

theorem servePending_admin (w : World) (ts : List String) : SameAdmin w.server (servePending w ts).1.server := by
  induction ts generalizing w with
  | nil => exact .refl _
  | cons t ts ih =>
    simp only [servePending]
    split
    · exact (_handle_pending_token_admin ‹_›).trans (ih _)
    · exact .refl _

theorem servePending_quiet (w : World) (ts : List String) : Quiet w (servePending w ts).1 := by
  induction ts generalizing w with
  | nil => exact .refl _
  | cons t ts ih =>
    simp only [servePending]
    split
    · exact (_handle_pending_token_quiet ‹_›).trans (ih _)
    · exact .refl _

theorem servePending_forward (w : World) (ts : List String) :
    (servePending w ts).1.server.forward_clients = w.server.forward_clients := by
  induction ts generalizing w with
  | nil => rfl
  | cons t ts ih =>
    simp only [servePending]
    split
    · exact (ih _).trans (_handle_pending_token_forward ‹_›)
    · rfl

/-- A new `serve()` call, up to its first await that yields: the loop over `_pending_tokens`,
then `async with serve(...)`, whose bind of the WebSocket port raises while another call
serves on it; the call then goes to its `finally`. -/
def serveStart (w : World) : World :=
  let r := servePending { w with server := { w.server with loop := true } } w.server.pending_tokens
  if r.2 then
    { r.1 with
      server := { r.1.server with pending_tokens := [] }
      serves := r.1.serves ++ [if ServePhase.running ∈ w.serves then .stopping else .running] }
  else { r.1 with serves := r.1.serves ++ [.stopped] }

/-- `await self._socket_manager.close()` in the `finally` of the `k`-th `serve()` call, once
it has the lock, up to its first await; it ends there when there is no cleanup task to wait
for. -/
def closeBeginStep (w : World) (k : Nat) : World :=
  { w.setSm w.server.socket_manager.closeBegin with
    serves := w.serves.set k (if w.server.socket_manager.cleanup_tasks = [] then .stopped else .closing) }

def closeEndStep (w : World) (k : Nat) : World :=
  { w.setSm w.server.socket_manager.closeEnd with serves := w.serves.set k .stopped }

theorem serveStart_admin (w : World) : SameAdmin w.server (serveStart w).server := by
  have h := servePending_admin { w with server := { w.server with loop := true } } w.server.pending_tokens
  unfold serveStart; dsimp only; split
  · exact ⟨h.tokens, h.token_locks, h.socks_auth, h.forward_tokens, h.socks_port_pool⟩
  · exact ⟨h.tokens, h.token_locks, h.socks_auth, h.forward_tokens, h.socks_port_pool⟩

theorem serveStart_forward (w : World) : (serveStart w).server.forward_clients = w.server.forward_clients := by
  have h := servePending_forward { w with server := { w.server with loop := true } } w.server.pending_tokens
  unfold serveStart; dsimp only; split <;> exact h

theorem serveStart_quiet (w : World) : Quiet w (serveStart w) := by
  have h : Quiet w (servePending { w with server := { w.server with loop := true } } w.server.pending_tokens).1 :=
    (Quiet.of_tasks (by rfl) (by rfl)).trans (servePending_quiet _ _)
  unfold serveStart; dsimp only; split
  · exact h.trans (.of_tasks rfl rfl)
  · exact h.trans (.of_tasks rfl rfl)

/-! ## The steps -/

/-- What happens at one step of the loop: an admin call, the step of a task (named by its
number; a websocket is the number of its session), or the environment. -/
inductive Action where
  | add_reverse_token (token : Option String) (drawn : String) (port : Option Nat)
      (username password : Option String) (pick : Nat)
  | add_forward_token (token : Option String) (drawn : String)
  | remove_token (token : String)
  | serve
  | cancel_serve (k : Nat)
  | close (k : Nat)
  | close_done (k : Nat)
  | connect
  | auth (ws : Nat) (frame : Option Frame)
  | send_ok (ws : Nat)
  | frame (ws : Nat) (frame : Option Frame)
  | hangup (ws : Nat)
  | finish (ws : Nat)
  | get_socket (i : Nat) (bind_ok : Bool)
  | accept (i : Nat)
  | deliver_cancel (i : Nat)
  | drained (i : Nat)
  | release (i : Nat)
  | cancel (i : Nat)
  | handler (i : Nat)
  | handler_exit (i : Nat)
  | pending (i : Nat)
  | expire (k : Nat)
  | tick
  | open_channel (id : String) (ws : Nat)
  | close_channel (id : String)

/-- One step of the loop. Each task step runs from an await to the next one; the guards say
at which await the task stands. `hangup` is a failed receive or send, a failed ping, a
closed connection or a cancellation, whichever ends that await; `cancel` is a `cancel()`
from outside the server (the loop's teardown), and `cancel_serve k` that of the task running
the `k`-th `serve()` call. A relay (out of this model) registers and drops queues at any
time. -/
inductive Step : World → Action → World → Prop where
  | add_reverse_token (w : World) (token : Option String) (drawn : String) (port : Option Nat)
      (username password : Option String) (pick : Nat) :
      Step w (.add_reverse_token token drawn port username password pick)
        (add_reverse_token w token drawn port username password pick).2
  | add_forward_token (w : World) (token : Option String) (drawn : String) :
      Step w (.add_forward_token token drawn) (add_forward_token w token drawn).2
  | remove_token (w : World) (token : String) : Step w (.remove_token token) (remove_token w token).2
  | serve (w : World) : Step w .serve (serveStart w)
  | cancel_serve (w : World) (k : Nat) :
      w.serves[k]? = some .running → Step w (.cancel_serve k) { w with serves := w.serves.set k .stopping }
  | close (w : World) (k : Nat) :
      w.serves[k]? = some .stopping → w.server.socket_manager.locked = false → Step w (.close k) (closeBeginStep w k)
  | close_done (w : World) (k : Nat) : w.serves[k]? = some .closing → Step w (.close_done k) (closeEndStep w k)
  | connect (w : World) : ServePhase.running ∈ w.serves → Step w .connect (w.spawn (.session .auth))
  | auth (w : World) (ws : Nat) (frame : Option Frame) :
      w.tasks[ws]? = some (.session .auth) → Step w (.auth ws frame) (_handle_websocket w ws frame)
  | send_ok (w : World) (ws : Nat) (l : Login) :
      w.tasks[ws]? = some (.session (.sending l)) →
      Step w (.send_ok ws) (w.setTask ws (.session (.serving l)))
  | frame (w : World) (ws : Nat) (l : Login) (frame : Option Frame) :
      w.tasks[ws]? = some (.session (.serving l)) →
      Step w (.frame ws frame) (_message_dispatcher w ws l frame)
  | hangup_auth (w : World) (ws : Nat) :
      w.tasks[ws]? = some (.session .auth) → Step w (.hangup ws) (w.setTask ws (.session (.done none)))
  | hangup_sending (w : World) (ws : Nat) (l : Login) :
      w.tasks[ws]? = some (.session (.sending l)) → Step w (.hangup ws) (finishSession w ws l)
  | hangup_serving (w : World) (ws : Nat) (l : Login) :
      w.tasks[ws]? = some (.session (.serving l)) →
      Step w (.hangup ws) (w.setTask ws (.session (.ending l)))
  | finish (w : World) (ws : Nat) (l : Login) :
      w.tasks[ws]? = some (.session (.ending l)) → Step w (.finish ws) (finishSession w ws l)
  | get_socket (w : World) (i : Nat) (token : String) (port : Nat) (ph : SupervisorPhase) (bind_ok : Bool) :
      w.tasks[i]? = some (.supervisor token port ph false) → (ph = .created ∨ ph = .getting) →
      Step w (.get_socket i bind_ok) (getStep w i token port bind_ok)
  | accept (w : World) (i : Nat) (token : String) (port sock : Nat) :
      w.tasks[i]? = some (.supervisor token port (.serving sock) false) →
      (w.server.socket_manager.sockets port).map SocketEntry.sock = some sock →
      Step w (.accept i) (w.spawn (.handler token i .start false))
  | deliver_cancel (w : World) (i : Nat) (token : String) (port : Nat) (ph : SupervisorPhase) :
      w.tasks[i]? = some (.supervisor token port ph true) →
      Step w (.deliver_cancel i) (cancelStep w i token port ph)
  | drained (w : World) (i : Nat) (token : String) (port sock : Nat) (c : Bool) :
      w.tasks[i]? = some (.supervisor token port (.draining sock) c) →
      w.tasks.any (Task.liveHandlerOf i) = false →
      Step w (.drained i) (releaseStep w i token port (some sock))
  /-- cancelled again in its `finally`, the supervisor raises at that await once its
  handlers are done: it ends without `release_socket` -/
  | aborted (w : World) (i : Nat) (token : String) (port : Nat) (c : Bool) :
      w.tasks[i]? = some (.supervisor token port .aborting c) →
      w.tasks.any (Task.liveHandlerOf i) = false →
      Step w (.drained i) (w.setTask i (.supervisor token port .done c))
  | release (w : World) (i : Nat) (token : String) (port : Nat) (sock : Option Nat) (c : Bool) :
      w.tasks[i]? = some (.supervisor token port (.releasing sock) c) →
      w.server.socket_manager.locked = false →
      Step w (.release i) ((w.setTask i (.supervisor token port .done c)).setSm
        (w.server.socket_manager.release_socket port w.now))
  | cancel (w : World) (i : Nat) : Step w (.cancel i) (w.cancel i)
  | handler (w : World) (i : Nat) (token : String) (sup : Nat) (ph : HandlerPhase) :
      w.tasks[i]? = some (.handler token sup ph false) → Step w (.handler i) (handlerStep w i token sup ph)
  | handler_exit (w : World) (i : Nat) (token : String) (sup : Nat) (ph : HandlerPhase) (c : Bool) :
      w.tasks[i]? = some (.handler token sup ph c) → ph ≠ .done →
      Step w (.handler_exit i) (w.setTask i (.handler token sup .done c))
  | pending (w : World) (i : Nat) (token : String) :
      w.tasks[i]? = some (.pending token false false) →
      Step w (.pending i) (((_handle_pending_token w token).getD w).setTask i (.pending token true false))
  | expire (w : World) (k port t0 : Nat) :
      w.server.socket_manager.cleanup_tasks[k]? = some (port, t0) →
      t0 + w.server.socket_manager.grace ≤ w.now → w.server.socket_manager.locked = false →
      Step w (.expire k) (w.setSm (w.server.socket_manager.expire k))
  | tick (w : World) : Step w .tick { w with now := w.now + 1 }
  | open_channel (w : World) (id : String) (ws : Nat) :
      Step w (.open_channel id ws)
        { w with server := { w.server with message_queues := Function.update w.server.message_queues id (some ws) } }
  | close_channel (w : World) (id : String) :
      Step w (.close_channel id)
        { w with server := { w.server with message_queues := Function.update w.server.message_queues id none } }

/-- The calls that write the admin fields. -/
def Action.admin : Action → Bool
  | .add_reverse_token .. | .add_forward_token .. | .remove_token _ => true
  | _ => false

/-- The admin calls that add `t`, as a token of either kind. -/
def Action.adds (t : String) : Action → Bool
  | .add_reverse_token token drawn .. => tokenOf token drawn == t
  | .add_forward_token token drawn => tokenOf token drawn == t
  | _ => false

/-- Every step but an admin call leaves the admin fields as they were. -/
theorem Step.same_admin {w w' : World} {a : Action} (h : Step w a w') (ha : a.admin = false) :
    SameAdmin w.server w'.server := by
  cases h <;> try (cases ha; done)
  case serve => exact serveStart_admin w
  case auth => exact _handle_websocket_admin ..
  case frame => exact _message_dispatcher_admin ..
  case hangup_sending => exact finishSession_admin ..
  case finish => exact finishSession_admin ..
  case get_socket => exact getStep_admin ..
  case deliver_cancel => exact cancelStep_admin ..
  case drained => exact releaseStep_admin ..
  case cancel => exact cancel_server w _ ▸ .refl _
  case handler => exact handlerStep_admin ..
  case pending i t _ =>
    show SameAdmin w.server ((_handle_pending_token w t).getD w).server
    cases hp : _handle_pending_token w t with
    | none => exact .refl _
    | some w' => exact _handle_pending_token_admin hp
  all_goals exact ⟨rfl, rfl, rfl, rfl, rfl⟩

/-- The steps of a session, and the connection that starts one. -/
def Action.session : Action → Bool
  | .connect | .auth .. | .send_ok _ | .frame .. | .hangup _ | .finish _ => true
  | _ => false

/-- The steps that may write the client and supervisor registries. -/
def Action.registers : Action → Bool
  | .add_reverse_token .. | .add_forward_token .. | .remove_token _ | .serve | .auth .. | .hangup _
  | .finish _ | .handler _ | .pending _ => true
  | _ => false

/-- Every step but a session's keeps the tasks and moves no session. -/
theorem Step.quiet {w w' : World} {a : Action} (h : Step w a w') (ha : a.session = false) : Quiet w w' := by
  cases h <;> try (cases ha; done)
  case add_reverse_token => exact add_reverse_token_quiet ..
  case remove_token => exact remove_token_quiet ..
  case serve => exact serveStart_quiet w
  case get_socket hi _ => exact getStep_quiet hi _
  case accept => exact quiet_spawn _ _ rfl
  case deliver_cancel hi => exact cancelStep_quiet hi
  case drained hi _ => exact releaseStep_quiet hi _
  case release hi _ => exact quiet_setTask hi rfl rfl rfl rfl
  case cancel => exact cancel_quiet ..
  case handler hi => exact handlerStep_quiet hi _
  case handler_exit hi _ => exact quiet_setTask hi rfl rfl rfl rfl
  case aborted hi _ => exact quiet_setTask hi rfl rfl rfl rfl
  case pending i t hi =>
    cases hp : _handle_pending_token w t with
    | none => exact quiet_setTask hi rfl rfl rfl rfl
    | some w₁ =>
      obtain ⟨ts, e⟩ := _handle_pending_token_tasks hp
      have hi₁ : w₁.tasks[i]? = some (.pending t false false) := by
        rw [e, List.getElem?_append_left (List.getElem?_eq_some_iff.mp hi).1, hi]
      exact (_handle_pending_token_quiet hp).trans (quiet_setTask hi₁ rfl rfl rfl rfl)
  all_goals exact .of_tasks rfl rfl

/-- A task never changes what it runs, whatever the step. -/
theorem Step.roles_kept {w w' : World} {a : Action} (h : Step w a w') : RolesKept w w' := by
  cases ha : a.session
  · exact (h.quiet ha).roles
  cases h <;> try (cases ha; done)
  case connect => exact roles_spawn _ _
  case auth ws f hi =>
    rcases _handle_websocket_cases w ws f with ⟨t, p, -, -, e⟩ | ⟨t, -, e⟩ | ⟨u, -, e⟩ <;> rw [e]
    · exact (registerClient_session (session_eq_some.mpr hi) t p).1
    · exact (set_session (session_eq_some.mpr hi) _).1.trans (.of_tasks rfl)
    · exact (set_session (session_eq_some.mpr hi) _).1.trans (.of_tasks rfl)
  case send_ok hi => exact (set_session (session_eq_some.mpr hi) _).1
  case frame ws l f hi =>
    rcases (_message_dispatcher_cases w ws l f).2.2 with e | e
    · exact .of_tasks e
    · exact e ▸ (set_session (session_eq_some.mpr hi) _).1
  case hangup_auth hi => exact (set_session (session_eq_some.mpr hi) _).1
  case hangup_sending hi => exact (finishSession_session (session_eq_some.mpr hi) _).1
  case hangup_serving hi => exact (set_session (session_eq_some.mpr hi) _).1
  case finish hi => exact (finishSession_session (session_eq_some.mpr hi) _).1

/-- The steps that leave the registries alone. -/
theorem Step.same_registry {w w' : World} {a : Action} (h : Step w a w') (ha : a.registers = false) :
    SameRegistry w.server w'.server := by
  cases h <;> try (cases ha; done)
  case frame ws l f _ => exact (_message_dispatcher_cases w ws l f).1 ▸ .refl _
  case get_socket => exact getStep_registry ..
  case deliver_cancel => exact cancelStep_registry ..
  case drained => exact releaseStep_registry ..
  case cancel => exact cancel_server w _ ▸ .refl _
  all_goals exact ⟨rfl, rfl, rfl, rfl, rfl, rfl⟩

/-- The steps that may write `_forward_clients` or `_forward_tokens`. -/
def Action.forwards : Action → Bool
  | .add_forward_token .. | .remove_token _ | .auth .. => true
  | _ => false

/-- Only the forward registration and `remove_token` write `_forward_clients`, and only the
admin calls `_forward_tokens`. -/
theorem Step.forward_kept {w w' : World} {a : Action} (h : Step w a w') (ha : a.forwards = false) :
    w'.server.forward_clients = w.server.forward_clients ∧ w'.server.forward_tokens = w.server.forward_tokens := by
  have hr := h.same_registry
  have hadm := h.same_admin
  cases h <;> try (cases ha; done)
  case add_reverse_token t d p u pw k =>
    rcases add_reverse_token_cases w t d p u pw k with e | ⟨_, e⟩ | ⟨_, _, -, -, e⟩ <;> rw [e]
    · exact ⟨rfl, rfl⟩
    · exact ⟨rfl, rfl⟩
    · simp [registerReverse_server, reverseEntries]
  case serve => exact ⟨serveStart_forward w, (serveStart_admin w).forward_tokens⟩
  case hangup_auth => exact ⟨rfl, rfl⟩
  case hangup_sending ws l _ =>
    exact ⟨_cleanup_connection_forward .., (finishSession_admin w ws l).forward_tokens⟩
  case hangup_serving => exact ⟨rfl, rfl⟩
  case finish ws l _ => exact ⟨_cleanup_connection_forward .., (finishSession_admin w ws l).forward_tokens⟩
  case handler i t sup ph _ => exact ⟨handlerStep_forward .., (handlerStep_admin w i t sup ph).forward_tokens⟩
  case pending i t _ =>
    cases hp : _handle_pending_token w t with
    | none => exact ⟨by simp [hp], by simp [hp]⟩
    | some w₁ => exact ⟨by simp [hp, _handle_pending_token_forward hp],
        by simp [hp, (_handle_pending_token_admin hp).forward_tokens]⟩
  all_goals exact ⟨(hr rfl).forward_clients, (hadm rfl).forward_tokens⟩

/-- The states of a server built with `c`, after any interleaving of steps. -/
inductive Reach (c : Config) : World → Prop where
  | init : Reach c (World.init c)
  | step {w w' : World} {a : Action} : Reach c w → Step w a w' → Reach c w'

/-- A run of steps whose every action satisfies `P`. -/
inductive Run (P : Action → Prop) : World → World → Prop where
  | refl (w : World) : Run P w w
  | step {w w' w'' : World} {a : Action} : Step w a w' → P a → Run P w' w'' → Run P w w''

theorem Run.reach {c : Config} {P : Action → Prop} {w w' : World} (r : Run P w w') (h : Reach c w) :
    Reach c w' := by
  induction r with
  | refl => exact h
  | step hs _ _ ih => exact ih (h.step hs)

end pywssocks.server
