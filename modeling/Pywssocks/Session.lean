-- The session side of the server: how `_handle_websocket` answers the auth message,
-- what `_message_dispatcher` does with each frame after it, `_cleanup_connection`,
-- the round-robin `_get_next_websocket`, and `_handle_pending_token`.
import Pywssocks.Admin

namespace pywssocks.server

/-! ## Authentication -/

/-- How `_handle_websocket` answers the first frame. -/
inductive AuthResult where
  /-- `reverse == True` and the token is a reverse token, on this port -/
  | reverse (token : String) (port : Nat)
  /-- `reverse == False` and the token is a forward token -/
  | forward (token : String)
  /-- closed with 1008 "Invalid auth message" -/
  | invalid_message
  /-- `auth_response` with `success: False`, closed with 1008 "Invalid token" -/
  | invalid_token
  /-- an exception: not JSON, not an object, or an unhashable token -/
  | raised
  deriving DecidableEq, Repr

/-- `reverse == True and token in self._tokens`, once `reverse == True`: hashing an
unhashable token raises. -/
def authReverse (s : WSSocksServer) (token : JsonValue) : AuthResult :=
  match token.asKey with
  | none => .raised
  | some (some t) =>
    match s.tokens t with
    | some p => .reverse t p
    | none => .invalid_token
  | some none => .invalid_token

/-- `reverse == False and token in self._forward_tokens`, once `reverse == False`. -/
def authForward (s : WSSocksServer) (token : JsonValue) : AuthResult :=
  match token.asKey with
  | none => .raised
  | some (some t) => if s.forward_tokens t then .forward t else .invalid_token
  | some none => .invalid_token

/-- The checks of `_handle_websocket` on `auth_data = json.loads(authMessage)`; `token` and
`reverse` are `auth_data.get(key, None)`. -/
def authResult (s : WSSocksServer) : Option Frame → AuthResult
  | none | some .other => .raised
  | some (.object fs) =>
    if Frame.lookup fs "type" ≠ some (.str "auth") then .invalid_message
    else if ((Frame.lookup fs "reverse").getD .null).eqTrue then
      authReverse s ((Frame.lookup fs "token").getD .null)
    else if ((Frame.lookup fs "reverse").getD .null).eqFalse then
      authForward s ((Frame.lookup fs "token").getD .null)
    else .invalid_token

theorem authReverse_eq {s : WSSocksServer} {token : JsonValue} {t : String} {p : Nat}
    (h : authReverse s token = .reverse t p) : s.tokens t = some p := by
  unfold authReverse at h
  split at h
  · cases h
  · split at h
    · cases h; assumption
    · cases h
  · cases h

theorem authForward_eq {s : WSSocksServer} {token : JsonValue} {t : String}
    (h : authForward s token = .forward t) : s.forward_tokens t = true := by
  unfold authForward at h
  split at h
  · cases h
  · split at h
    · cases h; assumption
    · cases h
  · cases h

theorem authReverse_ne_forward (s : WSSocksServer) (token : JsonValue) (t : String) :
    authReverse s token ≠ .forward t := by
  unfold authReverse; split
  · simp
  · split <;> simp
  · simp

theorem authForward_ne_reverse (s : WSSocksServer) (token : JsonValue) (t : String) (p : Nat) :
    authForward s token ≠ .reverse t p := by
  unfold authForward; split
  · simp
  · split <;> simp
  · simp

theorem authResult_reverse {s : WSSocksServer} {f : Option Frame} {t : String} {p : Nat}
    (h : authResult s f = .reverse t p) : s.tokens t = some p := by
  unfold authResult at h
  split at h
  · cases h
  · cases h
  · split_ifs at h
    · exact authReverse_eq h
    · exact absurd h (authForward_ne_reverse _ _ _ _)

theorem authResult_forward {s : WSSocksServer} {f : Option Frame} {t : String}
    (h : authResult s f = .forward t) : s.forward_tokens t = true := by
  unfold authResult at h
  split at h
  · cases h
  · cases h
  · split_ifs at h
    · exact absurd h (authReverse_ne_forward _ _ _)
    · exact authForward_eq h

/-- `asyncio.create_task(self._run_socks_server(token, port))`, recorded in `_socks_tasks`. -/
def spawnSupervisor (w : World) (token : String) (port : Nat) : World :=
  { w.spawn (.supervisor token port .created false) with
    server := { w.server with
      socks_tasks := Function.update w.server.socks_tasks port (some w.tasks.length) } }

theorem spawnSupervisor_admin (w : World) (t : String) (p : Nat) :
    SameAdmin w.server (spawnSupervisor w t p).server := ⟨rfl, rfl, rfl, rfl, rfl⟩

theorem spawnSupervisor_quiet (w : World) (t : String) (p : Nat) : Quiet w (spawnSupervisor w t p) :=
  (quiet_spawn w (.supervisor t p .created false) rfl).trans (.of_tasks rfl rfl)

/-- `self._token_clients[token].append((client_id, websocket))`, the list created if absent. -/
def appendClient (s : WSSocksServer) (token : String) (c : Nat × Nat) : WSSocksServer :=
  { s with token_clients := Function.update s.token_clients token (some ((s.token_clients token).getD [] ++ [c])) }

/-- `# Ensure SOCKS server is running`: a supervisor is started when none is recorded for
the port, whether or not the recorded one still runs. -/
def ensureSupervisor (w : World) (token : String) (port : Nat) : World :=
  if w.server.socks_tasks port = none then spawnSupervisor w token port else w

theorem ensureSupervisor_quiet (w : World) (t : String) (p : Nat) : Quiet w (ensureSupervisor w t p) := by
  unfold ensureSupervisor; split
  · exact spawnSupervisor_quiet ..
  · exact .refl w

theorem ensureSupervisor_admin (w : World) (t : String) (p : Nat) :
    SameAdmin w.server (ensureSupervisor w t p).server := by
  unfold ensureSupervisor; split
  · exact spawnSupervisor_admin ..
  · exact .refl _

/-- The reverse registration of `_handle_websocket`, under the token's lock: append the
client, start the port's supervisor if none is recorded, then record the client. -/
def registerClient (w : World) (ws : Nat) (token : String) (port : Nat) : World :=
  let w' := ensureSupervisor { w with server := appendClient w.server token (w.uuids, ws), uuids := w.uuids + 1 }
    token port
  { w'.setTask ws (.session (.sending ⟨w.uuids, token, true⟩)) with
    server := { w'.server with clients := Function.update w'.server.clients w.uuids (some ws) } }

theorem registerClient_server (w : World) (ws : Nat) (t : String) (p : Nat) :
    (registerClient w ws t p).server = { appendClient w.server t (w.uuids, ws) with
      socks_tasks := if w.server.socks_tasks p = none then
        Function.update w.server.socks_tasks p (some w.tasks.length) else w.server.socks_tasks
      clients := Function.update w.server.clients w.uuids (some ws) } := by
  unfold registerClient ensureSupervisor spawnSupervisor; split <;> simp_all [appendClient]

/-- The supervisor `registerClient` starts stands at the end of the task list. -/
theorem registerClient_spawned {w : World} {ws : Nat} (hws : ws < w.tasks.length) (t : String) {p : Nat}
    (hn : w.server.socks_tasks p = none) :
    (registerClient w ws t p).tasks[w.tasks.length]? = some (.supervisor t p .created false) := by
  unfold registerClient ensureSupervisor
  simp [appendClient, hn, spawnSupervisor, List.getElem?_set, Nat.ne_of_lt hws]

/-- The tasks after `registerClient`: the session moves to `sending`, and a supervisor is
appended exactly when none is recorded for the port. -/
theorem registerClient_tasks {w : World} {ws : Nat} (hws : ws < w.tasks.length) (t : String) (p : Nat) :
    (registerClient w ws t p).tasks = w.tasks.set ws (.session (.sending ⟨w.uuids, t, true⟩)) ++
      (if w.server.socks_tasks p = none then [.supervisor t p .created false] else []) := by
  by_cases hn : w.server.socks_tasks p = none <;>
    simp [registerClient, ensureSupervisor, spawnSupervisor, appendClient, hn, hws]

theorem registerClient_admin (w : World) (ws : Nat) (t : String) (p : Nat) :
    SameAdmin w.server (registerClient w ws t p).server :=
  have h := ensureSupervisor_admin { w with server := appendClient w.server t (w.uuids, ws), uuids := w.uuids + 1 } t p
  ⟨h.tokens, h.token_locks, h.socks_auth, h.forward_tokens, h.socks_port_pool⟩

/-- The session moves to `sending` with a fresh client id; the tasks are those of `w` and
maybe a new supervisor. -/
theorem registerClient_session {w : World} {ws : Nat} (hi : w.session ws = some .auth) (t : String) (p : Nat) :
    RolesKept w (registerClient w ws t p) ∧
      (registerClient w ws t p).session = Function.update w.session ws (some (.sending ⟨w.uuids, t, true⟩)) ∧
      (registerClient w ws t p).uuids = w.uuids + 1 := by
  have hq := ensureSupervisor_quiet { w with server := appendClient w.server t (w.uuids, ws), uuids := w.uuids + 1 } t p
  have hs := set_session (show _ = some SessionPhase.auth by rw [hq.sessions]; exact hi) (.sending ⟨w.uuids, t, true⟩)
  exact ⟨(RolesKept.of_tasks rfl).trans (hq.roles.trans (hs.1.trans (.of_tasks rfl))),
    hs.2.trans (by rw [hq.sessions]; rfl), hq.uuids⟩

/-- The first step of `_handle_websocket` for websocket `ws`: from the auth message to its
next await. A rejected session awaits only its reply and close, and its cleanup finds no
client id, so it ends here. -/
def _handle_websocket (w : World) (ws : Nat) (frame : Option Frame) : World :=
  match authResult w.server frame with
  | .reverse token port =>
    if w.server.token_locks token then registerClient w ws token port
    -- `self._token_locks[token]` raises after `uuid4()`; the cleanup finds nothing to remove
    else { w.setTask ws (.session (.done none)) with uuids := w.uuids + 1 }
  | .forward token =>
    { w.setTask ws (.session (.sending ⟨w.uuids, token, false⟩)) with
      server := { w.server with forward_clients := w.server.forward_clients ++ [(w.uuids, ws)] }
      uuids := w.uuids + 1 }
  | _ => w.setTask ws (.session (.done none))

/-- The three outcomes of the auth message: a reverse or a forward registration, or a
rejection that only ends the session (and may have drawn a client id). -/
theorem _handle_websocket_cases (w : World) (ws : Nat) (f : Option Frame) :
    (∃ t p, w.server.tokens t = some p ∧ w.server.token_locks t = true ∧
      _handle_websocket w ws f = registerClient w ws t p) ∨
    (∃ t, w.server.forward_tokens t = true ∧
      _handle_websocket w ws f = { w.setTask ws (.session (.sending ⟨w.uuids, t, false⟩)) with
        server := { w.server with forward_clients := w.server.forward_clients ++ [(w.uuids, ws)] }
        uuids := w.uuids + 1 }) ∨
    (∃ u, w.uuids ≤ u ∧ _handle_websocket w ws f = { w.setTask ws (.session (.done none)) with uuids := u }) := by
  unfold _handle_websocket
  split
  · rename_i t p hr
    split
    · exact .inl ⟨t, p, authResult_reverse hr, ‹_›, rfl⟩
    · exact .inr (.inr ⟨_, Nat.le_succ _, rfl⟩)
  · exact .inr (.inl ⟨_, authResult_forward ‹_›, rfl⟩)
  · exact .inr (.inr ⟨_, Nat.le_refl _, rfl⟩)

theorem _handle_websocket_admin (w : World) (ws : Nat) (f : Option Frame) :
    SameAdmin w.server (_handle_websocket w ws f).server := by
  unfold _handle_websocket; split
  · split
    · exact registerClient_admin ..
    · exact .refl _
  · exact ⟨rfl, rfl, rfl, rfl, rfl⟩
  · exact .refl _

/-! ## Cleanup -/

/-- `[(cid, ws) for cid, ws in clients if cid != client_id]`. -/
def dropClient (cs : List (Nat × Nat)) (client_id : Nat) : List (Nat × Nat) :=
  cs.filter fun c => c.1 != client_id

/-- `_cleanup_connection(client_id, token)` for an authenticated session. A UUID is never
falsy, but the empty token is, and then nothing is cleaned. -/
def _cleanup_connection (s : WSSocksServer) (client_id : Nat) (token : String) : WSSocksServer :=
  if token = "" then s
  else
    let s := match s.token_clients token with
      | some cs =>
        if dropClient cs client_id = [] then
          { s with token_clients := Function.update s.token_clients token none
                   token_indexes := Function.update s.token_indexes token none }
        else
          { s with token_clients := Function.update s.token_clients token
                     (some (dropClient cs client_id)) }
      | none => s
    { s with clients := Function.update s.clients client_id none }

@[simp] theorem mem_dropClient {cs : List (Nat × Nat)} {cid : Nat} {e : Nat × Nat} :
    e ∈ dropClient cs cid ↔ e ∈ cs ∧ e.1 ≠ cid := by
  simp [dropClient]

/-- What the cleanup leaves of the token's list: the list without the client, if any is left. -/
theorem cleanup_token_clients (s : WSSocksServer) (cid : Nat) {t : String} (ht : t ≠ "") (t' : String) :
    (_cleanup_connection s cid t).token_clients t' =
      if t' = t then ((s.token_clients t).map (dropClient · cid)).filter (fun cs => !cs.isEmpty)
      else s.token_clients t' := by
  unfold _cleanup_connection
  rw [if_neg ht]
  rcases eq_or_ne t' t with rfl | e
  · split
    · rename_i cs hcs
      split <;> simp_all [Option.filter]
    · simp_all
  · split
    · split <;> simp [e]
    · simp [e]

theorem cleanup_list_some {o : Option (List (Nat × Nat))} {cid : Nat} {cs' : List (Nat × Nat)}
    (h : (o.map (dropClient · cid)).filter (fun cs => !cs.isEmpty) = some cs') :
    ∃ cs, o = some cs ∧ cs' = dropClient cs cid ∧ cs' ≠ [] := by
  cases o with
  | none => cases h
  | some cs =>
    simp only [Option.map_some', Option.filter] at h
    split at h
    · rename_i hne
      cases h; exact ⟨cs, rfl, rfl, fun h => by simp [h] at hne⟩
    · cases h

/-- The cleanup keeps every entry of another client. -/
theorem cleanup_keeps (s : WSSocksServer) {cid : Nat} {t : String} (ht : t ≠ "") {t' : String}
    {cs : List (Nat × Nat)} {e : Nat × Nat} (h : s.token_clients t' = some cs) (hm : e ∈ cs) (hc : e.1 ≠ cid) :
    ∃ cs', (_cleanup_connection s cid t).token_clients t' = some cs' ∧ e ∈ cs' := by
  rw [cleanup_token_clients s cid ht]; split
  · subst_vars
    have hd : e ∈ dropClient cs cid := mem_dropClient.mpr ⟨hm, hc⟩
    exact ⟨_, by simp [h, Option.filter, List.ne_nil_of_mem hd], hd⟩
  · exact ⟨cs, h, hm⟩

/-- A list after the cleanup is an old one, without the client in the token's own list. -/
theorem cleanup_list_old (s : WSSocksServer) {cid : Nat} {t : String} (ht : t ≠ "") {t' : String}
    {cs' : List (Nat × Nat)} (h : (_cleanup_connection s cid t).token_clients t' = some cs') :
    ∃ cs, s.token_clients t' = some cs ∧ cs' = if t' = t then dropClient cs cid else cs := by
  rw [cleanup_token_clients s cid ht] at h
  split at h
  · obtain ⟨cs, e₀, rfl, -⟩ := cleanup_list_some h
    exact ⟨cs, by subst_vars; exact e₀, by simp [*]⟩
  · exact ⟨cs', h, by simp [*]⟩

theorem cleanup_clients (s : WSSocksServer) (cid : Nat) {t : String} (ht : t ≠ "") :
    (_cleanup_connection s cid t).clients = Function.update s.clients cid none := by
  unfold _cleanup_connection
  rw [if_neg ht]
  split
  · split <;> rfl
  · rfl

/-- The cleanup drops a cursor only with its list. -/
theorem cleanup_indexes (s : WSSocksServer) (cid : Nat) {t : String} (ht : t ≠ "") (t' : String)
    (h : ((_cleanup_connection s cid t).token_indexes t').isSome) :
    (s.token_indexes t').isSome ∧
      ((s.token_clients t').isSome → ((_cleanup_connection s cid t).token_clients t').isSome) := by
  unfold _cleanup_connection at h ⊢
  rw [if_neg ht] at h ⊢
  split at h <;> rename_i hcs <;> simp only [hcs]
  · rcases eq_or_ne t' t with rfl | e
    · split at h <;> rename_i hd <;> simp_all
    · split at h <;> simp_all
  · exact ⟨h, id⟩

theorem cleanup_frame (s : WSSocksServer) (cid : Nat) (t : String) :
    (_cleanup_connection s cid t).socks_tasks = s.socks_tasks ∧
      (_cleanup_connection s cid t).pending_tokens = s.pending_tokens := by
  unfold _cleanup_connection; split
  · exact ⟨rfl, rfl⟩
  · split
    · split <;> exact ⟨rfl, rfl⟩
    · exact ⟨rfl, rfl⟩

theorem _cleanup_connection_forward (s : WSSocksServer) (c : Nat) (t : String) :
    (_cleanup_connection s c t).forward_clients = s.forward_clients := by
  unfold _cleanup_connection; split
  · rfl
  · split
    · split <;> rfl
    · rfl

theorem _cleanup_connection_admin (s : WSSocksServer) (c : Nat) (t : String) :
    SameAdmin s (_cleanup_connection s c t) := by
  unfold _cleanup_connection; split
  · exact .refl _
  · split
    · split <;> exact ⟨rfl, rfl, rfl, rfl, rfl⟩
    · exact ⟨rfl, rfl, rfl, rfl, rfl⟩

/-- The session of `ws` ends: the `finally` of `_handle_websocket` runs the cleanup. -/
def finishSession (w : World) (ws : Nat) (l : Login) : World :=
  { w.setTask ws (.session (.done (some l))) with
    server := _cleanup_connection w.server l.client_id l.token }

theorem finishSession_admin (w : World) (ws : Nat) (l : Login) :
    SameAdmin w.server (finishSession w ws l).server := _cleanup_connection_admin ..

theorem finishSession_session {w : World} {ws : Nat} {ph : SessionPhase} (hi : w.session ws = some ph) (l : Login) :
    RolesKept w (finishSession w ws l) ∧
      (finishSession w ws l).session = Function.update w.session ws (some (.done (some l))) :=
  have hs := set_session hi (.done (some l))
  ⟨hs.1.trans (.of_tasks rfl), hs.2⟩

/-! ## Dispatch -/

/-- What `_message_dispatcher` does with one frame. -/
inductive Dispatch where
  /-- `await self._message_queues[queue].put(data)` -/
  | put (queue : String) (msg : List (String × JsonValue))
  /-- a network handler is started for a `connect` frame -/
  | connect (msg : List (String × JsonValue))
  /-- nothing: an unknown id, or a type the loop does not handle -/
  | skip
  /-- an exception leaves the receive loop -/
  | raised
  deriving DecidableEq, Repr

/-- The `data` and `connect_response` branches: `data[key]`, then `in self._message_queues`. -/
def route (queues : String → Option Nat) (fs : List (String × JsonValue)) (key : String) : Dispatch :=
  match Frame.lookup fs key with
  | none => .raised
  | some id =>
    match id.asKey with
    | none => .raised
    | some (some q) => if (queues q).isSome then .put q fs else .skip
    | some none => .skip

/-- The body of the receive loop on `data = json.loads(msg)`, with `forward` the value of
`client_id in self._forward_clients`. -/
def dispatch (queues : String → Option Nat) (forward : Bool) : Option Frame → Dispatch
  | none | some .other => .raised
  | some (.object fs) =>
    match Frame.lookup fs "type" with
    | none => .raised
    | some ty =>
      if ty = .str "data" then route queues fs "channel_id"
      else if ty = .str "connect_response" then route queues fs "connect_id"
      else if ty = .str "connect" ∧ forward then .connect fs
      else .skip

theorem route_ne_connect (queues : String → Option Nat) (fs : List (String × JsonValue)) (key : String)
    (msg : List (String × JsonValue)) : route queues fs key ≠ .connect msg := by
  unfold route
  split
  · simp
  · split
    · simp
    · split <;> simp
    · simp

/-- A network handler is started only for a forward client. -/
theorem dispatch_connect {queues : String → Option Nat} {forward : Bool} {f : Option Frame}
    {msg : List (String × JsonValue)} (h : dispatch queues forward f = .connect msg) : forward = true := by
  unfold dispatch at h
  split at h
  · cases h
  · cases h
  · split at h
    · cases h
    · split_ifs at h with h1 h2 h3
      · exact absurd h (route_ne_connect _ _ _ _)
      · exact absurd h (route_ne_connect _ _ _ _)
      · exact h3.2

/-- `client_id in self._forward_clients`. -/
def isForwardClient (s : WSSocksServer) (client_id : Nat) : Bool :=
  s.forward_clients.any fun c => c.1 == client_id

/-- The dispatcher of session `ws` takes one frame. A `connect` frame of a forward client
creates `_handle_network_connection(websocket, data)`, which the world records; its run
belongs to the relay, outside this model, and so does the effect of the `cancel()` and the
gather of the dispatcher's `finally` on it. A raised exception ends the dispatcher, and with
it the session. -/
def _message_dispatcher (w : World) (ws : Nat) (l : Login) (frame : Option Frame) : World :=
  match dispatch w.server.message_queues (isForwardClient w.server l.client_id) frame with
  | .put q msg => { w with puts := w.puts ++ [(ws, q, msg)] }
  | .connect msg => { w with network_handlers := w.network_handlers ++ [(ws, msg)] }
  | .raised => w.setTask ws (.session (.ending l))
  | .skip => w

theorem _message_dispatcher_admin (w : World) (ws : Nat) (l : Login) (f : Option Frame) :
    SameAdmin w.server (_message_dispatcher w ws l f).server := by
  unfold _message_dispatcher; split <;> exact .refl _

/-- The dispatcher only logs puts and network handlers, or ends its session. -/
theorem _message_dispatcher_cases (w : World) (ws : Nat) (l : Login) (f : Option Frame) :
    (_message_dispatcher w ws l f).server = w.server ∧ (_message_dispatcher w ws l f).uuids = w.uuids ∧
      ((_message_dispatcher w ws l f).tasks = w.tasks ∨
        (_message_dispatcher w ws l f) = w.setTask ws (.session (.ending l))) := by
  unfold _message_dispatcher; split
  case h_3 => exact ⟨rfl, rfl, .inr rfl⟩
  all_goals exact ⟨rfl, rfl, .inl rfl⟩

/-! ## Round robin -/

/-- `_get_next_websocket(token)`: `none` when `self._token_locks[token]` raises `KeyError`;
else the websocket chosen, if any, with the cursor moved. -/
def _get_next_websocket (s : WSSocksServer) (token : String) : Option (Option Nat × WSSocksServer) :=
  if !s.token_locks token then none
  else
    match s.token_clients token with
    | none | some [] => some (none, s)
    | some (c0 :: cs) =>
      let current_index := ((s.token_indexes token).getD 0 + 1) % (c0 :: cs).length
      some (some ((c0 :: cs)[current_index]?.getD c0).2,
        { s with token_indexes := Function.update s.token_indexes token (some current_index) })

/-- `_get_next_websocket` only moves the cursor of a token with clients. -/
theorem _get_next_websocket_spec {s s' : WSSocksServer} {t : String} {r : Option Nat}
    (h : _get_next_websocket s t = some (r, s')) :
    s' = s ∨ ∃ c0 cs k, s.token_clients t = some (c0 :: cs) ∧
      s' = { s with token_indexes := Function.update s.token_indexes t (some k) } := by
  unfold _get_next_websocket at h
  split at h
  · cases h
  · split at h
    · cases h; exact .inl rfl
    · cases h; exact .inl rfl
    · cases h; exact .inr ⟨_, _, _, ‹_›, rfl⟩

theorem _get_next_websocket_forward {s s' : WSSocksServer} {t : String} {r : Option Nat}
    (h : _get_next_websocket s t = some (r, s')) : s'.forward_clients = s.forward_clients := by
  unfold _get_next_websocket at h
  split at h
  · cases h
  · split at h <;> cases h <;> rfl

theorem _get_next_websocket_admin {s s' : WSSocksServer} {t : String} {r : Option Nat}
    (h : _get_next_websocket s t = some (r, s')) : SameAdmin s s' := by
  unfold _get_next_websocket at h
  split at h
  · cases h
  · split at h
    · cases h; exact .refl _
    · cases h; exact .refl _
    · cases h; exact ⟨rfl, rfl, rfl, rfl, rfl⟩

/-! ## Pending tokens -/

/-- `_handle_pending_token(token)`: `none` when `self._token_locks[token]` raises. With
`socks_wait_client` it does nothing; else it starts the port's supervisor unless one is
recorded (`if socks_port and ...`: a port 0 is falsy). -/
def _handle_pending_token (w : World) (token : String) : Option World :=
  if w.server.socks_wait_client then some w
  else if !w.server.token_locks token then none
  else
    match w.server.tokens token with
    | some p => if p ≠ 0 ∧ w.server.socks_tasks p = none then some (spawnSupervisor w token p) else some w
    | none => some w

theorem _handle_pending_token_quiet {w w' : World} {t : String} (h : _handle_pending_token w t = some w') :
    Quiet w w' := by
  unfold _handle_pending_token at h
  split at h
  · cases h; exact .refl _
  · split at h
    · cases h
    · split at h
      · split at h
        · cases h; exact spawnSupervisor_quiet ..
        · cases h; exact .refl _
      · cases h; exact .refl _

theorem _handle_pending_token_forward {w w' : World} {t : String} (h : _handle_pending_token w t = some w') :
    w'.server.forward_clients = w.server.forward_clients := by
  unfold _handle_pending_token at h
  split at h
  · cases h; rfl
  · split at h
    · cases h
    · split at h
      · split at h <;> cases h <;> rfl
      · cases h; rfl

/-- `_handle_pending_token` only adds tasks. -/
theorem _handle_pending_token_tasks {w w' : World} {t : String} (h : _handle_pending_token w t = some w') :
    ∃ ts, w'.tasks = w.tasks ++ ts := by
  unfold _handle_pending_token at h
  split at h
  · cases h; exact ⟨[], by simp⟩
  · split at h
    · cases h
    · split at h
      · split at h
        · cases h; exact ⟨_, rfl⟩
        · cases h; exact ⟨[], by simp⟩
      · cases h; exact ⟨[], by simp⟩

theorem _handle_pending_token_admin {w w' : World} {t : String} (h : _handle_pending_token w t = some w') :
    SameAdmin w.server w'.server := by
  unfold _handle_pending_token at h
  split at h
  · cases h; exact .refl _
  · split at h
    · cases h
    · split at h
      · split at h
        · cases h; exact spawnSupervisor_admin ..
        · cases h; exact .refl _
      · cases h; exact .refl _

end pywssocks.server
