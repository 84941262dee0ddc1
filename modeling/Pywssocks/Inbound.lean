-- What a session does with every frame a client can send: the auth message registers the
-- session exactly when its type, token and `reverse` pass the checks of `_handle_websocket`,
-- and the receive loop of `_message_dispatcher` takes the frames after it in order, until
-- one of them raises and ends the session.
import Pywssocks.Routing
import Pywssocks.Registry

namespace pywssocks.server.inbound

open registry routing

variable {c : Config} {w : World}

/-! ## The auth message -/

/-- The auth message `_handle_websocket` accepts for a reverse session on token `t`, with
Python's `==`: an object of type `auth` whose `reverse == True` (`true`, or a number equal to
1) and whose token is the key `t` of `_tokens`, on port `p`. -/
def acceptsReverse (s : WSSocksServer) (f : Option Frame) (t : String) (p : Nat) : Prop :=
  ∃ fs, f = some (.object fs) ∧ Frame.lookup fs "type" = some (.str "auth") ∧
    ((Frame.lookup fs "reverse").getD .null).eqTrue = true ∧ Frame.lookup fs "token" = some (.str t) ∧
    s.tokens t = some p

/-- The auth message accepted for a forward session on token `t`: an object of type `auth`
whose `reverse == False` (`false`, or a number equal to 0) and whose token is in
`_forward_tokens`. -/
def acceptsForward (s : WSSocksServer) (f : Option Frame) (t : String) : Prop :=
  ∃ fs, f = some (.object fs) ∧ Frame.lookup fs "type" = some (.str "auth") ∧
    ((Frame.lookup fs "reverse").getD .null).eqFalse = true ∧ Frame.lookup fs "token" = some (.str t) ∧
    s.forward_tokens t = true

theorem getD_null_eq_str {o : Option JsonValue} {t : String} (h : o.getD .null = .str t) : o = some (.str t) := by
  cases o <;> simp_all

theorem authReverse_iff {s : WSSocksServer} {token : JsonValue} {t : String} {p : Nat} :
    authReverse s token = .reverse t p ↔ token = .str t ∧ s.tokens t = some p := by
  constructor
  · intro h
    refine ⟨?_, authReverse_eq h⟩
    unfold authReverse at h
    split at h
    · cases h
    · rename_i q hq
      split at h <;> cases h
      exact asKey_some hq
    · cases h
  · rintro ⟨rfl, hp⟩
    simp [authReverse, JsonValue.asKey, hp]

theorem authForward_iff {s : WSSocksServer} {token : JsonValue} {t : String} :
    authForward s token = .forward t ↔ token = .str t ∧ s.forward_tokens t = true := by
  constructor
  · intro h
    refine ⟨?_, authForward_eq h⟩
    unfold authForward at h
    split at h
    · cases h
    · rename_i q hq
      split at h <;> cases h
      exact asKey_some hq
    · cases h
  · rintro ⟨rfl, hf⟩
    simp [authForward, JsonValue.asKey, hf]

theorem authResult_reverse_iff {s : WSSocksServer} {f : Option Frame} {t : String} {p : Nat} :
    authResult s f = .reverse t p ↔ acceptsReverse s f t p := by
  constructor
  · intro h
    unfold authResult at h
    split at h
    · cases h
    · cases h
    · rename_i fs
      split_ifs at h with h1 h2
      · obtain ⟨ht, hp⟩ := authReverse_iff.mp h
        exact ⟨fs, rfl, not_not.mp h1, h2, getD_null_eq_str ht, hp⟩
      · exact absurd h (authForward_ne_reverse _ _ _ _)
  · rintro ⟨fs, rfl, h1, h2, h3, hp⟩
    simp [authResult, h1, h2, h3, authReverse_iff.mpr ⟨rfl, hp⟩]

theorem eqTrue_of_eqFalse {v : JsonValue} (h : v.eqFalse = true) : v.eqTrue = false := by
  cases v with
  | bool b => simpa [JsonValue.eqTrue, JsonValue.eqFalse] using h
  | num x =>
    simp only [JsonValue.eqFalse, beq_iff_eq] at h
    subst h
    decide
  | _ => rfl

theorem authResult_forward_iff {s : WSSocksServer} {f : Option Frame} {t : String} :
    authResult s f = .forward t ↔ acceptsForward s f t := by
  constructor
  · intro h
    unfold authResult at h
    split at h
    · cases h
    · cases h
    · rename_i fs
      split_ifs at h with h1 h2 h3
      · exact absurd h (authReverse_ne_forward _ _ _)
      · obtain ⟨ht, hf⟩ := authForward_iff.mp h
        exact ⟨fs, rfl, not_not.mp h1, h3, getD_null_eq_str ht, hf⟩
  · rintro ⟨fs, rfl, h1, h2, h3, hf⟩
    simp [authResult, h1, h2, eqTrue_of_eqFalse h2, h3, authForward_iff.mpr ⟨rfl, hf⟩]

/-- In every reachable state, the first frame `f` of a session registers it exactly when it
is accepted, with Python's `==` on `reverse`. A reverse session gets the fresh client id
`w.uuids` in `_token_clients[token]` and `_clients`, and the port's supervisor is appended to
the tasks, at index `w.tasks.length`, exactly when none is recorded in `_socks_tasks`; a
forward session gets the id in `_forward_clients` and starts no task. Any other `f` draws no
client id, starts no task and leaves every registry as it was: only the session ends. -/
theorem auth_registers_iff (hr : Reach c w) {ws : Nat} (hi : w.tasks[ws]? = some (.session .auth))
    (f : Option Frame) :
    (∀ t p, acceptsReverse w.server f t p →
      (_handle_websocket w ws f).server = { appendClient w.server t (w.uuids, ws) with
        socks_tasks := if w.server.socks_tasks p = none then
          Function.update w.server.socks_tasks p (some w.tasks.length) else w.server.socks_tasks
        clients := Function.update w.server.clients w.uuids (some ws) } ∧
      (_handle_websocket w ws f).uuids = w.uuids + 1 ∧
      (_handle_websocket w ws f).tasks = w.tasks.set ws (.session (.sending ⟨w.uuids, t, true⟩)) ++
        (if w.server.socks_tasks p = none then [.supervisor t p .created false] else [])) ∧
    (∀ t, acceptsForward w.server f t →
      (_handle_websocket w ws f).server =
        { w.server with forward_clients := w.server.forward_clients ++ [(w.uuids, ws)] } ∧
      (_handle_websocket w ws f).uuids = w.uuids + 1 ∧
      (_handle_websocket w ws f).tasks = w.tasks.set ws (.session (.sending ⟨w.uuids, t, false⟩))) ∧
    ((∀ t p, ¬acceptsReverse w.server f t p) → (∀ t, ¬acceptsForward w.server f t) →
      _handle_websocket w ws f = w.setTask ws (.session (.done none))) := by
  have hws := (List.getElem?_eq_some_iff.mp hi).1
  refine ⟨fun t p h => ?_, fun t h => ?_, fun hn hf => ?_⟩
  · have ⟨_, _, _, _, _, hp⟩ := h
    have hl : w.server.token_locks t = true := by rw [(RegGood.reach hr).locks, hp]; rfl
    have e : _handle_websocket w ws f = registerClient w ws t p := by
      simp only [_handle_websocket, authResult_reverse_iff.mpr h, hl, if_true]
    rw [e, registerClient_server, registerClient_tasks hws]
    exact ⟨rfl, (registerClient_session (session_eq_some.mpr hi) t p).2.2, rfl⟩
  · simp [_handle_websocket, authResult_forward_iff.mpr h]
  · unfold _handle_websocket
    split
    · exact absurd (authResult_reverse_iff.mp ‹_›) (hn _ _)
    · exact absurd (authResult_forward_iff.mp ‹_›) (hf _)
    · rfl

theorem auth_registers_iff_numeric :
    ∃ w, runs (World.init ⟨[1080], true, 30⟩)
        [.add_reverse_token (some "t") "" none none none 0, .serve, .connect] = some w ∧
      (_handle_websocket w 0 (some (.object [("type", .str "auth"), ("token", .str "t"), ("reverse", .num 1)]))).tasks =
        [.session (.sending ⟨0, "t", true⟩), .supervisor "t" 1080 .created false] := by
  have hw : runs (World.init ⟨[1080], true, 30⟩)
      [.add_reverse_token (some "t") "" none none none 0, .serve, .connect] = some _ := rfl
  exact ⟨_, hw, ((auth_registers_iff (runs_reach .init hw) (by decide) _).1 "t" 1080
    ⟨_, rfl, by decide, by decide, by decide, by decide⟩).2.2.trans rfl⟩

/-- The auth message `{"type": "auth", "token": "t", "reverse": 1}` is not a Boolean, yet
`1 == True`: the session registers with a client id. -/
theorem numeric_reverse_registers :
    (runs (World.init ⟨[1080], true, 30⟩)
        [.add_reverse_token (some "t") "" none none none 0, .serve, .connect,
          .auth 0 (some (.object [("type", .str "auth"), ("token", .str "t"), ("reverse", .num 1)]))]).map
      (fun w => (w.login 0, w.uuids, w.server.token_clients "t")) =
      some (some ⟨0, "t", true⟩, 1, some [(0, 0)]) := by
  decide

/-! ## The frames after it -/

/-- The id an object routes by in the receive loop (server.py 647-660): its `channel_id` if it
has type `data`, its `connect_id` if it has type `connect_response`. -/
def routeId (msg : List (String × JsonValue)) : Option JsonValue :=
  if Frame.lookup msg "type" = some (.str "data") then Frame.lookup msg "channel_id"
  else if Frame.lookup msg "type" = some (.str "connect_response") then Frame.lookup msg "connect_id"
  else none

/-- The message a frame delivers, with its queue (server.py 650-651, 659-660): an object of type `data` whose
`channel_id` names a registered queue, or of type `connect_response` whose `connect_id` does. -/
def enqueued (queues : String → Option Nat) : Option Frame → Option (String × List (String × JsonValue))
  | some (.object msg) =>
    match routeId msg with
    | some (.str q) => if (queues q).isSome then some (q, msg) else none
    | _ => none
  | _ => none

/-- A frame of type `connect`, for which a forward session starts a network handler. -/
def connectRequest : Option Frame → Option (List (String × JsonValue))
  | some (.object msg) => if Frame.lookup msg "type" = some (.str "connect") then some msg else none
  | _ => none

/-- The frames that raise in the receive loop: text that is not JSON, JSON that is not an
object, an object without `type`, and a `data` or `connect_response` object without its id,
or with an array or an object there, which `in self._message_queues` cannot hash. -/
def malformed : Option Frame → Bool
  | some (.object msg) =>
    match Frame.lookup msg "type" with
    | none => true
    | some ty =>
      (ty == .str "data" || ty == .str "connect_response") && ((routeId msg).bind JsonValue.asKey).isNone
  | _ => true

/-- The `data[key]` lookup of a routed frame, then `in self._message_queues`. -/
theorem route_spec (queues : String → Option Nat) (fs : List (String × JsonValue)) (key : String) :
    route queues fs key =
      if ((Frame.lookup fs key).bind JsonValue.asKey).isNone then .raised
      else match Frame.lookup fs key with
        | some (.str q) => if (queues q).isSome then .put q fs else .skip
        | _ => .skip := by
  unfold route
  rcases Frame.lookup fs key with _ | id
  · rfl
  · cases id <;> simp [JsonValue.asKey]

/-- What the loop does with one frame: a malformed frame raises; else the message `enqueued`
gives is put into its queue, a `connect` frame of a forward client starts a handler, and any
other frame is dropped. -/
theorem dispatch_spec (queues : String → Option Nat) (forward : Bool) (f : Option Frame) :
    dispatch queues forward f =
      if malformed f then .raised
      else match enqueued queues f with
        | some (q, msg) => .put q msg
        | none => match connectRequest f with
          | some msg => if forward then .connect msg else .skip
          | none => .skip := by
  match f with
  | none | some .other => rfl
  | some (.object fs) =>
    simp only [dispatch, malformed, enqueued, connectRequest, routeId]
    rcases hty : Frame.lookup fs "type" with _ | ty
    · rfl
    simp only [Option.some.injEq]
    by_cases h1 : ty = .str "data"
    · subst h1
      rw [if_pos rfl, route_spec]
      rcases Frame.lookup fs "channel_id" with _ | id
      · rfl
      · cases id <;> simp [JsonValue.asKey]
        split_ifs <;> rfl
    by_cases h2 : ty = .str "connect_response"
    · subst h2
      rw [if_neg h1, if_pos rfl, route_spec]
      rcases Frame.lookup fs "connect_id" with _ | id
      · rfl
      · cases id <;> simp [JsonValue.asKey]
        split_ifs <;> rfl
    · have h1' : (ty == .str "data") = false := by simpa using h1
      have h2' : (ty == .str "connect_response") = false := by simpa using h2
      by_cases h3 : ty = .str "connect" <;> simp [h1, h2, h3, h1', h2']

theorem connectRequest_some {g : Option Frame} {msg : List (String × JsonValue)}
    (h : connectRequest g = some msg) : g = some (.object msg) ∧ Frame.lookup msg "type" = some (.str "connect") := by
  match g with
  | none | some .other => cases h
  | some (.object fs) =>
    simp only [connectRequest] at h
    split_ifs at h with ht
    cases h
    exact ⟨rfl, ht⟩

/-- A network handler is started exactly for a `connect` frame of a forward client. -/
theorem dispatch_connect_iff {queues : String → Option Nat} {forward : Bool} {g : Option Frame}
    {msg : List (String × JsonValue)} :
    dispatch queues forward g = .connect msg ↔ forward = true ∧ connectRequest g = some msg := by
  rw [dispatch_spec]
  rcases hc : connectRequest g with _ | m
  · simp only [reduceCtorEq, and_false, iff_false]
    split_ifs <;> (try split) <;> simp
  · obtain ⟨rfl, hty⟩ := connectRequest_some hc
    have hm : malformed (some (.object m)) = false := by simp [malformed, routeId, hty]
    have he : enqueued queues (some (.object m)) = none := by simp [enqueued, routeId, hty]
    rw [if_neg (by simp [hm]), he]
    cases forward <;> simp [eq_comm]

/-- A frame `enqueued` gives a queue for is a `data` or `connect_response` object, not a
`connect` one. -/
theorem connectRequest_of_enqueued {queues : String → Option Nat} {f : Option Frame}
    {e : String × List (String × JsonValue)} (h : enqueued queues f = some e) : connectRequest f = none := by
  match f with
  | none | some .other => cases h
  | some (.object msg) =>
    simp only [enqueued, routeId] at h
    simp only [connectRequest]
    split_ifs at h with h1 h2 <;> simp_all

/-- What the dispatcher does with a frame that is not malformed: it puts the message `enqueued`
gives, and creates a network handler for a `connect` frame of a forward client. -/
theorem _message_dispatcher_wellformed (w : World) (ws : Nat) (l : Login) {f : Option Frame}
    (hf : malformed f = false) :
    _message_dispatcher w ws l f =
      { w with
        puts := w.puts ++ (enqueued w.server.message_queues f).toList.map (ws, ·)
        network_handlers := w.network_handlers ++
          (if isForwardClient w.server l.client_id then (connectRequest f).toList else []).map (ws, ·) } := by
  unfold _message_dispatcher
  rw [dispatch_spec, if_neg (by simp [hf])]
  rcases he : enqueued w.server.message_queues f with _ | ⟨q, msg⟩
  · rcases connectRequest f with _ | m <;> cases isForwardClient w.server l.client_id <;> simp
  · simp [connectRequest_of_enqueued he]

theorem _message_dispatcher_malformed (w : World) (ws : Nat) (l : Login) {f : Option Frame}
    (hf : malformed f = true) : _message_dispatcher w ws l f = w.setTask ws (.session (.ending l)) := by
  simp [_message_dispatcher, dispatch_spec, hf]

/-- The loop takes frames that are not malformed one after the other: each puts the message
`enqueued` gives and creates the network handler a `connect` frame of a forward client asks
for, in arrival order, and nothing else moves. -/
theorem runs_wellformed (w : World) {ws : Nat} {l : Login} (hi : w.tasks[ws]? = some (.session (.serving l))) :
    ∀ {pre : List (Option Frame)}, (∀ g ∈ pre, malformed g = false) →
      runs w (pre.map (.frame ws)) =
        some { w with
          puts := w.puts ++ (pre.filterMap (enqueued w.server.message_queues)).map (ws, ·)
          network_handlers := w.network_handlers ++
            (if isForwardClient w.server l.client_id then pre.filterMap connectRequest else []).map (ws, ·) }
  | [], _ => by simp [runs]
  | g :: pre, h => by
    simp only [List.map_cons, runs, exec, hi, Option.some_bind, _message_dispatcher_wellformed w ws l (h g (.head _))]
    refine (runs_wellformed _ (by exact hi) fun g' hg' => h g' (.tail _ hg')).trans ?_
    cases isForwardClient w.server l.client_id <;>
      rcases he : enqueued w.server.message_queues g with _ | e <;>
      rcases hc : connectRequest g with _ | m <;> simp [List.filterMap_cons, he, hc]

/-- On an authenticated session, the receive loop takes every frame before the first malformed
one in arrival order: the queue log gains exactly the messages `enqueued` gives, each once, and
a network handler is created for exactly the `connect` frames when the client is a forward one.
The first malformed frame (not JSON, not an object, without `type`, or a `data` or
`connect_response` frame without a hashable id) raises: it enqueues nothing, ends the loop and
the session, and no frame after it is received. -/
theorem dispatcher_ends_at_malformed {ws : Nat} {l : Login} (hi : w.tasks[ws]? = some (.session (.serving l)))
    (pre : List (Option Frame)) (hpre : ∀ g ∈ pre, malformed g = false) :
    let w' := { w with
      puts := w.puts ++ (pre.filterMap (enqueued w.server.message_queues)).map (ws, ·)
      network_handlers := w.network_handlers ++
        (if isForwardClient w.server l.client_id then pre.filterMap connectRequest else []).map (ws, ·) }
    runs w (pre.map (.frame ws)) = some w' ∧
    ∀ f, malformed f = true →
      runs w ((pre ++ [f]).map (.frame ws)) = some (w'.setTask ws (.session (.ending l))) ∧
      ∀ g post, runs w ((pre ++ f :: g :: post).map (.frame ws)) = none := by
  have hpre' := runs_wellformed w hi hpre
  have hws := (List.getElem?_eq_some_iff.mp hi).1
  refine ⟨hpre', fun f hf => ⟨?_, fun g post => ?_⟩⟩
  · rw [List.map_append, runs_append, hpre']
    simp [runs, exec, hi, _message_dispatcher_malformed _ ws l hf]
  · rw [List.map_append, runs_append, hpre']
    simp [runs, exec, hi, _message_dispatcher_malformed _ ws l hf, hws]

theorem dispatcher_ends_at_malformed_connect :
    ∃ w, runs (World.init ⟨[1080], true, 30⟩)
        [.add_forward_token (some "t") "", .serve, .connect, .auth 0 (some (Frame.authMessage "t" false)),
          .send_ok 0, .open_channel "c" 0] = some w ∧
      (runs w [.frame 0 (some (.object [("type", .str "data"), ("channel_id", .str "c")])),
          .frame 0 (some (.object [("type", .str "connect")]))]).map
        (fun w => (w.puts, w.network_handlers)) =
        some ([(0, "c", [("type", .str "data"), ("channel_id", .str "c")])], [(0, [("type", .str "connect")])]) ∧
      runs w [.frame 0 (some (.object [("type", .str "data"), ("channel_id", .str "c")])),
        .frame 0 (some (.object [("type", .str "connect")])), .frame 0 none,
        .frame 0 (some (.object [("type", .str "data"), ("channel_id", .str "c")]))] = none := by
  have hw : runs (World.init ⟨[1080], true, 30⟩)
      [.add_forward_token (some "t") "", .serve, .connect, .auth 0 (some (Frame.authMessage "t" false)),
        .send_ok 0, .open_channel "c" 0] = some _ := rfl
  exact ⟨_, hw,
    (congrArg (Option.map fun w => (w.puts, w.network_handlers)) (@dispatcher_ends_at_malformed _ 0 ⟨0, "t", false⟩
      (by decide) [some (.object [("type", .str "data"), ("channel_id", .str "c")]),
        some (.object [("type", .str "connect")])] (by decide)).1).trans rfl,
    ((@dispatcher_ends_at_malformed _ 0 ⟨0, "t", false⟩ (by decide)
      [some (.object [("type", .str "data"), ("channel_id", .str "c")]), some (.object [("type", .str "connect")])]
      (by decide)).2 none rfl).2 _ []⟩

/-- A forward session whose relay registered channel `"c"` sends a text that is not JSON and
then a `data` frame for `"c"`: the first ends the session with nothing enqueued, and the
second is never received. -/
theorem malformed_frame_ends_session :
    (runs (World.init ⟨[1080], true, 30⟩)
        [.add_forward_token (some "t") "", .serve, .connect, .auth 0 (some (Frame.authMessage "t" false)),
          .send_ok 0, .open_channel "c" 0, .frame 0 none]).map (fun w => (w.session 0, w.puts)) =
      some (some (.ending ⟨0, "t", false⟩), []) ∧
    runs (World.init ⟨[1080], true, 30⟩)
        [.add_forward_token (some "t") "", .serve, .connect, .auth 0 (some (Frame.authMessage "t" false)),
          .send_ok 0, .open_channel "c" 0, .frame 0 none,
          .frame 0 (some (.object [("type", .str "data"), ("channel_id", .str "c")]))] = none :=
  ⟨rfl, rfl⟩

end pywssocks.server.inbound
