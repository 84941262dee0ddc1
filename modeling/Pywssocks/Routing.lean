-- The laws of the channel queues: what the dispatchers put into `_message_queues`.
-- A frame goes to the queue its own `channel_id` or `connect_id` names, whichever
-- session's relay registered that queue: the dispatcher checks no owner.
import Pywssocks.Clients

namespace pywssocks.server.routing

open clients

variable {c : Config} {w w' : World} {a : Action}

/-! ## The dispatcher -/

/-- The object names queue `q`: a `data` frame with `channel_id` `q`, or a
`connect_response` frame with `connect_id` `q`. -/
def namesQueue (msg : List (String × JsonValue)) (q : String) : Bool :=
  (Frame.lookup msg "type" == some (.str "data") && Frame.lookup msg "channel_id" == some (.str q)) ||
  (Frame.lookup msg "type" == some (.str "connect_response") && Frame.lookup msg "connect_id" == some (.str q))

theorem asKey_some {v : JsonValue} {s : String} (h : v.asKey = some (some s)) : v = .str s := by
  cases v <;> simp_all [JsonValue.asKey]

/-- `data[key] in self._message_queues` holds: the queue is the string under `key`. -/
theorem route_put {queues : String → Option Nat} {fs : List (String × JsonValue)} {key q : String}
    {msg : List (String × JsonValue)} (h : route queues fs key = .put q msg) :
    msg = fs ∧ Frame.lookup fs key = some (.str q) ∧ (queues q).isSome := by
  unfold route at h
  split at h
  · cases h
  · rename_i id hid
    split at h
    · cases h
    · rename_i q' hq
      split at h
      · cases h; exact ⟨rfl, by rw [hid, asKey_some hq], ‹_›⟩
      · cases h
    · cases h

/-- The dispatcher puts a frame only into a registered queue its object names. -/
theorem dispatch_put {queues : String → Option Nat} {forward : Bool} {f : Option Frame} {q : String}
    {msg : List (String × JsonValue)} (h : dispatch queues forward f = .put q msg) :
    f = some (.object msg) ∧ namesQueue msg q = true ∧ (queues q).isSome := by
  unfold dispatch at h
  split at h
  · cases h
  · cases h
  · rename_i fs
    split at h
    · cases h
    · rename_i ty hty
      split_ifs at h with h1 h2
      · obtain ⟨rfl, hk, hq⟩ := route_put h
        exact ⟨rfl, by simp [namesQueue, hty, h1, hk], hq⟩
      · obtain ⟨rfl, hk, hq⟩ := route_put h
        exact ⟨rfl, by simp [namesQueue, hty, h2, hk], hq⟩

/-- A registered queue that an object names gets it. -/
theorem dispatch_of_namesQueue {queues : String → Option Nat} {forward : Bool} {msg : List (String × JsonValue)}
    {q : String} (hn : namesQueue msg q = true) (hq : (queues q).isSome) :
    dispatch queues forward (some (.object msg)) = .put q msg := by
  simp only [namesQueue, Bool.or_eq_true, Bool.and_eq_true, beq_iff_eq] at hn
  rcases hn with ⟨ht, hc⟩ | ⟨ht, hc⟩ <;> simp [dispatch, ht, route, hc, JsonValue.asKey, hq]

/-- One frame of session `ws` puts `msg` into queue `q` exactly when the frame is the object
`msg` and it names the registered queue `q`. -/
theorem _message_dispatcher_puts (w : World) (ws : Nat) (l : Login) (f : Option Frame) (q : String)
    (msg : List (String × JsonValue)) :
    (_message_dispatcher w ws l f).puts = w.puts ++ [(ws, q, msg)] ↔
      f = some (.object msg) ∧ namesQueue msg q = true ∧ (w.server.message_queues q).isSome := by
  constructor
  · unfold _message_dispatcher
    split
    · rename_i q' msg' hd
      intro e
      obtain ⟨rfl, rfl⟩ : q' = q ∧ msg' = msg := by simpa using e
      exact dispatch_put hd
    all_goals intro e; simpa using congrArg List.length e
  · rintro ⟨rfl, hn, hq⟩
    simp [_message_dispatcher, dispatch_of_namesQueue hn hq]

/-! ## The log of puts -/

theorem _handle_pending_token_puts {w w' : World} {t : String} (h : _handle_pending_token w t = some w') :
    w'.puts = w.puts := by
  unfold _handle_pending_token at h
  split at h
  · cases h; rfl
  split at h
  · cases h
  split at h
  · split at h <;> cases h <;> rfl
  · cases h; rfl

theorem serveStart_puts (w : World) : (serveStart w).puts = w.puts := by
  have h : ∀ (w : World) ts, (servePending w ts).1.puts = w.puts := by
    intro w ts
    induction ts generalizing w with
    | nil => rfl
    | cons t ts ih =>
      simp only [servePending]
      split
      · exact (ih _).trans (_handle_pending_token_puts ‹_›)
      · rfl
  unfold serveStart; dsimp only; split <;> exact h _ _

theorem releaseStep_puts (w : World) (i : Nat) (t : String) (p : Nat) (sock : Option Nat) :
    (releaseStep w i t p sock).puts = w.puts := by
  unfold releaseStep; split <;> rfl

theorem handlerStep_puts (w : World) (i : Nat) (t : String) (sup : Nat) (ph : HandlerPhase) :
    (handlerStep w i t sup ph).puts = w.puts := by
  have hs : (selectStep w i t sup).puts = w.puts := by unfold selectStep; split <;> rfl
  cases ph <;> simp only [handlerStep]
  case start => split
                · exact hs
                · rfl
  case waiting => split
                  · split
                    · exact hs
                    · rfl
                  · rfl

/-- Only a dispatcher adds to the log, one message it received on its session's websocket. -/
theorem step_puts (h : Step w a w') :
    w'.puts = w.puts ∨ ∃ ws l f q msg, w.tasks[ws]? = some (.session (.serving l)) ∧
      dispatch w.server.message_queues (isForwardClient w.server l.client_id) f = .put q msg ∧
      w'.puts = w.puts ++ [(ws, q, msg)] := by
  cases h
  case add_reverse_token t d p u pw k =>
    rcases add_reverse_token_cases w t d p u pw k with e | ⟨_, e⟩ | ⟨_, _, -, -, e⟩ <;> rw [e]
    · exact .inl rfl
    · exact .inl rfl
    · exact .inl (registerReverse_puts ..)
  case remove_token t =>
    rcases remove_token_cases w t with e | ⟨p, -, e⟩ | ⟨-, -, e⟩ <;> rw [e] <;> exact .inl rfl
  case serve => exact .inl (serveStart_puts _)
  case auth ws f _ =>
    rcases _handle_websocket_cases w ws f with ⟨t, p, -, -, e⟩ | ⟨t, -, e⟩ | ⟨u, -, e⟩ <;> rw [e]
    · exact .inl (by unfold registerClient ensureSupervisor; split <;> rfl)
    · exact .inl rfl
    · exact .inl rfl
  case frame ws l f hi =>
    unfold _message_dispatcher; split
    · exact .inr ⟨ws, l, f, _, _, hi, ‹_›, rfl⟩
    all_goals exact .inl rfl
  case get_socket => exact .inl (by unfold getStep; split; rfl; split <;> rfl)
  case deliver_cancel i t p ph _ =>
    refine .inl ?_
    cases ph <;> simp only [cancelStep]
    case getting => exact releaseStep_puts ..
    case serving => split
                    · rfl
                    · exact releaseStep_puts ..
    all_goals rfl
  case drained => exact .inl (releaseStep_puts ..)
  case cancel i => exact .inl (by unfold World.cancel; split <;> rfl)
  case handler => exact .inl (handlerStep_puts ..)
  case pending i t _ =>
    cases hp : _handle_pending_token w t with
    | none => exact .inl (by simp [hp])
    | some w₁ => exact .inl (by simp [hp, _handle_pending_token_puts hp])
  all_goals exact .inl rfl

/-- The log names its queues: every message put came in on an authenticated session's
websocket and names its queue itself. -/
def PutsGood (w : World) : Prop :=
  ∀ ws q msg, (ws, q, msg) ∈ w.puts → namesQueue msg q = true ∧ ∃ l, w.login ws = some l

theorem PutsGood.step (hg : PutsGood w) (h : Step w a w') : PutsGood w' := by
  intro ws q msg hm
  rcases step_puts h with e | ⟨ws', l, f, q', msg', hi, hd, e⟩ <;> rw [e] at hm
  · obtain ⟨hn, l, hl⟩ := hg ws q msg hm
    exact ⟨hn, l, login_kept h hl⟩
  · rcases List.mem_append.mp hm with hm | hm
    · obtain ⟨hn, l, hl⟩ := hg ws q msg hm
      exact ⟨hn, l, login_kept h hl⟩
    · simp only [List.mem_singleton, Prod.mk.injEq] at hm
      obtain ⟨rfl, rfl, rfl⟩ := hm
      have hl : w.login ws = some l := by simp [World.login, session_eq_some.mpr hi, SessionPhase.login]
      exact ⟨(dispatch_put hd).2.1, l, login_kept h hl⟩

theorem PutsGood.reach (hr : Reach c w) : PutsGood w := by
  induction hr with
  | init => intro _ _ _ hm; simp [World.init] at hm
  | step _ h ih => exact ih.step h

/-- In every reachable state, a message a dispatcher put into queue `q` came in on the
websocket of an authenticated session and names `q` itself: a `data` frame with `channel_id`
`q`, or a `connect_response` frame with `connect_id` `q`. And the next frame a session
receives puts a message into `q` exactly when it names `q` and `q` is registered: which
session's relay registered `q` plays no part. -/
theorem puts_name_their_queue (hr : Reach c w) :
    (∀ ws q msg, (ws, q, msg) ∈ w.puts → namesQueue msg q = true ∧ ∃ l, w.login ws = some l) ∧
    ∀ ws f w', Step w (.frame ws f) w' → ∀ q msg,
      (w'.puts = w.puts ++ [(ws, q, msg)] ↔
        f = some (.object msg) ∧ namesQueue msg q = true ∧ (w.server.message_queues q).isSome) := by
  refine ⟨PutsGood.reach hr, fun ws f w' h q msg => ?_⟩
  cases h
  rename_i l _
  exact _message_dispatcher_puts w ws l f q msg

/-- Two forward sessions; the relay of the second registers channel `"c"`, and the first
sends a `data` frame naming `"c"`: it lands in the second session's queue. -/
theorem foreign_channel_put :
    (runs (World.init ⟨[1080], true, 30⟩)
        [.add_forward_token (some "t") "", .serve, .connect, .auth 0 (some (Frame.authMessage "t" false)),
          .send_ok 0, .connect, .auth 1 (some (Frame.authMessage "t" false)), .send_ok 1, .open_channel "c" 1,
          .frame 0 (some (.object [("type", .str "data"), ("channel_id", .str "c")]))]).map
      (fun w => (w.server.message_queues "c", w.puts)) =
      some (some 1, [(0, "c", [("type", .str "data"), ("channel_id", .str "c")])]) :=
  rfl

/-- Two forward sessions; the relay of the second registers channel `"c"`, and the first
sends a `data` frame naming `"c"`: it is put into the second session's queue. -/
theorem puts_name_their_queue_foreign :
    ∃ w w', runs (World.init ⟨[1080], true, 30⟩)
        [.add_forward_token (some "t") "", .serve, .connect, .auth 0 (some (Frame.authMessage "t" false)),
          .send_ok 0, .connect, .auth 1 (some (Frame.authMessage "t" false)), .send_ok 1, .open_channel "c" 1] =
        some w ∧ w.server.message_queues "c" = some 1 ∧
      Step w (.frame 0 (some (.object [("type", .str "data"), ("channel_id", .str "c")]))) w' ∧
      w'.puts = w.puts ++ [(0, "c", [("type", .str "data"), ("channel_id", .str "c")])] := by
  have hw : runs (World.init ⟨[1080], true, 30⟩)
      [.add_forward_token (some "t") "", .serve, .connect, .auth 0 (some (Frame.authMessage "t" false)),
        .send_ok 0, .connect, .auth 1 (some (Frame.authMessage "t" false)), .send_ok 1, .open_channel "c" 1] =
      some _ := rfl
  exact ⟨_, _, hw, rfl, exec_step rfl, ((puts_name_their_queue (runs_reach .init hw)).2 0 _ _ (exec_step rfl) "c" _).mpr
    ⟨rfl, by decide, rfl⟩⟩

end pywssocks.server.routing
