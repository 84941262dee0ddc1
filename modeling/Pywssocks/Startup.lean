-- When the SOCKS supervisors start (`_handle_pending_token`, server.py 477-490, and
-- `_handle_websocket`, 519-526). With `socks_wait_client` a supervisor starts only for a
-- reverse client of its token that has authenticated; without it every reverse token's
-- port has its supervisor started, or the start waits in `_pending_tokens` for `serve()`
-- or in a `_handle_pending_token` task that has not run yet, which never runs once
-- cancelled.
import Pywssocks.Handlers

namespace pywssocks.server

/-! ## What a step keeps of the start of supervisors -/

/-- What the laws of the start of supervisors read of the server: `_socks_wait_client`, the
tokens and their ports, `_pending_tokens`, and the ports with a supervisor recorded in
`_socks_tasks`, which may only grow. -/
structure StartKept (s s' : WSSocksServer) : Prop where
  wait : s'.socks_wait_client = s.socks_wait_client
  tokens : s'.tokens = s.tokens
  pending_tokens : s'.pending_tokens = s.pending_tokens
  recorded : ∀ p, (s.socks_tasks p).isSome → (s'.socks_tasks p).isSome

theorem StartKept.refl (s : WSSocksServer) : StartKept s s := ⟨rfl, rfl, rfl, fun _ h => h⟩

theorem StartKept.trans {s s' s'' : WSSocksServer} (h : StartKept s s') (h' : StartKept s' s'') : StartKept s s'' :=
  ⟨h'.wait.trans h.wait, h'.tokens.trans h.tokens, h'.pending_tokens.trans h.pending_tokens,
    fun p e => h'.recorded p (h.recorded p e)⟩

theorem StartKept.of_registry {s s' : WSSocksServer} (ha : SameAdmin s s') (hr : SameRegistry s s')
    (hw : s'.socks_wait_client = s.socks_wait_client) : StartKept s s' :=
  ⟨hw, ha.tokens, hr.pending_tokens, fun p e => by rw [hr.socks_tasks]; exact e⟩

theorem releaseStep_wait (w : World) (i : Nat) (t : String) (p : Nat) (sock : Option Nat) :
    (releaseStep w i t p sock).server.socks_wait_client = w.server.socks_wait_client := by
  unfold releaseStep; split <;> rfl

theorem getStep_wait (w : World) (i : Nat) (t : String) (p : Nat) (b : Bool) :
    (getStep w i t p b).server.socks_wait_client = w.server.socks_wait_client := by
  unfold getStep; split
  · rfl
  · split <;> rfl

theorem cancelStep_wait (w : World) (i : Nat) (t : String) (p : Nat) (ph : SupervisorPhase) :
    (cancelStep w i t p ph).server.socks_wait_client = w.server.socks_wait_client := by
  cases ph <;> simp only [cancelStep]
  case getting => exact releaseStep_wait ..
  case serving => split
                  · rfl
                  · exact releaseStep_wait ..
  all_goals rfl

theorem spawnSupervisor_start (w : World) (t : String) (p : Nat) :
    StartKept w.server (spawnSupervisor w t p).server :=
  ⟨rfl, rfl, rfl, fun q e => by by_cases hq : q = p <;> simp [spawnSupervisor, hq, e]⟩

theorem ensureSupervisor_start (w : World) (t : String) (p : Nat) :
    StartKept w.server (ensureSupervisor w t p).server := by
  unfold ensureSupervisor; split
  · exact spawnSupervisor_start ..
  · exact .refl _

theorem _handle_pending_token_start {w w' : World} {t : String} (h : _handle_pending_token w t = some w') :
    StartKept w.server w'.server := by
  unfold _handle_pending_token at h
  split at h
  · cases h; exact .refl _
  split at h
  · cases h
  split at h
  · split at h <;> cases h
    · exact spawnSupervisor_start ..
    · exact .refl _
  · cases h; exact .refl _

theorem _handle_websocket_start (w : World) (ws : Nat) (f : Option Frame) :
    StartKept w.server (_handle_websocket w ws f).server := by
  rcases _handle_websocket_cases w ws f with ⟨t, p, -, -, e⟩ | ⟨t, -, e⟩ | ⟨u, -, e⟩ <;> rw [e]
  · have h₁ : StartKept w.server (appendClient w.server t (w.uuids, ws)) := ⟨rfl, rfl, rfl, fun _ h => h⟩
    have h₂ := ensureSupervisor_start { w with server := appendClient w.server t (w.uuids, ws), uuids := w.uuids + 1 } t p
    exact (h₁.trans h₂).trans ⟨rfl, rfl, rfl, fun _ h => h⟩
  · exact ⟨rfl, rfl, rfl, fun _ h => h⟩
  · exact .refl _

theorem _cleanup_connection_start (s : WSSocksServer) (c : Nat) (t : String) :
    StartKept s (_cleanup_connection s c t) := by
  unfold _cleanup_connection; split
  · exact .refl _
  · dsimp only; split
    · split <;> exact ⟨rfl, rfl, rfl, fun _ h => h⟩
    · exact ⟨rfl, rfl, rfl, fun _ h => h⟩

theorem handlerStep_start (w : World) (i : Nat) (t : String) (s : Nat) (ph : HandlerPhase) :
    StartKept w.server (handlerStep w i t s ph).server := by
  have hs : StartKept w.server (selectStep w i t s).server := by
    unfold selectStep; split
    · rcases _get_next_websocket_spec ‹_› with e | ⟨_, _, _, -, e⟩ <;> rw [e] <;> exact ⟨rfl, rfl, rfl, fun _ h => h⟩
    · rcases _get_next_websocket_spec ‹_› with e | ⟨_, _, _, -, e⟩ <;> rw [e] <;> exact ⟨rfl, rfl, rfl, fun _ h => h⟩
    · exact .refl _
  cases ph <;> simp only [handlerStep]
  case start => split
                · exact hs
                · exact .refl _
  case waiting => split
                  · split
                    · exact hs
                    · exact .refl _
                  · exact .refl _
  all_goals exact .refl _

/-- The steps that write the tokens or `_pending_tokens`. -/
def Action.queues : Action → Bool
  | .add_reverse_token .. | .remove_token _ | .serve => true
  | _ => false

/-- Every other step keeps what the start of supervisors reads, and records more
supervisors at most. -/
theorem Step.start_kept {w w' : World} {a : Action} (h : Step w a w') (ha : a.queues = false) :
    StartKept w.server w'.server := by
  cases h <;> try (cases ha; done)
  case auth => exact _handle_websocket_start ..
  case frame ws l f _ => exact (_message_dispatcher_cases w ws l f).1 ▸ .refl _
  case hangup_sending => exact _cleanup_connection_start ..
  case finish => exact _cleanup_connection_start ..
  case get_socket => exact .of_registry (getStep_admin ..) (getStep_registry ..) (getStep_wait ..)
  case deliver_cancel => exact .of_registry (cancelStep_admin ..) (cancelStep_registry ..) (cancelStep_wait ..)
  case drained => exact .of_registry (releaseStep_admin ..) (releaseStep_registry ..) (releaseStep_wait ..)
  case cancel => exact cancel_server w _ ▸ .refl _
  case handler => exact handlerStep_start ..
  case pending i t _ =>
    show StartKept w.server ((_handle_pending_token w t).getD w).server
    cases hp : _handle_pending_token w t with
    | none => exact .refl _
    | some w₁ => exact _handle_pending_token_start hp
  all_goals exact ⟨rfl, rfl, rfl, fun _ h => h⟩

/-! ## The steps that move one task -/

/-- Task `i` moves on; every other task stays where it was, or is cancelled. -/
structure Moved (i : Nat) (w w' : World) : Prop where
  length : w'.tasks.length = w.tasks.length
  others : ∀ j, j ≠ i → w'.tasks[j]? = w.tasks[j]? ∨ w'.tasks[j]? = w.tasks[j]?.map Task.cancel

theorem Moved.of_set {w w' : World} {i : Nat} {y : Task} (h : w'.tasks = w.tasks.set i y) : Moved i w w' :=
  ⟨by rw [h, List.length_set], fun j hj => .inl (by rw [h, List.getElem?_set_ne (Ne.symm hj)])⟩

/-- A pending task that has not run, other than the one that moves, has still not run. -/
theorem Moved.pending {w w' : World} {i : Nat} (hm : Moved i w w') {x : Task} (hi : w.tasks[i]? = some x)
    (hx : ∀ t c, x ≠ .pending t false c) {j : Nat} {t : String} {c : Bool}
    (e : w.tasks[j]? = some (.pending t false c)) : ∃ c', w'.tasks[j]? = some (.pending t false c') := by
  have hj : j ≠ i := by rintro rfl; rw [hi] at e; cases e; exact hx t c rfl
  rcases hm.others j hj with h | h
  · exact ⟨c, h.trans e⟩
  · exact ⟨true, by rw [h, e]; rfl⟩

theorem releaseStep_moved (w : World) (i : Nat) (t : String) (p : Nat) (sock : Option Nat) :
    Moved i w (releaseStep w i t p sock) :=
  let ⟨_, e, _⟩ := releaseStep_tasks w i t p sock
  .of_set e

theorem getStep_moved (w : World) (i : Nat) (t : String) (p : Nat) (b : Bool) : Moved i w (getStep w i t p b) :=
  let ⟨_, e, _⟩ := getStep_tasks w i t p b
  .of_set e

theorem cancelStep_moved (w : World) (i : Nat) (t : String) (p : Nat) (ph : SupervisorPhase) :
    Moved i w (cancelStep w i t p ph) := by
  cases ph <;> simp only [cancelStep]
  case created => exact .of_set rfl
  case getting => exact releaseStep_moved ..
  case serving =>
    split
    · refine ⟨by simp [cancelHandlers], fun j hj => ?_⟩
      rw [setTask_tasks, List.getElem?_set_ne (Ne.symm hj), cancelHandlers_get]
      cases w.tasks[j]? with
      | none => exact .inl rfl
      | some x => by_cases h : x.liveHandlerOf i <;> simp [h]
    · exact releaseStep_moved ..
  all_goals exact ⟨rfl, fun _ _ => .inl rfl⟩

theorem handlerStep_moved (w : World) (i : Nat) (t : String) (s : Nat) (ph : HandlerPhase) :
    Moved i w (handlerStep w i t s ph) := by
  have hs : Moved i w (selectStep w i t s) := let ⟨_, e, _⟩ := selectStep_tasks w i t s; .of_set e
  cases ph <;> simp only [handlerStep]
  case start => split
                · exact hs
                · exact .of_set rfl
  case waiting => split
                  · split
                    · exact hs
                    · exact ⟨rfl, fun _ _ => .inl rfl⟩
                  · exact .of_set rfl
  all_goals exact ⟨rfl, fun _ _ => .inl rfl⟩

/-- A pending task that has not run stays so until its own step runs it. -/
theorem Step.pending_kept {w w' : World} {a : Action} (h : Step w a w') (ha : ∀ i, a ≠ .pending i) {j : Nat}
    {t : String} {c : Bool} (e : w.tasks[j]? = some (.pending t false c)) :
    ∃ c', w'.tasks[j]? = some (.pending t false c') := by
  cases hm : a.moves
  · exact (h.tree_kept hm).pending e
  cases h <;> try (cases hm; done)
  case get_socket hi _ => exact (getStep_moved ..).pending hi nofun e
  case accept => exact ⟨c, spawn_get _ e⟩
  case deliver_cancel hi => exact (cancelStep_moved ..).pending hi nofun e
  case drained hi _ => exact (releaseStep_moved ..).pending hi nofun e
  case aborted hi _ => exact (Moved.of_set rfl).pending hi nofun e
  case release hi _ => exact (Moved.of_set rfl).pending hi nofun e
  case handler hi => exact (handlerStep_moved ..).pending hi nofun e
  case handler_exit hi _ => exact (Moved.of_set rfl).pending hi nofun e
  case pending i _ _ => exact absurd rfl (ha i)

/-- The steps that may add a task. -/
def Action.spawns : Action → Bool
  | .add_reverse_token .. | .serve | .connect | .auth .. | .accept _ | .pending _ => true
  | _ => false

/-- Every other step keeps the number of tasks. -/
theorem Step.length_eq {w w' : World} {a : Action} (h : Step w a w') (ha : a.spawns = false) :
    w'.tasks.length = w.tasks.length := by
  cases h <;> try (cases ha; done)
  case remove_token t =>
    rcases remove_token_cases w t with e | ⟨p, -, e⟩ | ⟨-, -, e⟩ <;> rw [e]
    · unfold removeReverse; dsimp only; split
      · exact cancel_length ..
      · rfl
    · rfl
  case frame ws l f _ =>
    rcases (_message_dispatcher_cases w ws l f).2.2 with e | e <;> rw [e]
    exact List.length_set ..
  case get_socket => exact (getStep_moved ..).length
  case deliver_cancel => exact (cancelStep_moved ..).length
  case drained => exact (releaseStep_moved ..).length
  case cancel => exact cancel_length ..
  case handler => exact (handlerStep_moved ..).length
  all_goals first | rfl | exact List.length_set ..

/-! ## `_socks_wait_client` -/

theorem servePending_start (w : World) (ts : List String) : StartKept w.server (servePending w ts).1.server := by
  induction ts generalizing w with
  | nil => exact .refl _
  | cons t ts ih =>
    simp only [servePending]
    split
    · exact (_handle_pending_token_start ‹_›).trans (ih _)
    · exact .refl _

/-- `_socks_wait_client` is the constructor's argument, whatever the step. -/
theorem Step.wait_kept {w w' : World} {a : Action} (h : Step w a w') :
    w'.server.socks_wait_client = w.server.socks_wait_client := by
  cases ha : a.queues
  · exact (h.start_kept ha).wait
  cases h <;> try (cases ha; done)
  case add_reverse_token t d p u pw k =>
    rcases add_reverse_token_cases w t d p u pw k with e | ⟨_, e⟩ | ⟨_, _, -, -, e⟩ <;> rw [e]
    · rw [registerReverse_server]; rfl
  case remove_token t =>
    rcases remove_token_cases w t with e | ⟨p, -, e⟩ | ⟨-, -, e⟩ <;> rw [e] <;> rfl
  case serve =>
    unfold serveStart; dsimp only; split
    · exact (servePending_start ..).wait
    · exact (servePending_start ..).wait

theorem reach_wait {c : Config} {w : World} (hr : Reach c w) : w.server.socks_wait_client = c.socks_wait_client := by
  induction hr with
  | init => rfl
  | step _ hs ih => exact hs.wait_kept.trans ih

/-- With `socks_wait_client`, `_handle_pending_token` does nothing, and so neither does the
loop of `serve()` over `_pending_tokens`. -/
theorem servePending_waiting {w : World} (hw : w.server.socks_wait_client = true) (ts : List String) :
    servePending w ts = (w, true) := by
  induction ts with
  | nil => rfl
  | cons t ts ih => simp [servePending, _handle_pending_token, hw, ih]

/-- Without `socks_wait_client`, `_handle_pending_token` for a token with its lock returns,
and leaves a supervisor recorded for the token's port when that port is nonzero. -/
theorem _handle_pending_token_starts {w : World} {t : String} (hw : w.server.socks_wait_client = false)
    (hl : w.server.token_locks t = true) :
    ∃ w₁, _handle_pending_token w t = some w₁ ∧
      ∀ p, w.server.tokens t = some p → p ≠ 0 → (w₁.server.socks_tasks p).isSome := by
  unfold _handle_pending_token
  rw [if_neg (by simp [hw]), if_neg (by simp [hl])]
  split
  · rename_i p₀ ht
    split
    · refine ⟨_, rfl, fun p hp _ => ?_⟩
      cases ht.symm.trans hp; simp [spawnSupervisor]
    · rename_i hs
      refine ⟨_, rfl, fun p hp hp0 => ?_⟩
      cases ht.symm.trans hp
      simpa [Option.isSome_iff_ne_none] using not_and.mp hs hp0
  · exact ⟨_, rfl, fun p hp => by simp_all⟩

/-- Without `socks_wait_client`, the loop of `serve()` over tokens with their locks runs to
its end, and records a supervisor for each nonzero port of those tokens. -/
theorem servePending_starts {w : World} (hw : w.server.socks_wait_client = false) {ts : List String}
    (hl : ∀ t ∈ ts, w.server.token_locks t = true) :
    (servePending w ts).2 = true ∧ ∀ t ∈ ts, ∀ p, w.server.tokens t = some p → p ≠ 0 →
      ((servePending w ts).1.server.socks_tasks p).isSome := by
  induction ts generalizing w with
  | nil => exact ⟨rfl, by simp⟩
  | cons t ts ih =>
    obtain ⟨w₁, e, hs⟩ := _handle_pending_token_starts hw (hl t (.head _))
    have hk := _handle_pending_token_start e
    obtain ⟨h₁, h₂⟩ := ih (hk.wait.trans hw) fun t' ht' => by
      rw [(_handle_pending_token_admin e).token_locks]; exact hl t' (.tail _ ht')
    simp only [servePending, e]
    refine ⟨h₁, fun t' ht' p hp hp0 => ?_⟩
    rcases List.mem_cons.mp ht' with rfl | ht'
    · exact (servePending_start w₁ ts).recorded p (hs p hp hp0)
    · exact h₂ t' ht' p (by rw [hk.tokens]; exact hp) hp0

/-! ## Where supervisors come from -/

/-- A task spawned last. -/
theorem spawn_get_new {w : World} {t x : Task} {i : Nat} (e : (w.spawn t).tasks[i]? = some x)
    (hn : w.tasks.length ≤ i) : x = t :=
  (spawn_get_cases e).resolve_left fun e' => by simp [List.getElem?_eq_none hn] at e'

/-- A task of `w` keeps what it runs: a supervisor of `w'` at an index of `w` was one there. -/
theorem RolesKept.supervisor {w w' : World} (hr : RolesKept w w') {i : Nat} (hi : i < w.tasks.length)
    {t : String} {p : Nat} {ph : SupervisorPhase} {c : Bool} (e : w'.tasks[i]? = some (.supervisor t p ph c)) :
    ∃ ph' c', w.tasks[i]? = some (.supervisor t p ph' c') := by
  obtain ⟨x, hx⟩ : ∃ x, w.tasks[i]? = some x := ⟨_, List.getElem?_eq_getElem hi⟩
  have := hr i x.role (by simp [World.role, hx])
  simp only [World.role, e, Option.map_some', Option.some.injEq] at this
  cases x <;> simp_all [Task.role]

/-- The supervisor the reverse registration of `_handle_websocket` starts is the last task,
and the session that registered stands before it with its login. -/
theorem registerClient_new {w : World} {ws : Nat} (hws : w.tasks[ws]? = some (.session .auth)) {t : String}
    {p i : Nat} {t' : String} {p' : Nat} {ph : SupervisorPhase} {c : Bool} (hn : w.tasks.length ≤ i)
    (e : (registerClient w ws t p).tasks[i]? = some (.supervisor t' p' ph c)) :
    t' = t ∧ ws < i ∧ (registerClient w ws t p).login ws = some ⟨w.uuids, t, true⟩ := by
  have hlen := (List.getElem?_eq_some_iff.mp hws).1
  have hl : (registerClient w ws t p).login ws = some ⟨w.uuids, t, true⟩ := by
    rw [login_of_session (registerClient_session (session_eq_some.mpr hws) t p).2.1]; simp [SessionPhase.login]
  refine ⟨?_, by omega, hl⟩
  unfold registerClient ensureSupervisor at e
  split at e
  · rw [setTask_tasks, List.getElem?_set_ne (by omega)] at e
    cases spawn_get_new e hn; rfl
  · have := (List.getElem?_eq_some_iff.mp e).1
    simp at this; omega

/-- With `socks_wait_client`, a step adds a supervisor only as the reverse registration of a
client of its token, on a websocket before it. -/
theorem Step.new_supervisor {w w' : World} {a : Action} (h : Step w a w') (hw : w.server.socks_wait_client = true)
    {i : Nat} {t : String} {p : Nat} {ph : SupervisorPhase} {c : Bool} (hn : w.tasks.length ≤ i)
    (e : w'.tasks[i]? = some (.supervisor t p ph c)) : ∃ ws cid, ws < i ∧ w'.login ws = some ⟨cid, t, true⟩ := by
  have old : ∀ {w₁ : World}, w₁.tasks.length = w.tasks.length → w₁.tasks[i]? = some (.supervisor t p ph c) → False :=
    fun hl e => by have := (List.getElem?_eq_some_iff.mp e).1; omega
  cases ha : a.spawns
  · exact (old (h.length_eq ha) e).elim
  cases h <;> try (cases ha; done)
  case add_reverse_token t' d port u pw k =>
    rcases add_reverse_token_cases w t' d port u pw k with e' | ⟨_, e'⟩ | ⟨_, _, -, -, e'⟩ <;> rw [e'] at e
    · exact (old rfl e).elim
    · exact (old rfl e).elim
    · unfold registerReverse at e; split at e
      · cases spawn_get_new e hn
      · exact (old rfl e).elim
  case serve =>
    unfold serveStart at e; simp only [servePending_waiting (show ({ w with server := { w.server with loop := true } } : World).server.socks_wait_client = true from hw)] at e
    exact (old rfl e).elim
  case connect => cases spawn_get_new e hn
  case accept => cases spawn_get_new e hn
  case pending i' t' _ =>
    simp only [_handle_pending_token, hw, if_true, Option.getD_some] at e
    exact (old (List.length_set ..) e).elim
  case auth ws f hws =>
    rcases _handle_websocket_cases w ws f with ⟨t', p', -, -, e'⟩ | ⟨_, -, e'⟩ | ⟨_, -, e'⟩ <;> rw [e'] at e ⊢
    · obtain ⟨rfl, hws', hl⟩ := registerClient_new hws hn e
      exact ⟨ws, _, hws', hl⟩
    · exact (old (List.length_set ..) e).elim
    · exact (old (List.length_set ..) e).elim

end pywssocks.server

namespace pywssocks.server.startup

open registry ports clients

variable {c : Config} {w w' : World} {a : Action}

/-! ## Lazy start -/

/-- Every supervisor was started for a reverse client of its token that had authenticated on
an earlier websocket. -/
def StartedByClient (w : World) : Prop :=
  ∀ (i : Nat) (t : String) (p : Nat) (ph : SupervisorPhase) (b : Bool), w.tasks[i]? = some (.supervisor t p ph b) →
    ∃ ws cid, ws < i ∧ w.login ws = some ⟨cid, t, true⟩

theorem StartedByClient.step (hg : StartedByClient w) (hw : w.server.socks_wait_client = true) (h : Step w a w') :
    StartedByClient w' := by
  intro i t p ph b e
  rcases Nat.lt_or_ge i w.tasks.length with hi | hi
  · obtain ⟨ph', b', e'⟩ := h.roles_kept.supervisor hi e
    obtain ⟨ws, cid, hws, hl⟩ := hg i t p ph' b' e'
    exact ⟨ws, cid, hws, login_kept h hl⟩
  · exact h.new_supervisor hw hi e

theorem StartedByClient.reach (hr : Reach c w) (hc : c.socks_wait_client = true) : StartedByClient w := by
  induction hr with
  | init => intro i _ _ _ _ e; simp [World.init] at e
  | step hr' hs ih => exact ih.step ((reach_wait hr').trans hc) hs

/-- With `socks_wait_client` (the default), in every reachable state every `_run_socks_server`
task was started for a token one reverse client of which had authenticated, on a websocket
opened before the supervisor: no SOCKS port is taken for a token before one of its clients
has connected. -/
theorem lazy_start (hr : Reach c w) (hc : c.socks_wait_client = true) {i : Nat} {t : String} {p : Nat}
    {ph : SupervisorPhase} {b : Bool} (hi : w.tasks[i]? = some (.supervisor t p ph b)) :
    ∃ ws cid, ws < i ∧ w.login ws = some ⟨cid, t, true⟩ :=
  StartedByClient.reach hr hc i t p ph b hi

theorem lazy_start_first_client :
    ∃ w, runs (World.init ⟨[1080], true, 30⟩)
        [.add_reverse_token (some "t") "" none none none 0, .serve, .connect,
          .auth 0 (some (Frame.authMessage "t" true))] = some w ∧
      ∃ ws cid, ws < 1 ∧ w.login ws = some ⟨cid, "t", true⟩ := by
  have hw : runs (World.init ⟨[1080], true, 30⟩)
      [.add_reverse_token (some "t") "" none none none 0, .serve, .connect,
        .auth 0 (some (Frame.authMessage "t" true))] = some _ := rfl
  exact ⟨_, hw, @lazy_start _ _ (runs_reach .init hw) rfl 1 "t" 1080 .created false rfl⟩

/-! ## Eager start -/

/-- Without `socks_wait_client`: every reverse token is on a nonzero port, and that port has a
supervisor recorded, or the token waits in `_pending_tokens` for `serve()`, or a
`_handle_pending_token` task for it has not run yet. -/
structure EagerGood (w : World) : Prop where
  nonzero : ∀ (t : String) (p : Nat), w.server.tokens t = some p → p ≠ 0
  started : ∀ (t : String) (p : Nat), w.server.tokens t = some p →
    (w.server.socks_tasks p).isSome ∨ t ∈ w.server.pending_tokens ∨
      ∃ (i : Nat) (c : Bool), w.tasks[i]? = some (.pending t false c)

theorem init_eager (c : Config) : EagerGood (World.init c) := ⟨by simp [World.init], by simp [World.init]⟩

theorem EagerGood.of_kept (hg : EagerGood w) (hs : StartKept w.server w'.server)
    (hp : ∀ {j : Nat} {t : String} {c : Bool}, w.tasks[j]? = some (.pending t false c) →
      ∃ c', w'.tasks[j]? = some (.pending t false c')) :
    EagerGood w' := by
  refine ⟨fun t p e => hg.nonzero t p (by rw [← hs.tokens]; exact e), fun t p e => ?_⟩
  rcases hg.started t p (by rw [← hs.tokens]; exact e) with h | h | ⟨j, _, hj⟩
  · exact .inl (hs.recorded p h)
  · exact .inr (.inl (by rw [hs.pending_tokens]; exact h))
  · exact .inr (.inr ⟨j, hp hj⟩)

/-- `add_reverse_token` records a token on a nonzero port: its `_handle_pending_token` task
is created, or the token is queued for `serve()`. -/
theorem EagerGood.of_register (hg : EagerGood w) {t₀ : String} {p₀ : Nat} (hp₀ : p₀ ≠ 0) (u pw : Option String) :
    EagerGood (registerReverse w t₀ p₀ u pw) := by
  have hs := registerReverse_server w t₀ p₀ u pw
  refine ⟨fun t p e => ?_, fun t p e => ?_⟩ <;> rw [registerReverse_tokens] at e <;> by_cases h : t = t₀
  · subst h; simp only [Function.update_same, Option.some.injEq] at e; exact e ▸ hp₀
  · exact hg.nonzero t p (by rwa [Function.update_noteq h] at e)
  · subst h
    unfold registerReverse; split
    · exact .inr (.inr ⟨w.tasks.length, false, by simp⟩)
    · exact .inr (.inl (by simp))
  · rcases hg.started t p (by rwa [Function.update_noteq h] at e) with h' | h' | ⟨j, c', hj⟩
    · exact .inl (by rw [hs]; exact h')
    · exact .inr (.inl (by rw [hs]; split <;> simp [h']))
    · refine .inr (.inr ⟨j, c', ?_⟩)
      unfold registerReverse; split
      · exact spawn_get _ hj
      · exact hj

/-- `remove_token` on a reverse token drops only that token's port from `_socks_tasks`, and
that token from `_pending_tokens`. -/
theorem EagerGood.of_removeReverse (hg : EagerGood w) (hP : PortGood c w) {t₀ : String} {p₀ : Nat}
    (ht₀ : w.server.tokens t₀ = some p₀) : EagerGood (removeReverse w t₀ p₀) := by
  have hpend : ∀ {j : Nat} {t : String} {c : Bool}, w.tasks[j]? = some (.pending t false c) →
      ∃ c', (removeReverse w t₀ p₀).tasks[j]? = some (.pending t false c') := fun e => by
    unfold removeReverse; dsimp only; split
    · exact (cancel_tree_kept w _).pending e
    · exact ⟨_, e⟩
  have other : ∀ {t p}, (removeReverse w t₀ p₀).server.tokens t = some p → t ≠ t₀ ∧ w.server.tokens t = some p :=
    fun {t} _ e => by
      rw [removeReverse_tokens] at e
      have h : t ≠ t₀ := by rintro rfl; simp at e
      exact ⟨h, by rwa [Function.update_noteq h] at e⟩
  refine ⟨fun t p e => hg.nonzero t p (other e).2, fun t p e => ?_⟩
  obtain ⟨h, e'⟩ := other e
  have hp : p ≠ p₀ := by rintro rfl; exact h (hP.distinct t t₀ p e' ht₀)
  rcases hg.started t p e' with h' | h' | ⟨j, _, hj⟩
  · exact .inl (by simpa [removeReverse, Function.update_noteq hp] using h')
  · exact .inr (.inl (by simpa [removeReverse, List.mem_erase_of_ne h] using h'))
  · exact .inr (.inr ⟨j, hpend hj⟩)

/-- `serve()` runs `_handle_pending_token` for every queued token, each with its lock, and
then empties the queue. -/
theorem EagerGood.of_serve (hg : EagerGood w) (hR : RegGood w) (hw : w.server.socks_wait_client = false) :
    EagerGood (serveStart w) := by
  have hl : ∀ t ∈ w.server.pending_tokens, w.server.token_locks t = true := fun t ht => by
    rw [hR.locks]; exact hR.pending t ht
  obtain ⟨hok, hst⟩ := servePending_starts (w := { w with server := { w.server with loop := true } }) hw hl
  have hk := servePending_start { w with server := { w.server with loop := true } } w.server.pending_tokens
  have ht := servePending_tree_kept { w with server := { w.server with loop := true } } w.server.pending_tokens
  unfold serveStart; dsimp only; rw [if_pos hok]
  refine ⟨fun t p e => hg.nonzero t p (by rw [← hk.tokens]; exact e), fun t p e => ?_⟩
  have e' : w.server.tokens t = some p := by rw [← hk.tokens]; exact e
  rcases hg.started t p e' with h | h | ⟨j, _, hj⟩
  · exact .inl (hk.recorded p h)
  · exact .inl (hst t h p e' (hg.nonzero t p e'))
  · exact .inr (.inr ⟨j, ht.pending hj⟩)

/-- A `_handle_pending_token` task runs: its token, if it is still a reverse token, has its
port's supervisor recorded afterwards. -/
theorem EagerGood.of_pending (hg : EagerGood w) (hR : RegGood w) (hw : w.server.socks_wait_client = false)
    {i : Nat} {t₀ : String} (hi : w.tasks[i]? = some (.pending t₀ false false)) :
    EagerGood (((_handle_pending_token w t₀).getD w).setTask i (.pending t₀ true false)) := by
  obtain ⟨w₁, hw₁, hk, htk, hrec⟩ : ∃ w₁, (_handle_pending_token w t₀).getD w = w₁ ∧ StartKept w.server w₁.server ∧
      TreeKept w w₁ ∧ ∀ p, w.server.tokens t₀ = some p → (w₁.server.socks_tasks p).isSome := by
    cases ht : w.server.tokens t₀ with
    | none =>
      have e : _handle_pending_token w t₀ = none := by simp [_handle_pending_token, hw, hR.locks, ht]
      exact ⟨w, by rw [e]; rfl, .refl _, .refl _, by simp⟩
    | some p₀ =>
      obtain ⟨w₁, e, hs⟩ := _handle_pending_token_starts hw (by rw [hR.locks, ht]; rfl)
      exact ⟨w₁, by rw [e]; rfl, _handle_pending_token_start e, _handle_pending_token_tree_kept e,
        fun p hp => hs p (ht.trans hp) (hg.nonzero _ _ (ht.trans hp))⟩
  subst hw₁
  obtain ⟨_, hi₁⟩ := htk.pending hi
  refine ⟨fun t p e => hg.nonzero t p (by rw [← hk.tokens]; exact e), fun t p e => ?_⟩
  have e' : w.server.tokens t = some p := by rw [← hk.tokens]; exact e
  by_cases h : t = t₀
  · subst h; exact .inl (hrec p e')
  rcases hg.started t p e' with h' | h' | ⟨j, _, hj⟩
  · exact .inl (hk.recorded p h')
  · exact .inr (.inl (by rw [setTask_server, hk.pending_tokens]; exact h'))
  · obtain ⟨c', hj₁⟩ := htk.pending hj
    have hij : i ≠ j := by rintro rfl; rw [hi₁] at hj₁; cases hj₁; exact h rfl
    exact .inr (.inr ⟨j, c', by rw [setTask_tasks, List.getElem?_set_ne hij, hj₁]⟩)

theorem EagerGood.step (hg : EagerGood w) (hR : RegGood w) (hP : PortGood c w) (hw : w.server.socks_wait_client = false)
    (h : Step w a w') : EagerGood w' := by
  cases ha : a.queues
  · by_cases hp : ∃ i, a = .pending i
    · obtain ⟨i, rfl⟩ := hp
      cases h with
      | pending _ _ hi => exact hg.of_pending hR hw hi
    · exact hg.of_kept (h.start_kept ha) (h.pending_kept fun i e => hp ⟨i, e⟩)
  cases h <;> try (cases ha; done)
  case add_reverse_token t d port u pw k =>
    rcases add_reverse_token_cases w t d port u pw k with e | ⟨_, e⟩ | ⟨_, _, -, hp0, e⟩ <;> rw [e]
    · exact hg
    · exact hg.of_kept ⟨rfl, rfl, rfl, fun _ h => h⟩ fun e => ⟨_, e⟩
    · have hg₁ : EagerGood { w with server := { w.server with socks_port_pool := ‹_› } } :=
        hg.of_kept ⟨rfl, rfl, rfl, fun _ h => h⟩ fun e => ⟨_, e⟩
      exact hg₁.of_register hp0 _ _
  case remove_token t =>
    rcases remove_token_cases w t with e | ⟨p, hp, e⟩ | ⟨-, -, e⟩ <;> rw [e]
    · exact hg
    · exact hg.of_removeReverse hP hp
    · exact hg.of_kept ⟨rfl, rfl, rfl, fun _ h => h⟩ fun e => ⟨_, e⟩
  case serve => exact hg.of_serve hR hw

theorem EagerGood.reach (hr : Reach c w) (hc : c.socks_wait_client = false) : EagerGood w := by
  induction hr with
  | init => exact init_eager c
  | step hr' hs ih => exact ih.step (RegGood.reach hr') (reach_good hr') ((reach_wait hr').trans hc) hs

/-- Without `socks_wait_client`, in every reachable state every reverse token is on a nonzero
port whose supervisor has been started: `_socks_tasks` records one, or the token waits in
`_pending_tokens` for `serve()`, which starts it, or its `_handle_pending_token` task has not
run yet. That task starts it when it runs; one the loop's teardown cancelled never runs. -/
theorem eager_start (hr : Reach c w) (hc : c.socks_wait_client = false) {t : String} {p : Nat}
    (ht : w.server.tokens t = some p) :
    p ≠ 0 ∧ ((w.server.socks_tasks p).isSome ∨ t ∈ w.server.pending_tokens ∨
      ∃ (i : Nat) (c : Bool), w.tasks[i]? = some (.pending t false c)) :=
  ⟨(EagerGood.reach hr hc).nonzero t p ht, (EagerGood.reach hr hc).started t p ht⟩

/-- A token added before `serve()`, with `socks_wait_client=False`: `serve()` starts its
supervisor. -/
theorem eager_start_at_serve :
    ∃ w, runs (World.init ⟨[1080], false, 30⟩) [.add_reverse_token (some "t") "" none none none 0, .serve] = some w ∧
      1080 ≠ 0 ∧ ((w.server.socks_tasks 1080).isSome ∨ "t" ∈ w.server.pending_tokens ∨
        ∃ (i : Nat) (c : Bool), w.tasks[i]? = some (.pending "t" false c)) := by
  have hw : runs (World.init ⟨[1080], false, 30⟩) [.add_reverse_token (some "t") "" none none none 0, .serve] =
      some _ := rfl
  exact ⟨_, hw, @eager_start _ _ (runs_reach .init hw) rfl "t" 1080 rfl⟩

end pywssocks.server.startup
