-- The laws of the listen sockets: how many supervisors hold a port's socket, and
-- whether the socket they hold is still open. Until the shutdown (`SocketManager.close`
-- in the `finally` of a `serve()` call, or the loop's teardown cancelling every task), a
-- port's `refs` counts its holders and every held socket is open; `close` breaks both.
import Pywssocks.Exec

namespace pywssocks.server

/-! ## Who holds a socket -/

/-- The socket of a supervisor that returned from `get_socket` and has not yet run
`release_socket`. -/
def SupervisorPhase.sock : SupervisorPhase → Option Nat
  | .serving s | .draining s | .releasing (some s) => some s
  | _ => none

/-- A supervisor that has run and not ended, with its port and where it stands. -/
def Task.sockPhase : Task → Option (Nat × SupervisorPhase)
  | .supervisor _ _ .created _ | .supervisor _ _ .done _ => none
  | .supervisor _ p ph _ => some (p, ph)
  | _ => none

/-- The supervisors between their first step and their end, in task order. -/
def World.supervising (w : World) : List (Nat × SupervisorPhase) := w.tasks.filterMap Task.sockPhase

/-- How many `_run_socks_server` tasks for `port` returned from `get_socket(port)` and have
not yet run `release_socket(port)`. -/
def World.holders (w : World) (port : Nat) : Nat :=
  w.supervising.countP fun x => x.1 == port && x.2.sock.isSome

/-- The steps of the shutdown: the two steps of `SocketManager.close()`, in the `finally` of
any `serve()` call, and the `cancel()` the loop's teardown sends to every task, which may
reach a supervisor a second time in its `finally`. -/
def Action.shuts : Action → Bool
  | .close _ | .close_done _ | .cancel _ => true
  | _ => false

/-- The steps that move a supervisor or the socket manager. -/
def Action.sockets : Action → Bool
  | .get_socket .. | .deliver_cancel _ | .drained _ | .release _ | .expire _ | .close _ | .close_done _
  | .cancel _ => true
  | _ => false

/-- `cancel()` moves no supervisor that is not in its `finally`. -/
theorem Task.cancel_sockPhase {x : Task} (h : ∀ t p ph c, x = .supervisor t p ph c → ph.cancel = ph) :
    x.cancel.sockPhase = x.sockPhase := by
  cases x with
  | supervisor t p ph c =>
    show (Task.supervisor t p ph.cancel true).sockPhase = _
    rw [h t p ph c rfl]
    cases ph <;> rfl
  | _ => rfl

theorem Task.sockPhase_of_sock {t : String} {p : Nat} {ph : SupervisorPhase} {c : Bool} (h : ph.sock.isSome) :
    (Task.supervisor t p ph c).sockPhase = some (p, ph) := by
  cases ph <;> simp_all [SupervisorPhase.sock, Task.sockPhase]

/-- Setting the `i`-th element changes the filtered list at one place. -/
theorem filterMap_set_split {α β : Type} {l : List α} {i : Nat} {a : α} (hi : l[i]? = some a) (b : α)
    (f : α → Option β) : ∃ l₁ l₂, l.filterMap f = l₁ ++ (f a).toList ++ l₂ ∧
      (l.set i b).filterMap f = l₁ ++ (f b).toList ++ l₂ := by
  obtain ⟨h, rfl⟩ := List.getElem?_eq_some_iff.mp hi
  have hc : ∀ x (l : List α), (x :: l).filterMap f = (f x).toList ++ l.filterMap f := by
    intro x l; cases e : f x <;> simp [e]
  have e : l.take i ++ l[i] :: l.drop (i + 1) = l := by
    rw [← List.drop_eq_getElem_cons h, List.take_append_drop]
  refine ⟨(l.take i).filterMap f, (l.drop (i + 1)).filterMap f, ?_, ?_⟩
  · rw [show l.filterMap f = (l.take i ++ l[i] :: l.drop (i + 1)).filterMap f by rw [e]]
    simp only [List.filterMap_append, hc, List.append_assoc]
  · rw [List.set_eq_take_append_cons_drop, if_pos h]
    simp [hc]

theorem supervising_set {w : World} {i : Nat} {t₀ : Task} (hi : w.tasks[i]? = some t₀) (t : Task) :
    ∃ l₁ l₂, w.supervising = l₁ ++ t₀.sockPhase.toList ++ l₂ ∧
      (w.setTask i t).supervising = l₁ ++ t.sockPhase.toList ++ l₂ :=
  filterMap_set_split hi t _

theorem mem_supervising {w : World} {i : Nat} {t : Task} {x : Nat × SupervisorPhase}
    (hi : w.tasks[i]? = some t) (h : t.sockPhase = some x) : x ∈ w.supervising :=
  List.mem_filterMap.mpr ⟨t, List.getElem?_mem hi, h⟩

/-! ## Steps that move no supervisor -/

/-- `w'` has the supervisors of `w` where they stood, and the same socket manager. -/
structure SockKept (w w' : World) : Prop where
  supervising : w'.supervising = w.supervising
  manager : w'.server.socket_manager = w.server.socket_manager

theorem SockKept.refl (w : World) : SockKept w w := ⟨rfl, rfl⟩

theorem SockKept.trans {w w' w'' : World} (h : SockKept w w') (h' : SockKept w' w'') : SockKept w w'' :=
  ⟨h'.supervising.trans h.supervising, h'.manager.trans h.manager⟩

theorem SockKept.of_tasks {w w' : World} (h : w'.tasks = w.tasks)
    (hm : w'.server.socket_manager = w.server.socket_manager) : SockKept w w' :=
  ⟨by simp only [World.supervising, h], hm⟩

theorem SockKept.of_set {w w' : World} {i : Nat} {t₀ t : Task} (hi : w.tasks[i]? = some t₀)
    (h : w'.tasks = w.tasks.set i t) (hm : w'.server.socket_manager = w.server.socket_manager)
    (hp : t.sockPhase = t₀.sockPhase) : SockKept w w' := by
  obtain ⟨l₁, l₂, e₁, e₂⟩ := supervising_set hi t
  refine ⟨?_, hm⟩
  rw [show w'.supervising = (w.setTask i t).supervising by simp only [World.supervising, h, setTask_tasks], e₂, e₁, hp]

theorem SockKept.of_spawn (w : World) (t : Task) (hs : t.sockPhase = none) : SockKept w (w.spawn t) :=
  ⟨by simp [World.supervising, hs], rfl⟩

theorem cancel_sock_kept {w : World} {i : Nat}
    (h : ∀ t p ph c, w.tasks[i]? = some (.supervisor t p ph c) → ph.cancel = ph) : SockKept w (w.cancel i) := by
  unfold World.cancel; split
  · exact .of_set ‹_› rfl rfl (Task.cancel_sockPhase fun t p ph c e => h t p ph c (e ▸ ‹_›))
  · exact .refl w

theorem cancelHandlers_sock_kept (w : World) (i : Nat) : SockKept w (cancelHandlers w i) := by
  refine ⟨?_, rfl⟩
  simp only [World.supervising, cancelHandlers, List.filterMap_map]
  congr 1; funext t
  simp only [Function.comp]
  split
  · exact Task.cancel_sockPhase fun _ _ _ _ e => by subst e; simp_all [Task.liveHandlerOf]
  · rfl

theorem registerReverse_sock_kept (w : World) (t : String) (p : Nat) (u pw : Option String) :
    SockKept w (registerReverse w t p u pw) := by
  unfold registerReverse; split
  · exact (SockKept.of_tasks (by rfl) (by rfl)).trans (.of_spawn _ (.pending t false false) rfl)
  · exact .of_tasks rfl rfl

theorem add_reverse_token_sock_kept (w : World) (token : Option String) (d : String) (port : Option Nat)
    (u pw : Option String) (k : Nat) : SockKept w (add_reverse_token w token d port u pw k).2 := by
  rcases add_reverse_token_cases w token d port u pw k with e | ⟨_, e⟩ | ⟨_, _, -, -, e⟩ <;> rw [e]
  · exact .refl w
  · exact .of_tasks rfl rfl
  · exact (SockKept.of_tasks (by rfl) (by rfl)).trans (registerReverse_sock_kept ..)

theorem spawnSupervisor_sock_kept (w : World) (t : String) (p : Nat) : SockKept w (spawnSupervisor w t p) :=
  ⟨(SockKept.of_spawn w (.supervisor t p .created false) rfl).supervising, rfl⟩

theorem ensureSupervisor_sock_kept (w : World) (t : String) (p : Nat) : SockKept w (ensureSupervisor w t p) := by
  unfold ensureSupervisor; split
  · exact spawnSupervisor_sock_kept ..
  · exact .refl w

theorem ensureSupervisor_get (w : World) (t : String) (p : Nat) {ws : Nat} (hws : ws < w.tasks.length) :
    (ensureSupervisor w t p).tasks[ws]? = w.tasks[ws]? := by
  unfold ensureSupervisor; split
  · simp [spawnSupervisor, List.getElem?_append_left hws]
  · rfl

theorem _handle_pending_token_sock_kept {w w' : World} {t : String} (h : _handle_pending_token w t = some w') :
    SockKept w w' := by
  unfold _handle_pending_token at h
  split at h
  · cases h; exact .refl w
  split at h
  · cases h
  split at h
  · split at h <;> cases h
    · exact spawnSupervisor_sock_kept ..
    · exact .refl w
  · cases h; exact .refl w

theorem servePending_sock_kept (w : World) (ts : List String) : SockKept w (servePending w ts).1 := by
  induction ts generalizing w with
  | nil => exact .refl _
  | cons t ts ih =>
    simp only [servePending]
    split
    · exact (_handle_pending_token_sock_kept ‹_›).trans (ih _)
    · exact .refl _

theorem serveStart_sock_kept (w : World) : SockKept w (serveStart w) := by
  have h : SockKept w (servePending { w with server := { w.server with loop := true } } w.server.pending_tokens).1 :=
    (SockKept.of_tasks (by rfl) (by rfl)).trans (servePending_sock_kept _ _)
  unfold serveStart; dsimp only; split <;> exact h.trans (.of_tasks rfl rfl)

theorem _handle_websocket_sock_kept {w : World} {ws : Nat} (hi : w.tasks[ws]? = some (.session .auth))
    (f : Option Frame) : SockKept w (_handle_websocket w ws f) := by
  rcases _handle_websocket_cases w ws f with ⟨t, p, -, -, e⟩ | ⟨t, -, e⟩ | ⟨u, -, e⟩ <;> rw [e]
  · have hq := ensureSupervisor_sock_kept
      { w with server := appendClient w.server t (w.uuids, ws), uuids := w.uuids + 1 } t p
    have hi' := (ensureSupervisor_get { w with server := appendClient w.server t (w.uuids, ws), uuids := w.uuids + 1 }
      t p (List.getElem?_eq_some_iff.mp hi).1).trans hi
    exact ((SockKept.of_tasks (by rfl) (by rfl)).trans hq).trans (.of_set hi' rfl rfl rfl)
  · exact .of_set hi rfl rfl rfl
  · exact .of_set hi rfl rfl rfl

theorem _cleanup_connection_socket_manager (s : WSSocksServer) (c : Nat) (t : String) :
    (_cleanup_connection s c t).socket_manager = s.socket_manager := by
  unfold _cleanup_connection; split
  · rfl
  · dsimp only; split
    · split <;> rfl
    · rfl

theorem finishSession_sock_kept {w : World} {ws : Nat} {ph : SessionPhase} (hi : w.tasks[ws]? = some (.session ph))
    (l : Login) : SockKept w (finishSession w ws l) :=
  .of_set hi rfl (_cleanup_connection_socket_manager ..) rfl

theorem handlerStep_sock_kept {w : World} {i : Nat} {t : String} {sup : Nat} {ph : HandlerPhase} {c : Bool}
    (hi : w.tasks[i]? = some (.handler t sup ph c)) (ph' : HandlerPhase) : SockKept w (handlerStep w i t sup ph') := by
  have hs : SockKept w (selectStep w i t sup) := by
    unfold selectStep; split
    · rcases _get_next_websocket_spec ‹_› with e | ⟨_, _, _, -, e⟩ <;> exact .of_set hi rfl (by rw [e]) rfl
    · rcases _get_next_websocket_spec ‹_› with e | ⟨_, _, _, -, e⟩ <;> exact .of_set hi rfl (by rw [e]) rfl
    · exact .of_set hi rfl rfl rfl
  cases ph' <;> simp only [handlerStep]
  case start => split
                · exact hs
                · exact .of_set hi rfl rfl rfl
  case waiting => split
                  · split
                    · exact hs
                    · exact .refl w
                  · exact .of_set hi rfl rfl rfl
  all_goals exact .refl w

/-! ## The supervisors `_socks_tasks` records -/

/-- The token and port of a supervisor that has not been cancelled and is not in its
`finally`: a `cancel()` only marks it. -/
def Task.uncancelled : Task → Option (String × Nat)
  | .supervisor t p ph false => if ph.cancel = ph then some (t, p) else none
  | _ => none

theorem Task.uncancelled_eq_some {x : Task} {v : String × Nat} (h : x.uncancelled = some v) :
    ∃ ph, x = .supervisor v.1 v.2 ph false ∧ ph.cancel = ph := by
  cases x with
  | supervisor t p ph c =>
    cases c
    · simp only [Task.uncancelled] at h
      split at h
      · cases h; exact ⟨ph, rfl, ‹_›⟩
      · cases h
    · cases h
  | _ => cases h

theorem Task.uncancelled_move {t : String} {p : Nat} {ph ph' : SupervisorPhase} {x : String × Nat}
    (h : ph'.cancel = ph') (hx : (Task.supervisor t p ph false).uncancelled = some x) :
    (Task.supervisor t p ph' false).uncancelled = some x := by
  simp only [Task.uncancelled, h, if_true] at hx ⊢
  split at hx <;> simp_all

/-- Every supervisor `_socks_tasks` records has not been cancelled and is not in its
`finally`, so `remove_token` cancels it for the first time. -/
def RecordedLive (w : World) : Prop :=
  ∀ p i, w.server.socks_tasks p = some i → ∃ t, w.tasks[i]?.bind Task.uncancelled = some (t, p)

/-- `w'` has the records of `w`, and each supervisor of `w` not cancelled is still so. -/
structure UncancelledKept (w w' : World) : Prop where
  socks_tasks : w'.server.socks_tasks = w.server.socks_tasks
  kept : ∀ {i : Nat} {x : String × Nat}, w.tasks[i]?.bind Task.uncancelled = some x →
    w'.tasks[i]?.bind Task.uncancelled = some x

theorem UncancelledKept.refl (w : World) : UncancelledKept w w := ⟨rfl, id⟩

theorem UncancelledKept.trans {w w' w'' : World} (h : UncancelledKept w w') (h' : UncancelledKept w' w'') :
    UncancelledKept w w'' := ⟨h'.socks_tasks.trans h.socks_tasks, fun e => h'.kept (h.kept e)⟩

theorem UncancelledKept.of_tasks {w w' : World} (hs : w'.server.socks_tasks = w.server.socks_tasks)
    (h : w'.tasks = w.tasks) : UncancelledKept w w' := ⟨hs, fun e => by rwa [h]⟩

/-- Task `i`, some `y₀`, becomes `y`, which keeps the token and port of `y₀` if `y₀` was not
cancelled. -/
theorem UncancelledKept.of_set {w w' : World} {i : Nat} {y₀ y : Task} (hi : w.tasks[i]? = some y₀)
    (hs : w'.server.socks_tasks = w.server.socks_tasks) (h : w'.tasks = w.tasks.set i y)
    (hy : ∀ x, y₀.uncancelled = some x → y.uncancelled = some x) : UncancelledKept w w' :=
  ⟨hs, fun {j _} e => by
    rw [h]
    rcases eq_or_ne i j with rfl | hj
    · rw [List.getElem?_set_self (List.getElem?_eq_some_iff.mp hi).1]
      rw [hi] at e
      exact hy _ e
    · rwa [List.getElem?_set_ne hj]⟩

theorem bind_spawn {w : World} {i : Nat} {x : String × Nat} (y : Task)
    (e : w.tasks[i]?.bind Task.uncancelled = some x) : (w.tasks ++ [y])[i]?.bind Task.uncancelled = some x := by
  obtain ⟨z, ez, -⟩ := Option.bind_eq_some.mp e
  rwa [List.getElem?_append_left (List.getElem?_eq_some_iff.mp ez).1]

theorem UncancelledKept.of_spawn {w w' : World} {y : Task} (hs : w'.server.socks_tasks = w.server.socks_tasks)
    (h : w'.tasks = w.tasks ++ [y]) : UncancelledKept w w' :=
  ⟨hs, fun e => by rw [h]; exact bind_spawn y e⟩

theorem cancelHandlers_uncancelled_kept (w : World) (i : Nat) : UncancelledKept w (cancelHandlers w i) :=
  ⟨rfl, fun {j _} e => by
    obtain ⟨z, ez, hz⟩ := Option.bind_eq_some.mp e
    have hl : z.liveHandlerOf i = false := by cases z <;> simp_all [Task.uncancelled, Task.liveHandlerOf]
    simpa [cancelHandlers_get, ez, hl] using hz⟩

theorem RecordedLive.of_kept {w w' : World} (hg : RecordedLive w) (h : UncancelledKept w w') : RecordedLive w' :=
  fun p i e => by
    rw [h.socks_tasks] at e
    obtain ⟨t, ht⟩ := hg p i e
    exact ⟨t, h.kept ht⟩

/-- `self._socks_tasks[port] = asyncio.create_task(self._run_socks_server(token, port))`. -/
theorem RecordedLive.spawn {w : World} (hg : RecordedLive w) (t : String) (p : Nat) :
    RecordedLive (spawnSupervisor w t p) := fun q j e => by
  change Function.update w.server.socks_tasks p (some w.tasks.length) q = some j at e
  rcases eq_or_ne q p with rfl | hq
  · rw [Function.update_same] at e
    cases e
    exact ⟨t, by simp [spawnSupervisor, Task.uncancelled, SupervisorPhase.cancel]⟩
  · rw [Function.update_noteq hq] at e
    obtain ⟨t', ht⟩ := hg q j e
    exact ⟨t', bind_spawn _ ht⟩

theorem RecordedLive.ensure {w : World} (hg : RecordedLive w) (t : String) (p : Nat) :
    RecordedLive (ensureSupervisor w t p) := by
  unfold ensureSupervisor; split
  · exact hg.spawn t p
  · exact hg

theorem RecordedLive.of_pending_token {w w' : World} (hg : RecordedLive w) {t : String}
    (h : _handle_pending_token w t = some w') : RecordedLive w' := by
  unfold _handle_pending_token at h
  split at h
  · cases h; exact hg
  split at h
  · cases h
  split at h
  · split at h <;> cases h
    · exact hg.spawn _ _
    · exact hg
  · cases h; exact hg

theorem RecordedLive.of_servePending {w : World} (hg : RecordedLive w) (ts : List String) :
    RecordedLive (servePending w ts).1 := by
  induction ts generalizing w with
  | nil => exact hg
  | cons t ts ih =>
    simp only [servePending]
    split
    · exact ih (hg.of_pending_token ‹_›)
    · exact hg

theorem RecordedLive.of_serveStart {w : World} (hg : RecordedLive w) : RecordedLive (serveStart w) := by
  have h := (show RecordedLive { w with server := { w.server with loop := true } } from hg).of_servePending
    w.server.pending_tokens
  unfold serveStart; dsimp only; split <;> exact h.of_kept (.of_tasks rfl rfl)

theorem RecordedLive.of_handle_websocket {w : World} (hg : RecordedLive w) {ws : Nat}
    (hi : w.tasks[ws]? = some (.session .auth)) (f : Option Frame) : RecordedLive (_handle_websocket w ws f) := by
  rcases _handle_websocket_cases w ws f with ⟨t, p, -, -, e⟩ | ⟨t, -, e⟩ | ⟨u, -, e⟩ <;> rw [e]
  · have h₀ : RecordedLive { w with server := appendClient w.server t (w.uuids, ws), uuids := w.uuids + 1 } :=
      hg.of_kept (.of_tasks rfl rfl)
    have hi' := (ensureSupervisor_get { w with server := appendClient w.server t (w.uuids, ws), uuids := w.uuids + 1 }
      t p (List.getElem?_eq_some_iff.mp hi).1).trans hi
    exact (h₀.ensure t p).of_kept (.of_set hi' rfl rfl nofun)
  · exact hg.of_kept (.of_set hi rfl rfl nofun)
  · exact hg.of_kept (.of_set hi rfl rfl nofun)

/-- The reverse branch of `remove_token` cancels the supervisor recorded for the port and
drops the record: every other record names another task, which stays as it was. -/
theorem RecordedLive.of_removeReverse {w : World} (hg : RecordedLive w) (t : String) (p : Nat) :
    RecordedLive (removeReverse w t p) := fun q j e => by
  change Function.update w.server.socks_tasks p none q = some j at e
  rcases eq_or_ne q p with rfl | hq
  · rw [Function.update_same] at e; cases e
  rw [Function.update_noteq hq] at e
  obtain ⟨t', ht⟩ := hg q j e
  refine ⟨t', ?_⟩
  cases hp : w.server.socks_tasks p with
  | none => simpa only [removeReverse, hp] using ht
  | some i =>
    have hij : j ≠ i := by
      rintro rfl
      obtain ⟨t'', ht''⟩ := hg p j hp
      rw [ht] at ht''
      exact hq (Prod.mk.inj (Option.some.inj ht'')).2
    simpa only [removeReverse, hp, cancel_get, if_neg hij] using ht

theorem getStep_uncancelled_kept {w : World} {i : Nat} {t : String} {p : Nat} {ph : SupervisorPhase}
    (hi : w.tasks[i]? = some (.supervisor t p ph false)) (b : Bool) : UncancelledKept w (getStep w i t p b) := by
  unfold getStep; split <;> (try split) <;> exact .of_set hi rfl rfl fun _ => Task.uncancelled_move rfl

/-- A task that is no supervisor not cancelled moves on to anything but one. -/
theorem releaseStep_uncancelled_kept {w : World} {i : Nat} {y₀ : Task} (hi : w.tasks[i]? = some y₀)
    (h₀ : y₀.uncancelled = none) (t : String) (p : Nat) (sock : Option Nat) :
    UncancelledKept w (releaseStep w i t p sock) := by
  unfold releaseStep; split <;> exact .of_set hi rfl rfl fun _ e => nomatch h₀.symm.trans e

theorem cancelStep_uncancelled_kept {w : World} {i : Nat} {t : String} {p : Nat} {ph : SupervisorPhase}
    (hi : w.tasks[i]? = some (.supervisor t p ph true)) : UncancelledKept w (cancelStep w i t p ph) := by
  cases ph <;> simp only [cancelStep]
  case created => exact .of_set hi rfl rfl nofun
  case getting => exact releaseStep_uncancelled_kept hi rfl ..
  case serving sock =>
    split
    · have hi' : (cancelHandlers w i).tasks[i]? = some (.supervisor t p (.serving sock) true) := by
        simp [cancelHandlers_get, hi, Task.liveHandlerOf]
      exact (cancelHandlers_uncancelled_kept w i).trans (.of_set hi' rfl rfl nofun)
    · exact releaseStep_uncancelled_kept hi rfl ..
  all_goals exact .refl w

theorem handlerStep_uncancelled_kept {w : World} {i : Nat} {t : String} {sup : Nat} {ph : HandlerPhase} {c : Bool}
    (hi : w.tasks[i]? = some (.handler t sup ph c)) (ph' : HandlerPhase) :
    UncancelledKept w (handlerStep w i t sup ph') := by
  have hs : UncancelledKept w (selectStep w i t sup) := by
    unfold selectStep; split
    · rcases _get_next_websocket_spec ‹_› with e | ⟨_, _, _, -, e⟩ <;> exact .of_set hi (by rw [e]) rfl nofun
    · rcases _get_next_websocket_spec ‹_› with e | ⟨_, _, _, -, e⟩ <;> exact .of_set hi (by rw [e]) rfl nofun
    · exact .of_set hi rfl rfl nofun
  cases ph' <;> simp only [handlerStep]
  case start => split
                · exact hs
                · exact .of_set hi rfl rfl nofun
  case waiting => split
                  · split
                    · exact hs
                    · exact .refl w
                  · exact .of_set hi rfl rfl nofun
  all_goals exact .refl w

/-- A supervisor in its `finally` is not one `_socks_tasks` may record. -/
theorem Task.uncancelled_finally {t : String} {p : Nat} {ph : SupervisorPhase} (c : Bool) (h : ph.cancel ≠ ph) :
    (Task.supervisor t p ph c).uncancelled = none := by
  cases c <;> simp [Task.uncancelled, h]

/-- Every step but the shutdown's keeps the recorded supervisors not cancelled and out of
their `finally`: `remove_token` drops the record of the one it cancels, and the steps of a
supervisor already cancelled or in its `finally` move no recorded one. -/
theorem RecordedLive.step {w w' : World} {a : Action} (hg : RecordedLive w) (h : Step w a w')
    (ha : ∀ i, a ≠ .cancel i) : RecordedLive w' := by
  cases h
  case add_reverse_token t d p u pw k =>
    rcases add_reverse_token_cases w t d p u pw k with e | ⟨_, e⟩ | ⟨_, _, -, -, e⟩ <;> rw [e]
    · exact hg
    · exact hg.of_kept (.of_tasks rfl rfl)
    · refine hg.of_kept ((UncancelledKept.of_tasks (by rfl) (by rfl)).trans ?_)
      unfold registerReverse; split
      · exact .of_spawn rfl rfl
      · exact .of_tasks rfl rfl
  case remove_token t =>
    rcases remove_token_cases w t with e | ⟨p, -, e⟩ | ⟨-, -, e⟩ <;> rw [e]
    · exact hg
    · exact hg.of_removeReverse t p
    · exact hg.of_kept (.of_tasks rfl rfl)
  case serve => exact hg.of_serveStart
  case connect => exact hg.of_kept (.of_spawn rfl rfl)
  case auth hi => exact hg.of_handle_websocket hi _
  case send_ok hi => exact hg.of_kept (.of_set hi rfl rfl nofun)
  case frame ws l f hi =>
    obtain ⟨hs, -, e | e⟩ := _message_dispatcher_cases w ws l f
    · exact hg.of_kept (.of_tasks (by rw [hs]) e)
    · rw [e]; exact hg.of_kept (.of_set hi rfl rfl nofun)
  case hangup_auth hi => exact hg.of_kept (.of_set hi rfl rfl nofun)
  case hangup_sending hi => exact hg.of_kept (.of_set hi (cleanup_frame ..).1 rfl nofun)
  case hangup_serving hi => exact hg.of_kept (.of_set hi rfl rfl nofun)
  case finish hi => exact hg.of_kept (.of_set hi (cleanup_frame ..).1 rfl nofun)
  case get_socket hi _ => exact hg.of_kept (getStep_uncancelled_kept hi _)
  case accept => exact hg.of_kept (.of_spawn rfl rfl)
  case deliver_cancel hi => exact hg.of_kept (cancelStep_uncancelled_kept hi)
  case drained c hi _ =>
    exact hg.of_kept (releaseStep_uncancelled_kept hi (Task.uncancelled_finally c nofun) ..)
  case aborted c hi _ =>
    cases c
    · exact hg.of_kept (.of_set hi rfl rfl fun _ => Task.uncancelled_move rfl)
    · exact hg.of_kept (.of_set hi rfl rfl fun _ e => by cases e)
  case release c hi _ =>
    exact hg.of_kept (.of_set hi rfl rfl fun _ e =>
      nomatch (Task.uncancelled_finally c (by simp [SupervisorPhase.cancel])).symm.trans e)
  case cancel i => exact absurd rfl (ha i)
  case handler hi => exact hg.of_kept (handlerStep_uncancelled_kept hi _)
  case handler_exit hi _ => exact hg.of_kept (.of_set hi rfl rfl nofun)
  case pending i t hi =>
    cases hp : _handle_pending_token w t with
    | none => exact hg.of_kept (.of_set hi rfl rfl nofun)
    | some w₁ =>
      obtain ⟨ts, e⟩ := _handle_pending_token_tasks hp
      have hi₁ : w₁.tasks[i]? = some (.pending t false false) := by
        rw [e, List.getElem?_append_left (List.getElem?_eq_some_iff.mp hi).1, hi]
      exact (hg.of_pending_token hp).of_kept (.of_set hi₁ rfl rfl nofun)
  all_goals exact hg.of_kept (.of_tasks rfl rfl)

/-- `remove_token` cancels only the supervisor recorded for the token's port, which is not in
its `finally`. -/
theorem remove_token_sock_kept {w : World} (hr : RecordedLive w) (t : String) : SockKept w (remove_token w t).2 := by
  rcases remove_token_cases w t with e | ⟨p, -, e⟩ | ⟨-, -, e⟩ <;> rw [e]
  · exact .refl w
  · unfold removeReverse; dsimp only; split
    · rename_i i hp
      refine ⟨(cancel_sock_kept fun t' p' ph c e => ?_).supervising, rfl⟩
      obtain ⟨_, ht⟩ := hr _ _ hp
      rw [e] at ht
      obtain ⟨ph', e', h'⟩ := Task.uncancelled_eq_some ht
      cases e'; exact h'
    · exact .of_tasks rfl rfl
  · exact .of_tasks rfl rfl

/-- Every step but a supervisor's and the manager's keeps the supervisors and the manager. -/
theorem Step.sock_kept {w w' : World} {a : Action} (h : Step w a w') (ha : a.sockets = false) (hr : RecordedLive w) :
    SockKept w w' := by
  cases h <;> try (cases ha; done)
  case add_reverse_token => exact add_reverse_token_sock_kept ..
  case remove_token => exact remove_token_sock_kept hr _
  case serve => exact serveStart_sock_kept w
  case connect => exact .of_spawn _ _ rfl
  case auth hi => exact _handle_websocket_sock_kept hi _
  case send_ok hi => exact .of_set hi rfl rfl rfl
  case frame ws l f hi =>
    obtain ⟨hs, -, e | e⟩ := _message_dispatcher_cases w ws l f
    · exact .of_tasks e (by rw [hs])
    · rw [e]; exact .of_set hi rfl rfl rfl
  case hangup_auth hi => exact .of_set hi rfl rfl rfl
  case hangup_sending hi => exact finishSession_sock_kept hi _
  case hangup_serving hi => exact .of_set hi rfl rfl rfl
  case finish hi => exact finishSession_sock_kept hi _
  case accept => exact .of_spawn _ _ rfl
  case handler hi => exact handlerStep_sock_kept hi _
  case handler_exit hi _ => exact .of_set hi rfl rfl rfl
  case pending i t hi =>
    cases hp : _handle_pending_token w t with
    | none => exact .of_set hi rfl rfl rfl
    | some w₁ =>
      obtain ⟨ts, e⟩ := _handle_pending_token_tasks hp
      have hi₁ : w₁.tasks[i]? = some (.pending t false false) := by
        rw [e, List.getElem?_append_left (List.getElem?_eq_some_iff.mp hi).1, hi]
      exact (_handle_pending_token_sock_kept hp).trans (.of_set hi₁ rfl rfl rfl)
  all_goals exact .of_tasks rfl rfl

end pywssocks.server

namespace pywssocks.server.sockets

variable {c : Config} {w w' : World} {a : Action}

/-! ## Until the manager is closed -/

/-- Before `SocketManager.close`: the manager's lock is free, every supervisor between its
first step and its end holds a socket (none waits for the lock), each port's `refs` counts
the port's holders, and the socket a supervisor holds is its port's open socket. -/
structure SockGood (w : World) : Prop where
  unlocked : w.server.socket_manager.locked = false
  holding : ∀ x ∈ w.supervising, x.2.sock.isSome
  refs : ∀ p, w.server.socket_manager.refs p = w.holders p
  listening : ∀ x ∈ w.supervising, ∀ s, x.2.sock = some s →
    (w.server.socket_manager.sockets x.1).map SocketEntry.sock = some s

theorem init_sock (c : Config) : SockGood (World.init c) where
  unlocked := rfl
  holding := by simp [World.supervising, World.init]
  refs := by simp [World.holders, World.supervising, World.init, SocketManager.refs, SocketManager.init]
  listening := by simp [World.supervising, World.init]

theorem SockGood.of_kept (hg : SockGood w) (h : SockKept w w') : SockGood w' where
  unlocked := by rw [h.manager]; exact hg.unlocked
  holding := by rw [h.supervising]; exact hg.holding
  refs p := by rw [h.manager, World.holders, h.supervising]; exact hg.refs p
  listening := by rw [h.supervising, h.manager]; exact hg.listening

/-- A port with a supervisor between its first step and its end has an entry with a reference. -/
theorem SockGood.refs_pos (hg : SockGood w) {x : Nat × SupervisorPhase} (hx : x ∈ w.supervising) :
    0 < w.server.socket_manager.refs x.1 := by
  rw [hg.refs, World.holders]
  exact List.countP_pos_iff.mpr ⟨x, hx, by simp [hg.holding x hx]⟩

/-- One step of the supervisors of port `p`: where they stood, `d` becomes `d'`, and the
manager changes only the entry of `p`. The invariant holds again when the references of `p`
follow its holders, the entry keeps its socket while another supervisor holds it, and each
supervisor of `d'` holds the entry's socket. -/
theorem SockGood.of_move (hg : SockGood w) {l₁ l₂ d d' : List (Nat × SupervisorPhase)} {p : Nat}
    (e : w.supervising = l₁ ++ d ++ l₂) (e' : w'.supervising = l₁ ++ d' ++ l₂) (hp : ∀ x ∈ d ++ d', x.1 = p)
    (hl : w'.server.socket_manager.locked = false)
    (ho : ∀ q, q ≠ p → w'.server.socket_manager.sockets q = w.server.socket_manager.sockets q)
    (hr : w'.server.socket_manager.refs p + d.countP (·.2.sock.isSome) =
      w.server.socket_manager.refs p + d'.countP (·.2.sock.isSome))
    (hs : (∃ x ∈ l₁ ++ l₂, x.1 = p ∧ x.2.sock.isSome) →
      (w'.server.socket_manager.sockets p).map SocketEntry.sock = (w.server.socket_manager.sockets p).map SocketEntry.sock)
    (hn : ∀ x ∈ d', ∃ s, x.2.sock = some s ∧ (w'.server.socket_manager.sockets p).map SocketEntry.sock = some s) :
    SockGood w' := by
  have hc : ∀ q (d : List (Nat × SupervisorPhase)), (∀ x ∈ d, x.1 = p) →
      d.countP (fun x => x.1 == q && x.2.sock.isSome) = if q = p then d.countP (·.2.sock.isSome) else 0 := by
    intro q d hd; split
    · subst q; exact List.countP_congr fun x hx => by simp [hd x hx]
    · exact List.countP_eq_zero.mpr fun x hx => by simp [hd x hx, Ne.symm ‹q ≠ p›]
  have hh : ∀ q, w'.holders q + (if q = p then d.countP (·.2.sock.isSome) else 0) =
      w.holders q + (if q = p then d'.countP (·.2.sock.isSome) else 0) := by
    intro q
    simp only [World.holders, e, e', List.countP_append]
    rw [hc q d fun x hx => hp x (by simp [hx]), hc q d' fun x hx => hp x (by simp [hx])]
    omega
  refine ⟨hl, ?_, fun q => ?_, ?_⟩
  · rw [e']; intro x hx
    simp only [List.mem_append] at hx
    rcases hx with (hx | hx) | hx
    · exact hg.holding x (by rw [e]; simp [hx])
    · obtain ⟨s, hs, -⟩ := hn x hx; simp [hs]
    · exact hg.holding x (by rw [e]; simp [hx])
  · have h1 := hh q
    have h2 := hg.refs q
    rcases eq_or_ne q p with rfl | hq
    · simp only [if_true] at h1; omega
    · simp only [if_neg hq] at h1
      rw [show w'.server.socket_manager.refs q = w.server.socket_manager.refs q by
        simp [SocketManager.refs, ho q hq]]
      omega
  · rw [e']; intro x hx s hs'
    have hold : x ∈ l₁ ++ l₂ → (w'.server.socket_manager.sockets x.1).map SocketEntry.sock = some s := by
      intro hx'
      have hw : x ∈ w.supervising := by rw [e]; simp at hx' ⊢; rcases hx' with h | h <;> simp [h]
      rcases eq_or_ne x.1 p with hxp | hxp
      · rw [hxp, hs ⟨x, hx', hxp, by simp [hs']⟩, ← hxp]; exact hg.listening x hw s hs'
      · rw [ho _ hxp]; exact hg.listening x hw s hs'
    simp only [List.mem_append] at hx
    rcases hx with (hx | hx) | hx
    · exact hold (by simp [hx])
    · obtain ⟨s', h1, h2⟩ := hn x hx
      rw [hp x (by simp [hx]), h2, ← h1, hs']
    · exact hold (by simp [hx])

/-- `get_socket` returns, or raises and the `finally` releases an absent entry: the
supervisor holds the socket it got, the port one more reference. -/
theorem SockGood.of_get (hg : SockGood w) {i : Nat} {t : String} {p : Nat} {ph : SupervisorPhase}
    (hi : w.tasks[i]? = some (.supervisor t p ph false)) (hph : ph = .created ∨ ph = .getting) (b : Bool) :
    SockGood (getStep w i t p b) := by
  have h0 : (Task.supervisor t p ph false).sockPhase = none := by
    rcases hph with rfl | rfl
    · rfl
    · exact absurd (hg.holding _ (mem_supervising hi rfl)) (by simp [SupervisorPhase.sock])
  unfold getStep; rw [if_neg (by simp [hg.unlocked])]
  split
  · rename_i s m hgs
    obtain ⟨l₁, l₂, e₁, e₂⟩ := supervising_set hi (.supervisor t p (.serving s) false)
    obtain ⟨hr, ho, hs, hl, -, -⟩ := SocketManager.get_socket_spec hgs
    rw [h0] at e₁
    refine hg.of_move e₁ e₂ (by simp [Task.sockPhase]) (by simpa using hl.trans hg.unlocked) ho
      (by simp [hr, Task.sockPhase, SupervisorPhase.sock]) (fun ⟨x, hx, hxp, hxs⟩ => ?_)
      (by simpa [Task.sockPhase, SupervisorPhase.sock] using hs)
    have := hg.refs_pos (x := x) (by rw [e₁]; simpa using hx)
    rw [hxp] at this
    obtain ⟨en, he⟩ : ∃ en, w.server.socket_manager.sockets p = some en := by
      cases h : w.server.socket_manager.sockets p
      · simp [SocketManager.refs, h] at this
      · exact ⟨_, rfl⟩
    simp [SocketManager.get_socket, he] at hgs
    obtain ⟨rfl, rfl⟩ := hgs
    simp [he]
  · have hn := SocketManager.get_socket_none ‹_›
    rw [show w.server.socket_manager.release_socket p w.now = w.server.socket_manager by
      simp [SocketManager.release_socket, hn]]
    exact hg.of_kept (.of_set hi rfl rfl (h0 ▸ rfl))

/-- A supervisor holding a socket runs `release_socket`: it ends, and its port loses a
reference. -/
theorem SockGood.of_release (hg : SockGood w) {i : Nat} {t : String} {p : Nat} {ph : SupervisorPhase}
    {c c' : Bool} (hi : w.tasks[i]? = some (.supervisor t p ph c)) (hs : ph.sock.isSome) :
    SockGood ((w.setTask i (.supervisor t p .done c')).setSm (w.server.socket_manager.release_socket p w.now)) := by
  obtain ⟨l₁, l₂, e₁, e₂⟩ := supervising_set hi (.supervisor t p .done c')
  rw [Task.sockPhase_of_sock hs] at e₁
  have hpos : 0 < w.server.socket_manager.refs p := hg.refs_pos (mem_supervising hi (Task.sockPhase_of_sock hs))
  have hrel := SocketManager.release_socket_refs w.server.socket_manager p w.now
  exact hg.of_move e₁ e₂ (by simp [Task.sockPhase]) (by simpa using hg.unlocked)
    (fun q hq => SocketManager.release_socket_other _ _ hq) (by simp [hrel.1, hs, Task.sockPhase]; omega)
    (fun _ => by simpa using hrel.2) (by simp [Task.sockPhase])

theorem releaseStep_unlocked {w : World} (h : w.server.socket_manager.locked = false) (i : Nat) (t : String)
    (p : Nat) (sock : Option Nat) : releaseStep w i t p sock =
      (w.setTask i (.supervisor t p .done true)).setSm (w.server.socket_manager.release_socket p w.now) := by
  simp [releaseStep, h]

/-- A cancelled supervisor takes the cancellation: never started, it ends; in its accept
loop, it cancels its handlers and waits for them, or releases at once. -/
theorem SockGood.of_cancel (hg : SockGood w) {i : Nat} {t : String} {p : Nat} {ph : SupervisorPhase}
    (hi : w.tasks[i]? = some (.supervisor t p ph true)) : SockGood (cancelStep w i t p ph) := by
  cases ph <;> simp only [cancelStep]
  case created => exact hg.of_kept (.of_set hi rfl rfl rfl)
  case getting => exact absurd (hg.holding _ (mem_supervising hi rfl)) (by simp [SupervisorPhase.sock])
  case serving s =>
    split
    · have hg' := hg.of_kept (cancelHandlers_sock_kept w i)
      have hi' : (cancelHandlers w i).tasks[i]? = some (.supervisor t p (.serving s) true) := by
        simp [cancelHandlers_get, hi, Task.liveHandlerOf]
      obtain ⟨l₁, l₂, e₁, e₂⟩ := supervising_set hi' (.supervisor t p (.draining s) true)
      exact hg'.of_move e₁ e₂ (by simp [Task.sockPhase]) hg'.unlocked (fun q (_ : q ≠ p) => rfl)
        (by simp [Task.sockPhase, SupervisorPhase.sock]) (fun _ => rfl)
        (fun x hx => ⟨s, by simp_all [Task.sockPhase, SupervisorPhase.sock],
          by simpa [Task.sockPhase] using hg'.listening (p, .serving s) (by rw [e₁]; simp [Task.sockPhase]) s rfl⟩)
    · rw [releaseStep_unlocked hg.unlocked]; exact hg.of_release hi rfl
  all_goals exact hg

/-- A cleanup task deletes only an entry without references, which nobody holds. -/
theorem SockGood.of_expire (hg : SockGood w) (k : Nat) : SockGood (w.setSm (w.server.socket_manager.expire k)) where
  unlocked := by simpa using hg.unlocked
  holding := hg.holding
  refs q := by
    rcases SocketManager.expire_spec w.server.socket_manager k q with h | ⟨h0, h⟩
    · simpa [SocketManager.refs, h] using hg.refs q
    · simpa [SocketManager.refs, h, h0] using (hg.refs q).symm.trans h0 |>.symm
  listening x hx s hs := by
    rcases SocketManager.expire_spec w.server.socket_manager k x.1 with h | ⟨h0, -⟩
    · simpa [h] using hg.listening x hx s hs
    · exact absurd h0 (Nat.ne_of_gt (hg.refs_pos hx))

theorem SockGood.step (hg : SockGood w) (hr : RecordedLive w) (h : Step w a w') (ha : a.shuts = false) :
    SockGood w' := by
  cases hs : a.sockets
  · exact hg.of_kept (h.sock_kept hs hr)
  cases h <;> try (first | (cases hs; done) | (cases ha; done))
  case get_socket hi hph => exact hg.of_get hi hph _
  case deliver_cancel hi => exact hg.of_cancel hi
  case drained hi _ => rw [releaseStep_unlocked hg.unlocked]; exact hg.of_release hi rfl
  case aborted hi _ => exact absurd (hg.holding _ (mem_supervising hi rfl)) (by simp [SupervisorPhase.sock])
  case release hi _ => exact hg.of_release hi (hg.holding _ (mem_supervising hi rfl))
  case expire => exact hg.of_expire _

theorem SockGood.run (hg : SockGood w) (hr : RecordedLive w) (r : Run (fun a => a.shuts = false) w w') :
    SockGood w' := by
  induction r with
  | refl => exact hg
  | step hs ha _ ih => exact ih (hg.step hr hs ha) (hr.step hs fun i e => by subst e; cases ha)

/-! ## What the supervisors see -/

/-- In every run from the start with no shutdown step (no `SocketManager.close` in any
`serve()` call, no `cancel()` of the loop's teardown): a port's `refs` is the
number of supervisors holding its socket, and every supervisor between its first step and its
end holds the open socket of its port, whose `refs` is positive, so its `release_socket`
never finds `refs` at 0. -/
theorem refs_count_holders (r : Run (fun a => a.shuts = false) (World.init c) w) :
    (∀ p, w.server.socket_manager.refs p = w.holders p) ∧
    ∀ (i : Nat) (t : String) (p : Nat) (ph : SupervisorPhase) (cancelled : Bool), w.tasks[i]? = some (.supervisor t p ph cancelled) → ph ≠ .created → ph ≠ .done →
      ∃ s, ph.sock = some s ∧ 0 < w.server.socket_manager.refs p ∧
        (w.server.socket_manager.sockets p).map SocketEntry.sock = some s := by
  have hg := (init_sock c).run (fun _ _ e => by cases e) r
  refine ⟨hg.refs, fun i t p ph cancelled hi h1 h2 => ?_⟩
  have hx : (p, ph) ∈ w.supervising := mem_supervising hi (by cases ph <;> simp_all [Task.sockPhase])
  obtain ⟨s, hs⟩ := Option.isSome_iff_exists.mp (hg.holding _ hx)
  exact ⟨s, hs, hg.refs_pos hx, hg.listening _ hx s hs⟩

/-- The port of a removed token goes to a new token while the old supervisor waits for its
handler: both hold the one socket of the port, which has two references. -/
theorem refs_count_holders_shared_port :
    ∃ w, runs (World.init ⟨[1080], false, 30⟩)
        [.add_reverse_token (some "a") "" none none none 0, .serve, .get_socket 0 true, .accept 0,
          .remove_token "a", .deliver_cancel 0, .add_reverse_token (some "b") "" none none none 0,
          .pending 2, .get_socket 3 true] = some w ∧
      (∀ p, w.server.socket_manager.refs p = w.holders p) ∧
      ∀ (i : Nat) (t : String) (p : Nat) (ph : SupervisorPhase) (cancelled : Bool), w.tasks[i]? = some (.supervisor t p ph cancelled) → ph ≠ .created → ph ≠ .done →
        ∃ s, ph.sock = some s ∧ 0 < w.server.socket_manager.refs p ∧
          (w.server.socket_manager.sockets p).map SocketEntry.sock = some s := by
  have hw : runs (World.init ⟨[1080], false, 30⟩)
      [.add_reverse_token (some "a") "" none none none 0, .serve, .get_socket 0 true, .accept 0,
        .remove_token "a", .deliver_cancel 0, .add_reverse_token (some "b") "" none none none 0,
        .pending 2, .get_socket 3 true] = some _ := rfl
  exact ⟨_, hw, refs_count_holders (runs_run (by decide) hw)⟩

/-! ## After the manager is closed -/

/-- `serve()` is cancelled while a supervisor is in its accept loop: its `finally` closes every
socket of the manager, the supervisor's among them, and nothing cancels the supervisor, which
stays in its accept loop on the closed socket. -/
theorem close_strands_supervisor :
    (runs (World.init ⟨[1080], true, 30⟩)
        [.add_reverse_token (some "t") "" none none none 0, .serve, .connect,
          .auth 0 (some (Frame.authMessage "t" true)), .get_socket 1 true, .cancel_serve 0, .close 0]).map
      (fun w => (w.tasks[1]?, w.server.socket_manager.sockets 1080, w.serves)) =
      some (some (.supervisor "t" 1080 (.serving 0) false), none, [.stopped]) := by
  decide

end pywssocks.server.sockets
