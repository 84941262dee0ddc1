-- The admin calls of `WSSocksServer`: `add_reverse_token`, `add_forward_token` and
-- `remove_token`. None of them awaits, so each runs whole between two steps of the
-- loop; `remove_token` cancels a supervisor and schedules closes, as tasks.
import Pywssocks.Server

namespace pywssocks.server

/-- The token an add call uses: the one passed in, or the 16 characters `random.choice`
drew (`drawn`). -/
def tokenOf (token : Option String) (drawn : String) : String := token.getD drawn

/-- Where a supervisor stands once `cancel()` reaches it. In its `finally` (waiting for its
handlers or for the lock of `release_socket`) it takes the cancellation at that await;
elsewhere the cancellation waits for its next await. -/
def SupervisorPhase.cancel : SupervisorPhase → SupervisorPhase
  | .draining _ | .releasing _ => .aborting
  | ph => ph

@[simp] theorem SupervisorPhase.cancel_cancel (ph : SupervisorPhase) : ph.cancel.cancel = ph.cancel := by
  cases ph <;> rfl

/-- `task.cancel()`: the task is marked cancelled and sees it at its next step. A task that
never started never runs; a supervisor in its `finally` is cancelled a second time. -/
def Task.cancel : Task → Task
  | .supervisor t p ph _ => .supervisor t p ph.cancel true
  | .handler t s ph _ => .handler t s ph true
  | .pending t ran _ => .pending t ran true
  | t => t

def World.cancel (w : World) (i : Nat) : World :=
  match w.tasks[i]? with
  | some t => w.setTask i t.cancel
  | none => w

@[simp] theorem Task.cancel_role (t : Task) : t.cancel.role = t.role := by cases t <;> rfl

@[simp] theorem Task.cancel_phase (t : Task) : t.cancel.phase = t.phase := by cases t <;> rfl

theorem cancel_quiet (w : World) (i : Nat) : Quiet w (w.cancel i) := by
  unfold World.cancel; split
  · exact quiet_setTask ‹_› rfl rfl (Task.cancel_role _) (Task.cancel_phase _)
  · exact .refl w

/-! ## Adding tokens -/

/-- `if username is not None and password is not None: self._socks_auth[token] = ...`. -/
def setAuth (auth : String → Option (String × String)) (token : String) :
    Option String → Option String → String → Option (String × String)
  | some u, some pw => Function.update auth token (some (u, pw))
  | _, _ => auth

theorem setAuth_isSome {auth : String → Option (String × String)} {t t' : String} {u pw : Option String}
    (h : (setAuth auth t u pw t').isSome) : t' = t ∨ (auth t').isSome := by
  unfold setAuth at h
  split at h
  · rcases eq_or_ne t' t with e | e
    · exact .inl e
    · simp [Function.update_noteq e] at h; exact .inr (by simp [h])
  · exact .inr h

/-- The token's entries `add_reverse_token` records once the pool handed out port `p`. -/
def reverseEntries (s : WSSocksServer) (token : String) (p : Nat) (username password : Option String) :
    WSSocksServer :=
  { s with
    tokens := Function.update s.tokens token (some p)
    token_locks := Function.update s.token_locks token true
    socks_auth := setAuth s.socks_auth token username password }

/-- The part of `add_reverse_token` after the pool handed out port `p`: record the token,
then either start `_handle_pending_token` or queue the token for `serve()`. -/
def registerReverse (w : World) (token : String) (p : Nat) (username password : Option String) : World :=
  if w.server.loop then
    { w with server := reverseEntries w.server token p username password }.spawn (.pending token false false)
  else
    { w with server := { reverseEntries w.server token p username password with
      pending_tokens := w.server.pending_tokens ++ [token] } }

/-- `add_reverse_token(token, port, username, password)`; `pick` is the pool's choice when
no port is asked for. `port = 0` is falsy, so `if port:` turns it down. -/
def add_reverse_token (w : World) (token : Option String) (drawn : String) (port : Option Nat)
    (username password : Option String) (pick : Nat) : Option (String × Nat) × World :=
  let token := tokenOf token drawn
  match w.server.tokens token with
  | some p => (some (token, p), w)
  | none =>
    let r := w.server.socks_port_pool.get port pick
    let w := { w with server := { w.server with socks_port_pool := r.2 } }
    match r.1 with
    | some p => if p ≠ 0 then (some (token, p), registerReverse w token p username password) else (none, w)
    | none => (none, w)

/-- `add_forward_token(token)`. -/
def add_forward_token (w : World) (token : Option String) (drawn : String) : String × World :=
  let token := tokenOf token drawn
  (token, { w with server := { w.server with
    forward_tokens := Function.update w.server.forward_tokens token true } })

/-! ## Removing a token -/

/-- `del self._clients[client_id]` for each client of the list. -/
def eraseIds (m : Nat → Option Nat) (cs : List (Nat × Nat)) : Nat → Option Nat :=
  cs.foldl (fun m c => Function.update m c.1 none) m

/-- The reverse branch of `remove_token`, for a token on `port`: close and evict the token's
clients, drop the token's entries, cancel the port's supervisor, give the port back. -/
def removeReverse (w : World) (token : String) (port : Nat) : World :=
  let s := w.server
  let cs := (s.token_clients token).getD []
  { w with
    server := { s with
      clients := eraseIds s.clients cs
      token_clients := Function.update s.token_clients token none
      tokens := Function.update s.tokens token none
      token_locks := Function.update s.token_locks token false
      token_indexes := Function.update s.token_indexes token none
      socks_auth := Function.update s.socks_auth token none
      pending_tokens := s.pending_tokens.erase token
      socks_tasks := Function.update s.socks_tasks port none
      socks_port_pool := s.socks_port_pool.put port }
    tasks := match s.socks_tasks port with
      | some i => (w.cancel i).tasks
      | none => w.tasks
    closes := if s.loop then w.closes ++ cs.map (fun c => (c.2, 1000, "Token removed")) else w.closes }

/-- The forward branch of `remove_token`: every item of `_forward_clients` is collected,
closed and deleted, whatever token its session used, and the token leaves the set. -/
def removeForward (w : World) (token : String) : World :=
  let s := w.server
  { w with
    server := { s with
      forward_clients := []
      forward_tokens := Function.update s.forward_tokens token false }
    closes := if s.loop then w.closes ++ s.forward_clients.map (fun c => (c.2, 1000, "Token removed"))
      else w.closes }

/-- `remove_token(token)`. -/
def remove_token (w : World) (token : String) : Bool × World :=
  if w.server.tokens token = none ∧ w.server.forward_tokens token = false then (false, w)
  else
    match w.server.tokens token with
    | some port => (true, removeReverse w token port)
    | none => if w.server.forward_tokens token then (true, removeForward w token) else (false, w)

/-! ## What each call changes -/

/-- `remove_token` finds nothing, takes the reverse branch, or takes the forward one. -/
theorem remove_token_cases (w : World) (t : String) :
    remove_token w t = (false, w) ∨
    (∃ p, w.server.tokens t = some p ∧ remove_token w t = (true, removeReverse w t p)) ∨
    (w.server.tokens t = none ∧ w.server.forward_tokens t = true ∧ remove_token w t = (true, removeForward w t)) := by
  unfold remove_token
  split
  · exact .inl rfl
  · split
    · exact .inr (.inl ⟨_, ‹_›, rfl⟩)
    · split
      · exact .inr (.inr ⟨‹_›, ‹_›, rfl⟩)
      · exact .inl rfl

/-- `add_reverse_token` returns the existing port, fails after the pool's `get`, or registers
the token on a nonzero port the pool handed out. -/
theorem add_reverse_token_cases (w : World) (token : Option String) (drawn : String) (port : Option Nat)
    (u pw : Option String) (pick : Nat) :
    (add_reverse_token w token drawn port u pw pick).2 = w ∨
    (∃ pool, (add_reverse_token w token drawn port u pw pick).2 =
      { w with server := { w.server with socks_port_pool := pool } }) ∨
    (∃ p pool, w.server.tokens (tokenOf token drawn) = none ∧ p ≠ 0 ∧
      (add_reverse_token w token drawn port u pw pick).2 =
        registerReverse { w with server := { w.server with socks_port_pool := pool } } (tokenOf token drawn) p u pw) := by
  unfold add_reverse_token; dsimp only; split
  · exact .inl rfl
  · split
    · split
      · exact .inr (.inr ⟨_, _, ‹_›, ‹_›, rfl⟩)
      · exact .inr (.inl ⟨_, rfl⟩)
    · exact .inr (.inl ⟨_, rfl⟩)

theorem registerReverse_server (w : World) (t : String) (p : Nat) (u pw : Option String) :
    (registerReverse w t p u pw).server = { reverseEntries w.server t p u pw with
      pending_tokens := if w.server.loop then w.server.pending_tokens else w.server.pending_tokens ++ [t] } := by
  unfold registerReverse; split <;> simp_all [reverseEntries]

@[simp] theorem eraseIds_apply (m : Nat → Option Nat) (cs : List (Nat × Nat)) (c : Nat) :
    eraseIds m cs c = if c ∈ cs.map Prod.fst then none else m c := by
  induction cs generalizing m with
  | nil => simp [eraseIds]
  | cons d cs ih =>
    simp only [eraseIds, List.foldl_cons] at ih ⊢
    rw [ih]
    by_cases h : c = d.1
    · subst h; simp
    · simp only [Function.update_apply, h, if_false, List.map_cons, List.mem_cons, false_or]

@[simp] theorem cancel_server (w : World) (i : Nat) : (w.cancel i).server = w.server := by
  unfold World.cancel; split <;> rfl

@[simp] theorem cancel_length (w : World) (i : Nat) : (w.cancel i).tasks.length = w.tasks.length := by
  unfold World.cancel; split <;> simp

theorem cancel_get (w : World) (i j : Nat) :
    (w.cancel i).tasks[j]? = if j = i then (w.tasks[j]?).map Task.cancel else w.tasks[j]? := by
  unfold World.cancel
  split
  · rename_i t ht
    simp only [setTask_tasks, List.getElem?_set]
    by_cases hj : j = i
    · subst hj; simp [ht, List.getElem?_eq_some_iff.mp ht |>.1]
    · simp [hj, Ne.symm hj]
  · rename_i ht
    by_cases hj : j = i
    · subst hj; simp [ht]
    · simp [hj]

theorem removeReverse_quiet (w : World) (t : String) (p : Nat) : Quiet w (removeReverse w t p) := by
  unfold removeReverse; dsimp only; split
  · rename_i i _
    exact (cancel_quiet w i).trans (.of_tasks rfl (cancel_quiet w i).uuids.symm)
  · exact .of_tasks rfl rfl

theorem remove_token_quiet (w : World) (t : String) : Quiet w (remove_token w t).2 := by
  unfold remove_token; split
  · exact .refl w
  · split
    · exact removeReverse_quiet ..
    · split
      · exact .of_tasks rfl rfl
      · exact .refl w

theorem registerReverse_quiet (w : World) (t : String) (p : Nat) (u pw : Option String) :
    Quiet w (registerReverse w t p u pw) := by
  unfold registerReverse; split
  · exact (Quiet.of_tasks (by rfl) (by rfl)).trans (quiet_spawn _ (.pending t false false) rfl)
  · exact .of_tasks rfl rfl

theorem add_reverse_token_quiet (w : World) (token : Option String) (drawn : String) (port : Option Nat)
    (u pw : Option String) (pick : Nat) : Quiet w (add_reverse_token w token drawn port u pw pick).2 := by
  unfold add_reverse_token; dsimp only; split
  · exact .refl w
  · split
    · split
      · exact (Quiet.of_tasks (by rfl) (by rfl)).trans (registerReverse_quiet ..)
      · exact .of_tasks rfl rfl
    · exact .of_tasks rfl rfl

@[simp] theorem removeReverse_tokens (w : World) (t : String) (p : Nat) :
    (removeReverse w t p).server.tokens = Function.update w.server.tokens t none := rfl

@[simp] theorem removeReverse_pool (w : World) (t : String) (p : Nat) :
    (removeReverse w t p).server.socks_port_pool = w.server.socks_port_pool.put p := rfl

@[simp] theorem removeForward_tokens (w : World) (t : String) :
    (removeForward w t).server.tokens = w.server.tokens := rfl

@[simp] theorem removeForward_pool (w : World) (t : String) :
    (removeForward w t).server.socks_port_pool = w.server.socks_port_pool := rfl

@[simp] theorem registerReverse_tokens (w : World) (t : String) (p : Nat) (u pw : Option String) :
    (registerReverse w t p u pw).server.tokens = Function.update w.server.tokens t (some p) := by
  unfold registerReverse; split <;> rfl

@[simp] theorem registerReverse_pool (w : World) (t : String) (p : Nat) (u pw : Option String) :
    (registerReverse w t p u pw).server.socks_port_pool = w.server.socks_port_pool := by
  unfold registerReverse; split <;> rfl

@[simp] theorem registerReverse_uuids (w : World) (t : String) (p : Nat) (u pw : Option String) :
    (registerReverse w t p u pw).uuids = w.uuids := by
  unfold registerReverse; split <;> rfl

@[simp] theorem registerReverse_serves (w : World) (t : String) (p : Nat) (u pw : Option String) :
    (registerReverse w t p u pw).serves = w.serves := by
  unfold registerReverse; split <;> rfl

@[simp] theorem registerReverse_now (w : World) (t : String) (p : Nat) (u pw : Option String) :
    (registerReverse w t p u pw).now = w.now := by
  unfold registerReverse; split <;> rfl

@[simp] theorem registerReverse_puts (w : World) (t : String) (p : Nat) (u pw : Option String) :
    (registerReverse w t p u pw).puts = w.puts := by
  unfold registerReverse; split <;> rfl

@[simp] theorem registerReverse_closes (w : World) (t : String) (p : Nat) (u pw : Option String) :
    (registerReverse w t p u pw).closes = w.closes := by
  unfold registerReverse; split <;> rfl

end pywssocks.server
