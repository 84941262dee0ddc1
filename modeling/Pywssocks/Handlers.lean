-- The supervision of the SOCKS handlers, `_run_socks_server` over the
-- `_handle_socks_request` tasks it spawns: a handler runs only while its supervisor is
-- in the accept loop or gathers its handlers, so the port is released only once they
-- are done; and a handler relays only over a websocket that authenticated as a reverse
-- client of the handler's token.
import Pywssocks.Registry
import Pywssocks.Sockets

namespace pywssocks.server

/-! ## What a step keeps of the supervisors, handlers and pending tokens -/

/-- A supervisor without the flag `cancel()` sets, a handler, or a `_handle_pending_token`
task: what the laws of the tasks the server spawns read of a task. -/
def Task.tree : Task → Option Task
  | .supervisor t p ph _ => some (.supervisor t p ph false)
  | .handler t s ph c => some (.handler t s ph c)
  | .pending t ran _ => some (.pending t ran false)
  | .session _ => none

/-- The supervisor, handler or pending task at task `i`, if there is one. -/
def World.tree (w : World) (i : Nat) : Option Task := w.tasks[i]?.bind Task.tree

/-- In the accept loop, or in the `finally` gathering its handlers (cancelled once, or
again): the phases of a supervisor in which `socks_handler_tasks` may hold a running
handler. -/
def SupervisorPhase.tracking : SupervisorPhase → Bool
  | .serving _ | .draining _ | .aborting => true
  | _ => false

theorem SupervisorPhase.tracking_cancel {ph : SupervisorPhase} (h : ph.tracking = true) : ph.cancel.tracking = true := by
  cases ph <;> simp_all [SupervisorPhase.tracking, SupervisorPhase.cancel]

theorem SupervisorPhase.cancel_ne_draining (ph : SupervisorPhase) (sock : Nat) : ph.cancel ≠ .draining sock := by
  cases ph <;> simp [SupervisorPhase.cancel]

theorem Task.cancel_eq_handler {x : Task} {t : String} {s : Nat} {ph : HandlerPhase} {c : Bool} :
    x.cancel = .handler t s ph c ↔ ∃ c₀, x = .handler t s ph c₀ ∧ c = true := by
  cases x <;> simp [Task.cancel, eq_comm, and_assoc]

theorem World.tree_handler {w : World} {i : Nat} {t : String} {s : Nat} {ph : HandlerPhase} {c : Bool} :
    w.tree i = some (.handler t s ph c) ↔ w.tasks[i]? = some (.handler t s ph c) := by
  unfold World.tree
  cases w.tasks[i]? with
  | none => simp
  | some x => cases x <;> simp [Task.tree]

theorem World.tree_supervisor {w : World} {i : Nat} {t : String} {p : Nat} {ph : SupervisorPhase} :
    w.tree i = some (.supervisor t p ph false) ↔ ∃ c, w.tasks[i]? = some (.supervisor t p ph c) := by
  unfold World.tree
  cases w.tasks[i]? with
  | none => simp
  | some x => cases x <;> simp [Task.tree]

theorem World.tree_pending {w : World} {i : Nat} {t : String} {r : Bool} :
    w.tree i = some (.pending t r false) ↔ ∃ c, w.tasks[i]? = some (.pending t r c) := by
  unfold World.tree
  cases w.tasks[i]? with
  | none => simp
  | some x => cases x <;> simp [Task.tree]

/-- A spawned task is the last one; the others stay where they were. -/
theorem spawn_get_cases {w : World} {t x : Task} {j : Nat} (e : (w.spawn t).tasks[j]? = some x) :
    w.tasks[j]? = some x ∨ x = t := by
  rcases Nat.lt_or_ge j w.tasks.length with hj | hj
  · exact .inl (by rwa [spawn_tasks, List.getElem?_append_left hj] at e)
  · rw [spawn_tasks, List.getElem?_append_right hj] at e
    cases hk : j - w.tasks.length <;> simp_all

theorem spawn_get {w : World} (t : Task) {x : Task} {j : Nat} (e : w.tasks[j]? = some x) :
    (w.spawn t).tasks[j]? = some x := by
  rw [spawn_tasks, List.getElem?_append_left (List.getElem?_eq_some_iff.mp e).1, e]

/-- A task of `w.setTask i x` is `x`, at `i`, or the task of `w` at another place. -/
theorem setTask_get_cases {w : World} {i j : Nat} {x y : Task} (e : (w.setTask i x).tasks[j]? = some y) :
    (j = i ∧ x = y) ∨ (j ≠ i ∧ w.tasks[j]? = some y) := by
  rw [setTask_tasks, List.getElem?_set] at e
  split at e
  · rename_i h; subst h
    split at e
    · exact .inl ⟨rfl, Option.some.inj e⟩
    · cases e
  · exact .inr ⟨Ne.symm ‹_›, e⟩

/-- `w'` has the supervisors and the handlers of `w` where they stood, each at its phase
(`cancel()` may have marked them, a cancelled handler stays so, and a supervisor in its
`finally` may have been cancelled again), no handler that `w` did not have, and the pending
tasks of `w` that have not run, still not run. -/
structure TreeKept (w w' : World) : Prop where
  handlers : ∀ {i : Nat} {t : String} {s : Nat} {ph : HandlerPhase} {c : Bool},
    w'.tasks[i]? = some (.handler t s ph c) → ∃ c', w.tasks[i]? = some (.handler t s ph c') ∧ (c' = true → c = true)
  supervisors : ∀ {i : Nat} {t : String} {p : Nat} {ph : SupervisorPhase} {c : Bool},
    w.tasks[i]? = some (.supervisor t p ph c) →
    ∃ ph' c', w'.tasks[i]? = some (.supervisor t p ph' c') ∧ (ph' = ph ∨ ph' = ph.cancel)
  pending : ∀ {i : Nat} {t : String} {c : Bool}, w.tasks[i]? = some (.pending t false c) →
    ∃ c', w'.tasks[i]? = some (.pending t false c')

theorem TreeKept.refl (w : World) : TreeKept w w := ⟨fun e => ⟨_, e, id⟩, fun e => ⟨_, _, e, .inl rfl⟩, fun e => ⟨_, e⟩⟩

theorem TreeKept.trans {w w' w'' : World} (h : TreeKept w w') (h' : TreeKept w' w'') : TreeKept w w'' where
  handlers e := let ⟨_, e', m'⟩ := h'.handlers e; let ⟨c, e, m⟩ := h.handlers e'; ⟨c, e, m' ∘ m⟩
  supervisors e := by
    obtain ⟨ph', c', e', h₁⟩ := h.supervisors e
    obtain ⟨ph'', c'', e'', h₂⟩ := h'.supervisors e'
    refine ⟨ph'', c'', e'', ?_⟩
    rcases h₁ with rfl | rfl <;> rcases h₂ with rfl | rfl <;> simp
  pending e := let ⟨_, e'⟩ := h.pending e; h'.pending e'

/-- Every task keeps its supervisor, handler or pending part. -/
theorem TreeKept.of_trees {w w' : World} (h : ∀ i, w'.tree i = w.tree i) : TreeKept w w' :=
  ⟨fun e => ⟨_, World.tree_handler.mp ((h _).symm.trans (World.tree_handler.mpr e)), id⟩,
    fun e => let ⟨c', e'⟩ := World.tree_supervisor.mp ((h _).trans (World.tree_supervisor.mpr ⟨_, e⟩)); ⟨_, c', e', .inl rfl⟩,
    fun e => World.tree_pending.mp ((h _).trans (World.tree_pending.mpr ⟨_, e⟩))⟩

/-- Each task stays, or is cancelled. -/
theorem TreeKept.of_cancels {w w' : World} (h : ∀ j : Nat, w'.tasks[j]? = w.tasks[j]? ∨ w'.tasks[j]? = w.tasks[j]?.map Task.cancel) :
    TreeKept w w' where
  handlers {j _ _ _ _} e := by
    rcases h j with h | h <;> rw [h] at e
    · exact ⟨_, e, id⟩
    · obtain ⟨x, ex, hx⟩ := Option.map_eq_some'.mp e
      obtain ⟨c₀, rfl, rfl⟩ := Task.cancel_eq_handler.mp hx
      exact ⟨c₀, ex, fun _ => rfl⟩
  supervisors {j _ _ _ _} e := by
    rcases h j with h | h
    · exact ⟨_, _, h.trans e, .inl rfl⟩
    · exact ⟨_, true, by rw [h, e]; rfl, .inr rfl⟩
  pending {j _ _} e := by
    rcases h j with h | h
    · exact ⟨_, h.trans e⟩
    · exact ⟨true, by rw [h, e]; rfl⟩

theorem TreeKept.of_tasks {w w' : World} (h : w'.tasks = w.tasks) : TreeKept w w' :=
  .of_trees fun i => by simp only [World.tree, h]

theorem TreeKept.of_set {w w' : World} {i : Nat} {t₀ t : Task} (hi : w.tasks[i]? = some t₀)
    (h : w'.tasks = w.tasks.set i t) (ht : t.tree = t₀.tree) : TreeKept w w' := .of_trees fun j => by
  rcases eq_or_ne i j with rfl | hj
  · simp [World.tree, h, hi, ht, (List.getElem?_eq_some_iff.mp hi).1]
  · simp [World.tree, h, List.getElem?_set_ne hj]

theorem TreeKept.of_spawn {w w' : World} {t : Task} (h : w'.tasks = w.tasks ++ [t])
    (ht : ∀ a s ph c, t ≠ .handler a s ph c) : TreeKept w w' where
  handlers e := by
    rw [show w'.tasks = (w.spawn t).tasks from h] at e
    rcases spawn_get_cases e with e | e
    · exact ⟨_, e, id⟩
    · exact (ht _ _ _ _ e.symm).elim
  supervisors {_ _ _ _ c} e := ⟨_, c, by rw [h]; exact spawn_get t e, .inl rfl⟩
  pending {_ _ c} e := ⟨c, by rw [h]; exact spawn_get t e⟩

theorem cancel_tree_kept (w : World) (i : Nat) : TreeKept w (w.cancel i) :=
  .of_cancels fun j => by rw [cancel_get]; split; exacts [.inr rfl, .inl rfl]

theorem cancelHandlers_tree_kept (w : World) (i : Nat) : TreeKept w (cancelHandlers w i) :=
  .of_cancels fun j => by
    rw [cancelHandlers_get]
    cases w.tasks[j]? with
    | none => exact .inl rfl
    | some t => by_cases h : t.liveHandlerOf i <;> simp [h]

theorem registerReverse_tree_kept (w : World) (t : String) (p : Nat) (u pw : Option String) :
    TreeKept w (registerReverse w t p u pw) := by
  unfold registerReverse; split
  · exact .of_spawn rfl nofun
  · exact .of_tasks rfl

theorem add_reverse_token_tree_kept (w : World) (token : Option String) (d : String) (port : Option Nat)
    (u pw : Option String) (k : Nat) : TreeKept w (add_reverse_token w token d port u pw k).2 := by
  rcases add_reverse_token_cases w token d port u pw k with e | ⟨_, e⟩ | ⟨_, _, -, -, e⟩ <;> rw [e]
  · exact .refl w
  · exact .of_tasks rfl
  · exact (TreeKept.of_tasks (by rfl)).trans (registerReverse_tree_kept ..)

theorem remove_token_tree_kept (w : World) (t : String) : TreeKept w (remove_token w t).2 := by
  rcases remove_token_cases w t with e | ⟨p, -, e⟩ | ⟨-, -, e⟩ <;> rw [e]
  · exact .refl w
  · unfold removeReverse; dsimp only; split
    · exact (cancel_tree_kept w _).trans (.of_tasks rfl)
    · exact .of_tasks rfl
  · exact .of_tasks rfl

theorem ensureSupervisor_tree_kept (w : World) (t : String) (p : Nat) : TreeKept w (ensureSupervisor w t p) := by
  unfold ensureSupervisor; split
  · exact .of_spawn rfl nofun
  · exact .refl w

theorem _handle_pending_token_tree_kept {w w' : World} {t : String} (h : _handle_pending_token w t = some w') :
    TreeKept w w' := by
  unfold _handle_pending_token at h
  split at h
  · cases h; exact .refl w
  split at h
  · cases h
  split at h
  · split at h <;> cases h
    · exact .of_spawn rfl nofun
    · exact .refl w
  · cases h; exact .refl w

theorem servePending_tree_kept (w : World) (ts : List String) : TreeKept w (servePending w ts).1 := by
  induction ts generalizing w with
  | nil => exact .refl _
  | cons t ts ih =>
    simp only [servePending]
    split
    · exact (_handle_pending_token_tree_kept ‹_›).trans (ih _)
    · exact .refl _

theorem serveStart_tree_kept (w : World) : TreeKept w (serveStart w) := by
  have h : TreeKept w (servePending { w with server := { w.server with loop := true } } w.server.pending_tokens).1 :=
    (TreeKept.of_tasks (by rfl)).trans (servePending_tree_kept _ _)
  unfold serveStart; dsimp only; split
  · exact h.trans (.of_tasks rfl)
  · exact h.trans (.of_tasks rfl)

theorem _handle_websocket_tree_kept {w : World} {ws : Nat} (hi : w.tasks[ws]? = some (.session .auth))
    (f : Option Frame) : TreeKept w (_handle_websocket w ws f) := by
  rcases _handle_websocket_cases w ws f with ⟨t, p, -, -, e⟩ | ⟨t, -, e⟩ | ⟨u, -, e⟩ <;> rw [e]
  · have hq := ensureSupervisor_tree_kept
      { w with server := appendClient w.server t (w.uuids, ws), uuids := w.uuids + 1 } t p
    have hi' := (ensureSupervisor_get { w with server := appendClient w.server t (w.uuids, ws), uuids := w.uuids + 1 }
      t p (List.getElem?_eq_some_iff.mp hi).1).trans hi
    exact ((TreeKept.of_tasks (by rfl)).trans hq).trans (.of_set hi' rfl rfl)
  · exact .of_set hi rfl rfl
  · exact .of_set hi rfl rfl

/-- The steps of a supervisor, a handler or a pending task, but the flag `cancel()` sets. -/
def Action.moves : Action → Bool
  | .get_socket .. | .accept _ | .deliver_cancel _ | .drained _ | .release _ | .handler _ | .handler_exit _
  | .pending _ => true
  | _ => false

/-- Every other step keeps the supervisors, the handlers and the pending tasks. -/
theorem Step.tree_kept {w w' : World} {a : Action} (h : Step w a w') (ha : a.moves = false) : TreeKept w w' := by
  cases h <;> try (cases ha; done)
  case add_reverse_token => exact add_reverse_token_tree_kept ..
  case remove_token => exact remove_token_tree_kept ..
  case serve => exact serveStart_tree_kept w
  case connect => exact .of_spawn rfl nofun
  case auth hi => exact _handle_websocket_tree_kept hi _
  case send_ok hi => exact .of_set hi rfl rfl
  case frame ws l f hi =>
    obtain ⟨-, -, e | e⟩ := _message_dispatcher_cases w ws l f
    · exact .of_tasks e
    · rw [e]; exact .of_set hi rfl rfl
  case hangup_auth hi => exact .of_set hi rfl rfl
  case hangup_sending hi => exact .of_set hi rfl rfl
  case hangup_serving hi => exact .of_set hi rfl rfl
  case finish hi => exact .of_set hi rfl rfl
  case cancel => exact cancel_tree_kept ..
  all_goals exact .of_tasks rfl

/-! ## The steps that move a supervisor -/

/-- `get_socket` leaves the supervisor waiting, serving, or ended. -/
theorem getStep_tasks (w : World) (i : Nat) (t : String) (p : Nat) (b : Bool) :
    ∃ ph, (getStep w i t p b).tasks = (w.setTask i (.supervisor t p ph false)).tasks ∧
      ∀ sock, ph ≠ .draining sock := by
  unfold getStep; split
  · exact ⟨_, rfl, nofun⟩
  · split <;> exact ⟨_, rfl, nofun⟩

theorem releaseStep_tasks (w : World) (i : Nat) (t : String) (p : Nat) (sock : Option Nat) :
    ∃ ph, (releaseStep w i t p sock).tasks = (w.setTask i (.supervisor t p ph true)).tasks ∧ ph.tracking = false := by
  unfold releaseStep; split <;> exact ⟨_, rfl, rfl⟩

/-- A handler whose `_get_next_websocket` returned a websocket chose a client of its token. -/
theorem selectStep_tasks (w : World) (i : Nat) (t : String) (s : Nat) :
    ∃ ph, (selectStep w i t s).tasks = (w.setTask i (.handler t s ph false)).tasks ∧
      ∀ ws, ph = .relaying ws → ∃ cs cid, w.server.token_clients t = some cs ∧ (cid, ws) ∈ cs := by
  unfold selectStep; split
  · rename_i ws s' hs
    refine ⟨_, rfl, fun ws' e => ?_⟩
    cases e
    unfold _get_next_websocket at hs
    split at hs
    · cases hs
    · split at hs
      · cases hs
      · cases hs
      · rename_i c0 cs hc
        cases hs
        cases e : (c0 :: cs)[((w.server.token_indexes t).getD 0 + 1) % (c0 :: cs).length]? with
        | none => exact ⟨_, c0.1, hc, by simp [e]⟩
        | some x => exact ⟨_, x.1, hc, by simpa [e] using List.getElem?_mem e⟩
  · exact ⟨_, rfl, nofun⟩
  · exact ⟨_, rfl, nofun⟩

end pywssocks.server

namespace pywssocks.server.handlers

open registry clients

variable {c : Config} {w w' : World} {a : Action}

/-- No handler of supervisor `s` runs. -/
def Drained (w : World) (s : Nat) : Prop :=
  ∀ (j : Nat) (t : String) (ph : HandlerPhase) (c : Bool), w.tasks[j]? = some (.handler t s ph c) → ph = .done

/-- Every handler that has not finished runs under its supervisor, which serves the
handler's token and is in its accept loop or gathers its handlers, and has been cancelled
if its supervisor gathers; and a relaying handler relays over the websocket of a session
that authenticated as a reverse client of the handler's token. -/
structure HandlersGood (w : World) : Prop where
  supervised : ∀ (i : Nat) (t : String) (s : Nat) (ph : HandlerPhase) (c : Bool),
    w.tasks[i]? = some (.handler t s ph c) → ph ≠ .done →
    ∃ (p : Nat) (sph : SupervisorPhase) (c' : Bool), w.tasks[s]? = some (.supervisor t p sph c') ∧ sph.tracking = true
  cancelled : ∀ (i : Nat) (t : String) (s : Nat) (ph : HandlerPhase) (c : Bool),
    w.tasks[i]? = some (.handler t s ph c) → ph ≠ .done →
    ∀ (t' : String) (p sock : Nat) (c' : Bool), w.tasks[s]? = some (.supervisor t' p (.draining sock) c') → c = true
  relay : ∀ (i : Nat) (t : String) (s ws : Nat) (c : Bool), w.tasks[i]? = some (.handler t s (.relaying ws) c) →
    ∃ cid, w.login ws = some ⟨cid, t, true⟩

theorem init_handlers (c : Config) : HandlersGood (World.init c) :=
  ⟨by simp [World.init], by simp [World.init], by simp [World.init]⟩

/-- The invariant reads the tasks only. -/
theorem HandlersGood.of_tasks (hg : HandlersGood w) (h : w'.tasks = w.tasks) : HandlersGood w' := by
  have hl : w'.login = w.login := by funext ws; simp only [World.login, World.session, h]
  exact ⟨by simpa only [h] using hg.supervised, by simpa only [h] using hg.cancelled,
    by simpa only [h, hl] using hg.relay⟩

theorem HandlersGood.of_tree_kept (hg : HandlersGood w) (hk : TreeKept w w')
    (hl : ∀ ws l, w.login ws = some l → w'.login ws = some l) : HandlersGood w' := by
  refine ⟨fun i t s ph c e hne => ?_, fun i t s ph c e hne t' p sock c' es => ?_, fun i t s ws c e => ?_⟩
  · obtain ⟨c₁, e₁, -⟩ := hk.handlers e
    obtain ⟨p, sph, c', e', ht⟩ := hg.supervised i t s ph c₁ e₁ hne
    obtain ⟨ph'', c'', e'', h''⟩ := hk.supervisors e'
    refine ⟨p, ph'', c'', e'', ?_⟩
    rcases h'' with rfl | rfl
    · exact ht
    · exact SupervisorPhase.tracking_cancel ht
  · obtain ⟨c₁, e₁, m⟩ := hk.handlers e
    obtain ⟨p₁, sph, c₂, e₂, -⟩ := hg.supervised i t s ph c₁ e₁ hne
    obtain ⟨ph₃, c₃, e₃, h₃⟩ := hk.supervisors e₂
    rw [es] at e₃
    obtain ⟨-, -, rfl, -⟩ := Task.supervisor.inj (Option.some.inj e₃)
    rcases h₃ with rfl | h₃
    · exact m (hg.cancelled i t s ph c₁ e₁ hne t p₁ sock c₂ e₂)
    · exact absurd h₃.symm (SupervisorPhase.cancel_ne_draining _ _)
  · obtain ⟨c₁, e₁, -⟩ := hk.handlers e
    obtain ⟨cid, hc⟩ := hg.relay i t s ws c₁ e₁
    exact ⟨cid, hl _ _ hc⟩

/-- A supervisor that tracks no handler has none running. -/
theorem HandlersGood.drained (hg : HandlersGood w) {s : Nat} {t : String} {p : Nat} {ph : SupervisorPhase}
    {c : Bool} (hs : w.tasks[s]? = some (.supervisor t p ph c)) (hph : ph.tracking = false) : Drained w s := by
  intro j t' ph' c' e
  by_contra hne
  obtain ⟨p', sph, c'', e', ht⟩ := hg.supervised j t' s ph' c' e hne
  rw [hs] at e'; cases e'
  simp [hph] at ht

theorem drained_of_any {i : Nat} (h : w.tasks.any (Task.liveHandlerOf i) = false) : Drained w i := by
  intro j t ph c e
  by_contra hne
  have := List.any_eq_false.mp h _ (List.getElem?_mem e)
  simp [Task.liveHandlerOf, hne] at this

/-- Setting a handler leaves every supervisor where it was. -/
theorem set_handler_keeps {i j : Nat} {t t' : String} {s p : Nat} {ph : HandlerPhase} {sph : SupervisorPhase}
    {c c' : Bool} (hi : w.tasks[i]? = some (.handler t s ph c)) (hj : w.tasks[j]? = some (.supervisor t' p sph c'))
    (x : Task) : (w.setTask i x).tasks[j]? = some (.supervisor t' p sph c') := by
  rw [setTask_tasks, List.getElem?_set_ne (by rintro rfl; rw [hi] at hj; cases hj), hj]

/-- Supervisor `i` moves to phase `ph'`: the invariant stays when it still tracks its
handlers or has none running, and has cancelled them if it now gathers them. -/
theorem HandlersGood.of_supervisor (hg : HandlersGood w) {i : Nat} {t : String} {p : Nat}
    {ph ph' : SupervisorPhase} {c c' : Bool} (hi : w.tasks[i]? = some (.supervisor t p ph c))
    (hd : ph'.tracking = true ∨ Drained w i)
    (hc : ∀ sock : Nat, ph' = .draining sock → ∀ (j : Nat) (t' : String) (ph₁ : HandlerPhase) (c₁ : Bool),
      w.tasks[j]? = some (.handler t' i ph₁ c₁) → ph₁ ≠ .done → c₁ = true) :
    HandlersGood (w.setTask i (.supervisor t p ph' c')) := by
  have hlen := (List.getElem?_eq_some_iff.mp hi).1
  have hq : Quiet w (w.setTask i (.supervisor t p ph' c')) := quiet_setTask hi rfl rfl rfl rfl
  have back : ∀ {j : Nat} {t' : String} {s : Nat} {ph₁ : HandlerPhase} {c₁ : Bool},
      (w.setTask i (.supervisor t p ph' c')).tasks[j]? = some (.handler t' s ph₁ c₁) →
      w.tasks[j]? = some (.handler t' s ph₁ c₁) := fun e => by
    rcases setTask_get_cases e with ⟨-, e⟩ | ⟨-, e⟩
    · cases e
    · exact e
  refine ⟨fun j t' s ph₁ c₁ e hne => ?_, fun j t' s ph₁ c₁ e hne t'' p'' sock c'' es => ?_,
    fun j t' s ws c₁ e => by rw [hq.logins]; exact hg.relay j t' s ws c₁ (back e)⟩
  · obtain ⟨p', sph, c'', e', ht⟩ := hg.supervised j t' s ph₁ c₁ (back e) hne
    rcases eq_or_ne i s with rfl | hs
    · rw [hi] at e'; cases e'
      rcases hd with hd | hd
      · exact ⟨p, ph', c', List.getElem?_set_self hlen, hd⟩
      · exact absurd (hd j t ph₁ c₁ (back e)) hne
    · exact ⟨p', sph, c'', by rw [setTask_tasks, List.getElem?_set_ne hs, e'], ht⟩
  · rcases setTask_get_cases es with ⟨rfl, hx⟩ | ⟨-, es⟩
    · cases hx; exact hc sock rfl j t' ph₁ c₁ (back e) hne
    · exact hg.cancelled j t' s ph₁ c₁ (back e) hne t'' p'' sock c'' es

/-- Handler `i` moves to phase `ph'`: the invariant stays when it was running or ends, when
it keeps its flag or ends, and when a websocket it relays over is one of a reverse client
of its token. -/
theorem HandlersGood.of_handler (hg : HandlersGood w) {i : Nat} {t : String} {s : Nat} {ph ph' : HandlerPhase}
    {c c' : Bool} (hi : w.tasks[i]? = some (.handler t s ph c)) (hph : ph ≠ .done ∨ ph' = .done)
    (hc : ph' = .done ∨ c' = c) (hr : ∀ ws, ph' = .relaying ws → ∃ cid, w.login ws = some ⟨cid, t, true⟩) :
    HandlersGood (w.setTask i (.handler t s ph' c')) := by
  have hq : Quiet w (w.setTask i (.handler t s ph' c')) := quiet_setTask hi rfl rfl rfl rfl
  have sup : ∀ {j : Nat} {t' : String} {p : Nat} {sph : SupervisorPhase} {c₁ : Bool},
      (w.setTask i (.handler t s ph' c')).tasks[j]? = some (.supervisor t' p sph c₁) →
      w.tasks[j]? = some (.supervisor t' p sph c₁) := fun e => by
    rcases setTask_get_cases e with ⟨-, e⟩ | ⟨-, e⟩
    · cases e
    · exact e
  refine ⟨fun j t' s' ph₁ c₁ e hne => ?_, fun j t' s' ph₁ c₁ e hne t'' p sock c'' es => ?_,
    fun j t' s' ws c₁ e => ?_⟩
  · obtain ⟨p, sph, c'', e', ht⟩ : ∃ p sph c'', w.tasks[s']? = some (.supervisor t' p sph c'') ∧ sph.tracking = true := by
      rcases setTask_get_cases e with ⟨rfl, hx⟩ | ⟨-, e⟩
      · cases hx; exact hg.supervised _ t s ph c hi (hph.resolve_right hne)
      · exact hg.supervised j t' s' ph₁ c₁ e hne
    exact ⟨p, sph, c'', set_handler_keeps hi e' _, ht⟩
  · rcases setTask_get_cases e with ⟨rfl, hx⟩ | ⟨-, e⟩
    · cases hx
      rw [hc.resolve_left hne]
      exact hg.cancelled _ t s ph c hi (hph.resolve_right hne) t'' p sock c'' (sup es)
    · exact hg.cancelled j t' s' ph₁ c₁ e hne t'' p sock c'' (sup es)
  · rw [hq.logins]
    rcases setTask_get_cases e with ⟨rfl, hx⟩ | ⟨-, e⟩
    · cases hx; exact hr ws rfl
    · exact hg.relay j t' s' ws c₁ e

/-- A connection accepted in the accept loop gets a handler under that supervisor. -/
theorem HandlersGood.of_accept (hg : HandlersGood w) {i : Nat} {t : String} {p sock : Nat} {c : Bool}
    (hi : w.tasks[i]? = some (.supervisor t p (.serving sock) c)) :
    HandlersGood (w.spawn (.handler t i .start false)) := by
  have hl : (w.spawn (.handler t i .start false)).login = w.login := (quiet_spawn w (.handler t i .start false) rfl).logins
  have sup : ∀ {j : Nat} {t' : String} {p : Nat} {sph : SupervisorPhase} {c₁ : Bool},
      (w.spawn (.handler t i .start false)).tasks[j]? = some (.supervisor t' p sph c₁) →
      w.tasks[j]? = some (.supervisor t' p sph c₁) := fun e => by
    rcases spawn_get_cases e with e | e
    · exact e
    · cases e
  refine ⟨fun j t' s ph c' e hne => ?_, fun j t' s ph c' e hne t'' p' sock' c'' es => ?_, fun j t' s ws c' e => ?_⟩
  · rcases spawn_get_cases e with e | e
    · obtain ⟨p', sph, c'', e', ht⟩ := hg.supervised j t' s ph c' e hne
      exact ⟨p', sph, c'', spawn_get _ e', ht⟩
    · cases e; exact ⟨p, _, c, spawn_get _ hi, rfl⟩
  · rcases spawn_get_cases e with e | e
    · exact hg.cancelled j t' s ph c' e hne t'' p' sock' c'' (sup es)
    · cases e; rw [sup es] at hi; cases hi
  · rw [hl]
    rcases spawn_get_cases e with e | e
    · exact hg.relay j t' s ws c' e
    · cases e

/-- A pending task runs: the supervisors and the handlers stay where they were. -/
theorem HandlersGood.of_pending (hg : HandlersGood w) {i : Nat} {t : String} {r c : Bool}
    (hi : w.tasks[i]? = some (.pending t r c)) (r' c' : Bool) : HandlersGood (w.setTask i (.pending t r' c')) := by
  have hlen := (List.getElem?_eq_some_iff.mp hi).1
  have hq : Quiet w (w.setTask i (.pending t r' c')) := quiet_setTask hi rfl rfl rfl rfl
  have back : ∀ {j : Nat} {x : Task}, (w.setTask i (.pending t r' c')).tasks[j]? = some x →
      (∀ r₀ c₀, x ≠ .pending t r₀ c₀) → w.tasks[j]? = some x := fun {j} _ e hx => by
    rcases eq_or_ne i j with rfl | hj
    · rw [setTask_tasks, List.getElem?_set_self hlen] at e; cases e; exact absurd rfl (hx r' c')
    · rwa [setTask_tasks, List.getElem?_set_ne hj] at e
  have fwd : ∀ {j : Nat} {x : Task}, w.tasks[j]? = some x → (∀ r₀ c₀, x ≠ .pending t r₀ c₀) →
      (w.setTask i (.pending t r' c')).tasks[j]? = some x := fun {j} _ e hx => by
    rcases eq_or_ne i j with rfl | hj
    · rw [hi] at e; cases e; exact absurd rfl (hx r c)
    · rw [setTask_tasks, List.getElem?_set_ne hj, e]
  refine ⟨fun j t' s ph c e hne => ?_, fun j t' s ph c e hne t'' p sock c' es =>
    hg.cancelled j t' s ph c (back e nofun) hne t'' p sock c' (back es nofun),
    fun j t' s ws c e => by rw [hq.logins]; exact hg.relay j t' s ws c (back e nofun)⟩
  obtain ⟨p, sph, c', e', ht⟩ := hg.supervised j t' s ph c (back e nofun) hne
  exact ⟨p, sph, c', fwd e' nofun, ht⟩

/-- A cancelled supervisor at its next step: it cancels its handlers and gathers them,
or releases when none runs. -/
theorem HandlersGood.of_cancelStep (hg : HandlersGood w) {i : Nat} {t : String} {p : Nat} {ph : SupervisorPhase}
    {c : Bool} (hi : w.tasks[i]? = some (.supervisor t p ph c)) : HandlersGood (cancelStep w i t p ph) := by
  have hrel : ∀ sock, Drained w i → HandlersGood (releaseStep w i t p sock) := fun sock hd => by
    obtain ⟨ph', e, hph'⟩ := releaseStep_tasks w i t p sock
    exact (hg.of_supervisor hi (.inr hd) fun _ h => by subst h; cases hph').of_tasks e
  cases ph <;> simp only [cancelStep]
  case created => exact hg.of_supervisor hi (.inr (hg.drained hi rfl)) nofun
  case getting => exact hrel none (hg.drained hi rfl)
  case serving sock =>
    split
    · have hk : HandlersGood (cancelHandlers w i) :=
        hg.of_tree_kept (cancelHandlers_tree_kept w i) fun ws l e => by
          rw [(cancelHandlers_quiet w i).logins]; exact e
      have hi' : (cancelHandlers w i).tasks[i]? = some (.supervisor t p (.serving sock) c) := by
        simp [cancelHandlers_get, hi, Task.liveHandlerOf]
      refine hk.of_supervisor hi' (.inl rfl) fun _ _ j t' ph₁ c₁ e hne => ?_
      rw [cancelHandlers_get] at e
      obtain ⟨x, ex, hx⟩ := Option.map_eq_some'.mp e
      obtain ⟨c₀, rfl⟩ : ∃ c₀, x = .handler t' i ph₁ c₀ := by
        split at hx
        · exact ⟨_, (Task.cancel_eq_handler.mp hx).choose_spec.1⟩
        · exact ⟨_, hx⟩
      simpa [Task.liveHandlerOf, hne, Task.cancel] using hx.symm
    · exact hrel _ (drained_of_any (Bool.eq_false_iff.mpr ‹_›))
  all_goals exact hg

theorem HandlersGood.of_handlerStep (hg : HandlersGood w) (hR : RegGood w) {i : Nat} {t : String} {s : Nat}
    {ph : HandlerPhase} (hi : w.tasks[i]? = some (.handler t s ph false)) :
    HandlersGood (handlerStep w i t s ph) := by
  have hsel : ph ≠ .done → HandlersGood (selectStep w i t s) := fun hne => by
    obtain ⟨ph', e, hr⟩ := selectStep_tasks w i t s
    refine (hg.of_handler hi (.inl hne) (.inr rfl) fun ws h => ?_).of_tasks e
    obtain ⟨cs, cid, hc, hm⟩ := hr ws h
    exact ⟨cid, (hR.entry t cs cid ws hc hm).1⟩
  cases ph <;> simp only [handlerStep]
  case start => split
                · exact hsel nofun
                · exact hg.of_handler hi (.inl nofun) (.inr rfl) nofun
  case waiting => split
                  · split
                    · exact hsel nofun
                    · exact hg
                  · exact hg.of_handler hi (.inr rfl) (.inl rfl) nofun
  all_goals exact hg

theorem HandlersGood.step (hg : HandlersGood w) (hR : RegGood w) (h : Step w a w') : HandlersGood w' := by
  cases ha : a.moves
  · exact hg.of_tree_kept (h.tree_kept ha) fun _ _ e => login_kept h e
  cases h <;> try (cases ha; done)
  case get_socket i t p ph b hi hph =>
    obtain ⟨ph', e, hph'⟩ := getStep_tasks w i t p b
    have hd := hg.drained hi (by rcases hph with rfl | rfl <;> rfl)
    exact (hg.of_supervisor hi (.inr hd) fun sock h => absurd h (hph' sock)).of_tasks e
  case accept hi _ => exact hg.of_accept hi
  case deliver_cancel hi => exact hg.of_cancelStep hi
  case drained i t p sock c hi hd =>
    obtain ⟨ph', e, hph'⟩ := releaseStep_tasks w i t p (some sock)
    exact (hg.of_supervisor hi (.inr (drained_of_any hd)) fun _ h => by subst h; cases hph').of_tasks e
  case aborted hi hd => exact hg.of_supervisor hi (.inr (drained_of_any hd)) nofun
  case release i t p sock c hi _ =>
    have h' : HandlersGood (w.setTask i (.supervisor t p .done c)) := hg.of_supervisor hi (.inr (hg.drained hi rfl)) nofun
    exact h'.of_tasks rfl
  case handler hi => exact hg.of_handlerStep hR hi
  case handler_exit hi hne => exact hg.of_handler hi (.inl hne) (.inl rfl) nofun
  case pending i t hi =>
    cases hp : _handle_pending_token w t with
    | none => exact hg.of_pending hi true false
    | some w₁ =>
      obtain ⟨ts, e⟩ := _handle_pending_token_tasks hp
      have hi₁ : w₁.tasks[i]? = some (.pending t false false) := by
        rw [e, List.getElem?_append_left (List.getElem?_eq_some_iff.mp hi).1, hi]
      have hg₁ := hg.of_tree_kept (_handle_pending_token_tree_kept hp) fun _ _ e => by
        rw [(_handle_pending_token_quiet hp).logins]; exact e
      exact hg₁.of_pending hi₁ true false

theorem HandlersGood.reach (hr : Reach c w) : HandlersGood w := by
  induction hr with
  | init => exact init_handlers c
  | step hr' hs ih => exact ih.step (RegGood.reach hr') hs

/-! ## Over every run -/

/-- In every reachable state a `_handle_socks_request` that has not finished runs under the
`_run_socks_server` that accepted its connection: that supervisor serves the handler's token
and is in its accept loop or, cancelled, in its `finally` gathering its handlers. So a
supervisor that is not yet serving, or that has gone on to `release_socket`, has no handler
running. -/
theorem handlers_supervised (hr : Reach c w) :
    (∀ (i : Nat) (t : String) (s : Nat) (ph : HandlerPhase) (b : Bool),
      w.tasks[i]? = some (.handler t s ph b) → ph ≠ .done →
      ∃ (p : Nat) (sph : SupervisorPhase) (b' : Bool),
        w.tasks[s]? = some (.supervisor t p sph b') ∧ sph.tracking = true) ∧
    ∀ (s : Nat) (t : String) (p : Nat) (sph : SupervisorPhase) (b : Bool),
      w.tasks[s]? = some (.supervisor t p sph b) → sph.tracking = false → Drained w s :=
  ⟨(HandlersGood.reach hr).supervised, fun _ _ _ _ _ hs hph => (HandlersGood.reach hr).drained hs hph⟩

/-- A client authenticates on `"t"`, its port's supervisor gets the socket and accepts a
connection, whose handler chooses the client: the supervisor is in its accept loop. -/
theorem handlers_supervised_accepted :
    ∃ w, runs (World.init ⟨[1080], true, 30⟩)
        [.add_reverse_token (some "t") "" none none none 0, .serve, .connect,
          .auth 0 (some (Frame.authMessage "t" true)), .get_socket 1 true, .accept 1, .handler 2] = some w ∧
      w.tasks[2]? = some (.handler "t" 1 (.relaying 0) false) ∧
      ∃ p sph b, w.tasks[1]? = some (.supervisor "t" p sph b) ∧ sph.tracking = true := by
  have hw : runs (World.init ⟨[1080], true, 30⟩)
      [.add_reverse_token (some "t") "" none none none 0, .serve, .connect,
        .auth 0 (some (Frame.authMessage "t" true)), .get_socket 1 true, .accept 1, .handler 2] = some _ := rfl
  exact ⟨_, hw, rfl, (handlers_supervised (runs_reach .init hw)).1 2 "t" 1 _ false rfl nofun⟩

/-- In every reachable state a handler relays over the websocket of a session that
authenticated as a reverse client of the handler's token, and the supervisor that accepted
the connection serves that token: a SOCKS connection on one token's port is never relayed
through a client of another token, nor through a forward client. -/
theorem relay_through_token_client (hr : Reach c w) {i s ws : Nat} {t : String} {b : Bool}
    (hi : w.tasks[i]? = some (.handler t s (.relaying ws) b)) :
    (∃ p sph b', w.tasks[s]? = some (.supervisor t p sph b')) ∧ ∃ cid, w.login ws = some ⟨cid, t, true⟩ := by
  have hg := HandlersGood.reach hr
  obtain ⟨p, sph, b', e, -⟩ := hg.supervised i t s _ b hi nofun
  exact ⟨⟨p, sph, b', e⟩, hg.relay i t s ws b hi⟩

theorem relay_through_token_client_chosen :
    ∃ w, runs (World.init ⟨[1080], true, 30⟩)
        [.add_reverse_token (some "t") "" none none none 0, .serve, .connect,
          .auth 0 (some (Frame.authMessage "t" true)), .get_socket 1 true, .accept 1, .handler 2] = some w ∧
      (∃ p sph b, w.tasks[1]? = some (.supervisor "t" p sph b)) ∧ ∃ cid, w.login 0 = some ⟨cid, "t", true⟩ := by
  have hw : runs (World.init ⟨[1080], true, 30⟩)
      [.add_reverse_token (some "t") "" none none none 0, .serve, .connect,
        .auth 0 (some (Frame.authMessage "t" true)), .get_socket 1 true, .accept 1, .handler 2] = some _ := rfl
  exact ⟨_, hw, @relay_through_token_client _ _ (runs_reach .init hw) 2 1 0 "t" false rfl⟩

end pywssocks.server.handlers
