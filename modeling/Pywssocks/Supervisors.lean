-- The SOCKS supervisors that have not been cancelled (server.py 341-348, 485, 523).
-- Each is the task `_socks_tasks` records for its port: `remove_token` of its token
-- cancels it, and no port has two of them.
import Pywssocks.Startup

namespace pywssocks.server

/-! ## The supervisors not cancelled -/

/-- The token and port of a `_run_socks_server` task that has not been cancelled. -/
def Task.liveSupervisor : Task → Option (String × Nat)
  | .supervisor t p _ false => some (t, p)
  | _ => none

def World.liveSupervisor (w : World) (i : Nat) : Option (String × Nat) := w.tasks[i]?.bind Task.liveSupervisor

theorem World.liveSupervisor_eq {w : World} {i : Nat} {t : String} {p : Nat} :
    w.liveSupervisor i = some (t, p) ↔ ∃ ph, w.tasks[i]? = some (.supervisor t p ph false) := by
  unfold World.liveSupervisor
  cases w.tasks[i]? with
  | none => simp
  | some x => rcases x with _ | ⟨t', p', ph, _ | _⟩ | _ | _ <;> simp [Task.liveSupervisor, and_comm]

theorem World.liveSupervisor_of {w : World} {i : Nat} {x : Task} (hi : w.tasks[i]? = some x) :
    w.liveSupervisor i = x.liveSupervisor := by
  simp [World.liveSupervisor, hi]

theorem World.liveSupervisor_congr {w w' : World} (h : w'.tasks = w.tasks) :
    w'.liveSupervisor = w.liveSupervisor := by
  funext i; simp only [World.liveSupervisor, h]

@[simp] theorem Task.cancel_liveSupervisor (x : Task) : x.cancel.liveSupervisor = none := by
  cases x <;> rfl

/-- What a step that starts no supervisor keeps: `_socks_tasks`, and every supervisor of `w'`
not cancelled was one of `w`, at the same place, on the same token and port. -/
structure LiveKept (w w' : World) : Prop where
  socks_tasks : w'.server.socks_tasks = w.server.socks_tasks
  live : ∀ {i : Nat} {x : String × Nat}, w'.liveSupervisor i = some x → w.liveSupervisor i = some x

theorem LiveKept.refl (w : World) : LiveKept w w := ⟨rfl, id⟩

theorem LiveKept.trans {w w' w'' : World} (h : LiveKept w w') (h' : LiveKept w' w'') : LiveKept w w'' :=
  ⟨h'.socks_tasks.trans h.socks_tasks, fun e => h.live (h'.live e)⟩

/-- Each task stays, or is cancelled. -/
theorem LiveKept.of_cancels {w w' : World} (hs : w'.server.socks_tasks = w.server.socks_tasks)
    (h : ∀ j : Nat, w'.tasks[j]? = w.tasks[j]? ∨ w'.tasks[j]? = w.tasks[j]?.map Task.cancel) : LiveKept w w' :=
  ⟨hs, fun {j _} e => by
    unfold World.liveSupervisor at e ⊢
    rcases h j with h | h <;> rw [h] at e
    · exact e
    · cases hj : w.tasks[j]? <;> simp [hj] at e⟩

theorem LiveKept.of_tasks {w w' : World} (hs : w'.server.socks_tasks = w.server.socks_tasks)
    (h : w'.tasks = w.tasks) : LiveKept w w' :=
  .of_cancels hs fun _ => .inl (by rw [h])

/-- Task `i` becomes `y`, which is no supervisor left running, or the one that was there. -/
theorem LiveKept.of_set {w w' : World} {i : Nat} {y : Task} (hs : w'.server.socks_tasks = w.server.socks_tasks)
    (h : w'.tasks = w.tasks.set i y) (hy : ∀ v, y.liveSupervisor = some v → w.liveSupervisor i = some v) :
    LiveKept w w' :=
  ⟨hs, fun {j _} e => by
    obtain ⟨z, ez, hz⟩ := Option.bind_eq_some.mp e
    rw [show w'.tasks = (w.setTask i y).tasks from h] at ez
    rcases setTask_get_cases ez with ⟨rfl, rfl⟩ | ⟨-, ez⟩
    · exact hy _ hz
    · exact Option.bind_eq_some.mpr ⟨z, ez, hz⟩⟩

theorem LiveKept.of_spawn {w w' : World} {y : Task} (hs : w'.server.socks_tasks = w.server.socks_tasks)
    (h : w'.tasks = w.tasks ++ [y]) (hy : y.liveSupervisor = none) : LiveKept w w' :=
  ⟨hs, fun {j _} e => by
    obtain ⟨z, ez, hz⟩ := Option.bind_eq_some.mp e
    rw [show w'.tasks = (w.spawn y).tasks from h] at ez
    rcases spawn_get_cases ez with ez | rfl
    · exact Option.bind_eq_some.mpr ⟨z, ez, hz⟩
    · rw [hy] at hz; cases hz⟩

theorem cancel_live_kept (w : World) (i : Nat) : LiveKept w (w.cancel i) :=
  .of_cancels (by rw [cancel_server]) fun j => by rw [cancel_get]; split; exacts [.inr rfl, .inl rfl]

theorem cancelHandlers_live_kept (w : World) (i : Nat) : LiveKept w (cancelHandlers w i) :=
  .of_cancels rfl fun j => by
    rw [cancelHandlers_get]
    cases w.tasks[j]? with
    | none => exact .inl rfl
    | some t => by_cases h : t.liveHandlerOf i <;> simp [h]

theorem registerReverse_live_kept (w : World) (t : String) (p : Nat) (u pw : Option String) :
    LiveKept w (registerReverse w t p u pw) := by
  unfold registerReverse; split
  · exact .of_spawn rfl rfl rfl
  · exact .of_tasks rfl rfl

theorem add_reverse_token_live_kept (w : World) (token : Option String) (d : String) (port : Option Nat)
    (u pw : Option String) (k : Nat) : LiveKept w (add_reverse_token w token d port u pw k).2 := by
  rcases add_reverse_token_cases w token d port u pw k with e | ⟨_, e⟩ | ⟨_, _, -, -, e⟩ <;> rw [e]
  · exact .refl w
  · exact .of_tasks rfl rfl
  · exact (LiveKept.of_tasks (by rfl) (by rfl)).trans (registerReverse_live_kept ..)

theorem getStep_live_kept {w : World} {i : Nat} {t : String} {p : Nat} {ph : SupervisorPhase}
    (hi : w.tasks[i]? = some (.supervisor t p ph false)) (b : Bool) : LiveKept w (getStep w i t p b) :=
  let ⟨_, e, _⟩ := getStep_tasks w i t p b
  .of_set (getStep_registry ..).socks_tasks e fun _ h => (World.liveSupervisor_of hi).trans h

theorem releaseStep_live_kept (w : World) (i : Nat) (t : String) (p : Nat) (sock : Option Nat) :
    LiveKept w (releaseStep w i t p sock) :=
  let ⟨_, e, _⟩ := releaseStep_tasks w i t p sock
  .of_set (releaseStep_registry ..).socks_tasks e nofun

theorem cancelStep_live_kept (w : World) (i : Nat) (t : String) (p : Nat) (ph : SupervisorPhase) :
    LiveKept w (cancelStep w i t p ph) := by
  cases ph <;> simp only [cancelStep]
  case created => exact .of_set rfl rfl nofun
  case getting => exact releaseStep_live_kept ..
  case serving =>
    split
    · exact (cancelHandlers_live_kept w i).trans (.of_set rfl rfl nofun)
    · exact releaseStep_live_kept ..
  all_goals exact .refl w

theorem selectStep_socks_tasks (w : World) (i : Nat) (t : String) (s : Nat) :
    (selectStep w i t s).server.socks_tasks = w.server.socks_tasks := by
  unfold selectStep; split
  · rcases _get_next_websocket_spec ‹_› with h | ⟨_, _, _, _, h⟩ <;> rw [h]
  · rcases _get_next_websocket_spec ‹_› with h | ⟨_, _, _, _, h⟩ <;> rw [h]
  · rfl

theorem handlerStep_live_kept (w : World) (i : Nat) (t : String) (s : Nat) (ph : HandlerPhase) :
    LiveKept w (handlerStep w i t s ph) := by
  have hs : LiveKept w (selectStep w i t s) :=
    let ⟨_, e, _⟩ := selectStep_tasks w i t s
    .of_set (selectStep_socks_tasks ..) e nofun
  cases ph <;> simp only [handlerStep]
  case start => split
                · exact hs
                · exact .of_set rfl rfl nofun
  case waiting => split
                  · split
                    · exact hs
                    · exact .refl w
                  · exact .of_set rfl rfl nofun
  all_goals exact .refl w

end pywssocks.server

namespace pywssocks.server.supervisors

open registry

variable {c : Config} {w w' : World} {a : Action}

/-- Every `_run_socks_server` task not cancelled is the task `_socks_tasks` records for its
port. -/
def SupRecorded (w : World) : Prop :=
  ∀ i t p, w.liveSupervisor i = some (t, p) → w.server.socks_tasks p = some i

theorem SupRecorded.of_kept (hg : SupRecorded w) (h : LiveKept w w') : SupRecorded w' := fun i t p e => by
  rw [h.socks_tasks]; exact hg i t p (h.live e)

/-- `self._socks_tasks[port] = asyncio.create_task(self._run_socks_server(token, port))`, on a
port with no task recorded. -/
theorem SupRecorded.spawn (hg : SupRecorded w) {t : String} {p : Nat} (hn : w.server.socks_tasks p = none) :
    SupRecorded (spawnSupervisor w t p) := fun j t' q e => by
  obtain ⟨z, ez, hz⟩ := Option.bind_eq_some.mp e
  change (w.spawn (.supervisor t p .created false)).tasks[j]? = some z at ez
  show Function.update w.server.socks_tasks p (some w.tasks.length) q = some j
  rcases Nat.lt_or_ge j w.tasks.length with hj | hj
  · have h := hg j t' q (Option.bind_eq_some.mpr ⟨z, by rwa [spawn_tasks, List.getElem?_append_left hj] at ez, hz⟩)
    have hq : q ≠ p := by rintro rfl; rw [hn] at h; cases h
    rw [Function.update_noteq hq, h]
  · cases spawn_get_new ez hj
    cases hz
    have := (List.getElem?_eq_some_iff.mp ez).1
    simp only [spawn_tasks, List.length_append, List.length_singleton] at this
    rw [Function.update_same, show j = w.tasks.length by omega]

theorem SupRecorded.ensure (hg : SupRecorded w) (t : String) (p : Nat) : SupRecorded (ensureSupervisor w t p) := by
  unfold ensureSupervisor; split
  · exact hg.spawn ‹_›
  · exact hg

theorem SupRecorded.of_pending_token (hg : SupRecorded w) {t : String} (h : _handle_pending_token w t = some w') :
    SupRecorded w' := by
  unfold _handle_pending_token at h
  split at h
  · cases h; exact hg
  split at h
  · cases h
  split at h
  · split at h <;> cases h
    · exact hg.spawn ‹_ ∧ _›.2
    · exact hg
  · cases h; exact hg

theorem SupRecorded.of_servePending (hg : SupRecorded w) (ts : List String) : SupRecorded (servePending w ts).1 := by
  induction ts generalizing w with
  | nil => exact hg
  | cons t ts ih =>
    simp only [servePending]
    split
    · exact ih (hg.of_pending_token ‹_›)
    · exact hg

theorem SupRecorded.of_serveStart (hg : SupRecorded w) : SupRecorded (serveStart w) := by
  have h := (show SupRecorded { w with server := { w.server with loop := true } } from hg).of_servePending
    w.server.pending_tokens
  unfold serveStart; dsimp only; split
  · exact h.of_kept (.of_tasks rfl rfl)
  · exact h.of_kept (.of_tasks rfl rfl)

/-- The reverse branch of `remove_token` cancels the task recorded for the port and drops the
record; every other supervisor keeps its own port's record. -/
theorem SupRecorded.of_removeReverse (hg : SupRecorded w) (t : String) (p : Nat) :
    SupRecorded (removeReverse w t p) := fun j t' q e => by
  show Function.update w.server.socks_tasks p none q = some j
  -- the supervisor was one of `w`, other than the one recorded for `p`, which is cancelled
  have old : w.liveSupervisor j = some (t', q) ∧ w.server.socks_tasks p ≠ some j := by
    cases hp : w.server.socks_tasks p with
    | none =>
      rw [World.liveSupervisor_congr (show (removeReverse w t p).tasks = w.tasks by simp only [removeReverse, hp])] at e
      exact ⟨e, nofun⟩
    | some i =>
      rw [World.liveSupervisor_congr
        (show (removeReverse w t p).tasks = (w.cancel i).tasks by simp only [removeReverse, hp])] at e
      refine ⟨(cancel_live_kept w i).live e, fun h => ?_⟩
      have hij : i = j := Option.some.inj h
      subst hij
      rw [World.liveSupervisor, cancel_get, if_pos rfl] at e
      cases hj : w.tasks[i]? <;> simp [hj] at e
  have h := hg j t' q old.1
  have hq : q ≠ p := by rintro rfl; exact old.2 h
  rw [Function.update_noteq hq, h]

theorem SupRecorded.of_remove_token (hg : SupRecorded w) (t : String) : SupRecorded (remove_token w t).2 := by
  rcases remove_token_cases w t with e | ⟨p, -, e⟩ | ⟨-, -, e⟩ <;> rw [e]
  · exact hg
  · exact hg.of_removeReverse t p
  · exact hg.of_kept (.of_tasks rfl rfl)

theorem SupRecorded.of_handle_websocket (hg : SupRecorded w) (ws : Nat) (f : Option Frame) :
    SupRecorded (_handle_websocket w ws f) := by
  rcases _handle_websocket_cases w ws f with ⟨t, p, -, -, e⟩ | ⟨t, -, e⟩ | ⟨u, -, e⟩ <;> rw [e]
  · have h₀ : SupRecorded { w with server := appendClient w.server t (w.uuids, ws), uuids := w.uuids + 1 } :=
      hg.of_kept (.of_tasks rfl rfl)
    exact (h₀.ensure t p).of_kept (.of_set rfl rfl nofun)
  · exact hg.of_kept (.of_set rfl rfl nofun)
  · exact hg.of_kept (.of_set rfl rfl nofun)

theorem SupRecorded.step (hg : SupRecorded w) (h : Step w a w') : SupRecorded w' := by
  cases h
  case add_reverse_token => exact hg.of_kept (add_reverse_token_live_kept ..)
  case remove_token t => exact hg.of_remove_token t
  case serve => exact hg.of_serveStart
  case connect => exact hg.of_kept (.of_spawn rfl rfl rfl)
  case auth => exact hg.of_handle_websocket _ _
  case frame ws l f _ =>
    obtain ⟨hs, -, e | e⟩ := _message_dispatcher_cases w ws l f
    · exact hg.of_kept (.of_tasks (by rw [hs]) e)
    · rw [e]; exact hg.of_kept (.of_set rfl rfl nofun)
  case hangup_sending => exact hg.of_kept (.of_set (cleanup_frame ..).1 rfl nofun)
  case finish => exact hg.of_kept (.of_set (cleanup_frame ..).1 rfl nofun)
  case get_socket hi _ => exact hg.of_kept (getStep_live_kept hi _)
  case accept => exact hg.of_kept (.of_spawn rfl rfl rfl)
  case deliver_cancel => exact hg.of_kept (cancelStep_live_kept ..)
  case drained => exact hg.of_kept (releaseStep_live_kept ..)
  case release c hi _ =>
    exact hg.of_kept (.of_set rfl rfl fun _ h => by rw [World.liveSupervisor_of hi]; cases c <;> exact h)
  case aborted c hi _ =>
    exact hg.of_kept (.of_set rfl rfl fun _ h => by rw [World.liveSupervisor_of hi]; cases c <;> exact h)
  case cancel => exact hg.of_kept (cancel_live_kept ..)
  case handler => exact hg.of_kept (handlerStep_live_kept ..)
  case pending t _ =>
    have h₁ : SupRecorded ((_handle_pending_token w t).getD w) := by
      cases e : _handle_pending_token w t with
      | none => exact hg
      | some w₁ => exact hg.of_pending_token e
    exact h₁.of_kept (.of_set rfl rfl nofun)
  all_goals first
    | exact hg.of_kept (.of_tasks rfl rfl)
    | exact hg.of_kept (.of_set rfl rfl nofun)

theorem SupRecorded.reach (hr : Reach c w) : SupRecorded w := by
  induction hr with
  | init => intro i t p e; simp [World.init, World.liveSupervisor] at e
  | step _ hs ih => exact ih.step hs

/-- In every reachable state, a `_run_socks_server` task that has not been cancelled is the
one `_socks_tasks` records for its port, its token is the reverse token of that port, and no
other such task runs on the port: `remove_token` of the token cancels it. -/
theorem live_supervisor_recorded (hr : Reach c w) {i : Nat} {t : String} {p : Nat} {ph : SupervisorPhase}
    (hi : w.tasks[i]? = some (.supervisor t p ph false)) :
    w.server.socks_tasks p = some i ∧ w.server.tokens t = some p ∧
      ∀ (j : Nat) (t' : String) (ph' : SupervisorPhase), w.tasks[j]? = some (.supervisor t' p ph' false) → j = i := by
  have hg := SupRecorded.reach hr
  have hs := hg i t p (World.liveSupervisor_eq.mpr ⟨ph, hi⟩)
  obtain ⟨t₁, hrole, htok⟩ := (RegGood.reach hr).socks_tasks p i hs
  simp only [World.role, hi, Option.map_some', Task.role, Option.some.injEq, Role.supervisor.injEq] at hrole
  rw [← hrole.1] at htok
  refine ⟨hs, htok, fun j t' ph' hj => ?_⟩
  have := hg j t' p (World.liveSupervisor_eq.mpr ⟨ph', hj⟩)
  rw [hs] at this
  exact (Option.some.inj this).symm

/-- The first reverse client of a token starts its supervisor, which is then the one
recorded for the port. -/
theorem live_supervisor_recorded_first_client :
    ∃ w, runs (World.init ⟨[1080], true, 30⟩)
        [.add_reverse_token (some "t") "" none none none 0, .serve, .connect,
          .auth 0 (some (Frame.authMessage "t" true))] = some w ∧
      w.server.socks_tasks 1080 = some 1 ∧ w.server.tokens "t" = some 1080 ∧
        ∀ (j : Nat) (t' : String) (ph' : SupervisorPhase), w.tasks[j]? = some (.supervisor t' 1080 ph' false) → j = 1 := by
  have hw : runs (World.init ⟨[1080], true, 30⟩)
      [.add_reverse_token (some "t") "" none none none 0, .serve, .connect,
        .auth 0 (some (Frame.authMessage "t" true))] = some _ := rfl
  exact ⟨_, hw, @live_supervisor_recorded _ _ (runs_reach .init hw) 1 "t" 1080 .created rfl⟩

end pywssocks.server.supervisors
