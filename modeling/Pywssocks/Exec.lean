-- The loop's steps as a function: the step an action takes, when the task it names
-- stands where the action needs. Every step it computes is a step of the relation,
-- so a run it evaluates is a run of the server.
import Pywssocks.Step

namespace pywssocks.server

/-- The step `a` takes from `w`, if it can. -/
def exec (w : World) : Action → Option World
  | .add_reverse_token token drawn port username password pick =>
    some (add_reverse_token w token drawn port username password pick).2
  | .add_forward_token token drawn => some (add_forward_token w token drawn).2
  | .remove_token token => some (remove_token w token).2
  | .serve => some (serveStart w)
  | .cancel_serve k => if w.serves[k]? = some .running then some { w with serves := w.serves.set k .stopping } else none
  | .close k =>
    if w.serves[k]? = some .stopping ∧ w.server.socket_manager.locked = false then some (closeBeginStep w k) else none
  | .close_done k => if w.serves[k]? = some .closing then some (closeEndStep w k) else none
  | .connect => if ServePhase.running ∈ w.serves then some (w.spawn (.session .auth)) else none
  | .auth ws frame =>
    match w.tasks[ws]? with
    | some (.session .auth) => some (_handle_websocket w ws frame)
    | _ => none
  | .send_ok ws =>
    match w.tasks[ws]? with
    | some (.session (.sending l)) => some (w.setTask ws (.session (.serving l)))
    | _ => none
  | .frame ws frame =>
    match w.tasks[ws]? with
    | some (.session (.serving l)) => some (_message_dispatcher w ws l frame)
    | _ => none
  | .hangup ws =>
    match w.tasks[ws]? with
    | some (.session .auth) => some (w.setTask ws (.session (.done none)))
    | some (.session (.sending l)) => some (finishSession w ws l)
    | some (.session (.serving l)) => some (w.setTask ws (.session (.ending l)))
    | _ => none
  | .finish ws =>
    match w.tasks[ws]? with
    | some (.session (.ending l)) => some (finishSession w ws l)
    | _ => none
  | .get_socket i bind_ok =>
    match w.tasks[i]? with
    | some (.supervisor token port .created false) | some (.supervisor token port .getting false) =>
      some (getStep w i token port bind_ok)
    | _ => none
  | .accept i =>
    match w.tasks[i]? with
    | some (.supervisor token port (.serving sock) false) =>
      if (w.server.socket_manager.sockets port).map SocketEntry.sock = some sock then
        some (w.spawn (.handler token i .start false))
      else none
    | _ => none
  | .deliver_cancel i =>
    match w.tasks[i]? with
    | some (.supervisor token port ph true) => some (cancelStep w i token port ph)
    | _ => none
  | .drained i =>
    match w.tasks[i]? with
    | some (.supervisor token port (.draining sock) _) =>
      if w.tasks.any (Task.liveHandlerOf i) = false then some (releaseStep w i token port (some sock))
      else none
    | some (.supervisor token port .aborting c) =>
      if w.tasks.any (Task.liveHandlerOf i) = false then some (w.setTask i (.supervisor token port .done c))
      else none
    | _ => none
  | .release i =>
    match w.tasks[i]? with
    | some (.supervisor token port (.releasing _) c) =>
      if w.server.socket_manager.locked = false then
        some ((w.setTask i (.supervisor token port .done c)).setSm
          (w.server.socket_manager.release_socket port w.now))
      else none
    | _ => none
  | .cancel i => some (w.cancel i)
  | .handler i =>
    match w.tasks[i]? with
    | some (.handler token sup ph false) => some (handlerStep w i token sup ph)
    | _ => none
  | .handler_exit i =>
    match w.tasks[i]? with
    | some (.handler token sup ph c) =>
      if ph ≠ .done then some (w.setTask i (.handler token sup .done c)) else none
    | _ => none
  | .pending i =>
    match w.tasks[i]? with
    | some (.pending token false false) =>
      some (((_handle_pending_token w token).getD w).setTask i (.pending token true false))
    | _ => none
  | .expire k =>
    match w.server.socket_manager.cleanup_tasks[k]? with
    | some (_, t0) =>
      if t0 + w.server.socket_manager.grace ≤ w.now ∧ w.server.socket_manager.locked = false then
        some (w.setSm (w.server.socket_manager.expire k))
      else none
    | none => none
  | .tick => some { w with now := w.now + 1 }
  | .open_channel id ws =>
    some { w with server := { w.server with message_queues := Function.update w.server.message_queues id (some ws) } }
  | .close_channel id =>
    some { w with server := { w.server with message_queues := Function.update w.server.message_queues id none } }

theorem exec_step {w w' : World} {a : Action} (h : exec w a = some w') : Step w a w' := by
  cases a <;> simp only [exec] at h
  case add_reverse_token => cases h; exact .add_reverse_token ..
  case add_forward_token => cases h; exact .add_forward_token ..
  case remove_token => cases h; exact .remove_token ..
  case serve => cases h; exact .serve w
  case cancel_serve => split at h <;> cases h; exact .cancel_serve w _ ‹_›
  case close => split at h <;> cases h; rename_i hc; exact .close w _ hc.1 hc.2
  case close_done => split at h <;> cases h; exact .close_done w _ ‹_›
  case connect => split at h <;> cases h; exact .connect w ‹_›
  case auth => split at h <;> cases h; exact .auth _ _ _ ‹_›
  case send_ok => split at h <;> cases h; exact .send_ok _ _ _ ‹_›
  case frame => split at h <;> cases h; exact .frame _ _ _ _ ‹_›
  case hangup =>
    split at h <;> cases h
    · exact .hangup_auth _ _ ‹_›
    · exact .hangup_sending _ _ _ ‹_›
    · exact .hangup_serving _ _ _ ‹_›
  case finish => split at h <;> cases h; exact .finish _ _ _ ‹_›
  case get_socket =>
    split at h <;> cases h
    · exact .get_socket _ _ _ _ _ _ ‹_› (.inl rfl)
    · exact .get_socket _ _ _ _ _ _ ‹_› (.inr rfl)
  case accept =>
    split at h
    · split at h <;> cases h; exact .accept _ _ _ _ _ ‹_› ‹_›
    · cases h
  case deliver_cancel => split at h <;> cases h; exact .deliver_cancel _ _ _ _ _ ‹_›
  case drained =>
    split at h
    · split at h <;> cases h; exact .drained _ _ _ _ _ _ ‹_› ‹_›
    · split at h <;> cases h; exact .aborted _ _ _ _ _ ‹_› ‹_›
    · cases h
  case release =>
    split at h
    · split at h <;> cases h; exact .release _ _ _ _ _ _ ‹_› ‹_›
    · cases h
  case cancel => cases h; exact .cancel ..
  case handler => split at h <;> cases h; exact .handler _ _ _ _ _ ‹_›
  case handler_exit =>
    split at h
    · split at h <;> cases h; exact .handler_exit _ _ _ _ _ _ ‹_› ‹_›
    · cases h
  case pending => split at h <;> cases h; exact .pending _ _ _ ‹_›
  case expire =>
    split at h
    · rename_i hk
      split at h <;> cases h
      rename_i hd
      exact .expire _ _ _ _ hk hd.1 hd.2
    · cases h
  case tick => cases h; exact .tick ..
  case open_channel => cases h; exact .open_channel ..
  case close_channel => cases h; exact .close_channel ..

/-- The actions run one after the other from `w`, each where it can. -/
def runs (w : World) : List Action → Option World
  | [] => some w
  | a :: as => (exec w a).bind (runs · as)

theorem runs_append (w : World) (as bs : List Action) : runs w (as ++ bs) = (runs w as).bind (runs · bs) := by
  induction as generalizing w with
  | nil => rfl
  | cons a as ih =>
    show (exec w a).bind (runs · (as ++ bs)) = ((exec w a).bind (runs · as)).bind (runs · bs)
    simp only [ih, Option.bind_assoc]

theorem runs_reach {c : Config} {w w' : World} (h : Reach c w) :
    ∀ {as : List Action}, runs w as = some w' → Reach c w'
  | [], hr => by cases hr; exact h
  | a :: as, hr => by
    simp only [runs, Option.bind_eq_some] at hr
    obtain ⟨w1, h1, h2⟩ := hr
    exact runs_reach (h.step (exec_step h1)) h2

/-- A run `runs` evaluates, of actions that all satisfy `P`, is a run of the relation. -/
theorem runs_run {P : Action → Prop} {w w' : World} :
    ∀ {as : List Action}, (∀ a ∈ as, P a) → runs w as = some w' → Run P w w'
  | [], _, hr => by cases hr; exact .refl w
  | a :: as, hp, hr => by
    simp only [runs, Option.bind_eq_some] at hr
    obtain ⟨w1, h1, h2⟩ := hr
    exact .step (exec_step h1) (hp a (.head _)) (runs_run (fun b hb => hp b (.tail _ hb)) h2)

end pywssocks.server
