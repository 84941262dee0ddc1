-- The laws of the client registries: who is in `_clients`, `_token_clients` and
-- `_forward_clients`, and what `remove_token` and a session's end take out of them.
import Pywssocks.Exec

namespace pywssocks.server.clients

open Frame

variable {c : Config} {w w' : World} {a : Action}

/-! ## Client ids -/

/-- What a step does to the logins: it keeps them, or gives the session of `ws`, which stood
at its auth message, a login with the next client id. -/
theorem step_logins (h : Step w a w') :
    (w'.login = w.login ∧ w.uuids ≤ w'.uuids) ∨
    (∃ ws l, w.session ws = some .auth ∧ l.client_id = w.uuids ∧
      w'.login = Function.update w.login ws (some l) ∧ w'.uuids = w.uuids + 1) := by
  cases ha : a.session
  · have hq := h.quiet ha
    exact .inl ⟨hq.logins, Nat.le_of_eq hq.uuids.symm⟩
  cases h <;> try (cases ha; done)
  case connect =>
    refine .inl ⟨?_, Nat.le_refl _⟩
    rw [login_of_session (session_spawn w _)]
    exact Function.update_eq_self_iff.mpr (by simp [World.login, World.session, List.getElem?_eq_none, SessionPhase.login])
  case auth ws f hi =>
    have hi' := session_eq_some.mpr hi
    rcases _handle_websocket_cases w ws f with ⟨t, p, -, -, e⟩ | ⟨t, -, e⟩ | ⟨u, hu, e⟩ <;> rw [e]
    · obtain ⟨-, hs, hu⟩ := registerClient_session hi' t p
      exact .inr ⟨ws, _, hi', rfl, login_of_session hs, hu⟩
    · exact .inr ⟨ws, _, hi', rfl, login_of_session (set_session hi' _).2, rfl⟩
    · exact .inl ⟨login_set_session hi rfl, hu⟩
  case send_ok hi => exact .inl ⟨login_set_session hi rfl, Nat.le_refl _⟩
  case frame ws l f hi =>
    obtain ⟨-, hu, e | e⟩ := _message_dispatcher_cases w ws l f
    · exact .inl ⟨by funext j; simp [World.login, World.session, e], Nat.le_of_eq hu.symm⟩
    · rw [e]; exact .inl ⟨login_set_session hi rfl, Nat.le_refl _⟩
  case hangup_auth hi => exact .inl ⟨login_set_session hi rfl, Nat.le_refl _⟩
  case hangup_sending hi => exact .inl ⟨login_set_session hi rfl, Nat.le_refl _⟩
  case hangup_serving hi => exact .inl ⟨login_set_session hi rfl, Nat.le_refl _⟩
  case finish hi => exact .inl ⟨login_set_session hi rfl, Nat.le_refl _⟩

/-- A login, once given, stays. -/
theorem login_kept (h : Step w a w') {ws : Nat} {l : Login} (e : w.login ws = some l) : w'.login ws = some l := by
  rcases step_logins h with ⟨hl, -⟩ | ⟨ws₀, l₀, hi, -, hl, -⟩
  · rw [hl, e]
  · have hne : ws ≠ ws₀ := by rintro rfl; simp [World.login, hi, SessionPhase.login] at e
    rw [hl, Function.update_noteq hne, e]

/-- Every login carries an id `uuid4()` already handed out, and no two sessions share one. -/
structure LoginsGood (w : World) : Prop where
  fresh : ∀ ws l, w.login ws = some l → l.client_id < w.uuids
  unique : ∀ ws₁ ws₂ l₁ l₂, w.login ws₁ = some l₁ → w.login ws₂ = some l₂ →
    l₁.client_id = l₂.client_id → ws₁ = ws₂

theorem LoginsGood.step (hg : LoginsGood w) (h : Step w a w') : LoginsGood w' := by
  rcases step_logins h with ⟨hl, hu⟩ | ⟨ws, l, hi, hc, hl, hu⟩
  · exact ⟨fun ws l e => Nat.lt_of_lt_of_le (hg.fresh ws l (hl ▸ e)) hu,
      fun ws₁ ws₂ l₁ l₂ e₁ e₂ => hg.unique ws₁ ws₂ l₁ l₂ (hl ▸ e₁) (hl ▸ e₂)⟩
  · have old : ∀ j m, w'.login j = some m → j ≠ ws → w.login j = some m := fun j m e hj => by
      rwa [hl, Function.update_noteq hj] at e
    have new : ∀ m, w'.login ws = some m → m = l := fun m e => by simpa [hl] using e.symm
    refine ⟨fun j m e => ?_, fun j₁ j₂ m₁ m₂ e₁ e₂ hc' => ?_⟩
    · by_cases hj : j = ws
      · subst hj; rw [new m e]; omega
      · have := hg.fresh j m (old j m e hj); omega
    · by_cases h₁ : j₁ = ws <;> by_cases h₂ : j₂ = ws
      · rw [h₁, h₂]
      · subst h₁; have := hg.fresh _ _ (old j₂ m₂ e₂ h₂); rw [new m₁ e₁] at hc'; omega
      · subst h₂; have := hg.fresh _ _ (old j₁ m₁ e₁ h₁); rw [new m₂ e₂] at hc'; omega
      · exact hg.unique j₁ j₂ m₁ m₂ (old j₁ m₁ e₁ h₁) (old j₂ m₂ e₂ h₂) hc'

theorem LoginsGood.reach (hr : Reach c w) : LoginsGood w := by
  induction hr with
  | init => exact ⟨by simp [World.init, World.login, World.session], by simp [World.init, World.login, World.session]⟩
  | step _ hs ih => exact ih.step hs

/-! ## Forward clients -/

/-- Every item of `_forward_clients` is a session that authenticated in forward mode, with a
token still in `_forward_tokens`. -/
def FwdGood (w : World) : Prop :=
  ∀ cid ws, (cid, ws) ∈ w.server.forward_clients →
    ∃ t, w.login ws = some ⟨cid, t, false⟩ ∧ w.server.forward_tokens t = true

theorem FwdGood.of_frame (hg : FwdGood w) (hf : w'.server.forward_clients = w.server.forward_clients)
    (ht : ∀ t, w.server.forward_tokens t = true → w'.server.forward_tokens t = true)
    (hl : ∀ ws l, w.login ws = some l → w'.login ws = some l) : FwdGood w' := by
  intro cid ws hm
  obtain ⟨t, e, h⟩ := hg cid ws (hf ▸ hm)
  exact ⟨t, hl _ _ e, ht t h⟩

theorem FwdGood.step (hg : FwdGood w) (h : Step w a w') : FwdGood w' := by
  have hl : ∀ ws l, w.login ws = some l → w'.login ws = some l := fun _ _ => login_kept h
  have hf := h.forward_kept
  cases h
  case add_forward_token t d =>
    refine hg.of_frame rfl (fun t' h' => ?_) hl
    by_cases e : t' = tokenOf t d <;> simp [add_forward_token, e, h']
  case remove_token t =>
    rcases remove_token_cases w t with e | ⟨p, -, e⟩ | ⟨-, -, e⟩ <;> simp only [e] at hl ⊢
    · exact hg
    · exact hg.of_frame rfl (fun _ h => h) hl
    · intro cid ws hm; simp [removeForward] at hm
  case auth ws f hi =>
    rcases _handle_websocket_cases w ws f with ⟨t, p, -, -, e⟩ | ⟨t, ht, e⟩ | ⟨u, -, e⟩ <;> simp only [e] at hl ⊢
    · exact hg.of_frame (by rw [registerClient_server]; rfl) (fun _ h => by rw [registerClient_server]; exact h) hl
    · intro cid ws' hm
      simp only [List.mem_append, List.mem_singleton, Prod.mk.injEq] at hm
      rcases hm with hm | ⟨rfl, rfl⟩
      · obtain ⟨t', e', h'⟩ := hg cid ws' hm
        exact ⟨t', hl _ _ e', h'⟩
      · refine ⟨t, ?_, ht⟩
        change (w.setTask _ (.session (.sending ⟨w.uuids, t, false⟩))).login _ = _
        rw [login_of_session (set_session (session_eq_some.mpr hi) _).2]
        simp [SessionPhase.login]
    · exact hg.of_frame rfl (fun _ h => h) hl
  all_goals exact hg.of_frame (hf rfl).1 (fun _ h => (hf rfl).2 ▸ h) hl

theorem FwdGood.reach (hr : Reach c w) : FwdGood w := by
  induction hr with
  | init => intro cid ws hm; simp [World.init] at hm
  | step _ hs ih => exact ih.step hs

/-- Every item of `_forward_clients` is the client id and websocket of a session that
authenticated in forward mode, with a token still in `_forward_tokens`. -/
theorem forward_clients_authenticated (hr : Reach c w) {cid ws : Nat} (hm : (cid, ws) ∈ w.server.forward_clients) :
    ∃ t, w.login ws = some ⟨cid, t, false⟩ ∧ w.server.forward_tokens t = true :=
  FwdGood.reach hr cid ws hm

theorem forward_clients_authenticated_run :
    ∃ w, runs (World.init ⟨[1080], true, 30⟩)
        [.add_forward_token (some "t") "", .serve, .connect, .auth 0 (some (authMessage "t" false))] = some w ∧
      ∃ t, w.login 0 = some ⟨0, t, false⟩ ∧ w.server.forward_tokens t = true :=
  have hw : runs (World.init ⟨[1080], true, 30⟩)
      [.add_forward_token (some "t") "", .serve, .connect, .auth 0 (some (authMessage "t" false))] = some _ := rfl
  ⟨_, hw, forward_clients_authenticated (runs_reach .init hw) (by decide)⟩

/-- A forward session ends and its cleanup leaves it in `_forward_clients`; a removed forward
token evicts a session that still runs. -/
theorem forward_clients_not_live_sessions :
    (runs (World.init ⟨[1080], true, 30⟩)
        [.add_forward_token (some "t") "", .serve, .connect, .auth 0 (some (authMessage "t" false)),
          .send_ok 0, .hangup 0, .finish 0]).map
      (fun w => (w.tasks[0]?, w.server.forward_clients)) =
      some (some (.session (.done (some ⟨0, "t", false⟩))), [(0, 0)]) ∧
    (runs (World.init ⟨[1080], true, 30⟩)
        [.add_forward_token (some "t") "", .serve, .connect, .auth 0 (some (authMessage "t" false)),
          .send_ok 0, .remove_token "t"]).map
      (fun w => (w.tasks[0]?, w.server.forward_clients)) =
      some (some (.session (.serving ⟨0, "t", false⟩)), []) := by
  decide

/-! ## Removing a token -/

/-- A step that does not add `t` keeps it out of both sets. -/
theorem step_keeps_out {t : String} (h : Step w a w') (ha : a.adds t = false)
    (h0 : w.server.tokens t = none ∧ w.server.forward_tokens t = false) :
    w'.server.tokens t = none ∧ w'.server.forward_tokens t = false := by
  have hadm := h.same_admin
  cases h
  case add_reverse_token token d p u pw k =>
    have hne : tokenOf token d ≠ t := by simpa [Action.adds] using ha
    rcases add_reverse_token_cases w token d p u pw k with e | ⟨_, e⟩ | ⟨_, _, -, -, e⟩ <;> rw [e]
    · exact h0
    · exact h0
    · simp [registerReverse_server, reverseEntries, Function.update_noteq (Ne.symm hne), h0]
  case add_forward_token token d =>
    have hne : tokenOf token d ≠ t := by simpa [Action.adds] using ha
    simp [add_forward_token, Function.update_noteq (Ne.symm hne), h0]
  case remove_token t' =>
    rcases remove_token_cases w t' with e | ⟨p, -, e⟩ | ⟨-, -, e⟩ <;> rw [e]
    · exact h0
    · rcases eq_or_ne t t' with rfl | ht
      · simp [removeReverse, h0]
      · simp [removeReverse, ht, h0]
    · rcases eq_or_ne t t' with rfl | ht
      · simp [removeForward, h0]
      · simp [removeForward, ht, h0]
  all_goals exact (hadm rfl).tokens ▸ (hadm rfl).forward_tokens ▸ h0

theorem run_keeps_out {t : String} (r : Run (fun a => a.adds t = false) w w')
    (h0 : w.server.tokens t = none ∧ w.server.forward_tokens t = false) :
    w'.server.tokens t = none ∧ w'.server.forward_tokens t = false := by
  induction r with
  | refl => exact h0
  | step hs ha _ ih => exact ih (step_keeps_out hs ha h0)

theorem setAuth_noteq {auth : String → Option (String × String)} {t t' : String} (h : t' ≠ t)
    (u pw : Option String) : setAuth auth t u pw t' = auth t' := by
  unfold setAuth; split
  · exact Function.update_noteq h _ _
  · rfl

/-- A step other than `remove_token(t)` keeps a reverse token `t` on its port with its SOCKS
credentials: `add_reverse_token` of a token it has returns before it writes anything. -/
theorem step_keeps_in {t : String} {p : Nat} (h : Step w a w') (ha : a ≠ .remove_token t)
    (h0 : w.server.tokens t = some p) :
    w'.server.tokens t = some p ∧ w'.server.socks_auth t = w.server.socks_auth t := by
  have hadm := h.same_admin
  cases h
  case add_reverse_token token d port u pw k =>
    rcases add_reverse_token_cases w token d port u pw k with e | ⟨_, e⟩ | ⟨_, _, hn, -, e⟩ <;> rw [e]
    · exact ⟨h0, rfl⟩
    · exact ⟨h0, rfl⟩
    · have hne : t ≠ tokenOf token d := by rintro rfl; rw [h0] at hn; cases hn
      refine ⟨by rw [registerReverse_tokens, Function.update_noteq hne]; exact h0, ?_⟩
      rw [registerReverse_server]; exact setAuth_noteq hne u pw
  case remove_token t' =>
    have hne : t ≠ t' := by rintro rfl; exact ha rfl
    rcases remove_token_cases w t' with e | ⟨_, -, e⟩ | ⟨-, -, e⟩ <;> rw [e]
    · exact ⟨h0, rfl⟩
    · exact ⟨by simp [removeReverse, hne, h0], by simp [removeReverse, hne]⟩
    · exact ⟨h0, rfl⟩
  case add_forward_token => exact ⟨h0, rfl⟩
  all_goals exact ⟨(hadm rfl).tokens ▸ h0, by rw [(hadm rfl).socks_auth]⟩

theorem run_keeps_in {t : String} {p : Nat} (r : Run (fun a => a ≠ .remove_token t) w w')
    (h0 : w.server.tokens t = some p) :
    w'.server.tokens t = some p ∧ w'.server.socks_auth t = w.server.socks_auth t := by
  induction r with
  | refl => exact ⟨h0, rfl⟩
  | step hs ha _ ih =>
    obtain ⟨h1, h2⟩ := step_keeps_in hs ha h0
    obtain ⟨h3, h4⟩ := ih h1
    exact ⟨h3, h4.trans h2⟩

/-- `add_reverse_token` is idempotent by token over any run: once `t` is a reverse token on
port `p`, every later state reached without `remove_token(t)` has it on `p` with the SOCKS
credentials it had, and `add_reverse_token(t, ...)` there returns `(t, p)` and changes
nothing, whatever port and credentials it is given. -/
theorem reverse_token_idempotent {t : String} {p : Nat} (h0 : w.server.tokens t = some p)
    (r : Run (fun a => a ≠ .remove_token t) w w') :
    w'.server.tokens t = some p ∧ w'.server.socks_auth t = w.server.socks_auth t ∧
      ∀ d port u pw k, add_reverse_token w' (some t) d port u pw k = (some (t, p), w') := by
  obtain ⟨h1, h2⟩ := run_keeps_in r h0
  exact ⟨h1, h2, fun d port u pw k => by simp [add_reverse_token, tokenOf, h1]⟩

/-- A token added with credentials, then added again after `serve()` with another port and no
credentials, keeps its first port and its credentials. -/
theorem reverse_token_idempotent_readd :
    ∃ w₀ w₁, runs (World.init ⟨[1080, 1081], true, 30⟩)
        [.add_reverse_token (some "t") "" none (some "u") (some "pw") 0] = some w₀ ∧
      runs w₀ [.serve, .add_reverse_token (some "t") "" (some 1081) none none 0] = some w₁ ∧
      (w₁.server.tokens "t" = some 1080 ∧ w₁.server.socks_auth "t" = w₀.server.socks_auth "t" ∧
        ∀ d port u pw k, add_reverse_token w₁ (some "t") d port u pw k = (some ("t", 1080), w₁)) := by
  have h₀ : runs (World.init ⟨[1080, 1081], true, 30⟩)
      [.add_reverse_token (some "t") "" none (some "u") (some "pw") 0] = some _ := rfl
  have h₁ : runs (add_reverse_token (World.init ⟨[1080, 1081], true, 30⟩) (some "t") "" none (some "u") (some "pw") 0).2
      [.serve, .add_reverse_token (some "t") "" (some 1081) none none 0] = some _ := rfl
  refine ⟨_, _, h₀, h₁, reverse_token_idempotent rfl (runs_run (fun a ha => ?_) h₁)⟩
  simp only [List.mem_cons, List.mem_singleton, List.not_mem_nil, or_false] at ha
  rcases ha with rfl | rfl <;> nofun

/-- No forward client's session authenticated with a token outside `_forward_tokens`. -/
theorem not_forward_client (hr : Reach c w) {ws : Nat} {l : Login} (e : w.login ws = some l)
    (hf : w.server.forward_tokens l.token = false) : isForwardClient w.server l.client_id = false := by
  by_contra hc
  obtain ⟨⟨cid, ws'⟩, hm, hcid⟩ := List.any_eq_true.mp (Bool.not_eq_false _ |>.mp hc)
  obtain ⟨t, e', ht⟩ := FwdGood.reach hr cid ws' hm
  have hcid : cid = l.client_id := by simpa using hcid
  have := (LoginsGood.reach hr).unique ws' ws _ l e' e hcid
  subst this
  rw [e] at e'
  cases e'
  rw [hf] at ht
  cases ht

/-- Unless `t` was in both sets, a `remove_token(t)` that answers `True` takes it out of both
until it is added again: a second `remove_token(t)` answers `False`, no auth message with `t`
registers a session, and no session that authenticated with `t` has a `connect` frame
handled. -/
theorem removed_token_stays_out {t : String} (hr : Reach c w)
    (hboth : ¬((w.server.tokens t).isSome ∧ w.server.forward_tokens t = true))
    (hrm : (remove_token w t).1 = true) (run : Run (fun a => a.adds t = false) (remove_token w t).2 w') :
    w'.server.tokens t = none ∧ w'.server.forward_tokens t = false ∧ (remove_token w' t).1 = false ∧
      (∀ f p, authResult w'.server f ≠ .reverse t p) ∧ (∀ f, authResult w'.server f ≠ .forward t) ∧
      ∀ ws l f msg, w'.login ws = some l → l.token = t →
        dispatch w'.server.message_queues (isForwardClient w'.server l.client_id) f ≠ .connect msg := by
  have h0 : (remove_token w t).2.server.tokens t = none ∧ (remove_token w t).2.server.forward_tokens t = false := by
    rcases remove_token_cases w t with e | ⟨p, hp, e⟩ | ⟨ht, -, e⟩ <;> rw [e] at hrm ⊢
    · cases hrm
    · simp_all [removeReverse]
    · simp [removeForward, ht]
  obtain ⟨h1, h2⟩ := run_keeps_out run h0
  have hr' := run.reach (hr.step (.remove_token w t))
  refine ⟨h1, h2, by simp [remove_token, h1, h2], fun f p e => ?_, fun f e => ?_, fun ws l f msg e ht he => ?_⟩
  · simp [authResult_reverse e] at h1
  · simp [authResult_forward e] at h2
  · have := not_forward_client hr' e (ht ▸ h2)
    rw [this] at he
    cases dispatch_connect he

theorem removed_token_stays_out_once :
    (remove_token (remove_token (add_reverse_token (World.init ⟨[1080], true, 30⟩)
      (some "t") "" none none none 0).2 "t").2 "t").1 = false :=
  (removed_token_stays_out (.step .init (.add_reverse_token ..)) (by decide) (by decide) (.refl _)).2.2.1

/-- Reusing one string as a reverse and a forward token: `remove_token` takes the reverse
branch only and answers `True`, the string stays a forward token, and a second
`remove_token` answers `True` again. -/
theorem token_in_both_survives_remove :
    (runs (World.init ⟨[1080], true, 30⟩)
        [.add_reverse_token (some "t") "" none none none 0, .add_forward_token (some "t") ""]).map
      (fun w => ((remove_token w "t").1, (remove_token w "t").2.server.forward_tokens "t",
        (remove_token (remove_token w "t").2 "t").1)) = some (true, true, true) := by
  decide

/-- Two forward tokens, a session on each: removing `"a"` evicts the session of `"b"` too and
schedules the close of its websocket. -/
theorem forward_remove_evicts_other_token :
    (runs (World.init ⟨[1080], true, 30⟩)
        [.add_forward_token (some "a") "", .add_forward_token (some "b") "", .serve,
          .connect, .auth 0 (some (authMessage "a" false)), .send_ok 0,
          .connect, .auth 1 (some (authMessage "b" false)), .send_ok 1, .remove_token "a"]).map
      (fun w => (w.tasks[1]?, w.server.forward_clients, w.closes.map Prod.fst)) =
      some (some (.session (.serving ⟨1, "b", false⟩)), [], [0, 1]) := by
  decide

end pywssocks.server.clients
