-- The reverse registry (`add_reverse_token`, `remove_token`, server.py 239-375): tokens, their locks and credentials, the client
-- lists with their cursors, `_clients`, and the supervisors in `_socks_tasks`. It stays
-- consistent over every interleaving, but for the clients of the empty token, whose
-- cleanup returns at once.
import Pywssocks.Ports
import Pywssocks.Clients
import Mathlib.Data.List.Nodup

namespace pywssocks.server.registry

open clients ports

variable {c : Config} {w w' : World} {a : Action}

/-- The reverse registry is consistent: (a) `locks`, `auth`, `pending`; (b) `lists`;
(c) `indexes`; (d) `entry` and `client`, the liveness for nonempty tokens only; (e)
`socks_tasks`; and every token with clients has a supervisor recorded for its port. -/
structure RegGood (w : World) : Prop where
  locks : ∀ t, w.server.token_locks t = (w.server.tokens t).isSome
  auth : ∀ t, (w.server.socks_auth t).isSome → (w.server.tokens t).isSome
  pending : ∀ t ∈ w.server.pending_tokens, (w.server.tokens t).isSome
  pending_nodup : w.server.pending_tokens.Nodup
  lists : ∀ t cs, w.server.token_clients t = some cs →
    (w.server.tokens t).isSome ∧ cs ≠ [] ∧ (cs.map Prod.fst).Nodup
  indexes : ∀ t, (w.server.token_indexes t).isSome → (w.server.token_clients t).isSome
  entry : ∀ t cs cid ws, w.server.token_clients t = some cs → (cid, ws) ∈ cs →
    w.login ws = some ⟨cid, t, true⟩ ∧ w.server.clients cid = some ws ∧ (t ≠ "" → w.live ws = true)
  client : ∀ cid ws, w.server.clients cid = some ws →
    ∃ t cs, w.server.token_clients t = some cs ∧ (cid, ws) ∈ cs
  socks_tasks : ∀ p i, w.server.socks_tasks p = some i →
    ∃ t, w.role i = some (.supervisor t p) ∧ w.server.tokens t = some p
  supervised : ∀ t cs p, w.server.token_clients t = some cs → w.server.tokens t = some p →
    (w.server.socks_tasks p).isSome

theorem init_reg (c : Config) : RegGood (World.init c) where
  locks := by simp [World.init]
  auth := by simp [World.init]
  pending := by simp [World.init]
  pending_nodup := by simp [World.init]
  lists := by simp [World.init]
  indexes := by simp [World.init]
  entry := by simp [World.init]
  client := by simp [World.init]
  socks_tasks := by simp [World.init]
  supervised := by simp [World.init]

/-- A step that leaves the registry and the admin fields alone, keeps every task's role, and
moves no session with a login but with its login and liveness. -/
theorem RegGood.of_frame (hg : RegGood w) (hs : SameReverse w.server w'.server) (ha : SameAdmin w.server w'.server)
    (hr : RolesKept w w')
    (hl : ∀ ws l, w.login ws = some l → w'.login ws = some l ∧ (l.token ≠ "" → w'.live ws = w.live ws)) :
    RegGood w' where
  locks t := by rw [ha.token_locks, ha.tokens]; exact hg.locks t
  auth t := by rw [ha.socks_auth, ha.tokens]; exact hg.auth t
  pending t := by rw [hs.pending_tokens, ha.tokens]; exact hg.pending t
  pending_nodup := hs.pending_tokens ▸ hg.pending_nodup
  lists t cs := by rw [hs.token_clients, ha.tokens]; exact hg.lists t cs
  indexes t := by rw [hs.token_indexes, hs.token_clients]; exact hg.indexes t
  entry t cs cid ws e hm := by
    rw [hs.token_clients] at e
    obtain ⟨h1, h2, h3⟩ := hg.entry t cs cid ws e hm
    exact ⟨(hl _ _ h1).1, hs.clients ▸ h2, fun ht => (hl _ _ h1).2 ht ▸ h3 ht⟩
  client cid ws e := by rw [hs.clients] at e; rw [hs.token_clients]; exact hg.client cid ws e
  socks_tasks p i e := by
    rw [hs.socks_tasks] at e
    obtain ⟨t, h1, h2⟩ := hg.socks_tasks p i e
    exact ⟨t, hr i _ h1, ha.tokens ▸ h2⟩
  supervised t cs p := by rw [hs.token_clients, ha.tokens, hs.socks_tasks]; exact hg.supervised t cs p

/-! ## Supervisors started -/

/-- Starting the port's supervisor for a token on that port keeps the registry. -/
theorem RegGood.of_spawn (hg : RegGood w) {t : String} {p : Nat} (ht : w.server.tokens t = some p) :
    RegGood (spawnSupervisor w t p) := by
  have hq := spawnSupervisor_quiet w t p
  have hs : ∀ q, (spawnSupervisor w t p).server.socks_tasks q =
      if q = p then some w.tasks.length else w.server.socks_tasks q := fun q => by
    by_cases hq : q = p <;> simp [spawnSupervisor, hq]
  exact
    { locks := hg.locks, auth := hg.auth, pending := hg.pending, pending_nodup := hg.pending_nodup
      lists := hg.lists, indexes := hg.indexes, client := hg.client
      entry := fun t' cs cid ws e hm => by
        obtain ⟨h1, h2, h3⟩ := hg.entry t' cs cid ws e hm
        exact ⟨hq.logins ▸ h1, h2, fun h => by simpa [World.live, hq.sessions] using h3 h⟩
      socks_tasks := fun q i e => by
        rw [hs] at e
        split at e
        · cases e; subst_vars
          exact ⟨t, by simp [World.role, spawnSupervisor, Task.role], ht⟩
        · obtain ⟨t', h1, h2⟩ := hg.socks_tasks q i e
          exact ⟨t', hq.roles i _ h1, h2⟩
      supervised := fun t' cs q e h' => by
        rw [hs]; split
        · rfl
        · exact hg.supervised t' cs q e h' }

theorem RegGood.quiet (hg : RegGood w) (hq : Quiet w w') (hs : SameRegistry w.server w'.server)
    (ha : SameAdmin w.server w'.server) : RegGood w' :=
  hg.of_frame hs.reverse ha hq.roles fun _ _ e => ⟨hq.logins ▸ e, fun _ => by simp [World.live, hq.sessions]⟩

theorem RegGood.of_pending_token (hg : RegGood w) {t : String} (h : _handle_pending_token w t = some w') :
    RegGood w' := by
  unfold _handle_pending_token at h
  split at h
  · cases h; exact hg
  · split at h
    · cases h
    · split at h
      · rename_i p hp
        split at h
        · cases h; exact hg.of_spawn hp
        · cases h; exact hg
      · cases h; exact hg

theorem RegGood.of_servePending (hg : RegGood w) (ts : List String) : RegGood (servePending w ts).1 := by
  induction ts generalizing w with
  | nil => exact hg
  | cons t ts ih =>
    simp only [servePending]
    split
    · exact ih (hg.of_pending_token ‹_›)
    · exact hg

theorem RegGood.of_serveStart (hg : RegGood w) : RegGood (serveStart w) := by
  have h := (show RegGood { w with server := { w.server with loop := true } } from { hg with }).of_servePending
    w.server.pending_tokens
  unfold serveStart; dsimp only; split
  · exact { h with pending := by simp, pending_nodup := by simp }
  · exact { h with }

/-! ## Handlers -/

/-- The round robin only moves the cursor of a token with clients. -/
theorem RegGood.of_cursor (hg : RegGood w) {t : String} {r : Option Nat} {s : WSSocksServer}
    (hs : _get_next_websocket w.server t = some (r, s)) : RegGood { w with server := s } := by
  rcases _get_next_websocket_spec hs with rfl | ⟨c0, cs, k, hc, rfl⟩
  · exact { hg with }
  · refine { hg with indexes := fun t' h => ?_ }
    rcases eq_or_ne t' t with rfl | e
    · simp [hc]
    · simp only [Function.update_noteq e] at h ⊢; exact hg.indexes t' h

theorem RegGood.of_select (hg : RegGood w) {i : Nat} {t : String} {sup : Nat} {ph : HandlerPhase} {c : Bool}
    (hi : w.tasks[i]? = some (.handler t sup ph c)) : RegGood (selectStep w i t sup) := by
  have hq : ∀ ph', RegGood (w.setTask i (.handler t sup ph' false)) := fun _ =>
    hg.quiet (quiet_setTask hi rfl rfl rfl rfl) (.refl _) (.refl _)
  unfold selectStep
  split
  · exact (hq _).of_cursor ‹_›
  · exact (hq _).of_cursor ‹_›
  · exact hq _

theorem RegGood.of_handlerStep (hg : RegGood w) {i : Nat} {t : String} {sup : Nat} {ph : HandlerPhase} {c : Bool}
    (hi : w.tasks[i]? = some (.handler t sup ph c)) (ph' : HandlerPhase) : RegGood (handlerStep w i t sup ph') := by
  have hq : ∀ ph'', RegGood (w.setTask i (.handler t sup ph'' false)) := fun _ =>
    hg.quiet (quiet_setTask hi rfl rfl rfl rfl) (.refl _) (.refl _)
  cases ph' <;> simp only [handlerStep]
  case start => split
                · exact hg.of_select hi
                · exact hq _
  case waiting => split
                  · split
                    · exact hg.of_select hi
                    · exact hg
                  · exact hq _
  all_goals exact hg

/-! ## Admin calls -/

theorem RegGood.of_registerReverse (hg : RegGood w) {t : String} {p : Nat} (ht : w.server.tokens t = none)
    (u pw : Option String) : RegGood (registerReverse w t p u pw) := by
  have hq := registerReverse_quiet w t p u pw
  have hs := registerReverse_server w t p u pw
  have htok : ∀ t', (registerReverse w t p u pw).server.tokens t' =
      if t' = t then some p else w.server.tokens t' := fun t' => by
    rcases eq_or_ne t' t with rfl | e <;> simp [hs, reverseEntries, *]
  have hold : ∀ t' q, w.server.tokens t' = some q → (registerReverse w t p u pw).server.tokens t' = some q :=
    fun t' q e => by rw [htok, if_neg (by rintro rfl; simp [ht] at e)]; exact e
  have hno : w.server.token_clients t = none := by
    cases e : w.server.token_clients t with
    | none => rfl
    | some cs => simpa [ht] using (hg.lists t cs e).1
  have hpend : t ∉ w.server.pending_tokens := fun hm => by simpa [ht] using hg.pending t hm
  have htc : (registerReverse w t p u pw).server.token_clients = w.server.token_clients := by rw [hs]; rfl
  have hti : (registerReverse w t p u pw).server.token_indexes = w.server.token_indexes := by rw [hs]; rfl
  have hcl : (registerReverse w t p u pw).server.clients = w.server.clients := by rw [hs]; rfl
  have hst : (registerReverse w t p u pw).server.socks_tasks = w.server.socks_tasks := by rw [hs]; rfl
  refine
    { locks := fun t' => ?_
      auth := fun t' h => ?_
      pending := fun t' hm => ?_
      pending_nodup := ?_
      lists := fun t' cs e => ?_
      indexes := fun t' => by rw [hti, htc]; exact hg.indexes t'
      entry := fun t' cs cid ws e hm => ?_
      client := fun cid ws => by rw [hcl, htc]; exact hg.client cid ws
      socks_tasks := fun q i e => ?_
      supervised := fun t' cs q e h' => ?_ }
  · rw [htok]; rcases eq_or_ne t' t with rfl | e <;> simp [hs, reverseEntries, hg.locks, *]
  · rw [hs] at h
    rcases setAuth_isSome h with rfl | h
    · simp [htok]
    · rw [htok]; split <;> simp [hg.auth t' h]
  · rw [hs] at hm
    rw [htok]; split
    · rfl
    · rename_i hne
      refine hg.pending t' ?_
      split at hm
      · exact hm
      · simpa [hne] using hm
  · rw [hs]; split
    · exact hg.pending_nodup
    · exact List.nodup_append.mpr ⟨hg.pending_nodup, List.nodup_singleton _, List.disjoint_singleton.mpr hpend⟩
  · rw [htc] at e
    obtain ⟨h1, h2⟩ := hg.lists t' cs e
    obtain ⟨q, hq'⟩ := Option.isSome_iff_exists.mp h1
    exact ⟨by rw [hold t' q hq']; rfl, h2⟩
  · rw [htc] at e
    obtain ⟨h1, h2, h3⟩ := hg.entry t' cs cid ws e hm
    exact ⟨hq.logins ▸ h1, hcl ▸ h2, fun h => by simpa [World.live, hq.sessions] using h3 h⟩
  · rw [hst] at e
    obtain ⟨t', h1, h2⟩ := hg.socks_tasks q i e
    exact ⟨t', hq.roles i _ h1, hold t' q h2⟩
  · rw [htc] at e
    rw [htok] at h'
    rw [hst]
    split at h'
    · subst_vars; simp [hno] at e
    · exact hg.supervised t' cs q e h'

theorem RegGood.of_add_reverse_token (hg : RegGood w) (token : Option String) (drawn : String) (port : Option Nat)
    (u pw : Option String) (pick : Nat) : RegGood (add_reverse_token w token drawn port u pw pick).2 := by
  rcases add_reverse_token_cases w token drawn port u pw pick with e | ⟨_, e⟩ | ⟨p, pool, ht, -, e⟩ <;> rw [e]
  · exact hg
  · exact { hg with }
  · exact RegGood.of_registerReverse
      (show RegGood { w with server := { w.server with socks_port_pool := pool } } from { hg with }) ht u pw

/-- A client id is in a token's list exactly when its entry is of that token. -/
theorem RegGood.mem_ids_iff (hg : RegGood w) (hL : LoginsGood w) {t t' : String} {cs : List (Nat × Nat)}
    {cid ws : Nat} (e : w.server.token_clients t' = some cs) (hm : (cid, ws) ∈ cs) :
    cid ∈ ((w.server.token_clients t).getD []).map Prod.fst ↔ t' = t := by
  constructor
  · intro hc
    obtain ⟨⟨cid', ws'⟩, hm', rfl⟩ := List.mem_map.mp hc
    cases e' : w.server.token_clients t with
    | none => simp [e'] at hm'
    | some cs' =>
      rw [e'] at hm'
      have h1 := (hg.entry t cs' _ ws' e' hm').1
      have h2 := (hg.entry t' cs _ ws e hm).1
      have := hL.unique _ _ _ _ h1 h2 rfl
      subst this
      rw [h1] at h2
      cases h2; rfl
  · rintro rfl; rw [e]; exact List.mem_map_of_mem _ hm

/-- Removing a reverse token drops its entries and its clients' ids, and nobody else's. -/
theorem RegGood.of_removeReverse (hg : RegGood w) (hL : LoginsGood w) (hP : PortGood c w) {t : String} {p : Nat}
    (ht : w.server.tokens t = some p) : RegGood (removeReverse w t p) := by
  have hq := removeReverse_quiet w t p
  refine
    { locks := fun t' => ?_
      auth := fun t' h => ?_
      pending := fun t' hm => ?_
      pending_nodup := hg.pending_nodup.erase t
      lists := fun t' cs e => ?_
      indexes := fun t' h => ?_
      entry := fun t' cs cid ws e hm => ?_
      client := fun cid ws e => ?_
      socks_tasks := fun q i e => ?_
      supervised := fun t' cs q e h' => ?_ }
  · rcases eq_or_ne t' t with rfl | e <;> simp [removeReverse, hg.locks, *]
  · rcases eq_or_ne t' t with rfl | e
    · simp [removeReverse] at h
    · simp [removeReverse, Function.update_noteq e] at h ⊢; exact hg.auth t' h
  · have hm' := (hg.pending_nodup.mem_erase_iff).mp hm
    simp [removeReverse, Function.update_noteq hm'.1, hg.pending t' hm'.2]
  · rcases eq_or_ne t' t with rfl | e'
    · simp [removeReverse] at e
    · simp only [removeReverse, Function.update_noteq e'] at e ⊢; exact hg.lists t' cs e
  · rcases eq_or_ne t' t with rfl | e'
    · simp [removeReverse] at h
    · simp only [removeReverse, Function.update_noteq e'] at h ⊢; exact hg.indexes t' h
  · have e' : t' ≠ t := by rintro rfl; simp [removeReverse] at e
    simp only [removeReverse, Function.update_noteq e'] at e
    obtain ⟨h1, h2, h3⟩ := hg.entry t' cs cid ws e hm
    refine ⟨hq.logins ▸ h1, ?_, fun h => by simpa [World.live, hq.sessions] using h3 h⟩
    simp [removeReverse, eraseIds_apply, (hg.mem_ids_iff hL e hm).not.mpr e', h2]
  · simp only [removeReverse, eraseIds_apply] at e
    split at e
    · cases e
    · rename_i hnot
      obtain ⟨t', cs, e', hm⟩ := hg.client cid ws e
      have : t' ≠ t := fun h => hnot ((hg.mem_ids_iff hL e' hm).mpr h)
      exact ⟨t', cs, by simpa [removeReverse, Function.update_noteq this] using e', hm⟩
  · have hqp : q ≠ p := by rintro rfl; simp [removeReverse] at e
    simp only [removeReverse, Function.update_noteq hqp] at e
    obtain ⟨t', h1, h2⟩ := hg.socks_tasks q i e
    have : t' ≠ t := by rintro rfl; rw [ht] at h2; cases h2; exact hqp rfl
    exact ⟨t', hq.roles i _ h1, by simpa [removeReverse, Function.update_noteq this] using h2⟩
  · have e' : t' ≠ t := by rintro rfl; simp [removeReverse] at e
    simp only [removeReverse, Function.update_noteq e'] at e h' ⊢
    have hqp : q ≠ p := fun h => e' (hP.distinct t' t p (h ▸ h') ht)
    simpa [Function.update_noteq hqp] using hg.supervised t' cs q e h'

theorem RegGood.of_remove_token (hg : RegGood w) (hL : LoginsGood w) (hP : PortGood c w) (t : String) :
    RegGood (remove_token w t).2 := by
  rcases remove_token_cases w t with e | ⟨p, hp, e⟩ | ⟨-, -, e⟩ <;> rw [e]
  · exact hg
  · exact hg.of_removeReverse hL hP hp
  · exact { hg with }

/-! ## Sessions -/

/-- A session moves on; one with a login keeps it, and stays as live as it was. -/
theorem RegGood.of_move (hg : RegGood w) {ws : Nat} {ph ph' : SessionPhase} (hi : w.tasks[ws]? = some (.session ph))
    (hv : ph.login ≠ none → ph'.login = ph.login ∧ ph'.live = ph.live) : RegGood (w.setTask ws (.session ph')) := by
  have hs := set_session (session_eq_some.mpr hi) ph'
  refine hg.of_frame ⟨rfl, rfl, rfl, rfl, rfl⟩ ⟨rfl, rfl, rfl, rfl, rfl⟩ hs.1 fun ws' l e => ?_
  rw [login_of_session hs.2, live_of_session hs.2]
  rcases eq_or_ne ws' ws with rfl | hne
  · have e' : ph.login = some l := by simpa [World.login, World.session, hi] using e
    obtain ⟨h1, h2⟩ := hv (by simp [e'])
    simp [h1, h2, e', World.live, World.session, hi, Task.phase]
  · simp [hne, e]

theorem RegGood.of_connect (hg : RegGood w) : RegGood (w.spawn (.session .auth)) := by
  have hs := session_spawn w (.session .auth)
  refine hg.of_frame ⟨rfl, rfl, rfl, rfl, rfl⟩ ⟨rfl, rfl, rfl, rfl, rfl⟩ (roles_spawn w _) fun ws' l e => ?_
  have hne : ws' ≠ w.tasks.length := by
    rintro rfl; simp [World.login, World.session, List.getElem?_eq_none] at e
  rw [login_of_session hs, live_of_session hs]
  simp [hne, e]

/-- The reverse registration: a fresh client id joins its token's list and `_clients`, and
the port's supervisor is started if none is recorded. -/
theorem RegGood.of_register (hg : RegGood w) (hL : LoginsGood w) {ws : Nat} (hi : w.tasks[ws]? = some (.session .auth))
    {t : String} {p : Nat} (ht : w.server.tokens t = some p) : RegGood (registerClient w ws t p) := by
  obtain ⟨hroles, hses, -⟩ := registerClient_session (session_eq_some.mpr hi) t p
  have hs := registerClient_server w ws t p
  have hlog := login_of_session hses
  have hlive := live_of_session hses
  -- an entry already listed is another session's, with an older id, and keeps its rights
  have hent : ∀ t' cid ws', (cid, ws') ∈ (w.server.token_clients t').getD [] → cid < w.uuids ∧
      (registerClient w ws t p).login ws' = some ⟨cid, t', true⟩ ∧
      (registerClient w ws t p).server.clients cid = some ws' ∧
      (t' ≠ "" → (registerClient w ws t p).live ws' = true) := fun t' cid ws' hm => by
    cases e : w.server.token_clients t' with
    | none => simp [e] at hm
    | some cs =>
      rw [e] at hm
      obtain ⟨h1, h2, h3⟩ := hg.entry t' cs cid ws' e hm
      have hne : ws' ≠ ws := by
        rintro rfl; simp [World.login, World.session, hi, Task.phase, SessionPhase.login] at h1
      have hlt := hL.fresh _ _ h1
      exact ⟨hlt, by simp [hlog, hne, h1], by simp [hs, Nat.ne_of_lt hlt, h2],
        fun h => by simp [hlive, hne, h3 h]⟩
  have htc : ∀ t', (registerClient w ws t p).server.token_clients t' =
      if t' = t then some ((w.server.token_clients t).getD [] ++ [(w.uuids, ws)]) else w.server.token_clients t' :=
    fun t' => by rcases eq_or_ne t' t with rfl | e <;> simp [hs, appendClient, *]
  have htk : (registerClient w ws t p).server.tokens = w.server.tokens := by rw [hs]; rfl
  -- the port keeps any supervisor it had, and has one now
  have hsup : ∀ q, ((w.server.socks_tasks q).isSome ∨ q = p) →
      ((registerClient w ws t p).server.socks_tasks q).isSome := fun q h => by
    rw [hs]; dsimp only; split
    · rcases eq_or_ne q p with rfl | hqp
      · simp
      · rw [Function.update_noteq hqp]; exact h.resolve_right hqp
    · rename_i hn; rcases h with h | rfl
      · exact h
      · exact Option.ne_none_iff_isSome.mp hn
  refine
    { locks := by rw [hs]; exact hg.locks
      auth := by rw [hs]; exact hg.auth
      pending := by rw [hs]; exact hg.pending
      pending_nodup := by rw [hs]; exact hg.pending_nodup
      lists := fun t' cs e => ?_
      indexes := fun t' h => ?_
      entry := fun t' cs cid ws' e hm => ?_
      client := fun cid ws' e => ?_
      socks_tasks := fun q i e => ?_
      supervised := fun t' cs q e h' => ?_ }
  · rw [htc] at e
    split at e
    · rename_i htt
      cases e
      have hnd : (((w.server.token_clients t).getD []).map Prod.fst).Nodup := by
        cases e : w.server.token_clients t with
        | none => simp
        | some cs => exact (hg.lists t cs e).2.2
      refine ⟨by rw [htk, htt, ht]; rfl, by simp, ?_⟩
      rw [List.map_append]
      refine List.nodup_append.mpr ⟨hnd, List.nodup_singleton _, List.disjoint_singleton.mpr fun hm => ?_⟩
      obtain ⟨⟨cid, ws'⟩, hm, hc⟩ := List.mem_map.mp hm
      exact absurd hc (Nat.ne_of_lt (hent t cid ws' hm).1)
    · rw [htk]; exact hg.lists t' cs e
  · rw [htc]; split
    · rfl
    · rw [hs] at h; exact hg.indexes t' h
  · rw [htc] at e
    split at e
    · rename_i htt
      subst htt; cases e
      rcases List.mem_append.mp hm with hm | hm
      · exact (hent _ cid ws' hm).2
      · obtain ⟨rfl, rfl⟩ := Prod.mk.inj (List.mem_singleton.mp hm)
        simp [hlog, hlive, hs, SessionPhase.login, SessionPhase.live]
    · exact (hent t' cid ws' (by rw [e]; exact hm)).2
  · rcases eq_or_ne cid w.uuids with rfl | hc
    · rw [hs] at e; simp at e; subst e
      exact ⟨t, _, by rw [htc, if_pos rfl], by simp⟩
    · rw [hs] at e; simp only [Function.update_noteq hc] at e
      obtain ⟨t', cs, e', hm⟩ := hg.client cid ws' e
      refine ⟨t', ?_⟩
      rw [htc]; split
      · subst_vars; exact ⟨_, rfl, List.mem_append_left _ (by rw [e']; exact hm)⟩
      · exact ⟨cs, e', hm⟩
  · rw [htk]
    rw [hs] at e; dsimp only at e
    split at e
    · rename_i hn
      rcases eq_or_ne q p with rfl | hqp
      · simp at e; subst e
        exact ⟨t, by simp [World.role, registerClient_spawned (List.getElem?_eq_some_iff.mp hi).1 t hn,
          Task.role], ht⟩
      · simp only [Function.update_noteq hqp] at e
        obtain ⟨t', h1, h2⟩ := hg.socks_tasks q i e
        exact ⟨t', hroles i _ h1, h2⟩
    · obtain ⟨t', h1, h2⟩ := hg.socks_tasks q i e
      exact ⟨t', hroles i _ h1, h2⟩
  · rw [htk] at h'
    rw [htc] at e
    split at e
    · rename_i htt
      subst htt; rw [ht] at h'; cases h'
      exact hsup _ (.inr rfl)
    · exact hsup q (.inl (hg.supervised t' cs q e h'))

theorem RegGood.of_auth (hg : RegGood w) (hL : LoginsGood w) {ws : Nat} (hi : w.tasks[ws]? = some (.session .auth))
    (f : Option Frame) : RegGood (_handle_websocket w ws f) := by
  have hmove : ∀ ph', RegGood (w.setTask ws (.session ph')) := fun _ => hg.of_move hi (by simp [SessionPhase.login])
  rcases _handle_websocket_cases w ws f with ⟨t, p, ht, -, e⟩ | ⟨t, -, e⟩ | ⟨u, -, e⟩ <;> rw [e]
  · exact hg.of_register hL hi ht
  · exact { hmove (.sending ⟨w.uuids, t, false⟩) with }
  · exact { hmove (.done none) with }

/-- The cleanup of an authenticated session. For the empty token it returns at once, and
only then does a client of a list outlive its session. -/
theorem RegGood.of_finish (hg : RegGood w) (hL : LoginsGood w) {ws : Nat} {ph : SessionPhase} {l : Login}
    (hi : w.tasks[ws]? = some (.session ph)) (hl : ph.login = some l) : RegGood (finishSession w ws l) := by
  obtain ⟨hroles, hses⟩ := finishSession_session (session_eq_some.mpr hi) l
  have hlog : (finishSession w ws l).login = w.login :=
    login_move (session_eq_some.mpr hi) hses hl.symm
  have hlive : ∀ ws', ws' ≠ ws → (finishSession w ws l).live ws' = w.live ws' := fun ws' h => by
    rw [live_of_session hses, Function.update_noteq h]
  have hlw : w.login ws = some l := by simp [World.login, World.session, hi, Task.phase, hl]
  -- an entry is the session's own exactly when it carries the session's client id
  have hkey : ∀ t' cs cid ws', w.server.token_clients t' = some cs → (cid, ws') ∈ cs →
      (cid = l.client_id → ws' = ws) ∧ (ws' = ws → cid = l.client_id ∧ t' = l.token) := by
    intro t' cs cid ws' e hm
    have h1 := (hg.entry t' cs cid ws' e hm).1
    refine ⟨fun hc => hL.unique _ _ _ _ h1 hlw hc, ?_⟩
    rintro rfl; rw [hlw] at h1; cases h1; exact ⟨rfl, rfl⟩
  have hadm := finishSession_admin w ws l
  have hfr := cleanup_frame w.server l.client_id l.token
  by_cases h0 : l.token = ""
  · have he : (finishSession w ws l).server = w.server := by simp [finishSession, _cleanup_connection, h0]
    refine hg.of_frame (by rw [he]; exact ⟨rfl, rfl, rfl, rfl, rfl⟩) (by rw [he]; exact .refl _) hroles
      fun ws' l' e => ⟨hlog ▸ e, fun ht => hlive ws' ?_⟩
    rintro rfl; rw [hlw] at e; cases e; exact ht h0
  · have htc := cleanup_token_clients w.server l.client_id h0
    have hcl := cleanup_clients w.server l.client_id h0
    refine
      { locks := by rw [hadm.token_locks, hadm.tokens]; exact hg.locks
        auth := by rw [hadm.socks_auth, hadm.tokens]; exact hg.auth
        pending := by show ∀ t ∈ (_cleanup_connection _ _ _).pending_tokens, _; rw [hfr.2, hadm.tokens]; exact hg.pending
        pending_nodup := by show (_cleanup_connection _ _ _).pending_tokens.Nodup; rw [hfr.2]; exact hg.pending_nodup
        lists := fun t' cs' e => ?_
        indexes := fun t' h => ?_
        entry := fun t' cs' cid ws' e hm => ?_
        client := fun cid ws' e => ?_
        socks_tasks := fun q i e => ?_
        supervised := fun t' cs' q e h' => ?_ }
    · rw [hadm.tokens]
      show _ ∧ _ ∧ _
      change (_cleanup_connection w.server l.client_id l.token).token_clients t' = some cs' at e
      rw [htc] at e
      split at e
      · rename_i htt
        obtain ⟨cs, e₀, rfl, hne⟩ := cleanup_list_some e
        obtain ⟨h1, -, h3⟩ := hg.lists l.token cs e₀
        exact ⟨htt ▸ h1, hne, h3.sublist ((List.filter_sublist _).map _)⟩
      · exact hg.lists t' cs' e
    · obtain ⟨h1, h2⟩ := cleanup_indexes w.server l.client_id h0 t' h
      exact h2 (hg.indexes t' h1)
    · change (_cleanup_connection w.server l.client_id l.token).token_clients t' = some cs' at e
      obtain ⟨cs, e₀, rfl⟩ := cleanup_list_old w.server h0 e
      -- the entry was in the old list, and is not the session's own
      have hm₀ : (cid, ws') ∈ cs ∧ cid ≠ l.client_id := by
        split at hm
        · exact mem_dropClient.mp hm
        · exact ⟨hm, fun hc => ‹¬t' = l.token› ((hkey t' cs cid ws' e₀ hm).2 ((hkey t' cs cid ws' e₀ hm).1 hc)).2⟩
      obtain ⟨hm₀, hc⟩ := hm₀
      obtain ⟨h1, h2, h3⟩ := hg.entry t' cs cid ws' e₀ hm₀
      have hne : ws' ≠ ws := fun h => hc ((hkey t' cs cid ws' e₀ hm₀).2 h).1
      refine ⟨hlog ▸ h1, ?_, fun h => hlive ws' hne ▸ h3 h⟩
      show (_cleanup_connection w.server l.client_id l.token).clients cid = some ws'
      rw [hcl, Function.update_noteq hc, h2]
    · change (_cleanup_connection w.server l.client_id l.token).clients cid = some ws' at e
      rw [hcl] at e
      rcases eq_or_ne cid l.client_id with rfl | hc
      · simp at e
      · rw [Function.update_noteq hc] at e
        obtain ⟨t', cs, e', hm⟩ := hg.client cid ws' e
        obtain ⟨cs', h1, h2⟩ := cleanup_keeps w.server h0 e' hm hc
        exact ⟨t', cs', h1, h2⟩
    · change (_cleanup_connection w.server l.client_id l.token).socks_tasks q = some i at e
      rw [hfr.1] at e
      obtain ⟨t', h1, h2⟩ := hg.socks_tasks q i e
      exact ⟨t', hroles i _ h1, hadm.tokens ▸ h2⟩
    · change (_cleanup_connection w.server l.client_id l.token).token_clients t' = some cs' at e
      rw [hadm.tokens] at h'
      show ((_cleanup_connection w.server l.client_id l.token).socks_tasks q).isSome
      rw [hfr.1]
      obtain ⟨cs, e₀, -⟩ := cleanup_list_old w.server h0 e
      exact hg.supervised t' cs q e₀ h'

/-! ## Every run -/

theorem RegGood.step (hg : RegGood w) (hL : LoginsGood w) (hP : PortGood c w) (h : Step w a w') : RegGood w' := by
  have hq := h.quiet
  have hr := h.same_registry
  have hadm := h.same_admin
  cases h
  case add_reverse_token => exact hg.of_add_reverse_token ..
  case add_forward_token => exact { hg with }
  case remove_token t => exact hg.of_remove_token hL hP t
  case serve => exact hg.of_serveStart
  case connect => exact hg.of_connect
  case auth ws f hi => exact hg.of_auth hL hi f
  case send_ok hi => exact hg.of_move hi fun _ => ⟨rfl, rfl⟩
  case frame ws l f hi =>
    obtain ⟨hs, hu, e | e⟩ := _message_dispatcher_cases w ws l f
    · exact hg.quiet (.of_tasks e hu) (hs ▸ .refl _) (hs ▸ .refl _)
    · rw [e]; exact hg.of_move hi fun _ => ⟨rfl, rfl⟩
  case hangup_auth hi => exact hg.of_move hi (by simp [SessionPhase.login])
  case hangup_sending hi => exact hg.of_finish hL hi rfl
  case hangup_serving hi => exact hg.of_move hi fun _ => ⟨rfl, rfl⟩
  case finish hi => exact hg.of_finish hL hi rfl
  case handler hi => exact hg.of_handlerStep hi _
  case pending i t hi =>
    cases hp : _handle_pending_token w t with
    | none => exact hg.quiet (quiet_setTask hi rfl rfl rfl rfl) (.refl _) (.refl _)
    | some w₁ =>
      obtain ⟨ts, e⟩ := _handle_pending_token_tasks hp
      have hi₁ : w₁.tasks[i]? = some (.pending t false false) := by
        rw [e, List.getElem?_append_left (List.getElem?_eq_some_iff.mp hi).1, hi]
      exact (hg.of_pending_token hp).quiet (quiet_setTask hi₁ rfl rfl rfl rfl) (.refl _) (.refl _)
  all_goals exact hg.quiet (hq rfl) (hr rfl) (hadm rfl)

theorem RegGood.reach (hr : Reach c w) : RegGood w := by
  induction hr with
  | init => exact init_reg c
  | step hr' hs ih => exact ih.step (LoginsGood.reach hr') (reach_good hr') hs

/-- The round robin on a token with a client list finds the token's lock and returns the
websocket of one of its clients. -/
theorem RegGood.select_finds (hg : RegGood w) {t : String} {cs : List (Nat × Nat)}
    (h : w.server.token_clients t = some cs) :
    ∃ ws s, _get_next_websocket w.server t = some (some ws, s) ∧ ∃ cid, (cid, ws) ∈ cs := by
  obtain ⟨htok, hne, -⟩ := hg.lists t cs h
  obtain ⟨c0, cs', rfl⟩ := List.exists_cons_of_ne_nil hne
  have hl : w.server.token_locks t = true := by rw [hg.locks]; exact htok
  obtain ⟨k, hk⟩ : ∃ k, k = ((w.server.token_indexes t).getD 0 + 1) % (c0 :: cs').length := ⟨_, rfl⟩
  have hget : _get_next_websocket w.server t = some (some ((c0 :: cs')[k]?.getD c0).2,
      { w.server with token_indexes := Function.update w.server.token_indexes t (some k) }) := by
    simp [_get_next_websocket, hl, h, hk]
  refine ⟨_, _, hget, ?_⟩
  cases e : (c0 :: cs')[k]? with
  | none => exact ⟨c0.1, by simp⟩
  | some x => exact ⟨x.1, by simpa using List.getElem?_mem e⟩

/-- In every reachable state the reverse registry is consistent (`RegGood`), and the round
robin of a handler on a token with a client list never hits a missing key: it returns the
websocket of a client of the list. -/
theorem registry_consistent (hr : Reach c w) :
    RegGood w ∧ ∀ t cs, w.server.token_clients t = some cs →
      ∃ ws s, _get_next_websocket w.server t = some (some ws, s) ∧ ∃ cid, (cid, ws) ∈ cs :=
  ⟨RegGood.reach hr, fun _ _ h => (RegGood.reach hr).select_finds h⟩

theorem registry_consistent_after_auth :
    ∃ w, runs (World.init ⟨[1080], true, 30⟩)
        [.add_reverse_token (some "t") "" none none none 0, .serve, .connect,
          .auth 0 (some (Frame.authMessage "t" true))] = some w ∧
      RegGood w ∧ ∀ t cs, w.server.token_clients t = some cs →
        ∃ ws s, _get_next_websocket w.server t = some (some ws, s) ∧ ∃ cid, (cid, ws) ∈ cs := by
  have hw : runs (World.init ⟨[1080], true, 30⟩)
      [.add_reverse_token (some "t") "" none none none 0, .serve, .connect,
        .auth 0 (some (Frame.authMessage "t" true))] = some _ := rfl
  exact ⟨_, hw, registry_consistent (runs_reach .init hw)⟩

/-- A reverse session on the empty token ends and runs its cleanup, which returns at
`not token`: its client id stays in `_clients` and `_token_clients[""]`. -/
theorem empty_token_client_survives_cleanup :
    (runs (World.init ⟨[1080], true, 30⟩)
        [.add_reverse_token (some "") "" none none none 0, .serve, .connect,
          .auth 0 (some (Frame.authMessage "" true)), .send_ok 0, .hangup 0, .finish 0]).map
      (fun w => (w.tasks[0]?, w.server.clients 0, w.server.token_clients "")) =
      some (some (.session (.done (some ⟨0, "", true⟩))), some 0, some [(0, 0)]) := by
  decide

/-- Every reverse token with a client list has a supervisor recorded for its port, started
for that token on that port. -/
theorem clients_have_supervisor (hr : Reach c w) {t : String} {p : Nat}
    (h : w.server.token_clients t ≠ none) (hp : w.server.tokens t = some p) :
    ∃ i, w.server.socks_tasks p = some i ∧ w.role i = some (.supervisor t p) := by
  have hg := RegGood.reach hr
  obtain ⟨cs, hcs⟩ := Option.ne_none_iff_exists'.mp h
  obtain ⟨i, hi⟩ := Option.isSome_iff_exists.mp (hg.supervised t cs p hcs hp)
  obtain ⟨t', h1, h2⟩ := hg.socks_tasks p i hi
  exact ⟨i, hi, (reach_good hr).distinct t' t p h2 hp ▸ h1⟩

theorem clients_have_supervisor_after_auth :
    ∃ w, runs (World.init ⟨[1080], true, 30⟩)
        [.add_reverse_token (some "t") "" none none none 0, .serve, .connect,
          .auth 0 (some (Frame.authMessage "t" true))] = some w ∧
      ∃ i, w.server.socks_tasks 1080 = some i ∧ w.role i = some (.supervisor "t" 1080) := by
  have hw : runs (World.init ⟨[1080], true, 30⟩)
      [.add_reverse_token (some "t") "" none none none 0, .serve, .connect,
        .auth 0 (some (Frame.authMessage "t" true))] = some _ := rfl
  exact ⟨_, hw, clients_have_supervisor (runs_reach .init hw) (by decide) (by decide)⟩

/-- The supervisor started by the first client cannot bind its port and ends; it stays in
`_socks_tasks`, so a second client of the token starts none: two clients, a finished
supervisor, and no other task but the sessions. -/
theorem dead_supervisor_blocks_restart :
    (runs (World.init ⟨[1080], true, 30⟩)
        [.add_reverse_token (some "t") "" none none none 0, .serve, .connect,
          .auth 0 (some (Frame.authMessage "t" true)), .send_ok 0, .get_socket 1 false,
          .connect, .auth 2 (some (Frame.authMessage "t" true))]).map
      (fun w => (w.server.token_clients "t", w.server.socks_tasks 1080, w.tasks[1]?, w.tasks.length)) =
      some (some [(0, 0), (1, 2)], some 1, some (.supervisor "t" 1080 .done false), 3) := by
  decide

/-- Removing a reverse token evicts only its own clients: the list of every other token and
its clients' entries in `_clients` stay, `_forward_clients` is untouched, and only the
websockets of the token's own clients are closed. -/
theorem remove_reverse_evicts_own (hr : Reach c w) {t t' : String} {cs : List (Nat × Nat)}
    (hp : (w.server.tokens t).isSome) (ht : t' ≠ t) (hcs : w.server.token_clients t' = some cs) :
    (remove_token w t).2.server.token_clients t' = some cs ∧
      (∀ cid ws, (cid, ws) ∈ cs → (remove_token w t).2.server.clients cid = some ws) ∧
      (remove_token w t).2.server.forward_clients = w.server.forward_clients ∧
      ∀ x ∈ (remove_token w t).2.closes, x ∈ w.closes ∨ ∃ cid, (cid, x.1) ∈ (w.server.token_clients t).getD [] := by
  have hg := RegGood.reach hr
  have hL := LoginsGood.reach hr
  obtain ⟨p, hp⟩ := Option.isSome_iff_exists.mp hp
  have e : (remove_token w t).2 = removeReverse w t p := by simp [remove_token, hp]
  rw [e]
  refine ⟨by simp [removeReverse, Function.update_noteq ht, hcs], fun cid ws hm => ?_, rfl, fun x hx => ?_⟩
  · simp [removeReverse, eraseIds_apply, (hg.mem_ids_iff hL hcs hm).not.mpr ht, (hg.entry t' cs cid ws hcs hm).2.1]
  · simp only [removeReverse] at hx
    split at hx
    · rcases List.mem_append.mp hx with hx | hx
      · exact .inl hx
      · obtain ⟨⟨cid, ws⟩, hm, rfl⟩ := List.mem_map.mp hx
        exact .inr ⟨cid, hm⟩
    · exact .inl hx

theorem remove_reverse_evicts_own_two_tokens :
    ∃ w, runs (World.init ⟨[1080, 1081], true, 30⟩)
        [.add_reverse_token (some "a") "" none none none 0, .add_reverse_token (some "b") "" none none none 0,
          .serve, .connect, .auth 0 (some (Frame.authMessage "a" true)),
          .connect, .auth 2 (some (Frame.authMessage "b" true))] = some w ∧
      (remove_token w "a").2.server.token_clients "b" = some [(1, 2)] ∧
      (∀ cid ws, (cid, ws) ∈ [(1, 2)] → (remove_token w "a").2.server.clients cid = some ws) ∧
      (remove_token w "a").2.server.forward_clients = w.server.forward_clients ∧
      ∀ x ∈ (remove_token w "a").2.closes, x ∈ w.closes ∨ ∃ cid, (cid, x.1) ∈ (w.server.token_clients "a").getD [] := by
  have hw : runs (World.init ⟨[1080, 1081], true, 30⟩)
      [.add_reverse_token (some "a") "" none none none 0, .add_reverse_token (some "b") "" none none none 0,
        .serve, .connect, .auth 0 (some (Frame.authMessage "a" true)),
        .connect, .auth 2 (some (Frame.authMessage "b" true))] = some _ := rfl
  exact ⟨_, hw, remove_reverse_evicts_own (runs_reach .init hw) (by decide) (by decide) (by decide)⟩

/-! ## SOCKS5 credentials -/

/-- A successful `add_reverse_token(t, ...)` on a token it does not have registers it, with
the port it returns. -/
theorem add_reverse_token_registers {w w₁ : World} {t d : String} {port : Option Nat} {u pw : Option String}
    {k p : Nat} (ht : w.server.tokens t = none) (e : add_reverse_token w (some t) d port u pw k = (some (t, p), w₁)) :
    w₁ = registerReverse { w with server := { w.server with socks_port_pool := (w.server.socks_port_pool.get port k).2 } }
      t p u pw := by
  simp only [add_reverse_token, tokenOf, Option.getD_some, ht] at e
  split at e
  · split at e
    · cases e; rfl
    · cases e
  · cases e

/-- The SOCKS5 credentials every later handler of a reverse token hands to the relay are the
username and password given to the `add_reverse_token` call that registered the token, in
every state reached without `remove_token` of it; with only one of the two given, there is
no authentication. -/
theorem relay_credentials (hr : Reach c w) {t d : String} {port : Option Nat} {u pw : Option String} {k p : Nat}
    {w₁ w₂ : World} (ht : w.server.tokens t = none)
    (e : add_reverse_token w (some t) d port u pw k = (some (t, p), w₁))
    (r : Run (fun a => a ≠ .remove_token t) w₁ w₂) :
    socksCredentials w₂.server t = if u.isSome && pw.isSome then (u, pw) else (none, none) := by
  have h₁ := add_reverse_token_registers ht e
  have ha : w.server.socks_auth t = none := by
    have := (RegGood.reach hr).auth t
    rw [ht] at this
    simpa using this
  obtain ⟨-, hk⟩ := run_keeps_in r (by rw [h₁, registerReverse_tokens, Function.update_same])
  rw [socksCredentials, hk, h₁, registerReverse_server]
  cases u <;> cases pw <;> simp [reverseEntries, setAuth, ha]

/-- A token added with a username and a password, then served to one reverse client: its
handlers pass both to the relay. -/
theorem relay_credentials_after_auth :
    ∃ w₁ w₂, add_reverse_token (World.init ⟨[1080], true, 30⟩) (some "t") "" none (some "u") (some "pw") 0 =
        (some ("t", 1080), w₁) ∧
      runs w₁ [.serve, .connect, .auth 0 (some (Frame.authMessage "t" true))] = some w₂ ∧
      socksCredentials w₂.server "t" =
        if (some "u" : Option String).isSome && (some "pw" : Option String).isSome then (some "u", some "pw")
        else (none, none) := by
  obtain ⟨w₁, e, hw⟩ : ∃ w₁, add_reverse_token (World.init ⟨[1080], true, 30⟩) (some "t") "" none (some "u") (some "pw") 0 =
      (some ("t", 1080), w₁) ∧ runs w₁ [.serve, .connect, .auth 0 (some (Frame.authMessage "t" true))] = some _ :=
    ⟨_, rfl, rfl⟩
  refine ⟨w₁, _, e, hw, relay_credentials .init rfl e (runs_run (fun a ha => ?_) hw)⟩
  simp only [List.mem_cons, List.mem_singleton, List.not_mem_nil, or_false] at ha
  rcases ha with rfl | rfl | rfl <;> nofun

end pywssocks.server.registry
