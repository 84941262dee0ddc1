-- The laws of the SOCKS ports: the pool and the reverse tokens share out the
-- configured ports, a port held by one token only, over every run. Port 0 is the
-- exception: `if port:` turns it down after the pool handed it out.
import Pywssocks.Exec

namespace pywssocks.server.ports

/-- The pool and the reverse tokens share out the configured ports, but for port 0. -/
structure PortGood (c : Config) (w : World) : Prop where
  distinct : ∀ t₁ t₂ p, w.server.tokens t₁ = some p → w.server.tokens t₂ = some p → t₁ = t₂
  held_not_free : ∀ t p, w.server.tokens t = some p → w.server.socks_port_pool.free p = false
  covered : ∀ p ∈ c.socks_port_pool, p ≠ 0 →
    w.server.socks_port_pool.free p = true ∨ ∃ t, w.server.tokens t = some p

theorem init_good (c : Config) : PortGood c (World.init c) where
  distinct := by simp [World.init]
  held_not_free := by simp [World.init]
  covered := fun p hp _ => .inl (by simp [World.init, PortPool.init, hp])

/-- A step that leaves the tokens and the pool alone keeps the invariant. -/
theorem good_of_same {c : Config} {w w' : World} (h : PortGood c w)
    (ht : w'.server.tokens = w.server.tokens) (hp : w'.server.socks_port_pool = w.server.socks_port_pool) :
    PortGood c w' := by
  obtain ⟨h1, h2, h3⟩ := h
  exact ⟨by rw [ht]; exact h1, by rw [ht, hp]; exact h2, by rw [ht, hp]; exact h3⟩

/-- The pool hands out a free port `p`, which at most one token then holds, and nobody
holds only when `p = 0`; every other port stays with its token. -/
theorem good_take {c : Config} {w w' : World} (h : PortGood c w) {p : Nat}
    (hfree : w.server.socks_port_pool.free p = true)
    (hpool : w'.server.socks_port_pool = w.server.socks_port_pool.take p)
    (hnew : ∀ t q, w'.server.tokens t = some q → w.server.tokens t = some q ∨ q = p)
    (hkeep : ∀ t q, w.server.tokens t = some q → w'.server.tokens t = some q)
    (hheld : p ≠ 0 → ∃ t, w'.server.tokens t = some p)
    (hone : ∀ t₁ t₂, w'.server.tokens t₁ = some p → w'.server.tokens t₂ = some p → t₁ = t₂) :
    PortGood c w' := by
  obtain ⟨h1, h2, h3⟩ := h
  have hout : ∀ t, w.server.tokens t ≠ some p := fun t e => by simp [h2 t p e] at hfree
  refine ⟨fun t₁ t₂ q e₁ e₂ => ?_, fun t q e => ?_, fun q hq h0 => ?_⟩
  · rcases hnew t₁ q e₁ with e₁' | rfl
    · rcases hnew t₂ q e₂ with e₂' | rfl
      · exact h1 t₁ t₂ q e₁' e₂'
      · exact absurd e₁' (hout t₁)
    · exact hone t₁ t₂ e₁ e₂
  · rw [hpool]
    rcases hnew t q e with e' | rfl
    · simp [PortPool.take, h2 t q e', Function.update_noteq (fun hqp : q = p => hout t (hqp ▸ e'))]
    · simp [PortPool.take]
  · by_cases hqp : q = p
    · exact .inr (hqp ▸ hheld (hqp ▸ h0))
    · rcases h3 q hq h0 with hf | ⟨t, e⟩
      · exact .inl (by simp [hpool, PortPool.take, Function.update_noteq hqp, hf])
      · exact .inr ⟨t, hkeep t q e⟩

/-- A token's port goes back to the pool as the token goes. -/
theorem good_put {c : Config} {w w' : World} (h : PortGood c w) {t : String} {p : Nat}
    (hp : w.server.tokens t = some p) (htok : w'.server.tokens = Function.update w.server.tokens t none)
    (hpool : w'.server.socks_port_pool = w.server.socks_port_pool.put p) : PortGood c w' := by
  obtain ⟨h1, h2, h3⟩ := h
  have hkeep : ∀ t' q, w'.server.tokens t' = some q → w.server.tokens t' = some q ∧ t' ≠ t := by
    intro t' q e
    by_cases a : t' = t
    · simp [htok, a] at e
    · exact ⟨by simpa [htok, Function.update_noteq a] using e, a⟩
  refine ⟨fun t₁ t₂ q e₁ e₂ => h1 t₁ t₂ q (hkeep t₁ q e₁).1 (hkeep t₂ q e₂).1, fun t' q e => ?_,
    fun q hq h0 => ?_⟩
  · obtain ⟨e', a⟩ := hkeep t' q e
    have hqp : q ≠ p := fun hqp => a (h1 t' t q e' (hqp ▸ hp))
    simp [hpool, hqp, h2 t' q e']
  · by_cases hqp : q = p
    · exact .inl (by simp [hpool, hqp])
    · rcases h3 q hq h0 with hf | ⟨t', e⟩
      · exact .inl (by simp [hpool, hqp, hf])
      · have a : t' ≠ t := fun a => hqp (Option.some.inj ((a ▸ e).symm.trans hp))
        exact .inr ⟨t', by simpa [htok, Function.update_noteq a] using e⟩

theorem add_reverse_token_good {c : Config} {w : World} (h : PortGood c w) (token : Option String)
    (drawn : String) (port : Option Nat) (u pw : Option String) (pick : Nat) :
    PortGood c (add_reverse_token w token drawn port u pw pick).2 := by
  unfold add_reverse_token
  dsimp only
  split
  · exact h
  · rename_i hnone
    rcases PortPool.get_spec w.server.socks_port_pool port pick with ⟨p, hp, hfree, hpool⟩ | ⟨hp, hpool⟩
    · have hout : ∀ t, w.server.tokens t = some p → False := fun t e => by
        simp [h.held_not_free t p e] at hfree
      rw [hp]; dsimp only
      split
      · refine good_take h hfree (by simp [hpool]) (fun t q e => ?_) (fun t q e => ?_)
          (fun _ => ⟨tokenOf token drawn, by simp⟩) (fun t₁ t₂ e₁ e₂ => ?_)
        · by_cases a : t = tokenOf token drawn
          · subst a; simp at e; exact .inr e.symm
          · exact .inl (by simpa [Function.update_noteq a] using e)
        · have a : t ≠ tokenOf token drawn := fun a => by rw [a, hnone] at e; cases e
          simpa [Function.update_noteq a] using e
        · by_cases a₁ : t₁ = tokenOf token drawn
          · by_cases a₂ : t₂ = tokenOf token drawn
            · rw [a₁, a₂]
            · exact (hout t₂ (by simpa [Function.update_noteq a₂] using e₂)).elim
          · exact (hout t₁ (by simpa [Function.update_noteq a₁] using e₁)).elim
      · rename_i h0
        exact good_take h hfree (by simp [hpool]) (fun t q e => .inl e) (fun _ _ e => e)
          (fun hp0 => absurd (not_not.mp h0) hp0) (fun t₁ _ e₁ _ => (hout t₁ e₁).elim)
    · rw [hp]; dsimp only
      exact good_of_same h rfl (by simp [hpool])

theorem remove_token_good {c : Config} {w : World} (h : PortGood c w) (token : String) :
    PortGood c (remove_token w token).2 := by
  unfold remove_token
  split
  · exact h
  · split
    · exact good_put h ‹_› (removeReverse_tokens ..) (removeReverse_pool ..)
    · split
      · exact good_of_same h rfl rfl
      · exact h

theorem step_good {c : Config} {w w' : World} {a : Action} (s : Step w a w') (h : PortGood c w) :
    PortGood c w' := by
  cases ha : a.admin
  · have hs := s.same_admin ha
    exact good_of_same h hs.tokens hs.socks_port_pool
  · cases s <;> try (cases ha; done)
    case add_reverse_token => exact add_reverse_token_good h ..
    case add_forward_token => exact good_of_same h rfl rfl
    case remove_token => exact remove_token_good h _

theorem reach_good {c : Config} {w : World} (r : Reach c w) : PortGood c w := by
  induction r with
  | init => exact init_good c
  | step _ s ih => exact step_good s ih

/-- In every reachable state the ports of the reverse tokens are pairwise distinct and none
is free in the pool, and each nonzero port of the configured set is free or the port of
exactly one reverse token. -/
theorem ports_conserved {c : Config} {w : World} (h : Reach c w) :
    (∀ t₁ t₂ p, w.server.tokens t₁ = some p → w.server.tokens t₂ = some p → t₁ = t₂) ∧
    (∀ t p, w.server.tokens t = some p → w.server.socks_port_pool.free p = false) ∧
    (∀ p ∈ c.socks_port_pool, p ≠ 0 →
      w.server.socks_port_pool.free p = true ∨ ∃ t, w.server.tokens t = some p) :=
  have g := reach_good h
  ⟨g.distinct, g.held_not_free, g.covered⟩

/-- Token `"a"` takes port 1080 and `"b"` port 1081; removing `"a"` gives 1080 back to the
pool, and `"c"` takes it: the three laws hold after the port changed hands. -/
theorem ports_conserved_after_reuse :
    ∃ w, runs (World.init ⟨[1080, 1081], true, 30⟩)
        [.add_reverse_token (some "a") "" none none none 0, .add_reverse_token (some "b") "" none none none 0,
          .remove_token "a", .add_reverse_token (some "c") "" none none none 0] = some w ∧
      (w.server.tokens "a", w.server.tokens "b", w.server.tokens "c") = (none, some 1081, some 1080) ∧
      (∀ t₁ t₂ p, w.server.tokens t₁ = some p → w.server.tokens t₂ = some p → t₁ = t₂) ∧
      (∀ t p, w.server.tokens t = some p → w.server.socks_port_pool.free p = false) ∧
      (∀ p ∈ [1080, 1081], p ≠ 0 → w.server.socks_port_pool.free p = true ∨ ∃ t, w.server.tokens t = some p) := by
  have hw : runs (World.init ⟨[1080, 1081], true, 30⟩)
      [.add_reverse_token (some "a") "" none none none 0, .add_reverse_token (some "b") "" none none none 0,
        .remove_token "a", .add_reverse_token (some "c") "" none none none 0] = some _ := rfl
  exact ⟨_, hw, rfl, ports_conserved (runs_reach .init hw)⟩

/-- With 0 the only configured port, the pool hands it to `add_reverse_token()`, and
`if port:` turns it down: the call returns `(None, None)`, and port 0 is then neither free
nor the port of a token. -/
theorem port_zero_stranded :
    (add_reverse_token (World.init ⟨[0], true, 30⟩) none "t" none none none 0).1 = none ∧
      (add_reverse_token (World.init ⟨[0], true, 30⟩) none "t" none none none 0).2.server.socks_port_pool.free 0
        = false ∧
      ∀ t, (add_reverse_token (World.init ⟨[0], true, 30⟩) none "t" none none none 0).2.server.tokens t = none :=
  ⟨rfl, rfl, fun _ => rfl⟩

end pywssocks.server.ports
