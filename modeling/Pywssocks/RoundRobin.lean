-- The round robin of `_get_next_websocket` over many calls. With the client list of a
-- reverse token left alone, the calls walk the list from the stored cursor, whatever it
-- holds, and in `m` calls each client is chosen `⌊m/k⌋` or `⌈m/k⌉` times.
import Pywssocks.Registry
import Mathlib.Data.Int.CardIntervalMod

namespace pywssocks.server.round_robin

open registry

variable {c : Config} {w : World}

/-! ## Many calls -/

/-- The stored cursor of a token, `self._token_indexes.get(token, 0)`. -/
def cursor (s : WSSocksServer) (token : String) : Nat := (s.token_indexes token).getD 0

/-- `m` calls of `_get_next_websocket(token)` one after the other, with nothing between
them: the websockets returned and the server after the last, or `none` if a call raised. -/
def selectTimes (s : WSSocksServer) (token : String) : Nat → Option (List (Option Nat) × WSSocksServer)
  | 0 => some ([], s)
  | m + 1 =>
    match _get_next_websocket s token with
    | some (r, s₁) => (selectTimes s₁ token m).map fun x => (r :: x.1, x.2)
    | none => none

/-- One call on a token with its lock and a client list `L` moves the cursor to
`(c + 1) % k` and returns the websocket there: the index is in range, so the
`clients[0]` fallback is never taken. -/
theorem get_next_websocket_walks {s : WSSocksServer} {t : String} {L : List (Nat × Nat)}
    (hl : s.token_locks t = true) (hL : s.token_clients t = some L) (hk : 0 < L.length) :
    _get_next_websocket s t = some (some (L.get ⟨(cursor s t + 1) % L.length, Nat.mod_lt _ hk⟩).2,
      { s with token_indexes := Function.update s.token_indexes t (some ((cursor s t + 1) % L.length)) }) := by
  obtain ⟨c0, cs, rfl⟩ := List.exists_cons_of_length_pos hk
  simp only [_get_next_websocket, hl, hL, cursor, List.getElem?_eq_getElem (Nat.mod_lt _ hk)]
  rfl

/-- `m` calls walk the list from the stored cursor: the `j`-th returns the websocket at
`(c + 1 + j) % k`. -/
theorem selectTimes_walks {t : String} {L : List (Nat × Nat)} (hk : 0 < L.length) :
    ∀ (m : Nat) (s : WSSocksServer), s.token_locks t = true → s.token_clients t = some L →
      ∃ s', selectTimes s t m = some ((List.range m).map fun j =>
        some (L.get ⟨(cursor s t + 1 + j) % L.length, Nat.mod_lt _ hk⟩).2, s')
  | 0, s, _, _ => ⟨s, rfl⟩
  | m + 1, s, hl, hL => by
    obtain ⟨s', hs'⟩ := selectTimes_walks hk m
      { s with token_indexes := Function.update s.token_indexes t (some ((cursor s t + 1) % L.length)) } hl hL
    have e : ∀ j, ((cursor s t + 1) % L.length + 1 + j) % L.length = (cursor s t + 1 + (j + 1)) % L.length :=
      fun j => by rw [Nat.add_assoc, Nat.mod_add_mod, Nat.add_comm 1 j]
    simp only [cursor, Function.update_same, Option.getD_some] at hs' e
    simp only [e] at hs'
    refine ⟨s', ?_⟩
    simp [selectTimes, get_next_websocket_walks hl hL hk, hs', List.range_succ_eq_map, cursor]

/-! ## Fairness -/

theorem ceil_div_of_mod_pos {m k : Nat} (hk : 0 < k) (hm : 0 < m % k) : (m + k - 1) / k = m / k + 1 := by
  have := Nat.div_add_mod' m k
  have := Nat.mod_lt m hk
  apply Nat.div_eq_of_lt_le <;> simp only [Nat.succ_mul] <;> omega

/-- Position `i` comes at `a + j` exactly when `j` is `i - a` modulo `k`. -/
theorem mod_shift_iff {a j i k : Nat} (hk : 0 < k) (hi : i < k) :
    (a + j) % k = i ↔ j ≡ i + k - a % k [MOD k] := by
  have hv : (a + (i + k - a % k)) % k = i := by
    have := Nat.div_add_mod' a k
    have := Nat.mod_lt a hk
    rw [show a + (i + k - a % k) = i + (a / k + 1) * k by rw [Nat.succ_mul]; omega,
      Nat.add_mul_mod_self_right, Nat.mod_eq_of_lt hi]
  constructor
  · intro h; exact Nat.ModEq.add_left_cancel' a (show (a + j) % k = _ by rw [h, hv])
  · intro h; rw [Nat.ModEq.add_left a h, hv]

/-- Walking `k` positions from `a`, `m` steps land on each position `⌊m/k⌋` or `⌈m/k⌉` times. -/
theorem count_walk {a m k i : Nat} (hk : 0 < k) (hi : i < k) :
    Nat.count (fun j => (a + j) % k = i) m = m / k ∨ Nat.count (fun j => (a + j) % k = i) m = (m + k - 1) / k := by
  have e : Nat.count (fun j => (a + j) % k = i) m = Nat.count (· ≡ i + k - a % k [MOD k]) m := by
    simp only [mod_shift_iff hk hi]
  rw [e, Nat.count_modEq_card m hk]
  split_ifs with h
  · exact .inr (ceil_div_of_mod_pos hk (by omega)).symm
  · exact .inl rfl

/-- On a reverse token whose client list `L` has `k ≥ 1` clients, `m` calls with `L` left
alone return the websockets of `L` at `(c+1) % k, …, (c+m) % k`, `c` the stored cursor
(absent meaning 0, and any number, also one out of range), so each position of `L` is chosen
`⌊m/k⌋` or `⌈m/k⌉` times. Every call finds the token's lock and an index in range: it returns
a client of `L`, never through the fallback. -/
theorem round_robin_fair (hr : Reach c w) {t : String} {p : Nat} (ht : w.server.tokens t = some p)
    {L : List (Nat × Nat)} (hL : w.server.token_clients t = some L) (hk : 0 < L.length) (m : Nat) :
    (∃ s, selectTimes w.server t m = some ((List.range m).map fun j =>
      some (L.get ⟨(cursor w.server t + 1 + j) % L.length, Nat.mod_lt _ hk⟩).2, s)) ∧
    ∀ i < L.length, Nat.count (fun j => (cursor w.server t + 1 + j) % L.length = i) m = m / L.length ∨
      Nat.count (fun j => (cursor w.server t + 1 + j) % L.length = i) m = (m + L.length - 1) / L.length :=
  ⟨selectTimes_walks hk m _ (by rw [(RegGood.reach hr).locks, ht]; rfl) hL, fun _ hi => count_walk hk hi⟩

/-- Three clients `A`, `B`, `C` of token `"t"` on websockets 0, 2 and 3 and a fresh cursor:
five calls choose `B, C, A, B, C`. -/
theorem round_robin_fair_three :
    ∃ w, runs (World.init ⟨[1080], true, 30⟩)
        [.add_reverse_token (some "t") "" none none none 0, .serve,
          .connect, .auth 0 (some (Frame.authMessage "t" true)),
          .connect, .auth 2 (some (Frame.authMessage "t" true)),
          .connect, .auth 3 (some (Frame.authMessage "t" true))] = some w ∧
      ∃ s, selectTimes w.server "t" 5 = some ([some 2, some 3, some 0, some 2, some 3], s) := by
  have hw : runs (World.init ⟨[1080], true, 30⟩)
      [.add_reverse_token (some "t") "" none none none 0, .serve,
        .connect, .auth 0 (some (Frame.authMessage "t" true)),
        .connect, .auth 2 (some (Frame.authMessage "t" true)),
        .connect, .auth 3 (some (Frame.authMessage "t" true))] = some _ := rfl
  obtain ⟨⟨s, hs⟩, -⟩ := @round_robin_fair _ _ (runs_reach .init hw) "t" 1080 (by decide)
    [(0, 0), (1, 2), (2, 3)] (by decide) (by decide) 5
  exact ⟨_, hw, s, hs.trans rfl⟩

end pywssocks.server.round_robin
