-- The SOCKS port pool. `PortPool` lives in `pywssocks.common`, which is not among
-- the sources, so it is modelled from its contract, as `WSSocksServer` uses it
-- (server.py 195-198, 266, 351): `get` hands out a free port of the configured set,
-- `put` makes a port free again.
import Mathlib.Logic.Function.Basic

namespace pywssocks.server

/-- Modelled from its contract: `pywssocks.common.PortPool`, absent from the sources. `ports`
is the configured set the pool was built from, `free` says which ports it can still hand
out. -/
structure PortPool where
  ports : List Nat
  free : Nat → Bool

namespace PortPool

/-- Modelled from its contract: the pool `PortPool(socks_port_pool)` builds, every configured
port free. -/
def init (ports : List Nat) : PortPool := ⟨ports, fun p => decide (p ∈ ports)⟩

/-- The pool once `p` is handed out. -/
def take (pool : PortPool) (p : Nat) : PortPool := ⟨pool.ports, Function.update pool.free p false⟩

/-- Modelled from its contract: `get(port)`. A preferred port is handed out only if it is free;
without one, a free port of the configured set is handed out, `pick` saying which (the
pool may choose any), and `none` only when no port is free. -/
def get (pool : PortPool) (port : Option Nat) (pick : Nat) : Option Nat × PortPool :=
  match port with
  | some p => if pool.free p then (some p, pool.take p) else (none, pool)
  | none =>
    match (pool.ports.filter pool.free)[pick % (pool.ports.filter pool.free).length]? with
    | some p => (some p, pool.take p)
    | none => (none, pool)

/-- Modelled from its contract: `put(port)`, idempotent. -/
def put (pool : PortPool) (port : Nat) : PortPool := ⟨pool.ports, Function.update pool.free port true⟩

@[simp] theorem put_ports (pool : PortPool) (p : Nat) : (pool.put p).ports = pool.ports := rfl

@[simp] theorem put_free (pool : PortPool) (p q : Nat) :
    (pool.put p).free q = if q = p then true else pool.free q := by
  simp [put, Function.update_apply]

theorem get_ports (pool : PortPool) (port : Option Nat) (pick : Nat) :
    (pool.get port pick).2.ports = pool.ports := by
  unfold get; split
  · split <;> rfl
  · split <;> rfl

/-- What `get` does: it hands out a port that was free and is free no more, or it hands out
nothing and the pool is as it was. -/
theorem get_spec (pool : PortPool) (port : Option Nat) (pick : Nat) :
    (∃ p, (pool.get port pick).1 = some p ∧ pool.free p = true ∧
      (pool.get port pick).2 = pool.take p) ∨
    ((pool.get port pick).1 = none ∧ (pool.get port pick).2 = pool) := by
  unfold get
  split
  · split
    · exact .inl ⟨_, rfl, ‹_›, rfl⟩
    · exact .inr ⟨rfl, rfl⟩
  · split
    · rename_i p hp
      have hmem := List.getElem?_mem hp
      exact .inl ⟨p, rfl, (List.mem_filter.mp hmem).2, rfl⟩
    · exact .inr ⟨rfl, rfl⟩

/-- A preferred port is the one handed out, if any. -/
theorem get_preferred (pool : PortPool) (p : Nat) (pick : Nat) :
    (pool.get (some p) pick).1 = if pool.free p then some p else none := by
  simp only [get]; split <;> simp_all

end PortPool

end pywssocks.server
