-- The socket manager: listen sockets by port, with a count of references and a
-- grace period after the last release. A cleanup task started at a release
-- closes the socket when it wakes, if the entry is still unreferenced then.
import Mathlib.Logic.Function.Basic

namespace pywssocks.server

/-- An entry of `SocketManager._sockets`: `(sock, timestamp, refs)`. Sockets are told apart
by a number, one per `socket.socket()` call. -/
structure SocketEntry where
  sock : Nat
  timestamp : Nat
  refs : Nat
  deriving DecidableEq, Repr

/-- The state of a `SocketManager`. A cleanup task is the port it cleans and the time
`release_socket` created it. `locked` is `_lock` held across an await, which only
`close` does (every other holder gives it back before its next await). A socket is open
while it is in `sockets`: both paths that delete an entry close its socket first. -/
structure SocketManager where
  grace : Nat
  sockets : Nat → Option SocketEntry
  cleanup_tasks : List (Nat × Nat)
  locked : Bool
  next_sock : Nat

namespace SocketManager

/-- `SocketManager(host, grace)`. -/
def init (grace : Nat) : SocketManager := ⟨grace, fun _ => none, [], false, 0⟩

/-- `get_socket(port)`, once the lock is taken: reuse the port's entry, or bind a new
socket, `bind_ok` saying whether `sock.bind` succeeds. `none` when it raises. -/
def get_socket (m : SocketManager) (port : Nat) (bind_ok : Bool) : Option (Nat × SocketManager) :=
  match m.sockets port with
  | some e => some (e.sock, { m with sockets := Function.update m.sockets port (some { e with refs := e.refs + 1 }) })
  | none =>
    if bind_ok then
      some (m.next_sock, { m with sockets := Function.update m.sockets port (some ⟨m.next_sock, 0, 1⟩),
                                  next_sock := m.next_sock + 1 })
    else none

/-- `release_socket(port)` at loop time `now`, once the lock is taken. `refs` is never
negative, so `refs -= 1; if refs <= 0` is `refs - 1 = 0` on naturals. -/
def release_socket (m : SocketManager) (port : Nat) (now : Nat) : SocketManager :=
  match m.sockets port with
  | none => m
  | some e =>
    if e.refs - 1 = 0 then
      { m with sockets := Function.update m.sockets port (some ⟨e.sock, now, 0⟩),
               cleanup_tasks := m.cleanup_tasks ++ [(port, now)] }
    else { m with sockets := Function.update m.sockets port (some ⟨e.sock, 0, e.refs - 1⟩) }

/-- The body of `_cleanup_socket(port)` after its sleep, once the lock is taken: close and
delete the entry if it is unreferenced and in its grace period. -/
def _cleanup_socket (m : SocketManager) (port : Nat) : SocketManager :=
  match m.sockets port with
  | some e => if e.refs = 0 ∧ 0 < e.timestamp then { m with sockets := Function.update m.sockets port none } else m
  | none => m

/-- The `k`-th cleanup task runs its body and leaves `_cleanup_tasks`. -/
def expire (m : SocketManager) (k : Nat) : SocketManager :=
  match m.cleanup_tasks[k]? with
  | some (port, _) => { m._cleanup_socket port with cleanup_tasks := m.cleanup_tasks.eraseIdx k }
  | none => m

/-- The loop of `close` over `_sockets.items()`: close and delete every entry. -/
def closeSockets (m : SocketManager) : SocketManager := { m with sockets := fun _ => none }

/-- The first part of `close`: take the lock and cancel every cleanup task. With none to
wait for it goes on to close every socket; else it keeps the lock across its
`await asyncio.gather(...)`. -/
def closeBegin (m : SocketManager) : SocketManager :=
  if m.cleanup_tasks = [] then m.closeSockets else { m with cleanup_tasks := [], locked := true }

/-- The rest of `close`, once the cancelled cleanup tasks are done. -/
def closeEnd (m : SocketManager) : SocketManager := { m.closeSockets with locked := false }

/-- The `refs` of the port's entry, `0` when it has none. -/
def refs (m : SocketManager) (port : Nat) : Nat := ((m.sockets port).map SocketEntry.refs).getD 0

@[simp] theorem release_socket_locked (m : SocketManager) (p now : Nat) :
    (m.release_socket p now).locked = m.locked := by
  unfold release_socket; split
  · rfl
  · split <;> rfl

@[simp] theorem release_socket_grace (m : SocketManager) (p now : Nat) :
    (m.release_socket p now).grace = m.grace := by
  unfold release_socket; split
  · rfl
  · split <;> rfl

@[simp] theorem expire_locked (m : SocketManager) (k : Nat) : (m.expire k).locked = m.locked := by
  unfold expire _cleanup_socket; split
  · split
    · split <;> rfl
    · rfl
  · rfl

/-- What `get_socket` does to the counts: the port gains a reference, every other port
keeps its entry. -/
theorem get_socket_spec {m m' : SocketManager} {port s : Nat} {bind_ok : Bool}
    (h : m.get_socket port bind_ok = some (s, m')) :
    m'.refs port = m.refs port + 1 ∧ (∀ q, q ≠ port → m'.sockets q = m.sockets q) ∧
    ((m'.sockets port).map SocketEntry.sock = some s) ∧ m'.locked = m.locked ∧
    m'.cleanup_tasks = m.cleanup_tasks ∧ m'.grace = m.grace := by
  unfold get_socket at h
  split at h
  · rename_i e he
    cases h
    exact ⟨by simp [refs, he], fun q hq => Function.update_noteq hq _ _, by simp, rfl, rfl, rfl⟩
  · rename_i he
    split at h
    · cases h
      exact ⟨by simp [refs, he], fun q hq => Function.update_noteq hq _ _, by simp, rfl, rfl, rfl⟩
    · cases h

/-- `get_socket` fails only when the port has no entry. -/
theorem get_socket_none {m : SocketManager} {port : Nat} {bind_ok : Bool}
    (h : m.get_socket port bind_ok = none) : m.sockets port = none := by
  unfold get_socket at h
  split at h
  · cases h
  · assumption

theorem release_socket_other (m : SocketManager) {p q : Nat} (now : Nat) (h : q ≠ p) :
    (m.release_socket p now).sockets q = m.sockets q := by
  unfold release_socket; split
  · rfl
  · split <;> simp [Function.update_noteq h]

/-- A release takes one reference off the port, and keeps its socket. -/
theorem release_socket_refs (m : SocketManager) (p now : Nat) :
    (m.release_socket p now).refs p = m.refs p - 1 ∧
    ((m.release_socket p now).sockets p).map SocketEntry.sock = (m.sockets p).map SocketEntry.sock := by
  unfold release_socket refs; split
  · rename_i h; simp [h]
  · rename_i e h
    split
    · simp [h]; omega
    · simp [h]

/-- A cleanup task only deletes an entry with no references. -/
theorem _cleanup_socket_spec (m : SocketManager) (p q : Nat) :
    (m._cleanup_socket p).sockets q = m.sockets q ∨
    (q = p ∧ m.refs p = 0 ∧ (m._cleanup_socket p).sockets q = none) := by
  unfold _cleanup_socket; split
  · rename_i e he
    split
    · rename_i hz
      by_cases hq : q = p
      · subst hq; exact .inr ⟨rfl, by simp [refs, he, hz.1], by simp⟩
      · exact .inl (by simp [Function.update_noteq hq])
    · exact .inl rfl
  · exact .inl rfl

theorem expire_spec (m : SocketManager) (k q : Nat) :
    (m.expire k).sockets q = m.sockets q ∨ (m.refs q = 0 ∧ (m.expire k).sockets q = none) := by
  unfold expire; split
  · rename_i p _ _
    rcases _cleanup_socket_spec m p q with h | ⟨rfl, h0, h⟩
    · exact .inl h
    · exact .inr ⟨h0, h⟩
  · exact .inl rfl

/-! ## Runs of the manager on its own -/

/-- What can happen to a manager with its clock, seen from the callers of `get_socket`
and `release_socket`: a call, the end of the sleep of the `k`-th cleanup task (which then
takes the lock and runs), or `d` units of time passing. -/
inductive Op where
  | get_socket (port : Nat) (bind_ok : Bool)
  | release_socket (port : Nat)
  | expire (k : Nat)
  | wait (d : Nat)

/-- One operation on a manager and its clock; a cleanup task wakes only once its grace
period is over. -/
def exec : SocketManager × Nat → Op → Option (SocketManager × Nat)
  | (m, now), .get_socket p b => (m.get_socket p b).map fun r => (r.2, now)
  | (m, now), .release_socket p => some (m.release_socket p now, now)
  | (m, now), .expire k =>
    match m.cleanup_tasks[k]? with
    | some (_, t0) => if t0 + m.grace ≤ now then some (m.expire k, now) else none
    | none => none
  | (m, now), .wait d => some (m, now + d)

def run (s : SocketManager × Nat) : List Op → Option (SocketManager × Nat)
  | [] => some s
  | op :: ops => (exec s op).bind (run · ops)

/-- A socket acquired at time 1 and released, acquired again at 10 and released again at
20, with a grace of 30: at time 31 the cleanup task of the first release wakes and
deletes the entry, eleven units after the last release. -/
theorem stale_cleanup_closes_early :
    (run (init 30, 0) [.wait 1, .get_socket 1080 true, .release_socket 1080, .wait 9,
        .get_socket 1080 true, .wait 10, .release_socket 1080, .wait 11]).map
        (fun s => (s.2, s.1.cleanup_tasks, s.1.sockets 1080)) =
        some (31, [(1080, 1), (1080, 20)], some ⟨0, 20, 0⟩) ∧
      (run (init 30, 0) [.wait 1, .get_socket 1080 true, .release_socket 1080, .wait 9,
        .get_socket 1080 true, .wait 10, .release_socket 1080, .wait 11, .expire 0]).map
        (fun s => (s.2, s.1.sockets 1080)) = some (31, none) ∧
      31 < 20 + 30 := by
  decide

end SocketManager

end pywssocks.server
