import UsbPassthrough.Host.Service
import UsbPassthrough.Vsock.Transport

/-!
# UsbPassthrough.Vsock.Client

`VsockClient`: the thread of `run`, threads in `send`, and a thread in `stop`, sharing `self.conn`
through `server()` and `close_connection()`. Both of those hold `self.lock` and are one step each.
A read or a write happens outside the lock, on the socket an earlier `server()` returned, which
another thread may have closed and replaced since.

The sockets `server()` created are kept in creation order, each with whether it was closed and
whether a read or a write on it failed or met the end of the stream (`Sock`).

* `run_closes_only_broken`: with no `send` in flight, `close_connection` only closes a socket a read
  failed or ended on, or after `stop`;
* `unserializable_closes_healthy`, `close_connection_tears_down_healthy`: with a `send` in flight
  it closes healthy sockets: `send` closes the connection over a payload `json.dumps` refuses, and
  `run`'s cleanup after the end of the stream closes the connection `send` has just made.
-/

namespace UsbPassthrough
namespace Vsock

open Dpm Host Channel

/-- `vsock_bridge.json_transport.send`'s bytes for the argument of `VsockClient.send`: `json.dumps`
refuses a message object. -/
def encodeArg : SendArg → Except PyError (List UInt8)
  | .json v => Transport.send v
  | .message m =>
    .error (.typeError ("Object of type " ++ m.kind.className ++ " is not JSON serializable"))

/-- A socket `server()` created: whether it was closed, and whether a read or a write on it failed
or met the end of the stream. -/
structure Sock where
  closed : Bool
  broken : Bool
  deriving DecidableEq, Repr

/-- What the client hands to its callbacks. `__init__` stores `on_connect` too, but nothing calls
it, so it has no call here. -/
inductive Callback where
  | message (v : Value)
  | disconnect

/-- Where the thread of `run` is. -/
inductive RunPc where
  /-- `while not self.stop_flag.is_set()`. -/
  | loop
  /-- In the `try`, calling `self.server()`. -/
  | connecting
  /-- `for msg in json_transport.receive(sock)`, `sock` what `server()` returned. -/
  | reading (sock : Nat)
  /-- `self.close_connection()` after the `try`. -/
  | closing
  /-- `run` returned, or an exception other than `OSError` left it. -/
  | done
  deriving DecidableEq, Repr

/-- Where a thread in `send(data)` is; `left` counts the tries of `for _ in range(5)` after this
one. -/
inductive SendPc where
  /-- At the head of the loop, `left` tries to go. -/
  | attempt (left : Nat)
  /-- `json_transport.send(sock, data)`, `sock` what `server()` returned. -/
  | writing (sock left : Nat)
  /-- `except Exception`: `self.close_connection()`. -/
  | closing (left : Nat)
  | returned (ok : Bool)
  deriving DecidableEq, Repr

/-- Where the thread of `stop()` is: not called yet, in `time.sleep(1)` after setting the flag,
or returned. -/
inductive StopPc where
  | idle
  | sleeping
  | done
  deriving DecidableEq, Repr

structure Client where
  conn : Option Nat
  socks : List Sock
  stopFlag : Bool
  run : RunPc
  senders : List (SendArg × SendPc)
  stopper : StopPc
  callbacks : List Callback

/-- The client started, with a call of `send` in flight for each argument. -/
def Client.init (args : List SendArg) : Client :=
  ⟨none, [], false, .loop, args.map (·, .attempt 5), .idle, []⟩

/-- What a read of `receive` did, as `run` sees it. -/
inductive Recv where
  /-- A chunk: the values `receive` yields from it, each handed to `on_message`. -/
  | values (vs : List Value)
  /-- `b""`: `receive` returns. -/
  | eof
  /-- `OSError`, caught in `run`. -/
  | error
  /-- Another exception, from `json.loads` or `on_message`: it leaves `run`. -/
  | raised

/-- One step of one thread. `sendWrite i ok`: `ok` says whether `sock.sendall` succeeded, when the
socket is open and `json.dumps` returned. -/
inductive Step where
  | runCheck
  | runServer
  | runRecv (r : Recv)
  | runClose
  | sendServer (i : Nat)
  | sendWrite (i : Nat) (ok : Bool)
  | sendClose (i : Nat)
  | stopSet
  | stopClose

namespace Client

/-- Change socket `j`. -/
def setSock (c : Client) (j : Nat) (f : Sock → Sock) : Client :=
  { c with socks := c.socks.modify f j }

/-- A read or a write on socket `j` failed or met the end of the stream. -/
def markBroken (c : Client) (j : Nat) : Client :=
  c.setSock j fun k => { k with broken := true }

def sockClosed (c : Client) (j : Nat) : Bool :=
  (c.socks[j]?.map Sock.closed).getD true

/-- `server()`: under the lock, a new connected socket if `self.conn` is `None`; then `self.conn`.
The `connect` loop retries until it succeeds. -/
def server (c : Client) : Client × Nat :=
  match c.conn with
  | some j => (c, j)
  | none => ({ c with conn := some c.socks.length, socks := c.socks ++ [⟨false, false⟩] }, c.socks.length)

/-- `close_connection()`. -/
def closeConnection (c : Client) : Client :=
  match c.conn with
  | none => c
  | some j =>
    { c.setSock j (fun k => { k with closed := true }) with
      conn := none, callbacks := c.callbacks ++ [.disconnect] }

def setSender (c : Client) (i : Nat) (a : SendArg) (pc : SendPc) : Client :=
  { c with senders := c.senders.set i (a, pc) }

/-- One step; `none` when the thread cannot take it. -/
def step (c : Client) : Step → Option Client
  | .runCheck =>
    match c.run with
    | .loop => some { c with run := if c.stopFlag then .done else .connecting }
    | _ => none
  | .runServer =>
    match c.run with
    | .connecting => some { c.server.1 with run := .reading c.server.2 }
    | _ => none
  | .runRecv r =>
    match c.run, r with
    | .reading j, .values vs =>
      if c.sockClosed j then none
      else some { c with callbacks := c.callbacks ++ vs.map .message }
    | .reading j, .eof =>
      if c.sockClosed j then none else some { c.markBroken j with run := .closing }
    | .reading j, .error => some { c.markBroken j with run := .closing }
    | .reading j, .raised => if c.sockClosed j then none else some { c with run := .done }
    | _, _ => none
  | .runClose =>
    match c.run with
    | .closing => some { c.closeConnection with run := .loop }
    | _ => none
  | .sendServer i =>
    match c.senders[i]? with
    | some (a, .attempt (left + 1)) => some (c.server.1.setSender i a (.writing c.server.2 left))
    | _ => none
  | .sendWrite i ok =>
    match c.senders[i]? with
    | some (a, .writing j left) =>
      match encodeArg a with
      | .error _ => some (c.setSender i a (.closing left))
      | .ok _ =>
        if c.sockClosed j || !ok then some ((c.markBroken j).setSender i a (.closing left))
        else some (c.setSender i a (.returned true))
    | _ => none
  | .sendClose i =>
    match c.senders[i]? with
    | some (a, .closing left) =>
      some (c.closeConnection.setSender i a (if left = 0 then .returned false else .attempt left))
    | _ => none
  | .stopSet =>
    match c.stopper with
    | .idle => some { c with stopFlag := true, stopper := .sleeping }
    | _ => none
  | .stopClose =>
    match c.stopper with
    | .sleeping => some { c.closeConnection with stopper := .done }
    | _ => none

/-- Steps one after another; `none` if one cannot be taken. -/
def runSteps : Client → List Step → Option Client
  | c, [] => some c
  | c, st :: sts => (c.step st).bind (·.runSteps sts)

/-- Socket `j` is open and nothing failed on it. -/
def Healthy (c : Client) (j : Nat) : Prop := c.socks[j]? = some ⟨false, false⟩

end Client

/-- A step closed a healthy socket, no stop requested. -/
def ClosesHealthy (c c' : Client) : Prop :=
  c.stopFlag = false ∧ ∃ j, c.Healthy j ∧ c'.sockClosed j = true

namespace Client

/-! ## What `server`, `close_connection` and a failure touch -/

@[simp] theorem server_senders (c : Client) : c.server.1.senders = c.senders := by
  unfold server; split <;> rfl

@[simp] theorem server_stopFlag (c : Client) : c.server.1.stopFlag = c.stopFlag := by
  unfold server; split <;> rfl

@[simp] theorem server_stopper (c : Client) : c.server.1.stopper = c.stopper := by
  unfold server; split <;> rfl

@[simp] theorem markBroken_senders (c : Client) (j : Nat) : (c.markBroken j).senders = c.senders := rfl

@[simp] theorem markBroken_conn (c : Client) (j : Nat) : (c.markBroken j).conn = c.conn := rfl

@[simp] theorem markBroken_stopFlag (c : Client) (j : Nat) : (c.markBroken j).stopFlag = c.stopFlag :=
  rfl

@[simp] theorem markBroken_stopper (c : Client) (j : Nat) : (c.markBroken j).stopper = c.stopper := rfl

@[simp] theorem closeConnection_senders (c : Client) : c.closeConnection.senders = c.senders := by
  unfold closeConnection; split <;> rfl

@[simp] theorem closeConnection_stopFlag (c : Client) : c.closeConnection.stopFlag = c.stopFlag := by
  unfold closeConnection; split <;> rfl

@[simp] theorem closeConnection_stopper (c : Client) : c.closeConnection.stopper = c.stopper := by
  unfold closeConnection; split <;> rfl

theorem server_conn (c : Client) : c.server.1.conn = some c.server.2 := by
  unfold server; split <;> simp_all

/-! ## Which sockets a step closes -/

theorem Healthy.sockClosed {c : Client} {j : Nat} (h : c.Healthy j) : c.sockClosed j = false := by
  unfold Client.sockClosed
  rw [show c.socks[j]? = some ⟨false, false⟩ from h]
  rfl

theorem sockClosed_markBroken (c : Client) (j k : Nat) :
    (c.markBroken j).sockClosed k = c.sockClosed k := by
  simp only [sockClosed, markBroken, setSock, List.getElem?_modify]
  rcases c.socks[k]? with _ | x
  · rfl
  · by_cases e : j = k <;> simp [e]

theorem not_healthy_markBroken (c : Client) (j : Nat) : ¬ (c.markBroken j).Healthy j := by
  simp only [Healthy, markBroken, setSock, List.getElem?_modify, if_true]
  rcases c.socks[j]? with _ | x <;> simp

theorem sockClosed_server (c : Client) {k : Nat} (h : c.sockClosed k = false) :
    c.server.1.sockClosed k = false := by
  unfold server
  split
  · exact h
  · rcases hk : c.socks[k]? with _ | x
    · simp [sockClosed, hk] at h
    · have hlt : k < c.socks.length := (List.getElem?_eq_some_iff.mp hk).1
      simpa [sockClosed, List.getElem?_append_left hlt, hk] using h

theorem sockClosed_closeConnection (c : Client) {k : Nat} (h : c.closeConnection.sockClosed k = true) :
    c.sockClosed k = true ∨ c.conn = some k := by
  unfold closeConnection at h
  split at h
  · exact .inl h
  · rename_i j hj
    by_cases e : j = k
    · exact .inr (e ▸ hj)
    · left
      simpa [sockClosed, setSock, List.getElem?_modify, e] using h

/-! ## No `send` in flight -/

/-- What holds of every state a run reaches with no `send` in flight: `stop` sets the flag before
it closes, `run` reads on `self.conn` unless a stop closed it, and `run` cleans up only after a
read on `self.conn` failed or ended. -/
structure RunInv (c : Client) : Prop where
  no_senders : c.senders = []
  stop_flag : c.stopper ≠ .idle → c.stopFlag = true
  reading : ∀ j, c.run = .reading j → c.conn = some j ∨ c.stopFlag = true
  closing : c.run = .closing → c.stopFlag = true ∨ ∀ j, c.conn = some j → ¬ c.Healthy j

/-- After a read on socket `j` failed or ended, `run` cleans up. -/
theorem RunInv.readFailed {c : Client} (hc : c.RunInv) {j : Nat} (hr : c.run = .reading j) :
    ({ c.markBroken j with run := .closing } : Client).RunInv where
  no_senders := hc.no_senders
  stop_flag := hc.stop_flag
  reading _ h := by cases h
  closing _ := by
    rcases hc.reading j hr with hj | hf
    · exact .inr fun j' hj' hh => by
        rw [show j' = j by simp_all] at hh
        exact not_healthy_markBroken c j hh
    · exact .inl hf

/-- One step keeps the invariant, and closes no healthy socket. -/
theorem RunInv.step {c c' : Client} (hc : c.RunInv) {st : Step} (hs : c.step st = some c') :
    c'.RunInv ∧ ¬ ClosesHealthy c c' := by
  have keep : (∀ j, c.sockClosed j = false → c'.sockClosed j = false) → ¬ ClosesHealthy c c' :=
    fun h ⟨_, j, hj, hc'⟩ => by rw [h j hj.sockClosed] at hc'; cases hc'
  cases st with
  | runCheck =>
    cases hr : c.run <;> simp only [Client.step, hr, reduceCtorEq, Option.some.injEq] at hs
    subst hs
    refine ⟨⟨hc.no_senders, hc.stop_flag, fun j h => ?_, fun h => ?_⟩, keep fun j h => h⟩ <;>
      split at h <;> cases h
  | runServer =>
    cases hr : c.run <;> simp only [Client.step, hr, reduceCtorEq, Option.some.injEq] at hs
    subst hs
    refine ⟨⟨by simpa using hc.no_senders, by simpa using hc.stop_flag, fun j h => ?_, nofun⟩,
      keep fun j h => sockClosed_server c h⟩
    cases h
    exact .inl (server_conn c)
  | runRecv r =>
    cases hr : c.run <;> cases r <;> simp only [Client.step, hr, reduceCtorEq] at hs
    all_goals first
      | (split at hs <;> simp only [reduceCtorEq, Option.some.injEq] at hs)
      | simp only [Option.some.injEq] at hs
    all_goals subst hs
    · exact ⟨⟨hc.no_senders, hc.stop_flag, fun j h => hc.reading j (hr.trans h), nofun⟩,
        keep fun j h => h⟩
    · exact ⟨hc.readFailed hr, keep fun k h => (sockClosed_markBroken c _ k).trans h⟩
    · exact ⟨hc.readFailed hr, keep fun k h => (sockClosed_markBroken c _ k).trans h⟩
    · exact ⟨⟨hc.no_senders, hc.stop_flag, fun _ => nofun, nofun⟩, keep fun j h => h⟩
  | runClose =>
    cases hr : c.run <;> simp only [Client.step, hr, reduceCtorEq, Option.some.injEq] at hs
    subst hs
    refine ⟨⟨by simpa using hc.no_senders, by simpa using hc.stop_flag, fun _ => nofun, nofun⟩,
      fun ⟨hf, j, hj, hcl⟩ => ?_⟩
    rcases sockClosed_closeConnection c hcl with h | h
    · rw [hj.sockClosed] at h
      cases h
    · rcases hc.closing hr with h' | h'
      · rw [hf] at h'
        cases h'
      · exact h' j h hj
  | sendServer i => simp [Client.step, hc.no_senders] at hs
  | sendWrite i ok => simp [Client.step, hc.no_senders] at hs
  | sendClose i => simp [Client.step, hc.no_senders] at hs
  | stopSet =>
    cases hr : c.stopper <;> simp only [Client.step, hr, reduceCtorEq, Option.some.injEq] at hs
    subst hs
    exact ⟨⟨hc.no_senders, fun _ => rfl, fun _ _ => .inr rfl, fun _ => .inl rfl⟩, keep fun j h => h⟩
  | stopClose =>
    cases hr : c.stopper <;> simp only [Client.step, hr, reduceCtorEq, Option.some.injEq] at hs
    subst hs
    have hf : c.stopFlag = true := hc.stop_flag (by rw [hr]; exact nofun)
    have hf' : c.closeConnection.stopFlag = true := by simpa using hf
    refine ⟨⟨by simpa using hc.no_senders, fun _ => hf', fun _ _ => .inr hf', fun _ => .inl hf'⟩,
      fun ⟨h, _⟩ => ?_⟩
    rw [hf] at h
    cases h

theorem RunInv.runSteps : ∀ {c c' : Client} {sts : List Step}, c.RunInv → c.runSteps sts = some c' →
    c'.RunInv
  | _, _, [], hc, h => by cases h; exact hc
  | c, _, st :: sts, hc, h => by
    rw [Client.runSteps] at h
    obtain ⟨c₁, h₁, h⟩ := Option.bind_eq_some.mp h
    exact (hc.step h₁).1.runSteps h

end Client

namespace Client

/-! ## A `send` in flight -/

@[simp] theorem setSender_socks (c : Client) (i : Nat) (a : SendArg) (pc : SendPc) :
    (c.setSender i a pc).socks = c.socks := rfl

@[simp] theorem setSender_conn (c : Client) (i : Nat) (a : SendArg) (pc : SendPc) :
    (c.setSender i a pc).conn = c.conn := rfl

@[simp] theorem setSender_stopFlag (c : Client) (i : Nat) (a : SendArg) (pc : SendPc) :
    (c.setSender i a pc).stopFlag = c.stopFlag := rfl

theorem setSender_self {c : Client} {i : Nat} (hi : i < c.senders.length) (a : SendArg) (pc : SendPc) :
    (c.setSender i a pc).senders[i]? = some (a, pc) := by
  simp [setSender, hi]

theorem sockClosed_closeConnection_conn {c : Client} {j : Nat} (hj : c.conn = some j)
    (hh : c.Healthy j) : c.closeConnection.sockClosed j = true := by
  simp only [closeConnection, hj, sockClosed, setSock, List.getElem?_modify, if_true]
  rw [show c.socks[j]? = some ⟨false, false⟩ from hh]
  rfl

/-- A `send` whose payload `json.dumps` refuses closes `self.conn`, however healthy it is. -/
theorem unserializable_closes_healthy {c : Client} {i j left : Nat} {a : SendArg} {e : PyError}
    (hi : c.senders[i]? = some (a, .writing j left)) (he : encodeArg a = .error e)
    (hj : c.conn = some j) (hh : c.Healthy j) (hf : c.stopFlag = false) (ok : Bool) :
    ∃ c₁ c₂, c.step (.sendWrite i ok) = some c₁ ∧ c₁.step (.sendClose i) = some c₂ ∧
      ClosesHealthy c₁ c₂ := by
  have hlt : i < c.senders.length := (List.getElem?_eq_some_iff.mp hi).1
  let c₁ := c.setSender i a (.closing left)
  refine ⟨c₁, c₁.closeConnection.setSender i a (if left = 0 then .returned false else .attempt left),
    by simp only [step, hi, he, c₁], by simp only [step, c₁, setSender_self hlt], hf, j, hh,
    @sockClosed_closeConnection_conn c₁ j hj hh⟩

end Client

/-- Two schedules of the host's `VsockClient` in which `close_connection` closes a healthy socket.
In the first, the peer goes away: `run`'s read meets the end of the stream; before `run` cleans up,
`send`'s write on the same socket fails, `send` closes it, connects again and writes; `run`'s
cleanup then closes the new connection. In the second, `HostService.reset` passes the `Reset`
object to `send`: `json.dumps` refuses it, and `send` closes the connection `run` reads. -/
theorem close_connection_tears_down_healthy :
    (∃ c c', (Client.init [.json (GetDevices.toJson ⟨⟩)]).runSteps
        [.runCheck, .runServer, .runRecv .eof, .sendServer 0, .sendWrite 0 false, .sendClose 0,
          .sendServer 0, .sendWrite 0 true] = some c ∧
      c.step .runClose = some c' ∧ ClosesHealthy c c') ∧
    (∃ c c', (Client.init [.message (.reset ⟨⟩)]).runSteps
        [.runCheck, .runServer, .sendServer 0, .sendWrite 0 true] = some c ∧
      c.step (.sendClose 0) = some c' ∧ ClosesHealthy c c') :=
  ⟨⟨_, _, rfl, rfl, rfl, 1, rfl, rfl⟩, ⟨_, _, rfl, rfl, rfl, 0, rfl, rfl⟩⟩

/-! ## Callbacks -/

/-- `run` reads a value on its first connection, meets the end of the stream, cleans up, connects
again and reads another value. `server()` made two connections, and the whole trace of callbacks
is the two `on_message` calls with one `on_disconnect` between them: the trace starts with
`on_message`, and no `on_connect` precedes either connection's first message. -/
theorem reconnect_without_on_connect (v w : Value) :
    ∃ c, (Client.init []).runSteps [.runCheck, .runServer, .runRecv (.values [v]), .runRecv .eof,
        .runClose, .runCheck, .runServer, .runRecv (.values [w])] = some c ∧
      c.socks.length = 2 ∧ c.callbacks = [.message v, .disconnect, .message w] :=
  ⟨_, rfl, rfl, rfl⟩

end Vsock
end UsbPassthrough
