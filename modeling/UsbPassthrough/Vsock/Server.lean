import UsbPassthrough.Gui.Handler

/-!
# UsbPassthrough.Vsock.Server

`VsockServer` and its `VsockConnectionWorker`s, with the `USBPassthroughGUI` registered for the
GUI VM's cid `g`: every connection from `g` gets a worker thread of its own, and all of them share
the one handler. The udev monitor calls the handler's `notify_*` methods on a thread of its own.

Each step is one thread's call: `accept()` returning a connection, a worker's `on_connect`, one
message of its `receive` loop, the `finally` of its `run`, `stop()`, or a notification. A worker
is `started` until its `on_connect`, `serving` until its `on_disconnect`, then `done`.

* `ctx_live_run`: whatever the interleaving, `handler.ctx`, when set, is the context of a worker
  that is serving;
* `stale_disconnect_clears_ctx`: with two connections from the GUI VM overlapping, the older
  worker's `on_disconnect` sets `handler.ctx` to `None` while the newer one is serving, and that
  worker's next `get_devices` request raises and tears its connection down.
-/

namespace UsbPassthrough
namespace Vsock

open Dpm Host Gui

/-- Where a `VsockConnectionWorker`'s thread is. -/
inductive WorkerPc where
  /-- Started; `run` has not called `on_connect` yet. -/
  | started
  /-- Past `on_connect`, in the loop over `json_transport.receive(conn)`. -/
  | serving
  /-- `run`'s `finally` closed the connection and called `on_disconnect`. -/
  | done
  deriving DecidableEq, Repr

structure Worker where
  /-- `addr`: the peer's cid and port. -/
  peer : Nat × Nat
  pc : WorkerPc
  /-- `self._stop`. -/
  stopped : Bool

/-- The state of the server, its workers in creation order, and the shared handler. -/
structure Server where
  /-- `self._stop`. -/
  stopFlag : Bool
  workers : List Worker
  /-- `self._workers`: the worker last created for each peer address. -/
  byAddr : List ((Nat × Nat) × Nat)
  handler : Handler

def Server.init : Server := ⟨false, [], [], Handler.init⟩

/-- One thread's step. -/
inductive ServerStep where
  /-- `accept()` returns a connection from `(cid, port)`. -/
  | accept (cid port : Nat)
  /-- Worker `w` calls `on_connect(self._ctx)`. -/
  | connect (w : Nat)
  /-- Worker `w`'s `receive` yields `msg`: `on_message(msg)` unless `self._stop` is set. -/
  | message (w : Nat) (msg : Value)
  /-- Worker `w`'s `receive` ends, at the end of the stream or with an `OSError`. -/
  | finish (w : Nat)
  /-- `VsockServer.stop()`. -/
  | stop
  /-- The udev monitor calls `notify_device_connected` or `notify_device_disconnected`. -/
  | notifyConnected (deviceId vendor product : String) (permittedVms : List String)
      (currentVm : String)
  | notifyDisconnected (deviceId : String)

namespace Server

/-- `self._workers[addr] = w`. -/
def setAddr (addr : Nat × Nat) (w : Nat) : List ((Nat × Nat) × Nat) → List ((Nat × Nat) × Nat)
  | [] => [(addr, w)]
  | e :: es => if e.1 = addr then (addr, w) :: es else e :: setAddr addr w es

def setPc (s : Server) (w : Nat) (pc : WorkerPc) : Server :=
  { s with workers := s.workers.modify (fun k => { k with pc := pc }) w }

/-- `run`'s `finally`: the connection is closed, then `on_disconnect()`. -/
def finishWorker (s : Server) (w : Nat) : Server :=
  { s.setPc w .done with handler := s.handler.onDisconnect }

/-- `w.stop()` for every worker `self._workers` still names. -/
def stopWorkers (s : Server) : Server :=
  { s with workers := s.workers.enum.map fun (i, k) =>
      if s.byAddr.any (·.2 == i) then { k with stopped := true } else k }

def workerPc (s : Server) (w : Nat) : Option WorkerPc := s.workers[w]?.map Worker.pc

variable (send : Nat → SendArg → Bool) (pass : String → String → Bool) (g : Nat)

/-- One step; `none` when the thread cannot take it. -/
def step (s : Server) : ServerStep → Option Server
  | .accept cid port =>
    if s.stopFlag then none
    else if cid = g then
      some { s with workers := s.workers ++ [⟨(cid, port), .started, false⟩],
                    byAddr := setAddr (cid, port) s.workers.length s.byAddr }
    else some s
  | .connect w =>
    if s.workerPc w = some .started then
      some { s.setPc w .serving with handler := s.handler.onConnect w }
    else none
  | .message w msg =>
    match s.workers[w]? with
    | some ⟨_, .serving, stopped⟩ =>
      if stopped then some (s.finishWorker w)
      else
        let o := s.handler.handleRequest send pass msg
        match o.result with
        | .ok _ => some { s with handler := o.handler }
        | .error _ => some ({ s with handler := o.handler }.finishWorker w)
    | _ => none
  | .finish w => if s.workerPc w = some .serving then some (s.finishWorker w) else none
  | .stop => if s.stopFlag then some s else some { s.stopWorkers with stopFlag := true }
  | .notifyConnected d v p vms cur =>
    some { s with handler := (s.handler.notifyDeviceConnected send d v p vms cur).handler }
  | .notifyDisconnected d =>
    some { s with handler := (s.handler.notifyDeviceDisconnected send d).handler }

def runSteps : Server → List ServerStep → Option Server
  | s, [] => some s
  | s, st :: sts => (s.step send pass g st).bind (runSteps · sts)

/-! ## What a step does to the workers and to `handler.ctx` -/

theorem workerPc_setPc_self (s : Server) (w : Nat) (pc : WorkerPc) :
    (s.setPc w pc).workerPc w = (s.workerPc w).map fun _ => pc := by
  simp only [workerPc, setPc, List.getElem?_modify_eq, Option.map_map]
  cases s.workers[w]? <;> rfl

theorem workerPc_stopWorkers (s : Server) (k : Nat) : s.stopWorkers.workerPc k = s.workerPc k := by
  simp only [workerPc, stopWorkers, List.getElem?_map, List.getElem?_enum, Option.map_map]
  rcases s.workers[k]? with _ | x
  · rfl
  · simp only [Option.map_some', Function.comp_apply]
    split <;> rfl

theorem workerPc_append (s : Server) {k : Nat} {pc : WorkerPc} (h : s.workerPc k = some pc)
    (x : Worker) : (s.workers ++ [x])[k]?.map Worker.pc = some pc := by
  obtain ⟨y, hy, -⟩ := Option.map_eq_some'.mp h
  rwa [List.getElem?_append_left (List.getElem?_eq_some_iff.mp hy).1]

@[simp] theorem finishWorker_ctx (s : Server) (w : Nat) : (s.finishWorker w).handler.ctx = none :=
  rfl

/-- `handler.ctx`, when set, is the context of a serving worker. -/
def CtxLive (s : Server) : Prop := ∀ w, s.handler.ctx = some w → s.workerPc w = some .serving

theorem ctxLive_init : Server.init.CtxLive := nofun

/-- A step that leaves the workers' places and `handler.ctx` as they were. -/
theorem CtxLive.of_frame {s s' : Server} (hc : s.CtxLive) (hw : ∀ k, s'.workerPc k = s.workerPc k)
    (hx : s'.handler.ctx = s.handler.ctx) : s'.CtxLive := fun w h => by
  rw [hw]; exact hc w (hx ▸ h)

theorem CtxLive.finishWorker (s : Server) (w : Nat) : (s.finishWorker w).CtxLive := nofun

theorem CtxLive.step {s s' : Server} (hc : s.CtxLive) {st : ServerStep}
    (hs : s.step send pass g st = some s') : s'.CtxLive := by
  cases st with
  | accept cid port =>
    simp only [Server.step] at hs
    split at hs
    · cases hs
    · split at hs <;> cases hs
      · exact fun w h => workerPc_append s (hc w h) _
      · exact hc
  | connect w =>
    simp only [Server.step] at hs
    split at hs
    · cases hs
      rename_i hw
      intro k hk
      cases hk
      show (s.setPc w .serving).workerPc w = _
      rw [workerPc_setPc_self, hw]
      rfl
    · cases hs
  | message w msg =>
    simp only [Server.step] at hs
    split at hs
    · split at hs
      · cases hs; exact CtxLive.finishWorker s w
      · split at hs <;> cases hs
        · exact hc.of_frame (fun _ => rfl) (Handler.handleRequest_ctx send pass _ msg)
        · exact CtxLive.finishWorker _ w
    · cases hs
  | finish w =>
    simp only [Server.step] at hs
    split at hs
    · cases hs; exact CtxLive.finishWorker s w
    · cases hs
  | stop =>
    simp only [Server.step] at hs
    split at hs <;> cases hs
    · exact hc
    · exact hc.of_frame (workerPc_stopWorkers s) rfl
  | notifyConnected d v p vms cur =>
    cases hs
    exact hc.of_frame (fun _ => rfl) (Handler.notifyDeviceConnected_ctx send _ d v p vms cur)
  | notifyDisconnected d =>
    cases hs
    exact hc.of_frame (fun _ => rfl) (Handler.notifyDeviceDisconnected_ctx send _ d)

theorem CtxLive.runSteps : ∀ {s s' : Server} {sts : List ServerStep}, s.CtxLive →
    s.runSteps send pass g sts = some s' → s'.CtxLive
  | _, _, [], hc, h => by cases h; exact hc
  | s, _, st :: sts, hc, h => by
    rw [Server.runSteps] at h
    obtain ⟨s₁, h₁, h⟩ := Option.bind_eq_some.mp h
    exact (hc.step send pass g h₁).runSteps h

end Server

/-- Whatever the interleaving of the accept loop, the workers, `stop` and the udev monitor,
`handler.ctx`, when it is set, is the `ConnCtx` of a worker between its `on_connect` and its
`on_disconnect`. -/
theorem ctx_live_run (send : Nat → SendArg → Bool) (pass : String → String → Bool) (g : Nat)
    {sts : List ServerStep} {s : Server} (h : Server.init.runSteps send pass g sts = some s)
    (w : Nat) (hw : s.handler.ctx = some w) : s.workerPc w = some .serving :=
  (Server.ctxLive_init.runSteps send pass g h) w hw

/-- The GUI VM reconnects before its first worker sees the end of the stream. -/
theorem reconnect_ctx_is_live :
    ∃ s, Server.init.runSteps (fun _ _ => true) (fun _ _ => true) 3
        [.accept 3 1024, .connect 0, .accept 3 1025, .connect 1] = some s ∧
      s.handler.ctx = some 1 ∧ s.workerPc 1 = some .serving :=
  ⟨_, rfl, rfl, @ctx_live_run (fun _ _ => true) (fun _ _ => true) 3
    [.accept 3 1024, .connect 0, .accept 3 1025, .connect 1] _ rfl 1 rfl⟩

/-- Two connections from the GUI VM overlap: worker 1 connects before worker 0 sees the end of its
stream. Worker 0's `on_disconnect` sets `handler.ctx` to `None` while worker 1 is serving, and
worker 1's next `get_devices` request raises `AttributeError` in `handle_request`, so its `finally`
closes the GUI VM's live connection. -/
theorem stale_disconnect_clears_ctx (send : Nat → SendArg → Bool)
    (pass : String → String → Bool) :
    ∃ s s', Server.init.runSteps send pass 3
        [.accept 3 1024, .accept 3 1025, .connect 0, .connect 1, .finish 0] = some s ∧
      s.workerPc 1 = some .serving ∧ s.handler.ctx = none ∧
      (s.handler.handleRequest send pass (GetDevices.toJson ⟨⟩)).result =
        .error (.attributeError "NoneType" "send") ∧
      s.step send pass 3 (.message 1 (GetDevices.toJson ⟨⟩)) = some s' ∧
      s'.workerPc 1 = some .done :=
  ⟨_, _, rfl, rfl, rfl, rfl, rfl, rfl⟩

end Vsock
end UsbPassthrough
