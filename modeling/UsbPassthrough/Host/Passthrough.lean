import UsbPassthrough.Host.Service

/-!
# UsbPassthrough.Host.Passthrough

What `HostService.handle_request` does with a decodable `passthrough_request` for device `d` and
target VM `v`.

* `handleRequest_handler_calls`: the passthrough handler runs exactly when `d` is registered,
  whatever `v` is; the permitted VMs and the current VM are looked at only afterwards, by
  `notify_device_passthrough`.
* `handleRequest_passthrough_sends`: nothing is sent unless `d` is registered, the handler
  succeeded, and `v` is a permitted VM other than the current one; then the one message is the
  `ok` acknowledgement for `(d, v)`. No `denied` or `error` acknowledgement is ever built.
-/

namespace UsbPassthrough
namespace Host

open Dpm

/-- The handler calls among a method's calls. -/
def handlerCalls (calls : List Call) : List (String × String) :=
  calls.filterMap fun
    | .passthroughHandler d v => some (d, v)
    | _ => none

/-- The arguments passed to `send` among a method's calls. -/
def sent (calls : List Call) : List SendArg :=
  calls.filterMap fun
    | .send a => some a
    | _ => none

variable (send : SendArg → Bool) (handler : String → String → Bool) (s : HostService)

/-- `notify_device_passthrough` sends at most the `ok` acknowledgement, and only after a move. -/
theorem notifyDevicePassthrough_calls (d v : String) :
    (notifyDevicePassthrough send s d v).calls = [] ∨
      ∃ e j, s.deviceRegistry.get? d = some e ∧ v ∈ e.permittedVms ∧ v ≠ e.currentVm ∧
        passthroughAckJson d v = .ok j ∧ (notifyDevicePassthrough send s d v).calls = [.send (.json j)] := by
  unfold notifyDevicePassthrough
  cases he : s.deviceRegistry.get? d with
  | none => exact .inl rfl
  | some e =>
    dsimp only
    split
    · split
      · cases hj : passthroughAckJson d v with
        | error err => exact .inl rfl
        | ok j => exact .inr ⟨e, j, rfl, by assumption, by assumption, rfl, rfl⟩
      · exact .inl rfl
    · exact .inl rfl

theorem handleRequest_handler_calls {msg : Value} {r : PassthroughRequest}
    (hr : PassthroughRequest.fromMessage msg = .ok (some r)) :
    handlerCalls (handleRequest send handler s msg).calls =
      if s.deviceRegistry.contains r.deviceId then [(r.deviceId, r.targetVm)] else [] := by
  rw [handleRequest_request send handler s hr]
  split
  · split
    · rcases notifyDevicePassthrough_calls send s r.deviceId r.targetVm with
        h | ⟨_, _, _, _, _, _, h⟩ <;> simp [handlerCalls, h]
    · simp [handlerCalls]
  · simp [handlerCalls]

/-- A registered device, a target VM that is not among its permitted VMs: the handler, which
moves the device, is called with that VM. -/
theorem handleRequest_passes_unpermitted_vm :
    "vm-c" ∉ ["vm-a", "vm-b"] ∧
      (handleRequest (fun _ => true) (fun _ _ => true)
        ⟨PyDict.empty.set "dev-1" ⟨"dev-1", "Acme", "Keyboard", ["vm-a", "vm-b"], "vm-a"⟩⟩
        (PassthroughRequest.toJson ⟨"dev-1", "vm-c", by decide, by decide⟩)).calls =
        [.passthroughHandler "dev-1" "vm-c"] :=
  ⟨by decide, rfl⟩

theorem handleRequest_passthrough_sends {msg : Value} {r : PassthroughRequest}
    (hr : PassthroughRequest.fromMessage msg = .ok (some r)) :
    sent (handleRequest send handler s msg).calls = [] ∨
      ∃ e j, s.deviceRegistry.get? r.deviceId = some e ∧ handler r.deviceId r.targetVm = true ∧
        r.targetVm ∈ e.permittedVms ∧ r.targetVm ≠ e.currentVm ∧
        passthroughAckJson r.deviceId r.targetVm = .ok j ∧
        sent (handleRequest send handler s msg).calls = [.json j] := by
  rw [handleRequest_request send handler s hr]
  split
  · split
    · rename_i hh
      rcases notifyDevicePassthrough_calls send s r.deviceId r.targetVm with h | ⟨e, j, he, hm, hne, hj, h⟩
      · exact .inl (by simp [sent, h])
      · exact .inr ⟨e, j, he, hh, hm, hne, hj, by simp [sent, h]⟩
    · exact .inl (by simp [sent])
  · exact .inl (by simp [sent])

theorem handleRequest_passthrough_sends_known :
    let s : HostService :=
      ⟨PyDict.empty.set "dev-1" ⟨"dev-1", "Acme", "Keyboard", ["vm-a", "vm-b"], "vm-a"⟩⟩
    let msg := PassthroughRequest.toJson ⟨"dev-1", "vm-b", by decide, by decide⟩
    sent (handleRequest (fun _ => true) (fun _ _ => true) s msg).calls = [] ∨
      ∃ (e : Entry) (j : Value), s.deviceRegistry.get? "dev-1" = some e ∧
        (fun _ _ => true : String → String → Bool) "dev-1" "vm-b" = true ∧
        "vm-b" ∈ e.permittedVms ∧ "vm-b" ≠ e.currentVm ∧ passthroughAckJson "dev-1" "vm-b" = .ok j ∧
        sent (handleRequest (fun _ => true) (fun _ _ => true) s msg).calls = [.json j] :=
  @handleRequest_passthrough_sends (fun _ => true) (fun _ _ => true)
    ⟨PyDict.empty.set "dev-1" ⟨"dev-1", "Acme", "Keyboard", ["vm-a", "vm-b"], "vm-a"⟩⟩
    (PassthroughRequest.toJson ⟨"dev-1", "vm-b", by decide, by decide⟩)
    ⟨"dev-1", "vm-b", by decide, by decide⟩ rfl

/-- A request for a device the host does not know is answered with no message at all. -/
theorem handleRequest_unknown_device_sends_nothing :
    (handleRequest (fun _ => true) (fun _ _ => true) .init
      (PassthroughRequest.toJson ⟨"dev-1", "vm-a", by decide, by decide⟩)).calls = [] :=
  rfl

end Host
end UsbPassthrough
