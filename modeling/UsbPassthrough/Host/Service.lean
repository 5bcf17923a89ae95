import UsbPassthrough.Dpm.Messages

/-!
# UsbPassthrough.Host.Service

`HostService` of `upm.host.service`: the authoritative device registry on the host, the methods
the udev monitor calls (`notify_device_connected`, `notify_device_disconnected`, `reset`), and
`handle_request`, the `on_message` callback of its `VsockClient`.

A method's call is modelled by its `Outcome`: the Python result (a value or the exception that
escapes), the service afterwards, and the calls made to collaborators, in order. The registry is
written under `self.lock` before anything that can raise, so a raised exception never undoes a
write. The collaborators are parameters:

* `send`: `self.gui_vm.send(arg)`, its result as the transport reports it;
* `handler`: `self.passthrough_handler(self.metadata, device_id, target_vm)`, in `vhotplug`
  `handle_user_device_passthrough_request`, which moves the USB device to `target_vm`.
-/

namespace UsbPassthrough
namespace Host

open Dpm

/-- One entry of `device_registry`: the dict `notify_device_connected` stores. -/
structure Entry where
  deviceId : String
  vendor : String
  product : String
  permittedVms : List String
  currentVm : String

/-- The entry as the dict the host stores, with the keys `permitted-vms` and `current-vm`. -/
def Entry.toValue (e : Entry) : Value :=
  .dict [("device_id", .str e.deviceId), ("vendor", .str e.vendor), ("product", .str e.product),
    ("permitted-vms", .ofStrList e.permittedVms), ("current-vm", .str e.currentVm)]

/-- The state of a `HostService` its methods read and write. -/
structure HostService where
  deviceRegistry : PyDict Entry

def HostService.init : HostService := ⟨.empty⟩

/-- The argument of `self.gui_vm.send(...)`: the `dict` a `to_json` built, or a message object
passed as it is. -/
inductive SendArg where
  | json (v : Value)
  | message (m : Message)

/-- A call made to a collaborator. -/
inductive Call where
  | passthroughHandler (deviceId targetVm : String)
  | send (arg : SendArg)

structure Outcome (α : Type) where
  result : Except PyError α
  service : HostService
  calls : List Call

variable (send : SendArg → Bool) (handler : String → String → Bool) (s : HostService)

/-- `notify_device_connected`: a known device is ignored; a new one is stored, then announced. -/
def notifyDeviceConnected (deviceId vendor product : String) (permittedVms : List String)
    (currentVm : String) : Outcome Bool :=
  if s.deviceRegistry.contains deviceId then ⟨.ok true, s, []⟩
  else
    let s' : HostService :=
      ⟨s.deviceRegistry.set deviceId ⟨deviceId, vendor, product, permittedVms, currentVm⟩⟩
    match DeviceConnected.init (.str deviceId) (.str vendor) (.str product)
        (.ofStrList permittedVms) (.str currentVm) with
    | .error e => ⟨.error e, s', []⟩
    | .ok m => ⟨.ok (send (.json m.toJson)), s', [.send (.json m.toJson)]⟩

/-- `reset`: clears the registry and passes the `Reset` object itself to `send`. -/
def reset : Outcome Bool :=
  ⟨.ok (send (.message (.reset ⟨⟩))), ⟨.empty⟩, [.send (.message (.reset ⟨⟩))]⟩

def notifyDeviceDisconnected (deviceId : String) : Outcome Bool :=
  if s.deviceRegistry.contains deviceId then
    let s' : HostService := ⟨s.deviceRegistry.erase deviceId⟩
    match DeviceRemoved.init (.str deviceId) with
    | .error e => ⟨.error e, s', []⟩
    | .ok m => ⟨.ok (send (.json m.toJson)), s', [.send (.json m.toJson)]⟩
  else ⟨.ok false, s, []⟩

/-- The acknowledgement `notify_device_passthrough` builds after moving the device. -/
def passthroughAckJson (deviceId newVm : String) : Except PyError Value := do
  let ack ← PassthroughAck.init (.str deviceId) (.str newVm) (.str "ok") .none
  ack.toJson

def notifyDevicePassthrough (deviceId newVm : String) : Outcome Bool :=
  match s.deviceRegistry.get? deviceId with
  | none => ⟨.ok false, s, []⟩
  | some e =>
    if newVm ∈ e.permittedVms then
      if newVm ≠ e.currentVm then
        let s' : HostService := ⟨s.deviceRegistry.set deviceId { e with currentVm := newVm }⟩
        match passthroughAckJson deviceId newVm with
        | .error err => ⟨.error err, s', []⟩
        | .ok j => ⟨.ok (send (.json j)), s', [.send (.json j)]⟩
      else ⟨.ok true, s, []⟩
    else ⟨.ok false, s, []⟩

/-- `handle_request(msg)`. For a passthrough request the handler runs as soon as the device is
registered; `notify_device_passthrough` checks the target VM afterwards. -/
def handleRequest (msg : Value) : Outcome Unit :=
  match getMessageType msg with
  | .error e => ⟨.error e, s, []⟩
  | .ok t =>
    if t.isStr GetDevices.msgType then
      match ConnectedDevices.init (s.deviceRegistry.map Entry.toValue).entries with
      | .error e => ⟨.error e, s, []⟩
      | .ok cd => ⟨.ok (), s, [.send (.json cd.toJson)]⟩
    else if t.isStr PassthroughRequest.msgType then
      match PassthroughRequest.fromMessage msg with
      | .error e => ⟨.error e, s, []⟩
      | .ok none => ⟨.error (.attributeError "NoneType" "device_id"), s, []⟩
      | .ok (some r) =>
        if s.deviceRegistry.contains r.deviceId then
          if handler r.deviceId r.targetVm then
            let o := notifyDevicePassthrough send s r.deviceId r.targetVm
            ⟨o.result.map (fun _ => ()), o.service,
              .passthroughHandler r.deviceId r.targetVm :: o.calls⟩
          else ⟨.ok (), s, [.passthroughHandler r.deviceId r.targetVm]⟩
        else ⟨.ok (), s, []⟩
    else ⟨.ok (), s, []⟩

/-! ## What each method does to the registry -/

@[simp] theorem notifyDeviceConnected_service (deviceId vendor product : String)
    (permittedVms : List String) (currentVm : String) :
    (notifyDeviceConnected send s deviceId vendor product permittedVms currentVm).service =
      if s.deviceRegistry.contains deviceId then s
      else ⟨s.deviceRegistry.set deviceId ⟨deviceId, vendor, product, permittedVms, currentVm⟩⟩ := by
  unfold notifyDeviceConnected
  split
  · rfl
  · split <;> rfl

@[simp] theorem reset_service : (reset send).service = ⟨.empty⟩ := rfl

@[simp] theorem notifyDeviceDisconnected_service (deviceId : String) :
    (notifyDeviceDisconnected send s deviceId).service =
      if s.deviceRegistry.contains deviceId then ⟨s.deviceRegistry.erase deviceId⟩ else s := by
  unfold notifyDeviceDisconnected
  split
  · split <;> rfl
  · rfl

/-- `notify_device_connected` adds its device's key, whatever it returns. -/
theorem notifyDeviceConnected_contains (deviceId vendor product : String)
    (permittedVms : List String) (currentVm : String) (k : String) :
    ((notifyDeviceConnected send s deviceId vendor product permittedVms currentVm).service
        |>.deviceRegistry.contains k) = (deviceId == k || s.deviceRegistry.contains k) := by
  rw [notifyDeviceConnected_service]
  split
  · next h => by_cases hk : deviceId = k <;> simp_all
  · simp

/-- `notify_device_disconnected` drops its device's key, whatever it returns. -/
theorem notifyDeviceDisconnected_contains (deviceId k : String) :
    (notifyDeviceDisconnected send s deviceId).service.deviceRegistry.contains k =
      (deviceId != k && s.deviceRegistry.contains k) := by
  rw [notifyDeviceDisconnected_service]
  split
  · simp
  · next h => by_cases hk : deviceId = k <;> simp_all

/-- `notify_device_disconnected` raises only on an empty device id. -/
theorem notifyDeviceDisconnected_ok {deviceId : String} (h : deviceId ≠ "") :
    ∃ b, (notifyDeviceDisconnected send s deviceId).result = .ok b := by
  unfold notifyDeviceDisconnected
  split
  · simp only [DeviceRemoved.init, strOk_str h]
    exact ⟨_, rfl⟩
  · exact ⟨_, rfl⟩

/-- The one write of `notify_device_passthrough`: a registered device moves to `newVm` when
`newVm` is permitted and not its current VM. -/
def passthroughService (deviceId newVm : String) : HostService :=
  match s.deviceRegistry.get? deviceId with
  | some e =>
    if newVm ∈ e.permittedVms ∧ newVm ≠ e.currentVm then
      ⟨s.deviceRegistry.set deviceId { e with currentVm := newVm }⟩
    else s
  | none => s

@[simp] theorem notifyDevicePassthrough_service (deviceId newVm : String) :
    (notifyDevicePassthrough send s deviceId newVm).service = passthroughService s deviceId newVm := by
  unfold notifyDevicePassthrough passthroughService
  cases s.deviceRegistry.get? deviceId with
  | none => rfl
  | some e =>
    dsimp only
    by_cases h1 : newVm ∈ e.permittedVms
    · by_cases h2 : newVm = e.currentVm
      · subst h2; simp [h1]
      · simp only [h1, h2, if_true, ne_eq, not_false_eq_true, and_self]
        split <;> rfl
    · simp [h1]

/-- `from_message` answers `some` only on an envelope whose `type` is the kind's own. -/
theorem type_of_fromMessageWith {α : Type} {msgType : String} {fromPayload : Value → Except PyError α}
    {msg : Value} {a : α} (h : fromMessageWith msgType fromPayload msg = .ok (some a)) :
    getMessageType msg = .ok (.str msgType) := by
  unfold fromMessageWith at h
  unfold getMessageType
  cases ht : msg.get "type" with
  | error e => simp [ht] at h
  | ok t =>
    simp only [ht, except_ok_bind] at h
    cases t <;> simp_all [Value.isStr]
    split at h <;> simp_all

/-- `handle_request` on a decodable passthrough request. -/
theorem handleRequest_request {msg : Value} {r : PassthroughRequest}
    (hr : PassthroughRequest.fromMessage msg = .ok (some r)) :
    handleRequest send handler s msg =
      if s.deviceRegistry.contains r.deviceId then
        if handler r.deviceId r.targetVm then
          ⟨(notifyDevicePassthrough send s r.deviceId r.targetVm).result.map (fun _ => ()),
            (notifyDevicePassthrough send s r.deviceId r.targetVm).service,
            .passthroughHandler r.deviceId r.targetVm ::
              (notifyDevicePassthrough send s r.deviceId r.targetVm).calls⟩
        else ⟨.ok (), s, [.passthroughHandler r.deviceId r.targetVm]⟩
      else ⟨.ok (), s, []⟩ := by
  have ht := type_of_fromMessageWith hr
  simp only [handleRequest, ht, hr]
  rfl

/-- `handle_request` writes the registry only through `notify_device_passthrough`. -/
theorem handleRequest_service (msg : Value) :
    (handleRequest send handler s msg).service = s ∨
      ∃ r : PassthroughRequest, PassthroughRequest.fromMessage msg = .ok (some r) ∧
        (handleRequest send handler s msg).service = passthroughService s r.deviceId r.targetVm := by
  unfold handleRequest
  split
  · exact .inl rfl
  · split
    · split <;> exact .inl rfl
    · split
      · split
        · exact .inl rfl
        · exact .inl rfl
        · rename_i r hr
          split
          · split
            · exact .inr ⟨r, hr, by simp⟩
            · exact .inl rfl
          · exact .inl rfl
      · exact .inl rfl

end Host
end UsbPassthrough
