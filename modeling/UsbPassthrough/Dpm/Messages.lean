import UsbPassthrough.Json.Value

/-!
# UsbPassthrough.Dpm.Messages

The device-passthrough messages of `vsock_bridge.protocols.dpm`. Each kind is a structure holding
what its validating constructor stores in `_data`, with the constructor's checks as fields, so an
instance that `__init__` would refuse cannot be built. For each kind:

* `init`: the constructor `K(...)` on arbitrary Python arguments, raising `ValueError`;
* `toJson`: `K.to_json()`, the envelope `{"type": K.MSG_TYPE, "payload": ...}`;
* `fromPayload`, `fromMessage`: `K.from_payload(pl)` and `K.from_message(msg)`, where
  `fromMessage` is `none` on another kind's envelope.

`PassthroughAck.__init__` validates a `reason` and stores it nowhere, and the class declares no
`reason` attribute, so `PassthroughAck.to_json`, which reads `self.reason`, always raises.
-/

namespace UsbPassthrough
namespace Dpm

/-- The `ValueError` of `_str_ok(v, name)`. -/
def strError (name : String) : PyError := .valueError ("'" ++ name ++ "' must be non-empty str")

/-- `_str_ok(v, name)`: `v` when it is a non-empty `str`. -/
def strOk (v : Value) (name : String) : Except PyError {s : String // s ≠ ""} :=
  match v with
  | .str s => if h : s = "" then .error (strError name) else .ok ⟨s, h⟩
  | _ => .error (strError name)

@[simp] theorem strOk_str {s : String} (h : s ≠ "") (name : String) :
    strOk (.str s) name = .ok ⟨s, h⟩ := by
  simp [strOk, h]

/-- The envelope every `to_json` builds. -/
def envelope (msgType : String) (payload : List (String × Value)) : Value :=
  .dict [("type", .str msgType), ("payload", .dict payload)]

/-- The shared body of every `K.from_message(msg)`: `None` unless `msg.get("type")` is
`K.MSG_TYPE`, otherwise `K.from_payload(msg.get("payload", {}))`. -/
def fromMessageWith {α : Type} (msgType : String) (fromPayload : Value → Except PyError α)
    (msg : Value) : Except PyError (Option α) := do
  let t ← msg.get "type"
  if t.isStr msgType then some <$> (fromPayload (← msg.getD "payload" (.dict [])))
  else pure none

/-- `PassthroughStatus`: the values `PassthroughAck` admits for `status`. -/
inductive PassthroughStatus where
  | ok
  | denied
  | error
  deriving DecidableEq, Repr

def PassthroughStatus.value : PassthroughStatus → String
  | .ok => "ok"
  | .denied => "denied"
  | .error => "error"

/-- `status in ("ok", "denied", "error")`. -/
def PassthroughStatus.ofValue? : Value → Option PassthroughStatus
  | .str "ok" => some .ok
  | .str "denied" => some .denied
  | .str "error" => some .error
  | _ => none

@[simp] theorem PassthroughStatus.ofValue?_value (s : PassthroughStatus) :
    ofValue? (.str s.value) = some s := by
  cases s <;> rfl

/-! ## `DeviceConnected` -/

structure DeviceConnected where
  deviceId : String
  vendor : String
  product : String
  permittedVms : List String
  currentVm : Option String
  deviceId_ne : deviceId ≠ ""
  vendor_ne : vendor ≠ ""
  product_ne : product ≠ ""

namespace DeviceConnected

def msgType : String := "device_connected"

def permittedError : PyError := .valueError "device.permitted_vms must be list[str]"

def currentError : PyError := .valueError "device.current_vm must be str | None"

/-- `DeviceConnected(device_id, vendor, product, permitted_vms, current_vm)`. -/
def init (deviceId vendor product permittedVms currentVm : Value) :
    Except PyError DeviceConnected :=
  match permittedVms.asStrList, currentVm.asOptStr with
  | none, _ => .error permittedError
  | some _, none => .error currentError
  | some vms, some cur => do
    let d ← strOk deviceId "device_id"
    let v ← strOk vendor "vendor"
    let p ← strOk product "product"
    pure ⟨d, v, p, vms, cur, d.2, v.2, p.2⟩

/-- The `device` property: `_data["device"]`. -/
def device (m : DeviceConnected) : List (String × Value) :=
  [("device_id", .str m.deviceId), ("vendor", .str m.vendor), ("product", .str m.product),
    ("permitted_vms", .ofStrList m.permittedVms), ("current_vm", .ofOptStr m.currentVm)]

def toJson (m : DeviceConnected) : Value := envelope msgType [("device", .dict m.device)]

/-- `DeviceConnected.from_payload(pl)`. Permitted VMs and current VM are read under either
spelling of their keys. -/
def fromPayload (pl : Value) : Except PyError DeviceConnected := do
  match ← pl.get "device" with
  | .dict dev =>
    let get := fun k => (getEntry k dev).getD .none
    let d ← strOk (get "device_id") "device_id"
    let v ← strOk (get "vendor") "vendor"
    let p ← strOk (get "product") "product"
    let permitted := (getEntry "permitted_vms" dev).getD ((getEntry "permitted-vms" dev).getD (.list []))
    let current := (getEntry "current_vm" dev).getD (get "current-vm")
    match permitted.asStrList, current.asOptStr with
    | none, _ => throw permittedError
    | some _, none => throw currentError
    | some vms, some _ => init (.str d) (.str v) (.str p) (.ofStrList vms) current
  | _ => throw (.valueError "'device_connected' needs payload.device: object")

def fromMessage : Value → Except PyError (Option DeviceConnected) :=
  fromMessageWith msgType fromPayload

end DeviceConnected

/-! ## `DeviceRemoved` -/

structure DeviceRemoved where
  deviceId : String
  deviceId_ne : deviceId ≠ ""

namespace DeviceRemoved

def msgType : String := "device_removed"

def init (deviceId : Value) : Except PyError DeviceRemoved := do
  let d ← strOk deviceId "device_id"
  pure ⟨d, d.2⟩

def toJson (m : DeviceRemoved) : Value := envelope msgType [("device_id", .str m.deviceId)]

def fromPayload (pl : Value) : Except PyError DeviceRemoved := do
  let d ← strOk (← pl.get "device_id") "device_id"
  init (.str d)

def fromMessage : Value → Except PyError (Option DeviceRemoved) :=
  fromMessageWith msgType fromPayload

end DeviceRemoved

/-! ## `PassthroughAck` -/

/-- What `PassthroughAck.__init__` stores: `device_id`, `current_vm` and `status`. -/
structure PassthroughAck where
  deviceId : String
  currentVm : Option String
  status : PassthroughStatus
  deviceId_ne : deviceId ≠ ""

namespace PassthroughAck

def msgType : String := "passthrough_ack"

def currentError : PyError := .valueError "'current_vm' must be str | None"

def statusError : PyError := .valueError "'status' must be ok|denied|error"

def reasonError : PyError := .valueError "'reason' must be str if provided"

/-- `PassthroughAck(device_id, current_vm, status, reason)`: `reason` is checked, then dropped. -/
def init (deviceId currentVm status reason : Value) : Except PyError PassthroughAck :=
  match currentVm.asOptStr, PassthroughStatus.ofValue? status, reason.asOptStr with
  | none, _, _ => .error currentError
  | some _, none, _ => .error statusError
  | some _, some _, none => .error reasonError
  | some cur, some st, some _ => do
    let d ← strOk deviceId "device_id"
    pure ⟨d, cur, st, d.2⟩

/-- The attribute lookup `self.reason`: no instance or class attribute of that name exists. -/
def reason (_ : PassthroughAck) : Except PyError (Option String) :=
  .error (.attributeError "PassthroughAck" "reason")

def toJson (m : PassthroughAck) : Except PyError Value := do
  let payload := [("device_id", .str m.deviceId), ("current_vm", .ofOptStr m.currentVm),
    ("status", .str m.status.value)]
  match ← m.reason with
  | some r => pure (envelope msgType (payload ++ [("reason", .str r)]))
  | none => pure (envelope msgType payload)

/-- `PassthroughAck.from_payload(pl)`: a missing `status` reads as `"ok"`. -/
def fromPayload (pl : Value) : Except PyError PassthroughAck := do
  let d ← strOk (← pl.get "device_id") "device_id"
  let current ← pl.getD "current_vm" (← pl.get "current-vm")
  let status ← pl.getD "status" (.str "ok")
  let reason ← pl.get "reason"
  match current.asOptStr, PassthroughStatus.ofValue? status, reason.asOptStr with
  | none, _, _ => throw currentError
  | some _, none, _ => throw statusError
  | some _, some _, none => throw reasonError
  | some _, some _, some _ => init (.str d) current status reason

def fromMessage : Value → Except PyError (Option PassthroughAck) :=
  fromMessageWith msgType fromPayload

end PassthroughAck

/-! ## `ConnectedDevices` -/

/-- One entry of the snapshot: what the constructor writes to `clean[did]`. -/
structure DeviceInfo where
  vendor : String
  product : String
  permittedVms : List String
  currentVm : Option String
  vendor_ne : vendor ≠ ""
  product_ne : product ≠ ""

def DeviceInfo.toValue (e : DeviceInfo) : Value :=
  .dict [("vendor", .str e.vendor), ("product", .str e.product),
    ("permitted_vms", .ofStrList e.permittedVms), ("current_vm", .ofOptStr e.currentVm)]

structure ConnectedDevices where
  devices : PyDict DeviceInfo

namespace ConnectedDevices

def msgType : String := "connected_devices"

/-- The checks of one iteration of the constructor's loop, for device `did` with entry `info`.
The keys of a decoded `dict` are `str`, so the `isinstance(did, str)` half of the first check
always passes. -/
def cleanEntry (did : String) (info : Value) : Except PyError DeviceInfo :=
  match info with
  | .dict kvs => do
    let get := fun k => (getEntry k kvs).getD .none
    let v ← strOk (get "vendor") "vendor"
    let p ← strOk (get "product") "product"
    let permitted := (getEntry "permitted_vms" kvs).getD ((getEntry "permitted-vms" kvs).getD (.list []))
    let current := (getEntry "current_vm" kvs).getD (get "current-vm")
    match permitted.asStrList, current.asOptStr with
    | none, _ => throw (.valueError ("devices[" ++ pyRepr did ++ "].permitted_vms must be list[str]"))
    | some _, none => throw (.valueError ("devices[" ++ pyRepr did ++ "].current_vm must be str | None"))
    | some vms, some cur => pure ⟨v, p, vms, cur, v.2, p.2⟩
  | _ => throw (.valueError "devices must be dict[str, object]")

/-- The constructor's loop over `devices.items()`, building `clean`. -/
def initLoop : List (String × Value) → PyDict DeviceInfo → Except PyError ConnectedDevices
  | [], clean => .ok ⟨clean⟩
  | (did, info) :: rest, clean => do
    let e ← cleanEntry did info
    initLoop rest (clean.set did e)

/-- `ConnectedDevices(devices)`. -/
def init (devices : List (String × Value)) : Except PyError ConnectedDevices :=
  initLoop devices .empty

def toJson (m : ConnectedDevices) : Value :=
  envelope msgType [("devices", .dict (m.devices.map DeviceInfo.toValue).entries)]

def fromPayload (pl : Value) : Except PyError ConnectedDevices := do
  match ← pl.get "devices" with
  | .dict raw => init raw
  | _ => throw (.valueError "'connected_devices' payload.devices must be dict")

def fromMessage : Value → Except PyError (Option ConnectedDevices) :=
  fromMessageWith msgType fromPayload

end ConnectedDevices

/-! ## `GetDevices` and `Reset` -/

/-- The shared `from_payload` of the two kinds whose payload must be empty: any payload that is
falsy passes, `{}` among them. -/
def emptyPayload {α : Type} (msgType : String) (make : α) (pl : Value) : Except PyError α :=
  if pl.truthy then .error (.valueError ("'" ++ msgType ++ "' payload must be empty \x7b\x7d"))
  else .ok make

structure GetDevices where

namespace GetDevices

def msgType : String := "get_devices"

def toJson (_ : GetDevices) : Value := envelope msgType []

def fromPayload : Value → Except PyError GetDevices := emptyPayload msgType ⟨⟩

def fromMessage : Value → Except PyError (Option GetDevices) :=
  fromMessageWith msgType fromPayload

end GetDevices

structure Reset where

namespace Reset

def msgType : String := "reset"

def toJson (_ : Reset) : Value := envelope msgType []

def fromPayload : Value → Except PyError Reset := emptyPayload msgType ⟨⟩

def fromMessage : Value → Except PyError (Option Reset) :=
  fromMessageWith msgType fromPayload

end Reset

/-! ## `PassthroughRequest` -/

structure PassthroughRequest where
  deviceId : String
  targetVm : String
  deviceId_ne : deviceId ≠ ""
  targetVm_ne : targetVm ≠ ""

namespace PassthroughRequest

def msgType : String := "passthrough_request"

def init (deviceId targetVm : Value) : Except PyError PassthroughRequest := do
  let d ← strOk deviceId "device_id"
  let t ← strOk targetVm "target_vm"
  pure ⟨d, t, d.2, t.2⟩

def toJson (m : PassthroughRequest) : Value :=
  envelope msgType [("device_id", .str m.deviceId), ("target_vm", .str m.targetVm)]

def fromPayload (pl : Value) : Except PyError PassthroughRequest := do
  let d ← strOk (← pl.get "device_id") "device_id"
  let t ← strOk (← pl.get "target_vm") "target_vm"
  init (.str d) (.str t)

def fromMessage : Value → Except PyError (Option PassthroughRequest) :=
  fromMessageWith msgType fromPayload

end PassthroughRequest

/-- `get_message_type(msg)`. -/
def getMessageType (msg : Value) : Except PyError Value := msg.get "type"

/-! ## The seven kinds together -/

inductive Message where
  | deviceConnected (m : DeviceConnected)
  | deviceRemoved (m : DeviceRemoved)
  | passthroughAck (m : PassthroughAck)
  | connectedDevices (m : ConnectedDevices)
  | getDevices (m : GetDevices)
  | reset (m : Reset)
  | passthroughRequest (m : PassthroughRequest)

inductive Kind where
  | deviceConnected
  | deviceRemoved
  | passthroughAck
  | connectedDevices
  | getDevices
  | reset
  | passthroughRequest
  deriving DecidableEq, Repr

/-- `K.MSG_TYPE`. -/
def Kind.msgType : Kind → String
  | .deviceConnected => DeviceConnected.msgType
  | .deviceRemoved => DeviceRemoved.msgType
  | .passthroughAck => PassthroughAck.msgType
  | .connectedDevices => ConnectedDevices.msgType
  | .getDevices => GetDevices.msgType
  | .reset => Reset.msgType
  | .passthroughRequest => PassthroughRequest.msgType

/-- The class of a message object. -/
def Kind.className : Kind → String
  | .deviceConnected => "DeviceConnected"
  | .deviceRemoved => "DeviceRemoved"
  | .passthroughAck => "PassthroughAck"
  | .connectedDevices => "ConnectedDevices"
  | .getDevices => "GetDevices"
  | .reset => "Reset"
  | .passthroughRequest => "PassthroughRequest"

/-- `K.from_message(msg)`, the result tagged with its kind. -/
def Kind.fromMessage (k : Kind) (msg : Value) : Except PyError (Option Message) :=
  match k with
  | .deviceConnected => Option.map .deviceConnected <$> DeviceConnected.fromMessage msg
  | .deviceRemoved => Option.map .deviceRemoved <$> DeviceRemoved.fromMessage msg
  | .passthroughAck => Option.map .passthroughAck <$> PassthroughAck.fromMessage msg
  | .connectedDevices => Option.map .connectedDevices <$> ConnectedDevices.fromMessage msg
  | .getDevices => Option.map .getDevices <$> GetDevices.fromMessage msg
  | .reset => Option.map .reset <$> Reset.fromMessage msg
  | .passthroughRequest => Option.map .passthroughRequest <$> PassthroughRequest.fromMessage msg

def Message.kind : Message → Kind
  | .deviceConnected _ => .deviceConnected
  | .deviceRemoved _ => .deviceRemoved
  | .passthroughAck _ => .passthroughAck
  | .connectedDevices _ => .connectedDevices
  | .getDevices _ => .getDevices
  | .reset _ => .reset
  | .passthroughRequest _ => .passthroughRequest

/-- `m.to_json()`. -/
def Message.toJson : Message → Except PyError Value
  | .deviceConnected m => .ok m.toJson
  | .deviceRemoved m => .ok m.toJson
  | .passthroughAck m => m.toJson
  | .connectedDevices m => .ok m.toJson
  | .getDevices m => .ok m.toJson
  | .reset m => .ok m.toJson
  | .passthroughRequest m => .ok m.toJson

end Dpm
end UsbPassthrough
