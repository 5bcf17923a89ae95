import UsbPassthrough.Dpm.Messages

/-!
# UsbPassthrough.Guest.Register

`DeviceRegister` of `upm.guest.device_registry`: the guest's mirror of the host registry, and
`on_msg`, the `on_message` callback of its `VsockClient`.

The mirror holds two shapes of entry: the `device` dict of a `device_connected` (with a
`device_id`) and the entries of a `connected_devices` snapshot (without one). `on_msg` decodes
with the dpm decoders and lets their exceptions escape. `atomic_write_registry` catches every
exception it meets, and `show_new_device_popup_async` runs the popup on a thread it joins, so
neither raises; both are modelled as calls.
-/

namespace UsbPassthrough
namespace Guest

open Dpm

/-- One entry of `device_registry`. -/
structure Entry where
  deviceId : Option String
  vendor : String
  product : String
  permittedVms : List String
  currentVm : Option String

/-- `dev.device`, stored by `device_connected`. -/
def Entry.ofDeviceConnected (m : DeviceConnected) : Entry :=
  ⟨some m.deviceId, m.vendor, m.product, m.permittedVms, m.currentVm⟩

/-- An entry of `connected_devices.devices`, stored by a snapshot. -/
def Entry.ofDeviceInfo (e : DeviceInfo) : Entry :=
  ⟨none, e.vendor, e.product, e.permittedVms, e.currentVm⟩

/-- The entry as the dict `atomic_write_registry` dumps. -/
def Entry.toValue (e : Entry) : Value :=
  .dict ((match e.deviceId with
      | some d => [("device_id", .str d)]
      | none => []) ++
    [("vendor", .str e.vendor), ("product", .str e.product),
      ("permitted_vms", .ofStrList e.permittedVms), ("current_vm", .ofOptStr e.currentVm)])

structure DeviceRegister where
  deviceRegistry : PyDict Entry

def DeviceRegister.init : DeviceRegister := ⟨.empty⟩

/-- The registry as the `dict` written to `usb_db.json`. -/
def DeviceRegister.toValue (g : DeviceRegister) : Value :=
  .dict (g.deviceRegistry.map Entry.toValue).entries

/-- A call made to a collaborator. -/
inductive Call where
  | atomicWriteRegistry (data : Value)
  | showNewDevicePopup (deviceId vendor product : String) (permittedVms : List String)
      (currentVm : Option String)

structure Outcome where
  result : Except PyError Unit
  register : DeviceRegister
  calls : List Call

/-- The registry replaced, then written to the file. -/
def written (g' : DeviceRegister) : Outcome := ⟨.ok (), g', [.atomicWriteRegistry g'.toValue]⟩

/-- A `from_message` result used as an instance: `None` has no attributes. -/
def decoded {α : Type} (r : Except PyError (Option α)) (k : α → Outcome) (g : DeviceRegister) :
    Outcome :=
  match r with
  | .error e => ⟨.error e, g, []⟩
  | .ok none => ⟨.error (.attributeError "NoneType" "device_id"), g, []⟩
  | .ok (some a) => k a

/-- `on_msg(msg)`. A `reset` clears the mirror without decoding the message. -/
def onMsg (g : DeviceRegister) (msg : Value) : Outcome :=
  match getMessageType msg with
  | .error e => ⟨.error e, g, []⟩
  | .ok t =>
    if t.isStr DeviceConnected.msgType then
      decoded (DeviceConnected.fromMessage msg) (fun m =>
        let g' : DeviceRegister := ⟨g.deviceRegistry.set m.deviceId (.ofDeviceConnected m)⟩
        ⟨.ok (), g', [.atomicWriteRegistry g'.toValue,
          .showNewDevicePopup m.deviceId m.vendor m.product m.permittedVms m.currentVm]⟩) g
    else if t.isStr DeviceRemoved.msgType then
      decoded (DeviceRemoved.fromMessage msg) (fun m =>
        if g.deviceRegistry.contains m.deviceId then
          written ⟨g.deviceRegistry.erase m.deviceId⟩
        else ⟨.ok (), g, []⟩) g
    else if t.isStr ConnectedDevices.msgType then
      decoded (ConnectedDevices.fromMessage msg) (fun cd =>
        written ⟨cd.devices.map Entry.ofDeviceInfo⟩) g
    else if t.isStr PassthroughAck.msgType then
      decoded (PassthroughAck.fromMessage msg) (fun ack =>
        if ack.status = .ok then
          match g.deviceRegistry.get? ack.deviceId with
          | some e => written ⟨g.deviceRegistry.set ack.deviceId { e with currentVm := ack.currentVm }⟩
          | none => ⟨.error (.keyError ack.deviceId), g, []⟩
        else ⟨.ok (), g, []⟩) g
    else if t.isStr Reset.msgType then written ⟨.empty⟩
    else ⟨.ok (), g, []⟩

/-! ## What `on_msg` writes -/

/-- Every registry an outcome writes to the file is the registry it leaves. -/
def Outcome.WritesRegister (o : Outcome) : Prop :=
  ∀ d, Call.atomicWriteRegistry d ∈ o.calls → d = o.register.toValue

/-- What an outcome of `on_msg` from `g` can be: the registry kept and nothing called, a registry
replaced and written, or a new device stored, the registry written and the device's popup
opened. -/
inductive Outcome.Shape (g : DeviceRegister) : Outcome → Prop where
  | silent (r : Except PyError Unit) : Outcome.Shape g ⟨r, g, []⟩
  | written (g' : DeviceRegister) : Outcome.Shape g (written g')
  | connected (m : DeviceConnected) :
    Outcome.Shape g ⟨.ok (), ⟨g.deviceRegistry.set m.deviceId (.ofDeviceConnected m)⟩,
      [.atomicWriteRegistry (DeviceRegister.toValue
          ⟨g.deviceRegistry.set m.deviceId (.ofDeviceConnected m)⟩),
        .showNewDevicePopup m.deviceId m.vendor m.product m.permittedVms m.currentVm]⟩

theorem decoded_shape {α : Type} {r : Except PyError (Option α)} {k : α → Outcome}
    {g : DeviceRegister} (hk : ∀ a, (k a).Shape g) : (decoded r k g).Shape g := by
  unfold decoded
  split
  · exact .silent _
  · exact .silent _
  · exact hk _

/-- `on_msg`'s six branches, by what they do. -/
theorem onMsg_shape (g : DeviceRegister) (msg : Value) : (onMsg g msg).Shape g := by
  unfold onMsg
  split
  · exact .silent _
  · split_ifs
    · exact decoded_shape fun m => .connected m
    · refine decoded_shape fun _ => ?_
      split_ifs
      exacts [.written _, .silent _]
    · exact decoded_shape fun _ => .written _
    · refine decoded_shape fun _ => ?_
      split_ifs
      · split
        exacts [.written _, .silent _]
      · exact .silent _
    · exact .written _
    · exact .silent _

/-- The file follows the registry across an outcome from `g`: every write carries the registry
the outcome leaves, and an outcome that writes nothing leaves `g` as it was. -/
structure Outcome.FileFollows (g : DeviceRegister) (o : Outcome) : Prop where
  writes : o.WritesRegister
  keeps : (∀ d, Call.atomicWriteRegistry d ∉ o.calls) → o.register = g

theorem Outcome.Shape.fileFollows {g : DeviceRegister} {o : Outcome} (h : o.Shape g) :
    o.FileFollows g := by
  cases h with
  | silent r => exact ⟨nofun, fun _ => rfl⟩
  | written g' => exact ⟨fun d hd => by simpa [Guest.written] using hd, fun h => absurd (.head _) (h _)⟩
  | connected m => exact ⟨fun d hd => by simpa using hd, fun h => absurd (.head _) (h _)⟩

/-- Every popup an outcome opens is for a device a `device_connected` carried. -/
theorem Outcome.Shape.popup {g : DeviceRegister} {o : Outcome} (h : o.Shape g) {d v p : String}
    {vms : List String} {cur : Option String} (hc : Call.showNewDevicePopup d v p vms cur ∈ o.calls) :
    ∃ m : DeviceConnected, d = m.deviceId ∧ vms = m.permittedVms ∧ cur = m.currentVm := by
  cases h with
  | silent r => cases hc
  | written g' => simp [Guest.written] at hc
  | connected m =>
    simp only [List.mem_cons, reduceCtorEq, Call.showNewDevicePopup.injEq, List.not_mem_nil,
      or_false, false_or] at hc
    exact ⟨m, hc.1, hc.2.2.2.1, hc.2.2.2.2⟩

theorem onMsg_fileFollows (g : DeviceRegister) (msg : Value) : (onMsg g msg).FileFollows g :=
  (onMsg_shape g msg).fileFollows

/-- `on_msg` writes the file only with the registry it leaves. -/
theorem onMsg_writesRegister (g : DeviceRegister) (msg : Value) : (onMsg g msg).WritesRegister :=
  (onMsg_fileFollows g msg).writes

end Guest
end UsbPassthrough
