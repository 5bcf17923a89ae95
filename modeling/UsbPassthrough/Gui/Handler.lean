import UsbPassthrough.Host.Service

/-!
# UsbPassthrough.Gui.Handler

`USBPassthroughGUI` of `vhotplug.vhotplug_server`: a `VsockConnectionHandler` that keeps its own
device registry and sends to the GUI VM through `self.ctx`, the `ConnCtx` that the last
`on_connect` handed it. `on_disconnect` sets `self.ctx` back to `None`.

The message classes come from `vhotplug_schemas.usb_passthrough`, which is not part of the
sources; its names and calls are those of `vsock_bridge.protocols.dpm`, and it is taken to be
that module. A `ConnCtx` is named by the index of the worker that built it, and
`ctx.send(data)`, which never raises, is the collaborator `send`.

Every `notify_*` method and `reset` return at once when `self.ctx` is `None`, before they look at
the registry.

* `notify_without_ctx`, `run_without_ctx`: with no GUI connection, notifications leave the
  handler as it is;
* `notifications_while_away_are_lost`: a device plugged and one unplugged while the GUI VM is away
  leave the registry, the source of the `get_devices` snapshot, wrong on both.
-/

namespace UsbPassthrough
namespace Gui

open Dpm Host

/-- One entry of `device_registry`: the dict `notify_device_connected` stores, with the keys
`permitted_vms` and `current_vm`. -/
structure Entry where
  deviceId : String
  vendor : String
  product : String
  permittedVms : List String
  currentVm : String

def Entry.toValue (e : Entry) : Value :=
  .dict [("device_id", .str e.deviceId), ("vendor", .str e.vendor), ("product", .str e.product),
    ("permitted_vms", .ofStrList e.permittedVms), ("current_vm", .str e.currentVm)]

/-- The state of a `USBPassthroughGUI` its methods read and write. -/
structure Handler where
  ctx : Option Nat
  deviceRegistry : PyDict Entry

def Handler.init : Handler := ⟨none, .empty⟩

/-- A call made to a collaborator. -/
inductive Call where
  | passthroughHandler (deviceId targetVm : String)
  /-- `ctx.send(arg)` on the context of worker `ctx`. -/
  | send (ctx : Nat) (arg : SendArg)

structure Outcome (α : Type) where
  result : Except PyError α
  handler : Handler
  calls : List Call

namespace Handler

variable (send : Nat → SendArg → Bool) (pass : String → String → Bool) (h : Handler)

def onConnect (w : Nat) : Handler := { h with ctx := some w }

def onDisconnect : Handler := { h with ctx := none }

def setRegistry (r : PyDict Entry) : Handler := { h with deviceRegistry := r }

/-- `notify_device_connected`. -/
def notifyDeviceConnected (deviceId vendor product : String) (permittedVms : List String)
    (currentVm : String) : Outcome Bool :=
  match h.ctx with
  | none => ⟨.ok true, h, []⟩
  | some w =>
    if h.deviceRegistry.contains deviceId then ⟨.ok true, h, []⟩
    else
      let h' := h.setRegistry
        (h.deviceRegistry.set deviceId ⟨deviceId, vendor, product, permittedVms, currentVm⟩)
      match DeviceConnected.init (.str deviceId) (.str vendor) (.str product)
          (.ofStrList permittedVms) (.str currentVm) with
      | .error e => ⟨.error e, h', []⟩
      | .ok m => ⟨.ok (send w (.json m.toJson)), h', [.send w (.json m.toJson)]⟩

/-- `reset`: clears the registry and passes the `Reset` object itself to `ctx.send`. -/
def reset : Outcome Bool :=
  match h.ctx with
  | none => ⟨.ok true, h, []⟩
  | some w =>
    ⟨.ok (send w (.message (.reset ⟨⟩))), h.setRegistry .empty,
      [.send w (.message (.reset ⟨⟩))]⟩

/-- `notify_device_disconnected`. -/
def notifyDeviceDisconnected (deviceId : String) : Outcome Bool :=
  match h.ctx with
  | none => ⟨.ok true, h, []⟩
  | some w =>
    if h.deviceRegistry.contains deviceId then
      let h' := h.setRegistry (h.deviceRegistry.erase deviceId)
      match DeviceRemoved.init (.str deviceId) with
      | .error e => ⟨.error e, h', []⟩
      | .ok m => ⟨.ok (send w (.json m.toJson)), h', [.send w (.json m.toJson)]⟩
    else ⟨.ok false, h, []⟩

/-- `notify_device_passthrough`. -/
def notifyDevicePassthrough (deviceId newVm : String) : Outcome Bool :=
  match h.ctx with
  | none => ⟨.ok true, h, []⟩
  | some w =>
    match h.deviceRegistry.get? deviceId with
    | none => ⟨.ok false, h, []⟩
    | some e =>
      if newVm ∈ e.permittedVms then
        if newVm ≠ e.currentVm then
          let h' := h.setRegistry (h.deviceRegistry.set deviceId { e with currentVm := newVm })
          match passthroughAckJson deviceId newVm with
          | .error err => ⟨.error err, h', []⟩
          | .ok j => ⟨.ok (send w (.json j)), h', [.send w (.json j)]⟩
        else ⟨.ok true, h, []⟩
      else ⟨.ok false, h, []⟩

/-- `handle_request(msg)`, the handler's `on_message`. A snapshot is sent through `self.ctx`,
whatever it is by then: `None` has no `send`. -/
def handleRequest (msg : Value) : Outcome Unit :=
  match getMessageType msg with
  | .error e => ⟨.error e, h, []⟩
  | .ok t =>
    if t.isStr GetDevices.msgType then
      match ConnectedDevices.init (h.deviceRegistry.map Entry.toValue).entries with
      | .error e => ⟨.error e, h, []⟩
      | .ok cd =>
        match h.ctx with
        | none => ⟨.error (.attributeError "NoneType" "send"), h, []⟩
        | some w => ⟨.ok (), h, [.send w (.json cd.toJson)]⟩
    else if t.isStr PassthroughRequest.msgType then
      match PassthroughRequest.fromMessage msg with
      | .error e => ⟨.error e, h, []⟩
      | .ok none => ⟨.error (.attributeError "NoneType" "device_id"), h, []⟩
      | .ok (some r) =>
        if h.deviceRegistry.contains r.deviceId then
          if pass r.deviceId r.targetVm then
            let o := notifyDevicePassthrough send h r.deviceId r.targetVm
            ⟨o.result.map (fun _ => ()), o.handler,
              .passthroughHandler r.deviceId r.targetVm :: o.calls⟩
          else ⟨.ok (), h, [.passthroughHandler r.deviceId r.targetVm]⟩
        else ⟨.ok (), h, []⟩
    else ⟨.ok (), h, []⟩

/-! ### No method but `on_connect` and `on_disconnect` touches `self.ctx` -/

@[simp] theorem setRegistry_ctx (r : PyDict Entry) : (h.setRegistry r).ctx = h.ctx := rfl

@[simp] theorem notifyDeviceConnected_ctx (deviceId vendor product : String)
    (permittedVms : List String) (currentVm : String) :
    (h.notifyDeviceConnected send deviceId vendor product permittedVms currentVm).handler.ctx =
      h.ctx := by
  unfold notifyDeviceConnected
  split
  · rfl
  · split
    · rfl
    · split <;> rfl

@[simp] theorem notifyDeviceDisconnected_ctx (deviceId : String) :
    (h.notifyDeviceDisconnected send deviceId).handler.ctx = h.ctx := by
  unfold notifyDeviceDisconnected
  split
  · rfl
  · split
    · split <;> rfl
    · rfl

@[simp] theorem notifyDevicePassthrough_ctx (deviceId newVm : String) :
    (h.notifyDevicePassthrough send deviceId newVm).handler.ctx = h.ctx := by
  unfold notifyDevicePassthrough
  split
  · rfl
  · split
    · rfl
    · split
      · split
        · split <;> rfl
        · rfl
      · rfl

@[simp] theorem handleRequest_ctx (msg : Value) : (h.handleRequest send pass msg).handler.ctx = h.ctx := by
  unfold handleRequest
  split
  · rfl
  · split
    · split
      · rfl
      · split <;> rfl
    · split
      · split
        · rfl
        · rfl
        · split
          · split
            · exact notifyDevicePassthrough_ctx send h _ _
            · rfl
          · rfl
      · rfl

/-- `handle_request` on a decodable passthrough request. -/
theorem handleRequest_request {msg : Value} {r : PassthroughRequest}
    (hr : PassthroughRequest.fromMessage msg = .ok (some r)) :
    h.handleRequest send pass msg =
      if h.deviceRegistry.contains r.deviceId then
        if pass r.deviceId r.targetVm then
          ⟨(h.notifyDevicePassthrough send r.deviceId r.targetVm).result.map (fun _ => ()),
            (h.notifyDevicePassthrough send r.deviceId r.targetVm).handler,
            .passthroughHandler r.deviceId r.targetVm ::
              (h.notifyDevicePassthrough send r.deviceId r.targetVm).calls⟩
        else ⟨.ok (), h, [.passthroughHandler r.deviceId r.targetVm]⟩
      else ⟨.ok (), h, []⟩ := by
  have ht := type_of_fromMessageWith hr
  simp only [handleRequest, ht, hr]
  rfl

end Handler

/-! ## Notifications and connections -/

/-- What the udev monitor and the connection workers do to the handler, one call at a time. -/
inductive Op where
  | connected (deviceId vendor product : String) (permittedVms : List String) (currentVm : String)
  | disconnected (deviceId : String)
  | connect (w : Nat)
  | disconnect

namespace Handler

/-- One call, by its effect on the handler. -/
def apply (send : Nat → SendArg → Bool) (h : Handler) : Op → Handler
  | .connected d v p vms cur => (h.notifyDeviceConnected send d v p vms cur).handler
  | .disconnected d => (h.notifyDeviceDisconnected send d).handler
  | .connect w => h.onConnect w
  | .disconnect => h.onDisconnect

def run (send : Nat → SendArg → Bool) (h : Handler) (ops : List Op) : Handler :=
  ops.foldl (apply send) h

end Handler

/-- The device ids notified as connected and not since notified as disconnected. -/
def notifiedIds : List Op → List String → List String
  | [], ids => ids
  | .connected d .. :: ops, ids => notifiedIds ops (if d ∈ ids then ids else ids ++ [d])
  | .disconnected d :: ops, ids => notifiedIds ops (ids.erase d)
  | _ :: ops, ids => notifiedIds ops ids

theorem notify_without_ctx (send : Nat → SendArg → Bool) {h : Handler} (hc : h.ctx = none)
    (op : Op) (hop : ∀ w, op ≠ .connect w) : h.apply send op = h := by
  cases op with
  | connected d v p vms cur => simp [Handler.apply, Handler.notifyDeviceConnected, hc]
  | disconnected d => simp [Handler.apply, Handler.notifyDeviceDisconnected, hc]
  | connect w => exact absurd rfl (hop w)
  | disconnect =>
    cases h
    simp only [Handler.apply, Handler.onDisconnect, Handler.mk.injEq]
    exact ⟨hc.symm, trivial⟩

/-- While the GUI VM is away, any number of notifications leave the handler as it is. -/
theorem run_without_ctx (send : Nat → SendArg → Bool) :
    ∀ {h : Handler} {ops : List Op}, h.ctx = none → (∀ op ∈ ops, ∀ w, op ≠ .connect w) →
      h.run send ops = h
  | _, [], _, _ => rfl
  | h, op :: ops, hc, hops => by
    rw [Handler.run, List.foldl_cons, notify_without_ctx send hc op (hops op (.head _))]
    exact run_without_ctx send hc fun o ho => hops o (.tail _ ho)

/-- The GUI VM connects on worker 0 and `dev-1` is plugged; the GUI VM goes away, `dev-1` is
unplugged and `dev-2` plugged; the GUI VM connects again on worker 1. The registry its
`get_devices` snapshot is built from holds `dev-1` and not `dev-2`, the reverse of what was
notified, whatever each send returned. -/
theorem notifications_while_away_are_lost (send : Nat → SendArg → Bool) :
    (Handler.init.run send [.connect 0, .connected "dev-1" "Acme" "Key" ["vm-a"] "", .disconnect,
        .disconnected "dev-1", .connected "dev-2" "Acme" "Pad" ["vm-a"] "",
        .connect 1]).deviceRegistry.entries.map Prod.fst = ["dev-1"] ∧
      notifiedIds [.connect 0, .connected "dev-1" "Acme" "Key" ["vm-a"] "", .disconnect,
        .disconnected "dev-1", .connected "dev-2" "Acme" "Pad" ["vm-a"] "", .connect 1] [] =
        ["dev-2"] :=
  ⟨rfl, rfl⟩

end Gui
end UsbPassthrough
