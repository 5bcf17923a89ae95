import UsbPassthrough.Host.Invariants
import UsbPassthrough.Guest.Register
import UsbPassthrough.Dpm.RoundTrip

/-!
# UsbPassthrough.Mirror.Sequential

The guest's `DeviceRegister` as a mirror of the host's `HostService` registry. Both are compared
under the view `device_id ↦ (vendor, product, permitted VMs, current VM)` (`Agree`).

The host's operations run one at a time over a transport that never fails: every `dict` passed
to `send` is written, and reaches `DeviceRegister.on_msg` in order (`deliver`); an object that
`json.dumps` cannot serialize is never written. The receive loop ends at the first exception
`on_msg` raises, so `deliver` stops there.

* `onMsg_deviceConnected`, `onMsg_deviceRemoved`, `onMsg_connectedDevices`: what each envelope
  the host writes does to the mirror;
* `agree_connected`, `agree_disconnected`, `agree_getDevices`: `notify_device_connected` and
  `notify_device_disconnected` with arguments that pass validation keep the two registries in
  agreement, and answering `get_devices` restores it from any mirror;
* `reset_leaves_guest_stale`: `reset` clears the host and writes nothing.
-/

namespace UsbPassthrough

/-- `(vendor, product, permitted VMs, current VM)`. -/
abbrev View := String × String × List String × Option String

def Host.Entry.view (e : Host.Entry) : View := (e.vendor, e.product, e.permittedVms, some e.currentVm)

def Guest.Entry.view (e : Guest.Entry) : View := (e.vendor, e.product, e.permittedVms, e.currentVm)

def Dpm.DeviceInfo.view (e : Dpm.DeviceInfo) : View := (e.vendor, e.product, e.permittedVms, e.currentVm)

namespace Mirror

open Dpm Host Guest

/-- The host registry and the mirror hold the same devices with the same views. -/
def Agree (h : HostService) (g : DeviceRegister) : Prop :=
  ∀ d, (h.deviceRegistry.get? d).map Host.Entry.view = (g.deviceRegistry.get? d).map Guest.Entry.view

/-- The `dict`s a method wrote to the wire, in order. -/
def written : List Host.Call → List Value
  | [] => []
  | .send (.json v) :: cs => v :: written cs
  | _ :: cs => written cs

/-- `on_msg` applied to each delivered envelope in order, up to the first that raises. -/
def deliver (g : DeviceRegister) : List Value → DeviceRegister
  | [] => g
  | v :: vs =>
    match (onMsg g v).result with
    | .ok _ => deliver (onMsg g v).register vs
    | .error _ => (onMsg g v).register

/-- `send` over a transport that never fails: a `dict` is written, an object is not. -/
def reliableSend : SendArg → Bool
  | .json _ => true
  | .message _ => false

structure System where
  host : HostService
  guest : DeviceRegister

/-- One host operation, its envelopes delivered to the guest. -/
def System.step (handler : String → String → Bool) (sys : System) (op : Host.Op) : System :=
  ⟨(op.outcome ⟨reliableSend, handler⟩ sys.host).service,
    deliver sys.guest (written (op.outcome ⟨reliableSend, handler⟩ sys.host).calls)⟩

/-! ## The guest side -/

theorem onMsg_deviceConnected (g : DeviceRegister) (m : DeviceConnected) :
    (onMsg g m.toJson).result = .ok () ∧
      (onMsg g m.toJson).register = ⟨g.deviceRegistry.set m.deviceId (.ofDeviceConnected m)⟩ := by
  have ht : getMessageType m.toJson = .ok (.str DeviceConnected.msgType) := rfl
  simp [onMsg, ht, DeviceConnected.fromMessage_toJson, decoded, Value.isStr]

theorem onMsg_deviceRemoved (g : DeviceRegister) (m : DeviceRemoved) :
    (onMsg g m.toJson).result = .ok () ∧ ∀ d, (onMsg g m.toJson).register.deviceRegistry.get? d =
      if m.deviceId = d then none else g.deviceRegistry.get? d := by
  have ht : getMessageType m.toJson = .ok (.str DeviceRemoved.msgType) := rfl
  have hr : (onMsg g m.toJson) = if g.deviceRegistry.contains m.deviceId then
      Guest.written ⟨g.deviceRegistry.erase m.deviceId⟩ else ⟨.ok (), g, []⟩ := by
    simp [onMsg, ht, DeviceRemoved.fromMessage_toJson, decoded, Value.isStr,
      DeviceRemoved.msgType, DeviceConnected.msgType]
  cases hc : g.deviceRegistry.contains m.deviceId
  · have hn := (PyDict.contains_eq_false _ _).mp hc
    refine ⟨by simp [hr, hc], fun d => ?_⟩
    split
    · subst d; simpa [hr, hc] using hn
    · simp [hr, hc]
  · simp [hr, hc, Guest.written]

theorem onMsg_connectedDevices (g : DeviceRegister) (cd : ConnectedDevices) :
    (onMsg g cd.toJson).result = .ok () ∧
      (onMsg g cd.toJson).register = ⟨cd.devices.map .ofDeviceInfo⟩ := by
  have ht : getMessageType cd.toJson = .ok (.str ConnectedDevices.msgType) := rfl
  simp [onMsg, ht, ConnectedDevices.fromMessage_toJson, decoded, Value.isStr, Guest.written,
    DeviceRemoved.msgType, DeviceConnected.msgType, ConnectedDevices.msgType]

theorem deliver_single {g : DeviceRegister} {v : Value} (h : (onMsg g v).result = .ok ()) :
    deliver g [v] = (onMsg g v).register := by
  simp [deliver, h]

/-! ## The host side -/

theorem deviceConnected_init_ok {d v p : String} (vms : List String) (c : String) (hd : d ≠ "")
    (hv : v ≠ "") (hp : p ≠ "") :
    DeviceConnected.init (.str d) (.str v) (.str p) (.ofStrList vms) (.str c) =
      .ok ⟨d, v, p, vms, some c, hd, hv, hp⟩ := by
  simp [DeviceConnected.init, hd, hv, hp]

theorem deviceRemoved_init_ok {d : String} (hd : d ≠ "") : DeviceRemoved.init (.str d) = .ok ⟨d, hd⟩ := by
  simp [DeviceRemoved.init, hd]

/-- The snapshot's entries, read back through the view, are the registry's. -/
theorem initLoop_view (es : List (String × Host.Entry)) (hd : (es.map Prod.fst).Nodup)
    (hv : ∀ x ∈ es, x.2.vendor ≠ "" ∧ x.2.product ≠ "") (clean : PyDict DeviceInfo)
    {cd : ConnectedDevices} (h : ConnectedDevices.initLoop (es.map fun x => (x.1, Host.Entry.toValue x.2)) clean = .ok cd)
    (d : String) :
    (cd.devices.get? d).map DeviceInfo.view =
      ((getEntry d es).map Host.Entry.view).or ((clean.get? d).map DeviceInfo.view) := by
  induction es generalizing clean with
  | nil => cases h; simp [getEntry]
  | cons x es ih =>
    obtain ⟨h1, h2⟩ := hv x (.head _)
    simp only [List.map_cons, ConnectedDevices.initLoop, Host.cleanEntry_toValue x.1 x.2 h1 h2,
      except_ok_bind] at h
    rw [ih (List.nodup_cons.mp hd).2 (fun y hy => hv y (.tail _ hy)) _ h]
    have hx : x.1 ∉ es.map Prod.fst := (List.nodup_cons.mp hd).1
    by_cases hk : x.1 = d
    · subst hk
      simp [getEntry, getEntry_eq_none.mpr hx, DeviceInfo.view, Host.Entry.view]
    · simp [getEntry, hk]

/-- On a valid registry, `get_devices` is answered with one snapshot of the whole registry. -/
theorem handleRequest_getDevices {s : HostService} (hs : SnapshotValid s) (send : SendArg → Bool)
    (handler : String → String → Bool) {msg : Value}
    (hmsg : getMessageType msg = .ok (.str GetDevices.msgType)) :
    ∃ cd : ConnectedDevices, handleRequest send handler s msg = ⟨.ok (), s, [.send (.json cd.toJson)]⟩ ∧
      ∀ d, (cd.devices.get? d).map DeviceInfo.view = (s.deviceRegistry.get? d).map Host.Entry.view := by
  have hv : ∀ x ∈ s.deviceRegistry.entries, x.2.vendor ≠ "" ∧ x.2.product ≠ "" :=
    fun x hx => hs x.1 x.2 (s.deviceRegistry.get?_of_mem hx)
  obtain ⟨cd, hcd⟩ := initLoop_ok s.deviceRegistry.entries hv .empty
  refine ⟨cd, ?_, fun d => ?_⟩
  · simp only [handleRequest, hmsg, Value.isStr, decide_True, if_true]
    rw [show (s.deviceRegistry.map Host.Entry.toValue).entries =
      s.deviceRegistry.entries.map (fun x => (x.1, x.2.toValue)) from rfl]
    simp [ConnectedDevices.init, hcd]
  · simpa [Option.or_none] using initLoop_view _ s.deviceRegistry.nodup hv .empty hcd d

/-! ## Agreement -/

theorem Agree.set {h : HostService} {g : DeviceRegister} (hag : Agree h g) (d : String)
    {e : Host.Entry} {e' : Guest.Entry} (he : e.view = e'.view) :
    Agree ⟨h.deviceRegistry.set d e⟩ ⟨g.deviceRegistry.set d e'⟩ := by
  intro d'
  simp only [PyDict.get?_set]
  split
  · simp [he]
  · exact hag d'

/-- The operations the mirror follows, with arguments the dpm constructors accept. -/
def MirrorOp : Host.Op → Prop
  | .notifyDeviceConnected d v p _ _ => d ≠ "" ∧ v ≠ "" ∧ p ≠ ""
  | .notifyDeviceDisconnected d => d ≠ ""
  | .handleRequest msg => getMessageType msg = .ok (.str GetDevices.msgType)
  | _ => False

theorem MirrorOp.connectArgsValid {op : Host.Op} (h : MirrorOp op) : op.ConnectArgsValid := by
  cases op <;> simp_all [MirrorOp, Op.ConnectArgsValid]

/-- Answering `get_devices` makes any mirror agree with a valid registry. -/
theorem agree_getDevices (handler : String → String → Bool) (sys : System)
    (hs : SnapshotValid sys.host) {msg : Value} (hmsg : getMessageType msg = .ok (.str GetDevices.msgType)) :
    Agree (sys.step handler (.handleRequest msg)).host (sys.step handler (.handleRequest msg)).guest := by
  obtain ⟨cd, hr, hcd⟩ := handleRequest_getDevices hs reliableSend handler hmsg
  obtain ⟨hok, hreg⟩ := onMsg_connectedDevices sys.guest cd
  simp only [System.step, Op.outcome, hr, written, deliver_single hok, hreg]
  intro d
  simp [← hcd d, Option.map_map]
  rfl

theorem agree_connected (handler : String → String → Bool) {sys : System}
    (hag : Agree sys.host sys.guest) {d v p : String} (vms : List String) (c : String)
    (hd : d ≠ "") (hv : v ≠ "") (hp : p ≠ "") :
    Agree (sys.step handler (.notifyDeviceConnected d v p vms c)).host
      (sys.step handler (.notifyDeviceConnected d v p vms c)).guest := by
  cases hc : sys.host.deviceRegistry.contains d
  · obtain ⟨hok, hreg⟩ := onMsg_deviceConnected sys.guest ⟨d, v, p, vms, some c, hd, hv, hp⟩
    simp only [System.step, Op.outcome, notifyDeviceConnected, hc, deviceConnected_init_ok vms c hd hv hp,
      Outcome.erase, written, deliver_single hok, hreg, Bool.false_eq_true, if_false]
    exact hag.set d rfl
  · simpa [System.step, Op.outcome, notifyDeviceConnected, hc, Outcome.erase, written, deliver] using hag

theorem agree_disconnected (handler : String → String → Bool) {sys : System}
    (hag : Agree sys.host sys.guest) {d : String} (hd : d ≠ "") :
    Agree (sys.step handler (.notifyDeviceDisconnected d)).host
      (sys.step handler (.notifyDeviceDisconnected d)).guest := by
  cases hc : sys.host.deviceRegistry.contains d
  · simpa [System.step, Op.outcome, notifyDeviceDisconnected, hc, Outcome.erase, written, deliver] using hag
  · obtain ⟨hok, hreg⟩ := onMsg_deviceRemoved sys.guest ⟨d, hd⟩
    simp only [System.step, Op.outcome, notifyDeviceDisconnected, hc, deviceRemoved_init_ok hd,
      Outcome.erase, written, deliver_single hok, if_true]
    intro d'
    rw [hreg d', PyDict.get?_erase]
    split
    · rfl
    · exact hag d'

/-- One operation the mirror follows keeps a valid registry and its mirror in agreement. -/
theorem agree_step (handler : String → String → Bool) {sys : System} {op : Host.Op} (hop : MirrorOp op)
    (hag : Agree sys.host sys.guest) (hs : SnapshotValid sys.host) :
    Agree (sys.step handler op).host (sys.step handler op).guest ∧ SnapshotValid (sys.step handler op).host := by
  refine ⟨?_, snapshotValid_apply ⟨reliableSend, handler⟩ hop.connectArgsValid hs⟩
  cases op with
  | notifyDeviceConnected d v p vms c => exact agree_connected handler hag vms c hop.1 hop.2.1 hop.2.2
  | notifyDeviceDisconnected d => exact agree_disconnected handler hag hop
  | handleRequest msg => exact agree_getDevices handler sys hs hop
  | notifyDevicePassthrough => exact hop.elim
  | reset => exact hop.elim

def System.run (handler : String → String → Bool) : System → List Host.Op → System
  | sys, [] => sys
  | sys, op :: ops => System.run handler (sys.step handler op) ops

/-- Every run of operations the mirror follows, from a valid registry and an agreeing mirror,
ends in agreement. -/
theorem agree_run (handler : String → String → Bool) (ops : List Host.Op) (hops : ∀ op ∈ ops, MirrorOp op) :
    ∀ sys : System, Agree sys.host sys.guest → SnapshotValid sys.host →
      Agree (sys.run handler ops).host (sys.run handler ops).guest := by
  induction ops with
  | nil => exact fun _ hag _ => hag
  | cons op ops ih =>
    intro sys hag hs
    obtain ⟨hag', hs'⟩ := agree_step handler (hops op (.head _)) hag hs
    exact ih (fun o ho => hops o (.tail _ ho)) _ hag' hs'

/-- A device connected, a snapshot requested, the device disconnected: the guest follows. -/
theorem connect_snapshot_disconnect_agrees :
    Agree (System.run (fun _ _ => true) ⟨.init, .init⟩
        [.notifyDeviceConnected "dev-1" "Acme" "Keyboard" ["vm-a"] "vm-a",
          .handleRequest (GetDevices.toJson ⟨⟩), .notifyDeviceDisconnected "dev-1"]).host
      (System.run (fun _ _ => true) ⟨.init, .init⟩
        [.notifyDeviceConnected "dev-1" "Acme" "Keyboard" ["vm-a"] "vm-a",
          .handleRequest (GetDevices.toJson ⟨⟩), .notifyDeviceDisconnected "dev-1"]).guest :=
  agree_run _ _ (by
    intro op hop
    simp only [List.mem_cons, List.mem_singleton, List.not_mem_nil, or_false] at hop
    rcases hop with rfl | rfl | rfl
    · exact ⟨by decide, by decide, by decide⟩
    · rfl
    · exact (by decide : "dev-1" ≠ ""))
    _ (fun _ => rfl) (fun _ _ h => by simp [HostService.init] at h)

/-! ## What the mirror never hears of -/

/-- `reset` writes nothing: the `Reset` object is not a `dict`. -/
theorem step_reset_guest (handler : String → String → Bool) (sys : System) :
    (sys.step handler .reset).guest = sys.guest := rfl

/-- `passthroughAck_json` never produces a `dict`: no acknowledgement is written. -/
theorem passthroughAckJson_raises (d v : String) : ∃ e, passthroughAckJson d v = .error e := by
  unfold passthroughAckJson
  cases PassthroughAck.init (.str d) (.str v) (.str "ok") .none with
  | error e => exact ⟨e, rfl⟩
  | ok ack => exact ⟨_, PassthroughAck.toJson_raises ack⟩

theorem step_passthrough_guest (handler : String → String → Bool) (sys : System) (d v : String) :
    (sys.step handler (.notifyDevicePassthrough d v)).guest = sys.guest := by
  obtain ⟨e, he⟩ := passthroughAckJson_raises d v
  simp only [System.step, Op.outcome, notifyDevicePassthrough, Outcome.erase]
  split
  · rfl
  · split
    · split
      · simp [he, written, deliver]
      · rfl
    · rfl

/-- A mirror filled from the host's snapshot; then `reset` empties the host and not the mirror,
and a passthrough moves the device on the host and not in the mirror. -/
theorem reset_and_passthrough_leave_mirror_stale :
    ∃ sys, sys = System.step (fun _ _ => true)
        ⟨⟨PyDict.empty.set "dev-1" ⟨"dev-1", "Acme", "Keyboard", ["vm-a", "vm-b"], "vm-a"⟩⟩, .init⟩
        (.handleRequest (GetDevices.toJson ⟨⟩)) ∧
      (sys.host.deviceRegistry.get? "dev-1").map Host.Entry.view =
        some ("Acme", "Keyboard", ["vm-a", "vm-b"], some "vm-a") ∧
      (sys.guest.deviceRegistry.get? "dev-1").map Guest.Entry.view =
        some ("Acme", "Keyboard", ["vm-a", "vm-b"], some "vm-a") ∧
      (sys.step (fun _ _ => true) .reset).host.deviceRegistry.get? "dev-1" = none ∧
      (sys.step (fun _ _ => true) .reset).guest.deviceRegistry.contains "dev-1" ∧
      ((sys.step (fun _ _ => true) (.notifyDevicePassthrough "dev-1" "vm-b")).host.deviceRegistry.get?
          "dev-1").map Host.Entry.view = some ("Acme", "Keyboard", ["vm-a", "vm-b"], some "vm-b") ∧
      ((sys.step (fun _ _ => true) (.notifyDevicePassthrough "dev-1" "vm-b")).guest.deviceRegistry.get?
          "dev-1").map Guest.Entry.view = some ("Acme", "Keyboard", ["vm-a", "vm-b"], some "vm-a") :=
  ⟨_, rfl, rfl, rfl, rfl, rfl, rfl, rfl⟩

end Mirror
end UsbPassthrough
