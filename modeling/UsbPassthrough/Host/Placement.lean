import UsbPassthrough.Host.Vhotplug
import UsbPassthrough.Host.Passthrough
import UsbPassthrough.Dpm.RoundTrip

/-!
# UsbPassthrough.Host.Placement

The host process as `vhotplug.async_main` builds it with the USB passthrough manager: the udev
monitor loop hands each event to `device_event_with_upm`, and the receive thread of the host
service hands each message of the GUI VM to `handle_request`, whose `passthrough_handler` is
`handle_user_device_passthrough_request` and whose `metadata` is `(config, userDevices)`.
`async_main` builds a `UPMClient`, which is not in the source; `HostService` takes the same
arguments and stands for it. Each step is one whole call.

The registry's `current-vm` is meant to say which VM a device is passed through to. The code
keeps no other record of it; `placement` is that record, written from the collaborators' calls
that returned: `attach_usb_device` puts a device on its VM, `remove_usb_device` takes it off, and
a call that raises is taken to change nothing.

* `registry_names_placement`: over every run of udev events and GUI messages in any order, with
  a fixed configuration, requests only for permitted VMs, and a handler whose attach does not
  fail once its detach went through, every registered device whose `current-vm` is set is passed
  through to that VM.
* `failed_attach_keeps_stale_vm`: the last condition cannot be dropped. When the handler's
  `remove_usb_device` returns and its `attach_usb_device` raises `RuntimeError`, `handle_request`
  returns normally, the registry still names the VM the device was taken off, and the device is
  passed through nowhere.
-/

namespace UsbPassthrough
namespace Host

open Dpm

/-- The results of the calls `handle_user_device_passthrough_request` makes once it found the
device: `config.get_vm(new_vm)`, `remove_usb_device(config, usb_info, None)` and
`attach_usb_device(config, None, usb_info, vm)`. -/
structure MoveCollab where
  getVm : Except PyError Unit
  remove : Except PyError Unit
  attach : Except PyError Unit

/-- `handle_user_device_passthrough_request((config, devices), device_id, new_vm)`: what it
returns or raises, and the placement after the calls it made. -/
def handleUserDevicePassthroughRequest (m : MoveCollab) (devices : PyDict UsbInfo)
    (placement : PyDict String) (deviceId newVm : String) : Except PyError Bool × PyDict String :=
  match devices.get? deviceId with
  | none => (.ok false, placement)
  | some _ =>
    match m.getVm, m.remove, m.attach with
    | .error e, _, _ => ((catchRuntime e).map fun _ => false, placement)
    | .ok (), .error e, _ => ((catchRuntime e).map fun _ => false, placement)
    | .ok (), .ok (), .error e => ((catchRuntime e).map fun _ => false, placement.erase deviceId)
    | .ok (), .ok (), .ok () => (.ok true, placement.set deviceId newVm)

/-- `userDevices` and the host service, and the VM each device is passed through to. -/
structure HostProcess where
  hotplug : Hotplug
  placement : PyDict String

def HostProcess.init : HostProcess := ⟨.init, .empty⟩

/-- A step of the host process. -/
inductive HostEvent where
  /-- The monitor loop hands a udev event to `device_event_with_upm`; `chosen` is the VM
  `vm_for_usb_device` picks for a device with no permitted VMs. -/
  | udev (c : Collab) (chosen : String) (ev : UdevEvent)
  /-- The receive thread hands a message to `handle_request`; `send` is `gui_vm.send` and `m`
  gives the handler's calls. -/
  | request (send : SendArg → Bool) (m : MoveCollab) (msg : Value)

/-- The placement after the calls `device_event_with_upm` makes for an event. -/
def udevPlacement (c : Collab) (chosen : String) (placement : PyDict String) (ev : UdevEvent) :
    PyDict String :=
  match ev.action, ev.isUsb, c.vmFor, c.attach, c.remove with
  | .add, true, .ok (some []), .ok (), _ => placement.set ev.info.devId chosen
  | .remove, true, _, _, .ok () => placement.erase ev.info.devId
  | _, _, _, _, _ => placement

/-- `handle_request(msg)` with `handle_user_device_passthrough_request` as the handler, which
reads `userDevices` when it is called. A raise of the handler propagates out of `handle_request`
before `notify_device_passthrough`. -/
def HostProcess.request (send : SendArg → Bool) (m : MoveCollab) (p : HostProcess) (msg : Value) :
    Except PyError Unit × HostProcess :=
  let move := handleUserDevicePassthroughRequest m p.hotplug.userDevices p.placement
  let o := handleRequest send (fun d v => match (move d v).1 with
    | .ok b => b
    | .error _ => false) p.hotplug.host msg
  match handlerCalls o.calls with
  | (d, v) :: _ =>
    match (move d v).1 with
    | .error e => (.error e, { p with placement := (move d v).2 })
    | .ok _ => (o.result, ⟨{ p.hotplug with host := o.service }, (move d v).2⟩)
  | [] => (o.result, { p with hotplug := { p.hotplug with host := o.service } })

def HostProcess.step (p : HostProcess) : HostEvent → HostProcess
  | .udev c chosen ev => ⟨(deviceEventWithUpm c p.hotplug ev).2, udevPlacement c chosen p.placement ev⟩
  | .request send m msg => (p.request send m msg).2

def HostProcess.run (p : HostProcess) (evs : List HostEvent) : HostProcess := evs.foldl HostProcess.step p

section Config

variable (permittedOf : String → Option (List String))

/-- The events the theorem covers: udev events for devices with an id, for which
`config.vm_for_usb_device` answers from a fixed configuration `permittedOf` (the permitted VMs of
each device, `none` when no VM is found for it); requests for a permitted VM, to a handler whose
attach goes through once its detach did. -/
def HostEvent.Fits : HostEvent → Prop
  | .udev c _ ev => (∀ o, c.vmFor = .ok o → o = permittedOf ev.info.devId) ∧ ev.info.devId ≠ ""
  | .request _ m msg =>
    (m.getVm = .ok () → m.remove = .ok () → m.attach = .ok ()) ∧
      ∀ r : PassthroughRequest, PassthroughRequest.fromMessage msg = .ok (some r) →
        ∀ vms, permittedOf r.deviceId = some vms → r.targetVm ∈ vms

/-- What the host process keeps true of its registry. -/
structure HostProcess.Inv (p : HostProcess) : Prop where
  /-- A registered device whose current VM is set is passed through to it, -/
  placed : ∀ d e, p.hotplug.host.deviceRegistry.get? d = some e → e.currentVm ≠ "" →
    p.placement.get? d = some e.currentVm
  /-- and is in `userDevices`. -/
  tracked : ∀ d e, p.hotplug.host.deviceRegistry.get? d = some e → e.currentVm ≠ "" →
    p.hotplug.userDevices.contains d = true
  /-- A registered device has the permitted VMs of the configuration, and at least one. -/
  config : ∀ d e, p.hotplug.host.deviceRegistry.get? d = some e →
    permittedOf d = some e.permittedVms ∧ e.permittedVms ≠ []

end Config

/-! ## The handler and `handle_request` -/

theorem catchRuntime_map_ne (e : PyError) : (catchRuntime e).map (fun _ => false) ≠ .ok true := by
  cases e <;> simp [catchRuntime, Except.map]

/-- A handler whose attach goes through once its detach did either moves a device `userDevices`
holds, or leaves the placement as it was and does not answer `True`. -/
theorem handleUserDevicePassthroughRequest_cases {m : MoveCollab}
    (hm : m.getVm = .ok () → m.remove = .ok () → m.attach = .ok ()) (devices : PyDict UsbInfo)
    (placement : PyDict String) (d v : String) :
    (handleUserDevicePassthroughRequest m devices placement d v = (.ok true, placement.set d v) ∧
        devices.contains d = true) ∨
      ∃ r, handleUserDevicePassthroughRequest m devices placement d v = (r, placement) ∧
        r ≠ .ok true := by
  unfold handleUserDevicePassthroughRequest
  cases hd : devices.get? d with
  | none => exact .inr ⟨_, rfl, by simp⟩
  | some info =>
    rcases hg : m.getVm with e | ⟨⟩
    · exact .inr ⟨_, rfl, catchRuntime_map_ne e⟩
    rcases hr : m.remove with e | ⟨⟩
    · exact .inr ⟨_, rfl, catchRuntime_map_ne e⟩
    rw [hm hg hr]
    exact .inl ⟨rfl, (PyDict.contains_iff _ _).mpr ⟨_, hd⟩⟩

section Request

variable (send : SendArg → Bool) (handler : String → String → Bool) (s : HostService)

/-- Unless the message is a request for a registered device, `handle_request` calls no handler
and leaves the registry as it was. -/
theorem handleRequest_idle {msg : Value}
    (h : ¬∃ r : PassthroughRequest, PassthroughRequest.fromMessage msg = .ok (some r) ∧
      s.deviceRegistry.contains r.deviceId = true) :
    handlerCalls (handleRequest send handler s msg).calls = [] ∧
      (handleRequest send handler s msg).service = s := by
  by_cases hr : ∃ r, PassthroughRequest.fromMessage msg = .ok (some r)
  · obtain ⟨r, hr⟩ := hr
    rw [handleRequest_request send handler s hr, if_neg fun hc => h ⟨r, hr, hc⟩]
    exact ⟨rfl, rfl⟩
  · unfold handleRequest
    split
    · exact ⟨rfl, rfl⟩
    · split
      · split <;> exact ⟨rfl, rfl⟩
      · split
        · split
          · exact ⟨rfl, rfl⟩
          · exact ⟨rfl, rfl⟩
          · exact absurd ⟨_, ‹_›⟩ hr
        · exact ⟨rfl, rfl⟩

end Request

section Steps

variable {permittedOf : String → Option (List String)}

/-! ## One step -/

/-- The invariant speaks of each device on its own: a step that changes nothing but what it
holds for `d` keeps it when it holds for `d` afterwards. -/
theorem HostProcess.Inv.update {p p' : HostProcess} (hi : p.Inv permittedOf) (d : String)
    (hreg : ∀ k, k ≠ d →
      p'.hotplug.host.deviceRegistry.get? k = p.hotplug.host.deviceRegistry.get? k)
    (hdev : ∀ k, k ≠ d → p.hotplug.userDevices.contains k = true →
      p'.hotplug.userDevices.contains k = true)
    (hpl : ∀ k, k ≠ d → p'.placement.get? k = p.placement.get? k)
    (hd : ∀ e, p'.hotplug.host.deviceRegistry.get? d = some e →
      (e.currentVm ≠ "" → p'.placement.get? d = some e.currentVm ∧
        p'.hotplug.userDevices.contains d = true) ∧
      permittedOf d = some e.permittedVms ∧ e.permittedVms ≠ []) :
    p'.Inv permittedOf where
  placed k e he hc := by
    by_cases hk : k = d
    · subst hk; exact ((hd e he).1 hc).1
    · rw [hpl k hk]; exact hi.placed k e (hreg k hk ▸ he) hc
  tracked k e he hc := by
    by_cases hk : k = d
    · subst hk; exact ((hd e he).1 hc).2
    · exact hdev k hk (hi.tracked k e (hreg k hk ▸ he) hc)
  config k e he := by
    by_cases hk : k = d
    · subst hk; exact (hd e he).2
    · exact hi.config k e (hreg k hk ▸ he)

theorem HostProcess.Inv.udev {p : HostProcess} (hi : p.Inv permittedOf) {c : Collab}
    {chosen : String} {ev : UdevEvent} (hfit : (HostEvent.udev c chosen ev).Fits permittedOf) :
    (p.step (.udev c chosen ev)).Inv permittedOf := by
  obtain ⟨hcfg, hid⟩ := hfit
  obtain ⟨action, usb, info⟩ := ev
  cases usb
  · cases action <;> exact hi
  cases action with
  | other => exact hi
  | add =>
    cases hv : c.vmFor with
    | error e => simpa [HostProcess.step, deviceEventWithUpm, udevPlacement, hv] using hi
    | ok o =>
      rcases o with _ | _ | ⟨x, xs⟩
      · simpa [HostProcess.step, deviceEventWithUpm, udevPlacement, hv] using hi
      · -- no permitted VM: `vm_for_usb_device` picks one and the device is attached to it
        cases ha : c.attach with
        | error e => simpa [HostProcess.step, deviceEventWithUpm, udevPlacement, hv, ha] using hi
        | ok u =>
          have hstep : p.step (.udev c chosen ⟨.add, true, info⟩) =
              ⟨p.hotplug, p.placement.set info.devId chosen⟩ := by
            simp [HostProcess.step, deviceEventWithUpm, udevPlacement, hv, ha]
          rw [hstep]
          refine hi.update info.devId (fun _ _ => rfl) (fun _ _ h => h)
            (fun k hk => by simp [Ne.symm hk]) fun e he => ?_
          -- the configuration gives the device no VM, so the registry cannot hold it
          have hc := hi.config _ e he
          rw [← hcfg _ hv, Option.some.injEq] at hc
          exact absurd hc.1.symm hc.2
      · -- permitted VMs: `notify_device_connected`, and `userDevices` learns the device if it
        -- answers `True`
        have hstep : ∃ ud, p.step (.udev c chosen ⟨.add, true, info⟩) =
            ⟨⟨ud, (notifyDeviceConnected c.send p.hotplug.host info.devId info.vendorName
              info.productName (x :: xs) "").service⟩, p.placement⟩ ∧
            ∀ k, p.hotplug.userDevices.contains k = true → ud.contains k = true := by
          simp only [HostProcess.step, deviceEventWithUpm, udevPlacement, hv]
          split
          · exact ⟨_, rfl, fun _ h => h⟩
          · exact ⟨_, rfl, fun _ h => h⟩
          · exact ⟨_, rfl, fun k h => by simp [h]⟩
        obtain ⟨ud, hstep, hud⟩ := hstep
        rw [hstep]
        refine hi.update info.devId (fun k hk => ?_) (fun k _ h => hud k h) (fun _ _ => rfl)
          fun e he => ?_
        · simp only [notifyDeviceConnected_service]
          split
          · rfl
          · simp [Ne.symm hk]
        · simp only [notifyDeviceConnected_service] at he
          split at he
          · exact ⟨fun hc => ⟨hi.placed _ e he hc, hud _ (hi.tracked _ e he hc)⟩, hi.config _ e he⟩
          · simp only [PyDict.get?_set, if_true, Option.some.injEq] at he
            subst he
            exact ⟨fun hc => absurd rfl hc, (hcfg _ hv).symm, List.cons_ne_nil _ _⟩
  | remove =>
    cases hr : c.remove with
    | error e => simpa [HostProcess.step, deviceEventWithUpm, udevPlacement, hr] using hi
    | ok u =>
      by_cases hu : p.hotplug.userDevices.contains info.devId = true
      · -- a device `userDevices` holds: `notify_device_disconnected` drops it, then `userDevices`
        obtain ⟨b, hb⟩ := notifyDeviceDisconnected_ok c.send p.hotplug.host hid
        have hstep : p.step (.udev c chosen ⟨.remove, true, info⟩) =
            ⟨⟨p.hotplug.userDevices.erase info.devId, (notifyDeviceDisconnected c.send
              p.hotplug.host info.devId).service⟩, p.placement.erase info.devId⟩ := by
          simp [HostProcess.step, deviceEventWithUpm, udevPlacement, hr, hu, hb]
        rw [hstep]
        refine hi.update info.devId (fun k hk => ?_) (fun k hk h => by simp [Ne.symm hk, h])
          (fun k hk => by simp [Ne.symm hk]) fun e he => ?_
        · simp only [notifyDeviceDisconnected_service]
          split
          · simp [Ne.symm hk]
          · rfl
        · have hc := notifyDeviceDisconnected_contains c.send p.hotplug.host info.devId info.devId
          rw [bne_self_eq_false, Bool.false_and, PyDict.contains_eq_false] at hc
          exact nomatch hc.symm.trans he
      · -- a device it does not hold: only the placement changes
        have hstep : p.step (.udev c chosen ⟨.remove, true, info⟩) =
            ⟨p.hotplug, p.placement.erase info.devId⟩ := by
          simp [HostProcess.step, deviceEventWithUpm, udevPlacement, hr, hu]
        rw [hstep]
        exact hi.update info.devId (fun _ _ => rfl) (fun _ _ h => h)
          (fun k hk => by simp [Ne.symm hk])
          fun e he => ⟨fun hc => absurd (hi.tracked _ e he hc) hu, hi.config _ e he⟩

/-- A request the handler carried out: the device is passed through to `v`, and the registry
moves it there when `v` is permitted and not its current VM. -/
theorem HostProcess.Inv.move {p : HostProcess} (hi : p.Inv permittedOf) {d v : String}
    (hdev : p.hotplug.userDevices.contains d = true) (hperm : ∀ vms, permittedOf d = some vms → v ∈ vms) :
    (⟨{ p.hotplug with host := passthroughService p.hotplug.host d v },
      p.placement.set d v⟩ : HostProcess).Inv permittedOf := by
  refine hi.update d (fun k hk => ?_) (fun k _ h => h) (fun k hk => by simp [Ne.symm hk])
    fun e' he' => ?_
  · simp only [passthroughService]
    split
    · split
      · simp [Ne.symm hk]
      · rfl
    · rfl
  · simp only [passthroughService] at he'
    cases he : p.hotplug.host.deviceRegistry.get? d with
    | none => simp [he] at he'
    | some e =>
      have hcfg := hi.config d e he
      have hv : v ∈ e.permittedVms := hperm _ hcfg.1
      rw [he] at he'
      simp only at he'
      split at he'
      · simp only [PyDict.get?_set, if_true, Option.some.injEq] at he'
        subst he'
        exact ⟨fun _ => ⟨by simp, hdev⟩, hcfg⟩
      · rename_i hn
        rw [he', Option.some.injEq] at he
        subst he
        have hc : v = e'.currentVm := by tauto
        exact ⟨fun _ => ⟨by simp [hc], hdev⟩, hcfg⟩

theorem HostProcess.Inv.request {p : HostProcess} (hi : p.Inv permittedOf) {send : SendArg → Bool}
    {m : MoveCollab} {msg : Value} (hfit : (HostEvent.request send m msg).Fits permittedOf) :
    (p.step (.request send m msg)).Inv permittedOf := by
  obtain ⟨hm, hperm⟩ := hfit
  by_cases hreq : ∃ r : PassthroughRequest, PassthroughRequest.fromMessage msg = .ok (some r) ∧
      p.hotplug.host.deviceRegistry.contains r.deviceId = true
  · obtain ⟨r, hr, hc⟩ := hreq
    rcases handleUserDevicePassthroughRequest_cases hm p.hotplug.userDevices p.placement r.deviceId
      r.targetVm with ⟨hmv, hdev⟩ | ⟨res, hmv, hne⟩
    · have hstep : p.step (.request send m msg) = ⟨{ p.hotplug with
          host := passthroughService p.hotplug.host r.deviceId r.targetVm },
          p.placement.set r.deviceId r.targetVm⟩ := by
        simp only [HostProcess.step, HostProcess.request]
        rw [handleRequest_handler_calls _ _ _ hr, if_pos hc]
        simp only [hmv, handleRequest_request _ _ _ hr, hc, notifyDevicePassthrough_service, if_true]
      rw [hstep]
      exact hi.move hdev (hperm r hr)
    · have hstep : p.step (.request send m msg) = p := by
        simp only [HostProcess.step, HostProcess.request]
        rw [handleRequest_handler_calls _ _ _ hr, if_pos hc]
        simp only [hmv, handleRequest_request _ _ _ hr, hc, if_true]
        rcases res with e | b
        · rfl
        · obtain rfl : b = false := by simpa using hne
          rfl
      rw [hstep]
      exact hi
  · have hidle := fun handler => handleRequest_idle send handler p.hotplug.host hreq
    have hstep : p.step (.request send m msg) = p := by
      simp only [HostProcess.step, HostProcess.request, hidle]
    rw [hstep]
    exact hi

theorem HostProcess.Inv.step {p : HostProcess} (hi : p.Inv permittedOf) {ev : HostEvent}
    (hfit : ev.Fits permittedOf) : (p.step ev).Inv permittedOf := by
  cases ev with
  | udev c chosen ev => exact hi.udev hfit
  | request send m msg => exact hi.request hfit

/-! ## Every run -/

theorem HostProcess.Inv.run : ∀ {p : HostProcess} {evs : List HostEvent}, p.Inv permittedOf →
    (∀ ev ∈ evs, ev.Fits permittedOf) → (p.run evs).Inv permittedOf
  | _, [], hi, _ => hi
  | _, _ :: evs, hi, hfit =>
    @HostProcess.Inv.run _ evs (hi.step (hfit _ (.head _))) fun ev h => hfit ev (.tail _ h)

theorem HostProcess.inv_init : HostProcess.init.Inv permittedOf := ⟨nofun, nofun, nofun⟩

end Steps

/-- Over every run of the host process, udev events and GUI messages in any order, in which
`config.vm_for_usb_device` answers from a fixed configuration, the GUI asks only for permitted
VMs, and the handler's `attach_usb_device` goes through whenever its `remove_usb_device` did: a
registered device whose `current-vm` is set is passed through to that VM. -/
theorem registry_names_placement {permittedOf : String → Option (List String)}
    {evs : List HostEvent} (hfit : ∀ ev ∈ evs, ev.Fits permittedOf) {d : String} {e : Entry}
    (he : (HostProcess.init.run evs).hotplug.host.deviceRegistry.get? d = some e)
    (hc : e.currentVm ≠ "") : (HostProcess.init.run evs).placement.get? d = some e.currentVm :=
  (HostProcess.inv_init.run hfit).placed d e he hc

/-- Device `1-2`, which may go to `vm-a` or `vm-b`, is plugged and announced; the GUI moves it to
`vm-b`. -/
theorem plugged_then_moved_is_placed :
    (HostProcess.init.run [.udev ⟨.ok (some ["vm-a", "vm-b"]), .ok (), .ok (), fun _ => true⟩ "vm-a"
        ⟨.add, true, ⟨"1-2", "Acme", "Key"⟩⟩, .request (fun _ => true) ⟨.ok (), .ok (), .ok ()⟩
        (PassthroughRequest.toJson ⟨"1-2", "vm-b", by decide, by decide⟩)]).placement.get? "1-2" =
      some "vm-b" := by
  refine @registry_names_placement (fun d => if d = "1-2" then some ["vm-a", "vm-b"] else none)
    _ ?_ "1-2" ⟨"1-2", "Acme", "Key", ["vm-a", "vm-b"], "vm-b"⟩ rfl (by decide)
  intro ev hev
  simp only [List.mem_cons, List.mem_nil_iff, or_false] at hev
  rcases hev with rfl | rfl
  · exact ⟨fun o h => by cases h; rfl, by decide⟩
  · refine ⟨fun _ _ => rfl, fun r hr vms hvms => ?_⟩
    rw [PassthroughRequest.fromMessage_toJson, Except.ok.injEq, Option.some.injEq] at hr
    subst hr
    simp only [if_true, Option.some.injEq] at hvms
    subst hvms
    decide

/-- The case the attach condition of `registry_names_placement` excludes. When the handler's
`remove_usb_device` returns and its `attach_usb_device` raises `RuntimeError`, the handler answers
`False` and `handle_request` returns normally: the registry keeps the entry that names the VM the
device was taken off, and the device is passed through nowhere. -/
theorem failed_attach_keeps_stale_vm {p : HostProcess} (send : SendArg → Bool) {m : MoveCollab}
    {msg : Value} {r : PassthroughRequest} (hr : PassthroughRequest.fromMessage msg = .ok (some r))
    {e : Entry} (he : p.hotplug.host.deviceRegistry.get? r.deviceId = some e)
    (hdev : p.hotplug.userDevices.contains r.deviceId = true) (hg : m.getVm = .ok ())
    (hrm : m.remove = .ok ()) {err : String} (ha : m.attach = .error (.runtimeError err)) :
    (p.request send m msg).1 = .ok () ∧
      (p.request send m msg).2.hotplug.host.deviceRegistry.get? r.deviceId = some e ∧
      (p.request send m msg).2.placement.get? r.deviceId = none := by
  have hc : p.hotplug.host.deviceRegistry.contains r.deviceId = true :=
    (PyDict.contains_iff _ _).mpr ⟨e, he⟩
  obtain ⟨info, hinfo⟩ := (PyDict.contains_iff _ _).mp hdev
  have hmv : handleUserDevicePassthroughRequest m p.hotplug.userDevices p.placement r.deviceId
      r.targetVm = (.ok false, p.placement.erase r.deviceId) := by
    simp [handleUserDevicePassthroughRequest, hinfo, hg, hrm, ha, catchRuntime, Except.map]
  simp only [HostProcess.request]
  rw [handleRequest_handler_calls _ _ _ hr, if_pos hc]
  simp [hmv, handleRequest_request _ _ _ hr, hc, he]

/-- Device `1-2` is on `vm-a`; the GUI asks for `vm-b`, and attaching it there fails. -/
example :
    (HostProcess.request (fun _ => true) ⟨.ok (), .ok (), .error (.runtimeError "attach failed")⟩
        ⟨⟨PyDict.empty.set "1-2" ⟨"1-2", "Acme", "Key"⟩,
          ⟨PyDict.empty.set "1-2" ⟨"1-2", "Acme", "Key", ["vm-a", "vm-b"], "vm-a"⟩⟩⟩,
          PyDict.empty.set "1-2" "vm-a"⟩
        (PassthroughRequest.toJson ⟨"1-2", "vm-b", by decide, by decide⟩)).1 = .ok () ∧
      (HostProcess.request (fun _ => true) ⟨.ok (), .ok (), .error (.runtimeError "attach failed")⟩
        ⟨⟨PyDict.empty.set "1-2" ⟨"1-2", "Acme", "Key"⟩,
          ⟨PyDict.empty.set "1-2" ⟨"1-2", "Acme", "Key", ["vm-a", "vm-b"], "vm-a"⟩⟩⟩,
          PyDict.empty.set "1-2" "vm-a"⟩
        (PassthroughRequest.toJson ⟨"1-2", "vm-b", by decide, by decide⟩)).2.hotplug.host.deviceRegistry.get?
          "1-2" = some ⟨"1-2", "Acme", "Key", ["vm-a", "vm-b"], "vm-a"⟩ ∧
      (HostProcess.request (fun _ => true) ⟨.ok (), .ok (), .error (.runtimeError "attach failed")⟩
        ⟨⟨PyDict.empty.set "1-2" ⟨"1-2", "Acme", "Key"⟩,
          ⟨PyDict.empty.set "1-2" ⟨"1-2", "Acme", "Key", ["vm-a", "vm-b"], "vm-a"⟩⟩⟩,
          PyDict.empty.set "1-2" "vm-a"⟩
        (PassthroughRequest.toJson ⟨"1-2", "vm-b", by decide, by decide⟩)).2.placement.get? "1-2" = none :=
  failed_attach_keeps_stale_vm _ (PassthroughRequest.fromMessage_toJson _) rfl rfl rfl rfl rfl

end Host
end UsbPassthrough
