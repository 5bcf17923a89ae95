import UsbPassthrough.Host.Service

/-!
# UsbPassthrough.Host.Vhotplug

`device_event_with_upm` of `vhotplug.vhotplug`: the udev monitor's handler for USB add and remove
events when the USB passthrough manager is on, with `upm_host` a `HostService`, and the global
`userDevices`, the table of the devices it handed to the manager.

The collaborators of one event are given with it (`Collab`): `config.vm_for_usb_device`, the
attach of a device no VM is chosen for (`vm_for_usb_device` then `attach_usb_device`),
`remove_usb_device`, and the host service's `gui_vm.send`. The handler catches `RuntimeError` only.
`notify_device_connected` writes the registry before it validates and sends, and its result
decides whether `userDevices` learns the device.

* `userDevices_subset_registry`: over every sequence of events for devices with non-empty ids,
  with every pattern of collaborator results, every device `userDevices` holds is in the host
  registry;
* `failed_send_splits_tables`: the converse fails: a device whose announcement is not sent is in
  the registry and not in `userDevices`, and its removal then never reaches the registry.
-/

namespace UsbPassthrough
namespace Host

open Dpm

/-- What the handler reads of `get_usb_info(device)`. -/
structure UsbInfo where
  /-- `usb_info.dev_id()`. -/
  devId : String
  vendorName : String
  productName : String

inductive Action where
  | add
  | remove
  /-- `change`, or any other action: logged only. -/
  | other

/-- A udev event: its action, whether `is_usb_device(device)`, and `get_usb_info(device)`. -/
structure UdevEvent where
  action : Action
  isUsb : Bool
  info : UsbInfo

/-- The collaborators' results for one event. -/
structure Collab where
  /-- `config.vm_for_usb_device(usb_info)`: `None` when falsy, else the permitted VMs `res[1]`. -/
  vmFor : Except PyError (Option (List String))
  /-- `vm_for_usb_device(...)` and `attach_usb_device(...)`, for a device with no permitted VM. -/
  attach : Except PyError Unit
  /-- `remove_usb_device(config, usb_info, None)`. -/
  remove : Except PyError Unit
  /-- `upm_host.gui_vm.send`. -/
  send : SendArg → Bool

/-- `userDevices` and the host service. -/
structure Hotplug where
  userDevices : PyDict UsbInfo
  host : HostService

def Hotplug.init : Hotplug := ⟨.empty, .init⟩

/-- `except RuntimeError`. -/
def catchRuntime : PyError → Except PyError Unit
  | .runtimeError _ => .ok ()
  | e => .error e

/-- `device_event_with_upm(context, config, device, upm_host)`: what escapes it, and the state
after it. -/
def deviceEventWithUpm (c : Collab) (s : Hotplug) (ev : UdevEvent) : Except PyError Unit × Hotplug :=
  match ev.action, ev.isUsb with
  | .add, true =>
    match c.vmFor with
    | .error e => (catchRuntime e, s)
    | .ok none => (.ok (), s)
    | .ok (some []) =>
      match c.attach with
      | .error e => (catchRuntime e, s)
      | .ok () => (.ok (), s)
    | .ok (some permitted) =>
      let o := notifyDeviceConnected c.send s.host ev.info.devId ev.info.vendorName
        ev.info.productName permitted ""
      match o.result with
      | .error e => (catchRuntime e, { s with host := o.service })
      | .ok false => (.ok (), { s with host := o.service })
      | .ok true =>
        (.ok (), ⟨s.userDevices.set ev.info.devId ev.info, o.service⟩)
  | .remove, true =>
    match c.remove with
    | .error e => (catchRuntime e, s)
    | .ok () =>
      if s.userDevices.contains ev.info.devId then
        let o := notifyDeviceDisconnected c.send s.host ev.info.devId
        match o.result with
        | .error e => (catchRuntime e, { s with host := o.service })
        | .ok _ => (.ok (), ⟨s.userDevices.erase ev.info.devId, o.service⟩)
      else (.ok (), s)
  | _, _ => (.ok (), s)

/-- The monitor loop over events, each with its collaborators' results. -/
def Hotplug.runEvents (s : Hotplug) (evs : List (Collab × UdevEvent)) : Hotplug :=
  evs.foldl (fun s e => (deviceEventWithUpm e.1 s e.2).2) s

/-! ## What an event does -/

section Event

variable (c : Collab) (s : Hotplug) (info : UsbInfo)

/-- An add event for a new device with permitted VMs whose announcement is not sent: the host
registry learns the device and `userDevices` does not. -/
theorem deviceEventWithUpm_add_unsent {permitted : List String}
    (hn : s.host.deviceRegistry.contains info.devId = false) (hv : c.vmFor = .ok (some permitted))
    (hp : permitted ≠ []) (hs : ∀ a, c.send a = false) :
    (deviceEventWithUpm c s ⟨.add, true, info⟩).2 = { s with host :=
      (notifyDeviceConnected c.send s.host info.devId info.vendorName info.productName permitted
        "").service } := by
  obtain ⟨p, ps, rfl⟩ := List.exists_cons_of_ne_nil hp
  have hr : (notifyDeviceConnected c.send s.host info.devId info.vendorName info.productName
      (p :: ps) "").result ≠ .ok true := by
    unfold notifyDeviceConnected
    rw [hn, if_neg Bool.false_ne_true]
    split <;> simp [hs]
  simp only [deviceEventWithUpm, hv]
  split
  · rfl
  · rfl
  · next h => exact absurd h hr

/-- A remove event for a device `userDevices` does not hold changes nothing. -/
theorem deviceEventWithUpm_remove_untracked (hn : s.userDevices.contains info.devId = false) :
    (deviceEventWithUpm c s ⟨.remove, true, info⟩).2 = s := by
  simp only [deviceEventWithUpm]
  split
  · rfl
  · rw [if_neg (by rw [hn]; exact Bool.false_ne_true)]

end Event

/-! ## `userDevices` against the registry -/

namespace Hotplug

/-- Every device `userDevices` holds is in the host registry. -/
def Tracked (s : Hotplug) : Prop :=
  ∀ d, s.userDevices.contains d = true → s.host.deviceRegistry.contains d = true

theorem tracked_init : Hotplug.init.Tracked := nofun

/-- A step that only adds keys to the registry. -/
theorem Tracked.of_registry {s : Hotplug} {host : HostService} (hs : s.Tracked)
    (h : ∀ k, s.host.deviceRegistry.contains k = true → host.deviceRegistry.contains k = true) :
    { s with host := host }.Tracked :=
  fun d hd => h d (hs d hd)

/-- One event keeps every device of `userDevices` in the registry. The device id must not be
empty: removing a device with the id `""` erases it from the registry, then `DeviceRemoved`
raises and `userDevices` keeps it. -/
theorem Tracked.step {s : Hotplug} (hs : s.Tracked) (c : Collab) {ev : UdevEvent}
    (hid : ev.info.devId ≠ "") : (deviceEventWithUpm c s ev).2.Tracked := by
  have grows : ∀ permitted k, s.host.deviceRegistry.contains k = true →
      (notifyDeviceConnected c.send s.host ev.info.devId ev.info.vendorName ev.info.productName
        permitted "").service.deviceRegistry.contains k = true := fun _ k hk => by
    rw [notifyDeviceConnected_contains, hk, Bool.or_true]
  unfold deviceEventWithUpm
  split
  · -- add
    split
    · exact hs
    · exact hs
    · split <;> exact hs
    · dsimp only
      split
      · exact hs.of_registry (grows _)
      · exact hs.of_registry (grows _)
      · intro d hd
        rw [PyDict.contains_set, Bool.or_eq_true] at hd
        rw [notifyDeviceConnected_contains, Bool.or_eq_true]
        exact hd.imp id (hs d)
  · -- remove
    split
    · exact hs
    · split
      · dsimp only
        split
        · next e he =>
          obtain ⟨b, hb⟩ := notifyDeviceDisconnected_ok c.send s.host hid
          exact nomatch hb.symm.trans he
        · intro d hd
          rw [PyDict.contains_erase, Bool.and_eq_true] at hd
          rw [notifyDeviceDisconnected_contains, hd.1, hs d hd.2]
          rfl
      · exact hs
  · exact hs

theorem Tracked.runEvents : ∀ {s : Hotplug} {evs : List (Collab × UdevEvent)}, s.Tracked →
    (∀ e ∈ evs, e.2.info.devId ≠ "") → (s.runEvents evs).Tracked
  | _, [], hs, _ => hs
  | _, e :: evs, hs, hid =>
    @Tracked.runEvents _ evs (hs.step e.1 (hid e (.head _))) fun e' he => hid e' (.tail _ he)

end Hotplug

/-- Over every sequence of events whose devices have non-empty ids, with every pattern of
results from the collaborators, a device in `userDevices` is in the host registry. -/
theorem userDevices_subset_registry {evs : List (Collab × UdevEvent)}
    (hid : ∀ e ∈ evs, e.2.info.devId ≠ "") (d : String)
    (hd : (Hotplug.init.runEvents evs).userDevices.contains d = true) :
    (Hotplug.init.runEvents evs).host.deviceRegistry.contains d = true :=
  Hotplug.tracked_init.runEvents hid d hd

/-- Device `1-2` is plugged with `vm-a` permitted and announced. -/
theorem announced_device_in_registry :
    (Hotplug.init.runEvents [(⟨.ok (some ["vm-a"]), .ok (), .ok (), fun _ => true⟩,
        ⟨.add, true, ⟨"1-2", "Acme", "Key"⟩⟩)]).host.deviceRegistry.contains "1-2" = true :=
  userDevices_subset_registry (by simp) "1-2" rfl

/-- A device whose announcement is not sent, because `gui_vm.send` fails, stays in the registry
that `notify_device_connected` wrote before sending, and never reaches `userDevices`; its removal
is then skipped by `userDevices.has`, so the registry keeps it for good. -/
theorem failed_send_splits_tables (c c' : Collab) (info : UsbInfo) {permitted : List String}
    (hv : c.vmFor = .ok (some permitted)) (hp : permitted ≠ []) (hs : ∀ a, c.send a = false) :
    (Hotplug.init.runEvents [(c, ⟨.add, true, info⟩)]).host.deviceRegistry.contains info.devId ∧
      (Hotplug.init.runEvents [(c, ⟨.add, true, info⟩)]).userDevices.contains info.devId = false ∧
      (Hotplug.init.runEvents [(c, ⟨.add, true, info⟩),
        (c', ⟨.remove, true, info⟩)]).host.deviceRegistry.contains info.devId := by
  have hadd := deviceEventWithUpm_add_unsent c Hotplug.init info rfl hv hp hs
  have hreg : (notifyDeviceConnected c.send HostService.init info.devId info.vendorName
      info.productName permitted "").service.deviceRegistry.contains info.devId := by
    rw [notifyDeviceConnected_contains, beq_self_eq_true, Bool.true_or]
  simp only [Hotplug.runEvents, List.foldl_cons, List.foldl_nil, hadd]
  rw [deviceEventWithUpm_remove_untracked c' { Hotplug.init with host := _ } info rfl]
  exact ⟨hreg, rfl, hreg⟩

/-- Device `1-2` is plugged with `vm-a` permitted while `gui_vm.send` fails, then unplugged. -/
theorem unsent_device_stays_registered :
    (Hotplug.init.runEvents [(⟨.ok (some ["vm-a"]), .ok (), .ok (), fun _ => false⟩,
        ⟨.add, true, ⟨"1-2", "Acme", "Key"⟩⟩)]).host.deviceRegistry.contains "1-2" ∧
      (Hotplug.init.runEvents [(⟨.ok (some ["vm-a"]), .ok (), .ok (), fun _ => false⟩,
        ⟨.add, true, ⟨"1-2", "Acme", "Key"⟩⟩)]).userDevices.contains "1-2" = false ∧
      (Hotplug.init.runEvents [(⟨.ok (some ["vm-a"]), .ok (), .ok (), fun _ => false⟩,
        ⟨.add, true, ⟨"1-2", "Acme", "Key"⟩⟩), (⟨.ok (some ["vm-a"]), .ok (), .ok (), fun _ => false⟩,
        ⟨.remove, true, ⟨"1-2", "Acme", "Key"⟩⟩)]).host.deviceRegistry.contains "1-2" :=
  failed_send_splits_tables ⟨.ok (some ["vm-a"]), .ok (), .ok (), fun _ => false⟩
    ⟨.ok (some ["vm-a"]), .ok (), .ok (), fun _ => false⟩ ⟨"1-2", "Acme", "Key"⟩ rfl
    (List.cons_ne_nil _ _) fun _ => rfl

end Host
end UsbPassthrough
