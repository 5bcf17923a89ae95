import UsbPassthrough.Guest.Bridge
import UsbPassthrough.Gui.Handler
import UsbPassthrough.Dpm.RoundTrip
import UsbPassthrough.Vsock.Transport

/-!
# UsbPassthrough.Guest.Popup

`upm.guest.notify_user`: the popup `on_msg` opens for a new device, and what choosing a VM in it
does. `PopupWindow` shows one card, for `dev_struct.device_id`, with a dropdown that
`_make_dropdown` builds as the device bridge's does, from `"Select"` and the permitted VMs.
Choosing a string runs `_on_dropdown_changed`, which hands it to `_request_passthrough` unless it
is empty or `"Select"`. That calls the `passthrough_handler` of the `DeviceStruct`,
`DeviceRegister.request_passthrough`, which builds a `PassthroughRequest` and passes its
`to_json()` to the `send` of the guest's `VsockClient`. A raise of the handler counts as a failure,
and a failure shows an error dialog.

`Gtk.DropDown.get_selected` returns a `guint`, so the test `idx < 0` never holds;
`get_string` returns `None` past the last string. The card's label and the dialog's text are not
modelled.

* `popup_choice_reaches_host`: whatever device a popup is for and whichever string the user picks,
  what the guest writes, read by the host's connection worker however `recv` cuts it, makes
  `USBPassthroughGUI.handle_request` call its passthrough handler with that device and the VM
  picked, and with nothing else; it does so once when the pick is a VM and the host knows the
  device, and the VM picked is one of the device's permitted VMs.
-/

namespace UsbPassthrough
namespace Guest

open Json Channel Dpm

/-- The fields of a `DeviceStruct` the popup reads. `on_msg` fills them in from a
`device_connected`; its `passthrough_handler` is `request_passthrough`. -/
structure DeviceStruct where
  deviceId : String
  permittedVms : List String
  currentVm : Option String

/-- The popup a call of `on_msg` opens. -/
def Call.popup? : Call → Option DeviceStruct
  | .showNewDevicePopup d _ _ vms cur => some ⟨d, vms, cur⟩
  | .atomicWriteRegistry _ => none

/-- `_make_dropdown(dev_struct.device_id, dev_struct.permitted_vms, dev_struct.current_vm)`: the
strings of `Gtk.DropDown.new_from_strings` and the index passed to `set_selected`. -/
def DeviceStruct.dropdown (ds : DeviceStruct) : Except PyError (List String × Nat) :=
  makeDropdown (ds.permittedVms.map .str) (.ofOptStr ds.currentVm)

/-- What the popup did: the values `request_passthrough` passed to `self.server.send`, and
whether it showed the error dialog. -/
structure PopupOutcome where
  sent : List Value
  errorDialog : Bool

/-- `DeviceRegister.request_passthrough(device_id, new_vm)`, `send` the `VsockClient`'s: its
result, and the values it passed to `send`. -/
def requestPassthrough (send : Value → Bool) (deviceId newVm : String) :
    Except PyError Bool × List Value :=
  match PassthroughRequest.init (.str deviceId) (.str newVm) with
  | .error e => (.error e, [])
  | .ok r => (.ok (send r.toJson), [r.toJson])

/-- `PopupWindow._request_passthrough(device_id, new_vm)`. -/
def popupRequestPassthrough (send : Value → Bool) (deviceId newVm : String) : PopupOutcome :=
  ⟨(requestPassthrough send deviceId newVm).2,
    match (requestPassthrough send deviceId newVm).1 with
    | .ok ok => !ok
    | .error _ => true⟩

/-- `_on_dropdown_changed` with the string at `idx` of `strings` chosen. -/
def onDropdownChanged (send : Value → Bool) (deviceId : String) (strings : List String)
    (idx : Nat) : PopupOutcome :=
  match strings[idx]? with
  | some text =>
    if text = "" ∨ text = selectLabel then ⟨[], false⟩
    else popupRequestPassthrough send deviceId text
  | none => ⟨[], false⟩

/-! ## The popup -/

theorem gtkStrings_str (xs : List String) : gtkStrings (xs.map .str) = .ok xs := by
  induction xs with
  | nil => rfl
  | cons x xs ih => simp [gtkStrings, ih]

/-- The dropdown holds `"Select"` and then the permitted VMs. -/
theorem DeviceStruct.dropdown_strings (ds : DeviceStruct) :
    ∃ sel, ds.dropdown = .ok (selectLabel :: ds.permittedVms, sel) := by
  simp [dropdown, makeDropdown, gtkStrings_str]

/-- Every popup `on_msg` opens is for a device with an id. -/
theorem onMsg_popup_deviceId {g : DeviceRegister} {msg : Value} {c : Call}
    (hc : c ∈ (onMsg g msg).calls) {ds : DeviceStruct} (hp : c.popup? = some ds) :
    ds.deviceId ≠ "" := by
  cases c with
  | atomicWriteRegistry d => cases hp
  | showNewDevicePopup d v p vms cur =>
    cases hp
    obtain ⟨m, rfl, -⟩ := (onMsg_shape g msg).popup hc
    exact m.deviceId_ne

/-- A pick of a VM sends its request, once; any other pick sends nothing. -/
theorem onDropdownChanged_sent (send : Value → Bool) {d : String} (hd : d ≠ "")
    (strings : List String) (idx : Nat) :
    (onDropdownChanged send d strings idx).sent =
      ((strings[idx]?.filter fun vm => decide (vm ≠ "" ∧ vm ≠ selectLabel)).map fun vm =>
        envelope PassthroughRequest.msgType [("device_id", .str d), ("target_vm", .str vm)]).toList := by
  unfold onDropdownChanged
  cases strings[idx]? with
  | none => rfl
  | some vm =>
    by_cases hv : vm = "" ∨ vm = selectLabel
    · rcases hv with rfl | rfl <;> rfl
    · have hv' : vm ≠ "" ∧ vm ≠ selectLabel := by tauto
      simp [hv, hv', Option.filter, popupRequestPassthrough, requestPassthrough,
        PassthroughRequest.init, hd, PassthroughRequest.toJson]

/-! ## From the pick to the host -/

/-- The host's `handle_request` on the request for `vm`: the passthrough handler first, when it
knows the device. -/
theorem handleRequest_requestFor (h : Gui.Handler) (hsend : Nat → Host.SendArg → Bool)
    (pass : String → String → Bool) {d vm : String} (hd : d ≠ "") (hvm : vm ≠ "") :
    (h.handleRequest hsend pass
        (envelope PassthroughRequest.msgType [("device_id", .str d), ("target_vm", .str vm)])).calls.head? =
      if h.deviceRegistry.contains d then some (.passthroughHandler d vm) else none := by
  have hr : PassthroughRequest.fromMessage (envelope PassthroughRequest.msgType
      [("device_id", .str d), ("target_vm", .str vm)]) = .ok (some ⟨d, vm, hd, hvm⟩) :=
    PassthroughRequest.fromMessage_toJson ⟨d, vm, hd, hvm⟩
  rw [Gui.Handler.handleRequest_request hsend pass h hr]
  split
  · split <;> rfl
  · rfl

/-- A user picks the string at `idx` of the popup `on_msg` opened for a device, and the guest's
`send` writes what `request_passthrough` gave it on the connection to the host, which `recv` cuts
anyhow. Then
1. the values the host's worker reads are handed to `USBPassthroughGUI.handle_request`, and the
   first call each makes is the passthrough handler's with the popup's device and the string
   picked, when the host knows the device, and none otherwise; there is one such value when the
   pick is neither empty nor `"Select"`, and none otherwise;
2. a pick other than `"Select"` is one of the device's permitted VMs. -/
theorem popup_choice_reaches_host {g : DeviceRegister} {msg : Value} {c : Call} {ds : DeviceStruct}
    (hc : c ∈ (onMsg g msg).calls) (hp : c.popup? = some ds) {strings : List String} {sel : Nat}
    (hdrop : ds.dropdown = .ok (strings, sel)) (send : Value → Bool) (idx : Nat)
    {chunks : List (List UInt8)} (hne : ∀ ch ∈ chunks, ch ≠ [])
    (hw : Vsock.Transport.sendAll (onDropdownChanged send ds.deviceId strings idx).sent = .ok chunks.flatten)
    (h : Gui.Handler) (hsend : Nat → Host.SendArg → Bool) (pass : String → String → Bool) :
    (Vsock.Transport.receive chunks none).values.map (fun v => (h.handleRequest hsend pass v).calls.head?) =
      ((strings[idx]?.filter fun vm => decide (vm ≠ "" ∧ vm ≠ selectLabel)).map fun vm =>
        if h.deviceRegistry.contains ds.deviceId then some (Gui.Call.passthroughHandler ds.deviceId vm)
        else none).toList ∧
    ∀ vm, strings[idx]? = some vm → vm ≠ selectLabel → vm ∈ ds.permittedVms := by
  have hd := onMsg_popup_deviceId hc hp
  have hsent := onDropdownChanged_sent send hd strings idx
  obtain ⟨sel', hs⟩ := ds.dropdown_strings
  obtain ⟨rfl, -⟩ := Prod.mk.inj (Except.ok.inj (hdrop.symm.trans hs))
  have hplain : ∀ o ∈ (onDropdownChanged send ds.deviceId (selectLabel :: ds.permittedVms) idx).sent,
      o.Plain := by
    rw [hsent]
    intro o ho
    obtain ⟨vm, -, rfl⟩ := Option.mem_toList.mp ho |> Option.mem_map.mp
    simp [envelope, Value.Plain, Value.PlainPairs]
  refine ⟨?_, fun vm hvm hsel => ?_⟩
  · rw [Vsock.Transport.sendAll_eq] at hw
    rw [Vsock.Transport.receive_eq, receive_sendAll hplain hw chunks hne rfl, hsent]
    cases hf : (selectLabel :: ds.permittedVms)[idx]?.filter
        (fun vm => decide (vm ≠ "" ∧ vm ≠ selectLabel)) with
    | none => rfl
    | some vm =>
      have hv : vm ≠ "" := (of_decide_eq_true (Option.filter_eq_some.mp hf).2).1
      simp [handleRequest_requestFor h hsend pass hd hv]
  · cases idx with
    | zero => exact absurd (by simpa using hvm : selectLabel = vm).symm hsel
    | succ i => exact List.mem_iff_getElem?.mpr ⟨i, by simpa using hvm⟩

/-- The host announced `1-2`, which may go to `vm-a` or `vm-b`; the user picks `vm-b` in the
guest's popup, its request reaches the host in two pieces, and the host knows the device. -/
theorem popup_pick_reaches_handler :
    (Vsock.Transport.receive (["\x7b\"type\":\"passthrough_request\",\"pay",
        "load\":\x7b\"device_id\":\"1-2\",\"target_vm\":\"vm-b\"\x7d\x7d\n"].map
          fun (s : String) => utf8Encode s.toList) none).values.map
        (fun v => (Gui.Handler.handleRequest (fun _ _ => true) (fun _ _ => true)
          ⟨some 0, PyDict.empty.set "1-2" ⟨"1-2", "Acme", "Key", ["vm-a", "vm-b"], ""⟩⟩ v).calls.head?) =
      [some (Gui.Call.passthroughHandler "1-2" "vm-b")] ∧
    ∀ vm, [selectLabel, "vm-a", "vm-b"][2]? = some vm → vm ≠ selectLabel → vm ∈ ["vm-a", "vm-b"] := by
  have hc : Call.showNewDevicePopup "1-2" "Acme" "Key" ["vm-a", "vm-b"] none ∈
      (onMsg DeviceRegister.init (DeviceConnected.toJson ⟨"1-2", "Acme", "Key", ["vm-a", "vm-b"],
        none, by decide, by decide, by decide⟩)).calls := .tail _ (.head _)
  exact @popup_choice_reaches_host _ _ _ ⟨"1-2", ["vm-a", "vm-b"], none⟩ hc rfl _ 0 rfl
    (fun _ => true) 2 (["\x7b\"type\":\"passthrough_request\",\"pay",
      "load\":\x7b\"device_id\":\"1-2\",\"target_vm\":\"vm-b\"\x7d\x7d\n"].map
        fun (s : String) => utf8Encode s.toList) (by decide) rfl _ (fun _ _ => true) (fun _ _ => true)

end Guest
end UsbPassthrough
