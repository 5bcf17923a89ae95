import UsbPassthrough.Host.Service

/-!
# UsbPassthrough.Host.Invariants

Runs of `HostService`: any sequence of its operations from the empty registry of `__init__`, each
operation with whatever its collaborators answer, and each kept whether the method returned or
raised.

`apply_get?` says once what one operation can do to one registry entry: keep it, add it while the
device is absent (only `notify_device_connected`, with its own arguments), or move its current VM
to one of its permitted VMs. The invariants are inductions over the run from it.

* `registry_assignment_invariant`: every entry still has the device id, vendor, product and
  permitted VMs it was registered with, and its current VM is the registered one or a permitted
  one.
* `registry_valid_of_valid_connects`: when every `notify_device_connected` of the run passes a
  non-empty vendor and product, every entry passes the snapshot's validation and `get_devices`
  is answered without raising.
-/

namespace UsbPassthrough
namespace Host

open Dpm

/-- The operations of `HostService`, with the arguments their callers pass. -/
inductive Op where
  | notifyDeviceConnected (deviceId vendor product : String) (permittedVms : List String)
      (currentVm : String)
  | notifyDeviceDisconnected (deviceId : String)
  | notifyDevicePassthrough (deviceId newVm : String)
  | reset
  | handleRequest (msg : Value)

/-- What the collaborators answer during one operation. -/
structure Env where
  send : SendArg → Bool
  handler : String → String → Bool

def Outcome.erase {α : Type} (o : Outcome α) : Outcome Unit := ⟨o.result.map fun _ => (), o.service, o.calls⟩

def Op.outcome (env : Env) (s : HostService) : Op → Outcome Unit
  | .notifyDeviceConnected d v p vms c => (Host.notifyDeviceConnected env.send s d v p vms c).erase
  | .notifyDeviceDisconnected d => (Host.notifyDeviceDisconnected env.send s d).erase
  | .notifyDevicePassthrough d v => (Host.notifyDevicePassthrough env.send s d v).erase
  | .reset => (Host.reset env.send).erase
  | .handleRequest msg => Host.handleRequest env.send env.handler s msg

/-- The service after one operation. -/
def Op.apply (env : Env) (s : HostService) (op : Op) : HostService := (op.outcome env s).service

/-- The service after a run. -/
def run (s : HostService) : List (Env × Op) → HostService
  | [] => s
  | (env, op) :: rest => run (op.apply env s) rest

/-- The entry each device had when it last entered the registry: noted by a step that takes the
device from absent to present. -/
def noteRegistrations (s s' : HostService) (g : String → Option Entry) : String → Option Entry :=
  fun d =>
    match s.deviceRegistry.get? d, s'.deviceRegistry.get? d with
    | none, some e => some e
    | _, _ => g d

def registeredWith (s : HostService) (g : String → Option Entry) :
    List (Env × Op) → String → Option Entry
  | [] => g
  | (env, op) :: rest =>
    registeredWith (op.apply env s) (noteRegistrations s (op.apply env s) g) rest

/-! ## One step -/

theorem passthroughService_get? {s : HostService} {d0 v d : String} {e' : Entry}
    (h : (passthroughService s d0 v).deviceRegistry.get? d = some e') :
    s.deviceRegistry.get? d = some e' ∨
      ∃ e, s.deviceRegistry.get? d = some e ∧ e'.currentVm ∈ e.permittedVms ∧
        e' = { e with currentVm := e'.currentVm } := by
  unfold passthroughService at h
  cases he : s.deviceRegistry.get? d0 with
  | none => rw [he] at h; exact .inl h
  | some e =>
    rw [he] at h
    dsimp only at h
    split at h
    · rename_i hc
      rw [PyDict.get?_set] at h
      split at h
      · rename_i hd
        subst hd
        cases h
        exact .inr ⟨e, he, hc.1, rfl⟩
      · exact .inl h
    · exact .inl h

/-- What one operation can do to the entry of one device. -/
theorem apply_get? {env : Env} {s : HostService} {op : Op} {d : String} {e' : Entry}
    (h : (op.apply env s).deviceRegistry.get? d = some e') :
    s.deviceRegistry.get? d = some e' ∨
      (s.deviceRegistry.get? d = none ∧ ∃ v p vms c,
        op = .notifyDeviceConnected d v p vms c ∧ e' = ⟨d, v, p, vms, c⟩) ∨
      ∃ e, s.deviceRegistry.get? d = some e ∧ e'.currentVm ∈ e.permittedVms ∧
        e' = { e with currentVm := e'.currentVm } := by
  cases op with
  | notifyDeviceConnected d0 v p vms c =>
    simp only [Op.apply, Op.outcome, Outcome.erase, notifyDeviceConnected_service] at h
    split at h
    · exact .inl h
    · rename_i hc
      rw [PyDict.get?_set] at h
      split at h
      · rename_i hd
        subst hd
        cases h
        exact .inr (.inl ⟨(PyDict.contains_eq_false _ _).mp (by simpa using hc), v, p, vms, c, rfl, rfl⟩)
      · exact .inl h
  | notifyDeviceDisconnected d0 =>
    simp only [Op.apply, Op.outcome, Outcome.erase, notifyDeviceDisconnected_service] at h
    split at h
    · rw [PyDict.get?_erase] at h
      split at h
      · cases h
      · exact .inl h
    · exact .inl h
  | notifyDevicePassthrough d0 v =>
    simp only [Op.apply, Op.outcome, Outcome.erase, notifyDevicePassthrough_service] at h
    exact (passthroughService_get? h).imp_right .inr
  | reset => simp [Op.apply, Op.outcome, Outcome.erase] at h
  | handleRequest msg =>
    simp only [Op.apply, Op.outcome] at h
    rcases handleRequest_service env.send env.handler s msg with hs | ⟨r, -, hs⟩
    · rw [hs] at h; exact .inl h
    · rw [hs] at h; exact (passthroughService_get? h).imp_right .inr

/-! ## The assignment invariant -/

/-- `e` is the registered entry `r`, with its current VM possibly moved to a permitted VM. -/
def AssignedFrom (r e : Entry) : Prop :=
  e.deviceId = r.deviceId ∧ e.vendor = r.vendor ∧ e.product = r.product ∧
    e.permittedVms = r.permittedVms ∧ (e.currentVm = r.currentVm ∨ e.currentVm ∈ e.permittedVms)

def AssignmentInv (s : HostService) (g : String → Option Entry) : Prop :=
  ∀ d e, s.deviceRegistry.get? d = some e → ∃ r, g d = some r ∧ AssignedFrom r e

theorem assignmentInv_apply {s : HostService} {g : String → Option Entry} (env : Env) (op : Op)
    (hi : AssignmentInv s g) :
    AssignmentInv (op.apply env s) (noteRegistrations s (op.apply env s) g) := by
  intro d e' h
  simp only [noteRegistrations, h]
  rcases apply_get? h with hk | ⟨hn, -⟩ | ⟨e, he, hm, heq⟩
  · rw [hk]; exact hi d e' hk
  · rw [hn]; exact ⟨e', rfl, rfl, rfl, rfl, rfl, .inl rfl⟩
  · rw [he]
    obtain ⟨r, hr, h1, h2, h3, h4, -⟩ := hi d e he
    refine ⟨r, hr, ?_⟩
    rw [heq]
    exact ⟨h1, h2, h3, h4, .inr hm⟩

theorem assignmentInv_run (ops : List (Env × Op)) :
    ∀ (s : HostService) (g : String → Option Entry), AssignmentInv s g →
      AssignmentInv (run s ops) (registeredWith s g ops) := by
  induction ops with
  | nil => exact fun _ _ hi => hi
  | cons x ops ih => exact fun s g hi => ih _ _ (assignmentInv_apply x.1 x.2 hi)

theorem registry_assignment_invariant (ops : List (Env × Op)) (d : String) (e : Entry)
    (h : (run .init ops).deviceRegistry.get? d = some e) :
    ∃ r, registeredWith .init (fun _ => none) ops d = some r ∧
      e.deviceId = r.deviceId ∧ e.vendor = r.vendor ∧ e.product = r.product ∧
      e.permittedVms = r.permittedVms ∧ (e.currentVm = r.currentVm ∨ e.currentVm ∈ e.permittedVms) :=
  assignmentInv_run ops .init _ (fun d e h => by simp [HostService.init] at h) d e h

/-- A device registered on no VM and then passed through to `vm-b`. -/
theorem registry_assignment_after_passthrough :
    ∃ r, registeredWith .init (fun _ => none)
      [(⟨fun _ => true, fun _ _ => true⟩,
          .notifyDeviceConnected "dev-1" "Acme" "Keyboard" ["vm-a", "vm-b"] ""),
        (⟨fun _ => true, fun _ _ => true⟩,
          .handleRequest (PassthroughRequest.toJson ⟨"dev-1", "vm-b", by decide, by decide⟩))]
      "dev-1" = some r ∧
      "dev-1" = r.deviceId ∧ "Acme" = r.vendor ∧ "Keyboard" = r.product ∧
      ["vm-a", "vm-b"] = r.permittedVms ∧ ("vm-b" = r.currentVm ∨ "vm-b" ∈ ["vm-a", "vm-b"]) :=
  registry_assignment_invariant _ "dev-1" ⟨"dev-1", "Acme", "Keyboard", ["vm-a", "vm-b"], "vm-b"⟩ rfl

/-! ## Snapshot validity -/

/-- `notify_device_connected` is called with a non-empty vendor and product. -/
def Op.ConnectArgsValid : Op → Prop
  | .notifyDeviceConnected _ v p _ _ => v ≠ "" ∧ p ≠ ""
  | _ => True

/-- Every entry passes the per-device checks of `ConnectedDevices.__init__`: the other checks
(permitted VMs a list of `str`, current VM a `str`) hold of every entry by its type. -/
def SnapshotValid (s : HostService) : Prop :=
  ∀ d e, s.deviceRegistry.get? d = some e → e.vendor ≠ "" ∧ e.product ≠ ""

theorem snapshotValid_apply {s : HostService} (env : Env) {op : Op} (hop : op.ConnectArgsValid)
    (hs : SnapshotValid s) : SnapshotValid (op.apply env s) := by
  intro d e' h
  rcases apply_get? h with hk | ⟨-, v, p, vms, c, rfl, rfl⟩ | ⟨e, he, -, heq⟩
  · exact hs d e' hk
  · exact hop
  · rw [heq]; exact hs d e he

theorem snapshotValid_run (ops : List (Env × Op)) (hops : ∀ x ∈ ops, x.2.ConnectArgsValid) :
    ∀ s, SnapshotValid s → SnapshotValid (run s ops) := by
  induction ops with
  | nil => exact fun _ hs => hs
  | cons x ops ih =>
    intro s hs
    exact ih (fun y hy => hops y (.tail _ hy)) _
      (snapshotValid_apply x.1 (hops x (.head _)) hs)

theorem cleanEntry_toValue (did : String) (e : Entry) (h1 : e.vendor ≠ "") (h2 : e.product ≠ "") :
    ConnectedDevices.cleanEntry did e.toValue =
      .ok ⟨e.vendor, e.product, e.permittedVms, some e.currentVm, h1, h2⟩ := by
  simp [ConnectedDevices.cleanEntry, Entry.toValue, getEntry, strOk, h1, h2]

theorem initLoop_ok (es : List (String × Entry)) (h : ∀ x ∈ es, x.2.vendor ≠ "" ∧ x.2.product ≠ "") :
    ∀ clean, ∃ cd, ConnectedDevices.initLoop (es.map fun x => (x.1, x.2.toValue)) clean = .ok cd := by
  induction es with
  | nil => exact fun clean => ⟨⟨clean⟩, rfl⟩
  | cons x es ih =>
    intro clean
    obtain ⟨h1, h2⟩ := h x (.head _)
    simp only [List.map_cons, ConnectedDevices.initLoop, cleanEntry_toValue x.1 x.2 h1 h2,
      except_ok_bind]
    exact ih (fun y hy => h y (.tail _ hy)) _

/-- On a valid registry, `handle_request` answers `get_devices` without raising. -/
theorem handleRequest_getDevices_ok {s : HostService} (hs : SnapshotValid s)
    (send : SendArg → Bool) (handler : String → String → Bool) {msg : Value}
    (hmsg : getMessageType msg = .ok (.str GetDevices.msgType)) :
    (handleRequest send handler s msg).result = .ok () := by
  obtain ⟨cd, hcd⟩ := initLoop_ok s.deviceRegistry.entries
    (fun x hx => hs x.1 x.2 (s.deviceRegistry.get?_of_mem hx)) .empty
  simp only [handleRequest, hmsg, Value.isStr, decide_True, if_true]
  rw [show (s.deviceRegistry.map Entry.toValue).entries =
    s.deviceRegistry.entries.map (fun x => (x.1, x.2.toValue)) from rfl]
  simp [ConnectedDevices.init, hcd]

theorem registry_valid_of_valid_connects (ops : List (Env × Op))
    (hops : ∀ x ∈ ops, x.2.ConnectArgsValid) (send : SendArg → Bool)
    (handler : String → String → Bool) (msg : Value)
    (hmsg : getMessageType msg = .ok (.str GetDevices.msgType)) :
    SnapshotValid (run .init ops) ∧ (handleRequest send handler (run .init ops) msg).result = .ok () :=
  have hv := snapshotValid_run ops hops .init (fun d e h => by simp [HostService.init] at h)
  ⟨hv, handleRequest_getDevices_ok hv send handler hmsg⟩

theorem registry_valid_one_device :
    SnapshotValid (run .init [(⟨fun _ => true, fun _ _ => true⟩,
        .notifyDeviceConnected "dev-1" "Acme" "Keyboard" ["vm-a"] "")]) ∧
      (handleRequest (fun _ => true) (fun _ _ => true)
        (run .init [(⟨fun _ => true, fun _ _ => true⟩,
          .notifyDeviceConnected "dev-1" "Acme" "Keyboard" ["vm-a"] "")])
        (GetDevices.toJson ⟨⟩)).result = .ok () :=
  registry_valid_of_valid_connects _ (by simp [Op.ConnectArgsValid]) _ _ _ rfl

/-- `notify_device_connected` stores an empty vendor before `DeviceConnected` refuses it, and
nothing removes the entry: every later `get_devices` raises. -/
theorem empty_vendor_breaks_get_devices :
    (run .init [(⟨fun _ => true, fun _ _ => true⟩,
        .notifyDeviceConnected "dev-1" "" "Keyboard" ["vm-a"] "")]).deviceRegistry.contains "dev-1" ∧
      (handleRequest (fun _ => true) (fun _ _ => true)
        (run .init [(⟨fun _ => true, fun _ _ => true⟩,
          .notifyDeviceConnected "dev-1" "" "Keyboard" ["vm-a"] "")])
        (GetDevices.toJson ⟨⟩)).result = .error (strError "vendor") :=
  ⟨rfl, rfl⟩

end Host
end UsbPassthrough
