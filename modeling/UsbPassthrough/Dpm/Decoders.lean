import UsbPassthrough.Dpm.RoundTrip

/-!
# UsbPassthrough.Dpm.Decoders

The dpm decoders against the field rules of each kind, over every JSON object.

The rules are stated as the decoders read the payload: `d.get(k)` for a field, with the
alternative spellings `permitted-vms` and `current-vm` and the defaults the decoders give (`[]`
for the permitted VMs, `None` for the current VM and the reason, `"ok"` for the status).

* `Kind.fromMessage_contract`: `K.from_message(msg)` answers `None` exactly when `msg`'s `type`
  is not `K.MSG_TYPE`; otherwise, on an object payload (or none), it returns an instance exactly
  when the payload passes `K`'s rules, and raises a `ValueError` when it does not;
* `nonObject_payload_decoding`: on a payload that is not an object, five kinds raise
  `AttributeError` from `pl.get`, and `get_devices` and `reset` return an instance whenever the
  payload is falsy (`null`, `false`, `0`, `""`, `[]`).
-/

namespace UsbPassthrough

/-- `isinstance(e, ValueError)`; `JSONDecodeError` is a subclass. -/
def PyError.isValueError : PyError → Bool
  | .valueError _ => true
  | .jsonDecodeError _ _ => true
  | _ => false

namespace Dpm

/-- A decoder's answer against its rules: an instance when they hold, a `ValueError` when they do
not. -/
def Decides {α : Type} (r : Except PyError α) (rules : Bool) : Prop :=
  match r with
  | .ok _ => rules = true
  | .error e => rules = false ∧ e.isValueError = true

/-! ## The field rules -/

/-- `d.get(k)`. -/
def field (d : List (String × Value)) (k : String) : Value := (getEntry k d).getD .none

/-- A non-empty `str`. -/
def nonEmptyStr : Value → Bool
  | .str s => s != ""
  | _ => false

/-- A `list` of `str`. -/
def strList (v : Value) : Bool := v.asStrList.isSome

/-- A `str` or `None`. -/
def optStr (v : Value) : Bool := v.asOptStr.isSome

/-- The permitted VMs of a device entry, under either spelling, `[]` when absent. -/
def permittedField (d : List (String × Value)) : Value :=
  (getEntry "permitted_vms" d).getD ((getEntry "permitted-vms" d).getD (.list []))

/-- The current VM of a device entry, under either spelling, `None` when absent. -/
def currentField (d : List (String × Value)) : Value :=
  (getEntry "current_vm" d).getD (field d "current-vm")

/-- The rules of one device entry of a snapshot. -/
def deviceInfoRules (info : Value) : Bool :=
  match info with
  | .dict d =>
    nonEmptyStr (field d "vendor") &&
      (nonEmptyStr (field d "product") && (strList (permittedField d) && optStr (currentField d)))
  | _ => false

/-- Each kind's rules for an object payload. -/
def Kind.rules : Kind → List (String × Value) → Bool
  | .deviceConnected, pl =>
    match field pl "device" with
    | .dict dev =>
      nonEmptyStr (field dev "device_id") && (nonEmptyStr (field dev "vendor") &&
        (nonEmptyStr (field dev "product") &&
          (strList (permittedField dev) && optStr (currentField dev))))
    | _ => false
  | .deviceRemoved, pl => nonEmptyStr (field pl "device_id")
  | .passthroughAck, pl =>
    nonEmptyStr (field pl "device_id") &&
      (optStr ((getEntry "current_vm" pl).getD (field pl "current-vm")) &&
        ((PassthroughStatus.ofValue? ((getEntry "status" pl).getD (.str "ok"))).isSome &&
          optStr (field pl "reason")))
  | .connectedDevices, pl =>
    match field pl "devices" with
    | .dict raw => raw.all fun e => deviceInfoRules e.2
    | _ => false
  | .getDevices, pl => pl.isEmpty
  | .reset, pl => pl.isEmpty
  | .passthroughRequest, pl =>
    nonEmptyStr (field pl "device_id") && nonEmptyStr (field pl "target_vm")

/-! ## Combinators -/

section Decides

variable {α β : Type}

theorem Decides.bind {x : Except PyError α} {f : α → Except PyError β} {b c : Bool}
    (hx : Decides x b) (hf : ∀ a, x = .ok a → Decides (f a) c) : Decides (x >>= f) (b && c) := by
  cases x with
  | error e => exact ⟨by rw [hx.1, Bool.false_and], hx.2⟩
  | ok a =>
    have hb : b = true := hx
    rw [hb, Bool.true_and]
    exact hf a rfl

theorem Decides.map {r : Except PyError α} {b : Bool} (f : α → β) (h : Decides r b) :
    Decides (f <$> r) b := by
  cases r <;> exact h

end Decides

theorem strOk_decides (v : Value) (name : String) : Decides (strOk v name) (nonEmptyStr v) := by
  cases v with
  | str s =>
    by_cases h : s = ""
    · subst h; exact ⟨rfl, rfl⟩
    · rw [strOk_str h]
      show (s != "") = true
      simpa using h
  | _ => exact ⟨rfl, rfl⟩

@[simp] theorem get_dict (d : List (String × Value)) (k : String) :
    (Value.dict d).get k = .ok (field d k) := rfl

/-! ## Each kind on an object payload -/

theorem DeviceConnected.init_ok {d v p : String} (hd : d ≠ "") (hv : v ≠ "") (hp : p ≠ "")
    (vms : List String) {c : Value} {cur : Option String} (hc : c.asOptStr = some cur) :
    init (.str d) (.str v) (.str p) (.ofStrList vms) c = .ok ⟨d, v, p, vms, cur, hd, hv, hp⟩ := by
  simp [init, hc, hd, hv, hp]

theorem DeviceConnected.fromPayload_decides (pl : List (String × Value)) :
    Decides (DeviceConnected.fromPayload (.dict pl)) (Kind.rules .deviceConnected pl) := by
  simp only [DeviceConnected.fromPayload, get_dict, except_ok_bind, Kind.rules]
  generalize field pl "device" = dv
  cases dv with
  | dict dev =>
    refine (strOk_decides _ _).bind fun d _ => (strOk_decides _ _).bind fun v _ =>
      (strOk_decides _ _).bind fun p _ => ?_
    simp only [permittedField, currentField, strList, optStr, field]
    rcases hs : ((getEntry "permitted_vms" dev).getD _).asStrList with _ | vms <;>
      rcases hc : ((getEntry "current_vm" dev).getD _).asOptStr with _ | cur
    · exact ⟨rfl, rfl⟩
    · exact ⟨rfl, rfl⟩
    · exact ⟨rfl, rfl⟩
    · dsimp only
      rw [DeviceConnected.init_ok d.2 v.2 p.2 vms hc]
      rfl
  | _ => exact ⟨rfl, rfl⟩

theorem DeviceRemoved.fromPayload_decides (pl : List (String × Value)) :
    Decides (DeviceRemoved.fromPayload (.dict pl)) (Kind.rules .deviceRemoved pl) := by
  rw [Kind.rules, ← Bool.and_true (nonEmptyStr _)]
  simp only [DeviceRemoved.fromPayload, get_dict, except_ok_bind]
  exact (strOk_decides _ _).bind fun d _ => by rw [DeviceRemoved.init, strOk_str d.2]; rfl

theorem PassthroughAck.init_ok {d : String} (hd : d ≠ "") {c st r : Value} {cur : Option String}
    {s : PassthroughStatus} {rs : Option String} (hc : c.asOptStr = some cur)
    (hs : PassthroughStatus.ofValue? st = some s) (hr : r.asOptStr = some rs) :
    init (.str d) c st r = .ok ⟨d, cur, s, hd⟩ := by
  simp [init, hc, hs, hr, hd]

theorem PassthroughAck.fromPayload_decides (pl : List (String × Value)) :
    Decides (PassthroughAck.fromPayload (.dict pl)) (Kind.rules .passthroughAck pl) := by
  simp only [PassthroughAck.fromPayload, get_dict, Value.getD, except_ok_bind, Kind.rules]
  refine (strOk_decides _ _).bind fun d _ => ?_
  simp only [optStr, field]
  rcases hc : ((getEntry "current_vm" pl).getD _).asOptStr with _ | cur <;>
    rcases hs : PassthroughStatus.ofValue? ((getEntry "status" pl).getD _) with _ | st <;>
    rcases hr : ((getEntry "reason" pl).getD _).asOptStr with _ | rs
  all_goals first
    | exact ⟨rfl, rfl⟩
    | (dsimp only; rw [PassthroughAck.init_ok d.2 hc hs hr]; rfl)

theorem ConnectedDevices.cleanEntry_decides (did : String) (info : Value) :
    Decides (ConnectedDevices.cleanEntry did info) (deviceInfoRules info) := by
  cases info with
  | dict kvs =>
    simp only [ConnectedDevices.cleanEntry, deviceInfoRules]
    refine (strOk_decides _ _).bind fun v _ => (strOk_decides _ _).bind fun p _ => ?_
    simp only [permittedField, currentField, strList, optStr, field]
    rcases ((getEntry "permitted_vms" kvs).getD _).asStrList with _ | vms <;>
      rcases ((getEntry "current_vm" kvs).getD _).asOptStr with _ | cur
    all_goals first | exact ⟨rfl, rfl⟩ | rfl
  | _ => exact ⟨rfl, rfl⟩

theorem ConnectedDevices.initLoop_decides :
    ∀ (raw : List (String × Value)) (clean : PyDict DeviceInfo),
      Decides (ConnectedDevices.initLoop raw clean) (raw.all fun e => deviceInfoRules e.2)
  | [], _ => rfl
  | (did, info) :: raw, clean => by
    rw [List.all_cons]
    exact (cleanEntry_decides did info).bind fun e _ => initLoop_decides raw _

theorem ConnectedDevices.fromPayload_decides (pl : List (String × Value)) :
    Decides (ConnectedDevices.fromPayload (.dict pl)) (Kind.rules .connectedDevices pl) := by
  simp only [ConnectedDevices.fromPayload, get_dict, except_ok_bind, Kind.rules]
  generalize field pl "devices" = dv
  cases dv with
  | dict raw => exact initLoop_decides raw .empty
  | _ => exact ⟨rfl, rfl⟩

theorem emptyPayload_decides {α : Type} (t : String) (make : α) (pl : List (String × Value)) :
    Decides (emptyPayload t make (.dict pl)) pl.isEmpty := by
  cases pl with
  | nil => rfl
  | cons e pl => exact ⟨rfl, rfl⟩

theorem PassthroughRequest.fromPayload_decides (pl : List (String × Value)) :
    Decides (PassthroughRequest.fromPayload (.dict pl)) (Kind.rules .passthroughRequest pl) := by
  rw [Kind.rules, ← Bool.and_true (nonEmptyStr (field pl "target_vm"))]
  simp only [PassthroughRequest.fromPayload, get_dict, except_ok_bind]
  exact (strOk_decides _ _).bind fun d _ => (strOk_decides _ _).bind fun t _ => by
    rw [PassthroughRequest.init, strOk_str d.2, strOk_str t.2]; rfl

/-! ## `from_message` -/

theorem fromMessageWith_dict {α : Type} (t : String) (f : Value → Except PyError α)
    (kvs : List (String × Value)) :
    fromMessageWith t f (.dict kvs) =
      if (field kvs "type").isStr t then some <$> f ((getEntry "payload" kvs).getD (.dict []))
      else .ok none := by
  simp only [fromMessageWith, get_dict, Value.getD, except_ok_bind]
  split
  · rcases f _ <;> rfl
  · rfl

/-- The contract of one kind's `from_message`, from its `from_payload`'s. -/
theorem fromMessageWith_contract {α β : Type} (t : String) (f : Value → Except PyError α)
    (g : α → β) {rules : List (String × Value) → Bool} (hf : ∀ pl, Decides (f (.dict pl)) (rules pl))
    (kvs : List (String × Value)) :
    (Option.map g <$> fromMessageWith t f (.dict kvs) = .ok none ↔
        (field kvs "type").isStr t = false) ∧
      ∀ pl, (field kvs "type").isStr t = true → (getEntry "payload" kvs).getD (.dict []) = .dict pl →
        Decides (Option.map g <$> fromMessageWith t f (.dict kvs)) (rules pl) := by
  rw [fromMessageWith_dict]
  refine ⟨?_, fun pl ht hp => ?_⟩
  · cases (field kvs "type").isStr t
    · exact ⟨fun _ => rfl, fun _ => rfl⟩
    · simp only [if_true, Bool.true_eq_false, iff_false]
      rcases f _ <;> nofun
  · rw [ht, if_pos rfl, hp]
    exact ((hf pl).map some).map _

/-- `K.from_message(msg)` on a JSON object: `None` exactly when `msg["type"]` is not
`K.MSG_TYPE`, and otherwise, with an object payload (or none), an instance exactly when the
payload passes `K`'s rules, a `ValueError` when it does not. -/
theorem Kind.fromMessage_contract (k : Kind) (kvs : List (String × Value)) :
    (k.fromMessage (.dict kvs) = .ok none ↔ (field kvs "type").isStr k.msgType = false) ∧
      ∀ pl, (field kvs "type").isStr k.msgType = true →
        (getEntry "payload" kvs).getD (.dict []) = .dict pl →
        Decides (k.fromMessage (.dict kvs)) (k.rules pl) := by
  cases k
  · exact fromMessageWith_contract _ _ _ DeviceConnected.fromPayload_decides kvs
  · exact fromMessageWith_contract _ _ _ DeviceRemoved.fromPayload_decides kvs
  · exact fromMessageWith_contract _ _ _ PassthroughAck.fromPayload_decides kvs
  · exact fromMessageWith_contract _ _ _ ConnectedDevices.fromPayload_decides kvs
  · exact fromMessageWith_contract _ _ _ (emptyPayload_decides _ _) kvs
  · exact fromMessageWith_contract _ _ _ (emptyPayload_decides _ _) kvs
  · exact fromMessageWith_contract _ _ _ PassthroughRequest.fromPayload_decides kvs

/-- A `passthrough_request` with an empty `target_vm`: of its kind, and refused with a
`ValueError`. -/
theorem empty_target_vm_refused :
    Decides (Kind.passthroughRequest.fromMessage (.dict [("type", .str "passthrough_request"),
      ("payload", .dict [("device_id", .str "dev-1"), ("target_vm", .str "")])])) false :=
  (Kind.fromMessage_contract .passthroughRequest [("type", .str "passthrough_request"),
    ("payload", .dict [("device_id", .str "dev-1"), ("target_vm", .str "")])]).2
    [("device_id", .str "dev-1"), ("target_vm", .str "")] (by decide) rfl

/-! ## A payload that is not an object -/

theorem get_of_not_dict {v : Value} (hv : ∀ d, v ≠ .dict d) (key : String) :
    v.get key = .error (.attributeError v.typeName "get") := by
  cases v <;> first | rfl | exact absurd rfl (hv _)

/-- `from_message` on an envelope of its own type: `from_payload` of the payload. -/
theorem fromMessageWith_own {α : Type} {t : String} (f : Value → Except PyError α)
    {kvs : List (String × Value)} {v : Value} (ht : (field kvs "type").isStr t = true)
    (hp : getEntry "payload" kvs = some v) : fromMessageWith t f (.dict kvs) = some <$> f v := by
  rw [fromMessageWith_dict, if_pos ht, hp]
  rfl

/-- On a payload that is not an object, the five kinds that read a field call `pl.get`, which
only a `dict` has, and raise `AttributeError`; `get_devices` and `reset` only test the payload for
truth, and return an instance for every falsy one. -/
theorem nonObject_payload_decoding {kvs : List (String × Value)} {v : Value} (k : Kind)
    (ht : (field kvs "type").isStr k.msgType = true) (hp : getEntry "payload" kvs = some v)
    (hv : ∀ d, v ≠ .dict d) :
    (k ≠ .getDevices → k ≠ .reset →
      k.fromMessage (.dict kvs) = .error (.attributeError v.typeName "get")) ∧
    (k = .getDevices ∨ k = .reset → v.truthy = false →
      ∃ m, k.fromMessage (.dict kvs) = .ok (some m)) := by
  have hget := get_of_not_dict hv
  refine ⟨fun h1 h2 => ?_, fun h hf => ?_⟩
  · cases k <;> simp only [Kind.msgType] at ht
    case getDevices => exact absurd rfl h1
    case reset => exact absurd rfl h2
    all_goals simp [Kind.fromMessage, DeviceConnected.fromMessage, DeviceRemoved.fromMessage,
      PassthroughAck.fromMessage, ConnectedDevices.fromMessage, PassthroughRequest.fromMessage,
      fromMessageWith_own _ ht hp, DeviceConnected.fromPayload, DeviceRemoved.fromPayload,
      PassthroughAck.fromPayload, ConnectedDevices.fromPayload, PassthroughRequest.fromPayload, hget]
  · rcases h with rfl | rfl <;> simp only [Kind.msgType] at ht
    · exact ⟨.getDevices ⟨⟩, by simp [Kind.fromMessage, GetDevices.fromMessage,
        fromMessageWith_own _ ht hp, GetDevices.fromPayload, emptyPayload, hf]⟩
    · exact ⟨.reset ⟨⟩, by simp [Kind.fromMessage, Reset.fromMessage, fromMessageWith_own _ ht hp,
        Reset.fromPayload, emptyPayload, hf]⟩

/-- A `device_removed` and a `get_devices` envelope, each with a `null` payload. -/
theorem null_payload_decoding :
    Kind.deviceRemoved.fromMessage (.dict [("type", .str "device_removed"), ("payload", .none)]) =
        .error (.attributeError "NoneType" "get") ∧
      ∃ m, Kind.getDevices.fromMessage
        (.dict [("type", .str "get_devices"), ("payload", .none)]) = .ok (some m) :=
  ⟨(@nonObject_payload_decoding [("type", .str "device_removed"), ("payload", .none)] .none
      .deviceRemoved (by decide) rfl nofun).1 nofun nofun,
    (@nonObject_payload_decoding [("type", .str "get_devices"), ("payload", .none)] .none
      .getDevices (by decide) rfl nofun).2 (.inl rfl) rfl⟩

end Dpm
end UsbPassthrough
