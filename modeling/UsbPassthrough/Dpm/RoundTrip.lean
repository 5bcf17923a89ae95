import UsbPassthrough.Dpm.Messages

/-!
# UsbPassthrough.Dpm.RoundTrip

The dpm encoders against the decoders, over every instance of every kind.

* `Message.toJson_roundTrip`: for the six kinds other than `PassthroughAck`, `to_json` succeeds,
  `get_message_type` reads the kind's `MSG_TYPE`, the kind's own `from_message` gives the message
  back, and every other kind's `from_message` answers `None`.
* `PassthroughAck.toJson_raises`: `to_json` raises on every acknowledgement, so no
  acknowledgement ever reaches the wire.
-/

namespace UsbPassthrough
namespace Dpm

/-! ## Envelopes -/

@[simp] theorem getMessageType_envelope (t : String) (p : List (String × Value)) :
    getMessageType (envelope t p) = .ok (.str t) := rfl

theorem fromMessageWith_envelope_self {α : Type} (t : String) (f : Value → Except PyError α)
    (p : List (String × Value)) : fromMessageWith t f (envelope t p) = some <$> f (.dict p) := by
  simp [fromMessageWith, envelope, Value.get, Value.getD, getEntry, Value.isStr]

theorem fromMessageWith_envelope_ne {α : Type} {t t' : String} (f : Value → Except PyError α)
    (p : List (String × Value)) (h : t' ≠ t) : fromMessageWith t f (envelope t' p) = .ok none := by
  simp [fromMessageWith, envelope, Value.get, Value.getD, getEntry, Value.isStr, h]

/-! ## Each kind -/

theorem DeviceConnected.fromPayload_toJson (m : DeviceConnected) :
    DeviceConnected.fromPayload (.dict [("device", .dict m.device)]) = .ok m := by
  simp [fromPayload, init, device, Value.get, Value.getD, getEntry, m.deviceId_ne, m.vendor_ne,
    m.product_ne]

theorem DeviceRemoved.fromPayload_toJson (m : DeviceRemoved) :
    DeviceRemoved.fromPayload (.dict [("device_id", .str m.deviceId)]) = .ok m := by
  simp [fromPayload, init, Value.get, Value.getD, getEntry, m.deviceId_ne]

theorem PassthroughRequest.fromPayload_toJson (m : PassthroughRequest) :
    PassthroughRequest.fromPayload
      (.dict [("device_id", .str m.deviceId), ("target_vm", .str m.targetVm)]) = .ok m := by
  simp [fromPayload, init, Value.get, Value.getD, getEntry, m.deviceId_ne, m.targetVm_ne]

theorem emptyPayload_nil {α : Type} (t : String) (make : α) :
    emptyPayload t make (.dict []) = .ok make := rfl

theorem DeviceInfo.cleanEntry_toValue (did : String) (e : DeviceInfo) :
    ConnectedDevices.cleanEntry did e.toValue = .ok e := by
  simp [ConnectedDevices.cleanEntry, toValue, getEntry, e.vendor_ne, e.product_ne]

theorem PyDict.ext' {α : Type} {d d' : PyDict α} (h : d.entries = d'.entries) : d = d' := by
  cases d; cases d'; cases h; rfl

/-- The constructor's loop, fed the entries of a snapshot, rebuilds them in order. -/
theorem ConnectedDevices.initLoop_toValue (es : List (String × DeviceInfo)) :
    ∀ clean : PyDict DeviceInfo, (clean.entries ++ es).map Prod.fst |>.Nodup →
      ∃ d : PyDict DeviceInfo, d.entries = clean.entries ++ es ∧
        initLoop (es.map fun e => (e.1, e.2.toValue)) clean = .ok ⟨d⟩ := by
  induction es with
  | nil => exact fun clean _ => ⟨clean, by simp, rfl⟩
  | cons e es ih =>
    intro clean hnd
    have hk : e.1 ∉ clean.entries.map Prod.fst := by
      simp only [List.map_append, List.map_cons] at hnd
      exact fun h => (List.nodup_append.mp hnd).2.2 h (List.mem_cons_self _ _)
    obtain ⟨d, hd, h⟩ := ih (clean.set e.1 e.2)
      (by simpa [PyDict.set, setEntry_of_not_mem _ hk] using hnd)
    refine ⟨d, by simp [hd, PyDict.set, setEntry_of_not_mem _ hk], ?_⟩
    simpa [initLoop, DeviceInfo.cleanEntry_toValue] using h

theorem ConnectedDevices.fromPayload_toJson (m : ConnectedDevices) :
    ConnectedDevices.fromPayload
      (.dict [("devices", .dict (m.devices.map DeviceInfo.toValue).entries)]) = .ok m := by
  obtain ⟨d, hd, h⟩ := initLoop_toValue m.devices.entries .empty (by simpa using m.devices.nodup)
  have : d = m.devices := PyDict.ext' (by simpa using hd)
  subst this
  simpa [fromPayload, init, Value.get, Value.getD, getEntry] using h

@[simp] theorem DeviceConnected.fromMessage_toJson (m : DeviceConnected) :
    DeviceConnected.fromMessage m.toJson = .ok (some m) := by
  simp [fromMessage, toJson, fromMessageWith_envelope_self, fromPayload_toJson]

@[simp] theorem DeviceRemoved.fromMessage_toJson (m : DeviceRemoved) :
    DeviceRemoved.fromMessage m.toJson = .ok (some m) := by
  simp [fromMessage, toJson, fromMessageWith_envelope_self, fromPayload_toJson]

@[simp] theorem ConnectedDevices.fromMessage_toJson (m : ConnectedDevices) :
    ConnectedDevices.fromMessage m.toJson = .ok (some m) := by
  simp [fromMessage, toJson, fromMessageWith_envelope_self, fromPayload_toJson]

@[simp] theorem GetDevices.fromMessage_toJson (m : GetDevices) :
    GetDevices.fromMessage m.toJson = .ok (some m) := by
  simp [fromMessage, toJson, fromMessageWith_envelope_self, fromPayload, emptyPayload_nil]

@[simp] theorem Reset.fromMessage_toJson (m : Reset) :
    Reset.fromMessage m.toJson = .ok (some m) := by
  simp [fromMessage, toJson, fromMessageWith_envelope_self, fromPayload, emptyPayload_nil]

@[simp] theorem PassthroughRequest.fromMessage_toJson (m : PassthroughRequest) :
    PassthroughRequest.fromMessage m.toJson = .ok (some m) := by
  simp [fromMessage, toJson, fromMessageWith_envelope_self, fromPayload_toJson]

/-! ## The seven kinds -/

theorem Kind.fromMessage_envelope_ne {k : Kind} {t : String} (p : List (String × Value))
    (h : t ≠ k.msgType) : k.fromMessage (envelope t p) = .ok none := by
  cases k <;> simp only [Kind.msgType] at h <;>
    simp [Kind.fromMessage, DeviceConnected.fromMessage, DeviceRemoved.fromMessage,
      PassthroughAck.fromMessage, ConnectedDevices.fromMessage, GetDevices.fromMessage,
      Reset.fromMessage, PassthroughRequest.fromMessage, fromMessageWith_envelope_ne _ _ h]

theorem Kind.msgType_injective {k k' : Kind} (h : k.msgType = k'.msgType) : k = k' := by
  cases k <;> cases k' <;> first | rfl | (simp [Kind.msgType, DeviceConnected.msgType,
    DeviceRemoved.msgType, PassthroughAck.msgType, ConnectedDevices.msgType, GetDevices.msgType,
    Reset.msgType, PassthroughRequest.msgType] at h)

theorem Message.toJson_roundTrip (m : Message) (hm : m.kind ≠ .passthroughAck) :
    ∃ j, m.toJson = .ok j ∧ getMessageType j = .ok (.str m.kind.msgType) ∧
      m.kind.fromMessage j = .ok (some m) ∧ ∀ k, k ≠ m.kind → k.fromMessage j = .ok none := by
  have other : ∀ (p : List (String × Value)) k, k ≠ m.kind →
      k.fromMessage (envelope m.kind.msgType p) = .ok none :=
    fun p k hk => Kind.fromMessage_envelope_ne p (fun h => hk (Kind.msgType_injective h).symm)
  cases m
  case passthroughAck => exact absurd rfl hm
  all_goals
    refine ⟨_, rfl, rfl, ?_, other _⟩
    simp [Kind.fromMessage, Message.kind]

theorem reset_message_roundTrip :
    ∃ j, (Message.reset ⟨⟩).toJson = .ok j ∧ getMessageType j = .ok (.str Kind.reset.msgType) ∧
      Kind.reset.fromMessage j = .ok (some (.reset ⟨⟩)) ∧
      ∀ k, k ≠ Kind.reset → k.fromMessage j = .ok none :=
  Message.toJson_roundTrip (.reset ⟨⟩) (by decide)

/-! ## `PassthroughAck` -/

theorem PassthroughAck.toJson_raises (m : PassthroughAck) :
    m.toJson = .error (.attributeError "PassthroughAck" "reason") := rfl

/-- The acknowledgement `PassthroughAck("dev-1", None, "ok")` is built, and `to_json` raises. -/
theorem passthroughAck_toJson_fails :
    ∃ m, PassthroughAck.init (.str "dev-1") .none (.str "ok") .none = .ok m ∧
      (Message.passthroughAck m).toJson = .error (.attributeError "PassthroughAck" "reason") :=
  ⟨⟨"dev-1", none, .ok, by decide⟩, rfl, rfl⟩

end Dpm
end UsbPassthrough
