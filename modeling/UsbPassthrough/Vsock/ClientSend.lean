import UsbPassthrough.Vsock.Worker

/-!
# UsbPassthrough.Vsock.ClientSend

`VsockClient.send(data)` called from several threads on one connection. The host service's
client is: the udev monitor's thread sends through `notify_device_connected`,
`notify_device_disconnected` and `notify_device_passthrough`, and the client's own receive thread
through the replies of `handle_request`. Unlike the `_send` of a `VsockConnectionWorker`
(`Vsock.Worker`), `send` holds no lock around `json_transport.send`: each thread runs
`json.dumps`, then its `sock.sendall` writes the bytes in as many pieces as the kernel takes,
whenever that thread runs.

The model keeps the threads whose `json.dumps` returned, writing on the one socket `server()` gave
them; `Vsock.Client` has the rest of `send`, its retries and `close_connection`.

* `unlocked_sends_interleave`: for every two messages that are JSON objects, as every `dpm`
  message is, when one `sendall` has written the first byte of its message and the other message
  goes out whole before the rest, both calls return `True`, and the peer's
  `json_transport.receive`, however `recv` cuts the stream, yields nothing and raises
  `JSONDecodeError` on the first line. The peer's loop catches only `OSError`, so it ends there.
* `serial_sends_refine_locked`: that overlap is the only hazard. Every schedule in which no
  `sendall` writes while another thread's message is partly written is a schedule of the locked
  `_send` of `Vsock.Worker`, with the same bytes on the wire and the same calls returning `True` in
  the same order, so the peer reads each of those messages whole.
-/

namespace UsbPassthrough

namespace Json

/-- A second `{` where a key should start. -/
theorem loads_brace_brace (rest : List Char) :
    loads ('{' :: '{' :: rest) =
      .error (.jsonDecodeError "Expecting property name enclosed in double quotes" 1) := by
  simp [loads, skipWs, isWs, scanOnce, afterChar, parseObject]

end Json

namespace Channel

open Json

/-- A line of `{` and then the text `json.dumps` writes for an object. -/
theorem parseLine_brace_dumps {kw : List (String × Value)} {tw : List Char}
    (h : dumps (.dict kw) = .ok tw) (hp : (Value.dict kw).Plain) :
    parseLine (123 :: tw.map fun c => c.toNat.toUInt8) =
      .error (.jsonDecodeError "Expecting property name enclosed in double quotes" 1) := by
  obtain ⟨parts, -, rfl⟩ := dumps_dict_ok h
  have hascii : ∀ c ∈ '{' :: ('{' :: joinItems parts ++ ['}']), c.toNat < 0x80 := by
    intro c hc
    rcases List.mem_cons.mp hc with rfl | hc
    · decide
    · exact Nat.lt_of_le_of_lt (dumps_printable _ h hp c hc).2 (by decide)
  have hbytes : (123 : UInt8) :: ('{' :: joinItems parts ++ ['}']).map (fun c => c.toNat.toUInt8) =
      utf8Encode ('{' :: ('{' :: joinItems parts ++ ['}'])) := by
    rw [utf8Encode_ascii hascii]
    rfl
  have hstrip : strip (123 :: ('{' :: joinItems parts ++ ['}']).map fun c => c.toNat.toUInt8) =
      123 :: ('{' :: joinItems parts ++ ['}']).map fun c => c.toNat.toUInt8 :=
    strip_of_not_space (fun b hb => by cases hb; rfl) (fun b hb => by
      rw [List.map_append, List.map_singleton, ← List.cons_append, List.getLast?_concat,
        Option.mem_some_iff] at hb
      subst hb
      rfl)
  rw [parseLine]
  simp only [hstrip, List.isEmpty_cons, Bool.false_eq_true, if_false]
  rw [hbytes, utf8Decode_utf8Encode]
  simp [loads_brace_brace]

end Channel

namespace Vsock

open Host Channel

/-- The connection `server()` gave the threads in `VsockClient.send`, and where each thread is. -/
structure SendConn where
  /-- The bytes that got through, in order. -/
  wire : List UInt8
  pcs : List CtxSendPc

/-- One thread's step in `json_transport.send`. -/
inductive SendStep where
  /-- `json.dumps` of thread `i`'s data returns. -/
  | dumps (i : Nat)
  /-- `sendall` of thread `i` writes its next `n` bytes. -/
  | write (i n : Nat)
  /-- `sendall` of thread `i` returns, and `send` answers `True`. -/
  | finish (i : Nat)

namespace SendConn

def init (args : List SendArg) : SendConn := ⟨[], args.map fun _ => .waiting⟩

variable (args : List SendArg)

/-- One step; `none` when the thread cannot take it. Nothing is held while a thread writes. -/
def step (c : SendConn) : SendStep → Option SendConn
  | .dumps i =>
    match c.pcs[i]?, args[i]? with
    | some .waiting, some a =>
      match encodeArg a with
      | .ok bs => some { c with pcs := c.pcs.set i (.writing bs) }
      | .error _ => none
    | _, _ => none
  | .write i n =>
    match c.pcs[i]? with
    | some (.writing left) =>
      if 0 < n ∧ n ≤ left.length then
        some ⟨c.wire ++ left.take n, c.pcs.set i (.writing (left.drop n))⟩
      else none
    | _ => none
  | .finish i =>
    match c.pcs[i]? with
    | some (.writing []) => some { c with pcs := c.pcs.set i (.returned true) }
    | _ => none

def run : SendConn → List SendStep → Option SendConn
  | c, [] => some c
  | c, st :: sts => (c.step args st).bind (run · sts)

variable {args}

theorem step_dumps {c : SendConn} {i : Nat} {v : Value} {bs : List UInt8}
    (hi : c.pcs[i]? = some .waiting) (ha : args[i]? = some (.json v))
    (hs : Transport.send v = .ok bs) :
    c.step args (.dumps i) = some { c with pcs := c.pcs.set i (.writing bs) } := by
  simp [step, hi, ha, encodeArg, hs]

theorem step_write {c : SendConn} {i n : Nat} {left : List UInt8}
    (hi : c.pcs[i]? = some (.writing left)) (hn : 0 < n) (hl : n ≤ left.length) :
    c.step args (.write i n) = some ⟨c.wire ++ left.take n, c.pcs.set i (.writing (left.drop n))⟩ := by
  simp [step, hi, hn, hl]

theorem step_finish {c : SendConn} {i : Nat} (hi : c.pcs[i]? = some (.writing [])) :
    c.step args (.finish i) = some { c with pcs := c.pcs.set i (.returned true) } := by
  simp [step, hi]

end SendConn

/-- Two threads send JSON objects `v` and `w` on one connection. The first `sendall` writes the
first byte of `v`'s message, `{`; the second writes all of `w`'s; the first writes the rest. Both
calls return `True`, and the peer's `json_transport.receive`, however `recv` cuts the stream,
reads the line `{` followed by `w`'s text, yields nothing, and raises `JSONDecodeError` there. -/
theorem unlocked_sends_interleave {kv kw : List (String × Value)} (hpv : (Value.dict kv).Plain)
    (hpw : (Value.dict kw).Plain) {bv bw : List UInt8} (hv : Transport.send (.dict kv) = .ok bv)
    (hw : Transport.send (.dict kw) = .ok bw) :
    ∃ c, (SendConn.init [.json (.dict kv), .json (.dict kw)]).run [.json (.dict kv), .json (.dict kw)]
        [.dumps 0, .dumps 1, .write 0 1, .write 1 bw.length, .write 0 (bv.length - 1), .finish 0,
          .finish 1] = some c ∧
      c.pcs = [.returned true, .returned true] ∧
      ∀ chunks : List (List UInt8), (∀ ch ∈ chunks, ch ≠ []) → chunks.flatten = c.wire →
        Transport.receive chunks none =
          ⟨[], some (.jsonDecodeError "Expecting property name enclosed in double quotes" 1)⟩ := by
  obtain ⟨tv, htv, hbv, -⟩ := send_line hv hpv
  obtain ⟨tw, htw, hbw, hnl⟩ := send_line hw hpw
  obtain ⟨pv, -, rfl⟩ := Json.dumps_dict_ok htv
  -- `v`'s message is `{`, then more
  obtain ⟨rv, rfl, hrv⟩ : ∃ rv, bv = 123 :: rv ∧ 0 < rv.length := ⟨_, by rw [hbv]; rfl, by simp⟩
  have hbw0 : 0 < bw.length := by simp [hbw]
  refine ⟨⟨123 :: bw ++ rv, [.returned true, .returned true]⟩, ?_, rfl, fun chunks hne hj => ?_⟩
  · simp [SendConn.run, SendConn.init, SendConn.step_dumps, SendConn.step_write,
      SendConn.step_finish, hv, hw, hrv, hbw0]
  · have hline : (10 : UInt8) ∉ 123 :: tw.map fun c => c.toNat.toUInt8 :=
      List.not_mem_cons_of_ne_of_not_mem (by decide) hnl
    rw [Transport.receive_eq, receive_eq_batch chunks none hne, hj, batch, hbw, ← List.cons_append,
      List.append_assoc, List.singleton_append, drainAll_line hline, parseLine_brace_dumps htw hpw]

/-- The udev thread's `notify_device_disconnected` has written the `{` of its `device_removed`
when the receive thread's reply to `get_devices` goes out whole. -/
theorem removal_split_by_snapshot :
    ∃ c, (SendConn.init [.json (.dict [("type", .str Dpm.DeviceRemoved.msgType),
          ("payload", .dict [("device_id", .str "1-2")])]),
        .json (.dict [("type", .str Dpm.ConnectedDevices.msgType), ("payload", .dict [("devices", .dict [])])])]).run
        [.json (.dict [("type", .str Dpm.DeviceRemoved.msgType), ("payload", .dict [("device_id", .str "1-2")])]),
          .json (.dict [("type", .str Dpm.ConnectedDevices.msgType),
            ("payload", .dict [("devices", .dict [])])])]
        [.dumps 0, .dumps 1, .write 0 1, .write 1 54, .write 0 55, .finish 0, .finish 1] = some c ∧
      c.pcs = [.returned true, .returned true] ∧
      ∀ chunks : List (List UInt8), (∀ ch ∈ chunks, ch ≠ []) → chunks.flatten = c.wire →
        Transport.receive chunks none =
          ⟨[], some (.jsonDecodeError "Expecting property name enclosed in double quotes" 1)⟩ := by
  obtain ⟨c, hrun, hpcs, hrecv⟩ := @unlocked_sends_interleave [("type", .str Dpm.DeviceRemoved.msgType),
    ("payload", .dict [("device_id", .str "1-2")])] [("type", .str Dpm.ConnectedDevices.msgType),
    ("payload", .dict [("devices", .dict [])])] (by simp [Value.Plain, Value.PlainPairs])
    (by simp [Value.Plain, Value.PlainPairs]) _ _ rfl rfl
  exact ⟨c, hrun, hpcs, hrecv⟩

/-! ## Serial schedules

A schedule in which no `sendall` writes while another thread's message is partly written is a
schedule of the locked `_send` of `Vsock.Worker`, with the same bytes on the wire and the same calls
returning `True` in the same order: the unlocked `json.dumps` is a step the locked worker does not
see, and a thread's first write is its `acquire` of `_send_lock`, then the write. -/

/-- Whether no thread writes while another's message is partly written, `o` being the thread whose
`sendall` has written and not returned. -/
def Serial : Option Nat → List SendStep → Bool
  | _, [] => true
  | o, .dumps _ :: sts => Serial o sts
  | o, .write i _ :: sts => decide (o = none ∨ o = some i) && Serial (some i) sts
  | o, .finish i :: sts => Serial (if o = some i then none else o) sts

/-- The locked worker's schedule for a serial one: `json.dumps` runs when the thread takes the
lock, before its first write. -/
def lockedSchedule : Option Nat → List SendStep → List CtxStep
  | _, [] => []
  | o, .dumps _ :: sts => lockedSchedule o sts
  | o, .write i n :: sts =>
    (if o = some i then [] else [.acquire i]) ++ .write i n :: lockedSchedule (some i) sts
  | o, .finish i :: sts => .finish i :: lockedSchedule (if o = some i then none else o) sts

/-- The threads whose `send` returned `True`, in the order they did. -/
def finishOrder : List SendStep → List Nat
  | [] => []
  | .finish i :: sts => i :: finishOrder sts
  | _ :: sts => finishOrder sts

/-- Where thread `i` stands in the locked worker, `o` holding the lock: a thread past `json.dumps`
that wrote nothing still waits for it. -/
def lockedPc (o : Option Nat) (i : Nat) : CtxSendPc → CtxSendPc
  | .writing left => if o = some i then .writing left else .waiting
  | pc => pc

theorem lockedPc_of_ne {o : Option Nat} {i : Nat} (h : o ≠ some i) : lockedPc o i = lockedPc none i := by
  funext pc
  cases pc <;> simp [lockedPc, h]

namespace SendConn

/-- A state of the unlocked client read as one of the locked worker, with `o` holding the lock. -/
structure Sim (args : List SendArg) (s : SendConn) (o : Option Nat) (c : CtxConn) : Prop where
  wire : c.wire = s.wire
  holder : c.holder = o
  broken : c.broken = false
  pcs : ∀ i, c.pcs[i]? = s.pcs[i]?.map (lockedPc o i)
  held : ∀ i, o = some i → ∃ left, s.pcs[i]? = some (.writing left)
  /-- A thread past `json.dumps` that does not hold the lock has written nothing. -/
  fresh : ∀ i left, o ≠ some i → s.pcs[i]? = some (.writing left) →
    ∃ a, args[i]? = some a ∧ encodeArg a = .ok left

theorem sim_init (args : List SendArg) : (init args).Sim args none (CtxConn.init args) :=
  ⟨rfl, rfl, rfl, fun i => by simp only [init, CtxConn.init, List.getElem?_map, Option.map_map]; rfl,
    nofun, fun i left _ h => by simp [init, List.getElem?_replicate] at h⟩

variable {args : List SendArg} {s s' : SendConn} {o : Option Nat} {c : CtxConn}

theorem step_dumps_inv {i : Nat} (h : s.step args (.dumps i) = some s') :
    ∃ a bs, s.pcs[i]? = some .waiting ∧ args[i]? = some a ∧ encodeArg a = .ok bs ∧
      s' = { s with pcs := s.pcs.set i (.writing bs) } := by
  simp only [step] at h
  split at h
  · next a hi ha =>
    split at h
    · next bs he => cases h; exact ⟨a, bs, hi, ha, he, rfl⟩
    · cases h
  · cases h

theorem step_write_inv {i n : Nat} (h : s.step args (.write i n) = some s') :
    ∃ left, s.pcs[i]? = some (.writing left) ∧ 0 < n ∧ n ≤ left.length ∧
      s' = ⟨s.wire ++ left.take n, s.pcs.set i (.writing (left.drop n))⟩ := by
  simp only [step] at h
  split at h
  · next left hi =>
    split at h
    · next hn => cases h; exact ⟨left, hi, hn.1, hn.2, rfl⟩
    · cases h
  · cases h

theorem step_finish_inv {i : Nat} (h : s.step args (.finish i) = some s') :
    s.pcs[i]? = some (.writing []) ∧ s' = { s with pcs := s.pcs.set i (.returned true) } := by
  simp only [step] at h
  split at h
  · next hi => cases h; exact ⟨hi, rfl⟩
  · cases h

/-- Setting thread `i` on both sides keeps the reading of every thread. -/
theorem pcs_set {f g : Nat → CtxSendPc → CtxSendPc} {ps qs : List CtxSendPc}
    (h : ∀ j, qs[j]? = ps[j]?.map (f j)) {i : Nat} (hfg : ∀ j, j ≠ i → f j = g j)
    {pc pc' : CtxSendPc} (hpc : g i pc = pc') (hi : i < ps.length) :
    ∀ j, (qs.set i pc')[j]? = (ps.set i pc)[j]?.map (g j) := by
  have hq : i < qs.length := by
    have := h i
    rw [List.getElem?_eq_getElem hi, Option.map_some'] at this
    exact (List.getElem?_eq_some_iff.mp this).1
  intro j
  by_cases e : i = j
  · subst e
    simp [List.getElem?_set_eq_of_lt _ hi, List.getElem?_set_eq_of_lt _ hq, hpc]
  · rw [List.getElem?_set_ne e, List.getElem?_set_ne e, h, hfg j (Ne.symm e)]

/-- `json.dumps` outside the lock: the locked worker has not moved. -/
theorem Sim.dumps (hs : s.Sim args o c) {i : Nat} (h : s.step args (.dumps i) = some s') :
    s'.Sim args o c := by
  obtain ⟨a, bs, hi, ha, he, rfl⟩ := step_dumps_inv h
  have hoi : o ≠ some i := fun e => by obtain ⟨l, hl⟩ := hs.held i e; simp [hi] at hl
  have hlen : i < s.pcs.length := (List.getElem?_eq_some_iff.mp hi).1
  refine ⟨hs.wire, hs.holder, hs.broken, fun j => ?_, fun j hj => ?_, fun j left hj hl => ?_⟩
  · by_cases e : i = j
    · subst e
      simp [hs.pcs, hi, List.getElem?_set_eq_of_lt _ hlen, lockedPc, hoi]
    · simp [List.getElem?_set_ne e, hs.pcs]
  · obtain ⟨l, hl⟩ := hs.held j hj
    exact ⟨l, by simpa [List.getElem?_set_ne (fun e : i = j => hoi (e ▸ hj))] using hl⟩
  · by_cases e : i = j
    · subst e
      simp only [List.getElem?_set_eq_of_lt _ hlen, Option.some.injEq, CtxSendPc.writing.injEq] at hl
      exact ⟨a, ha, hl ▸ he⟩
    · exact hs.fresh j left hj (by simpa [List.getElem?_set_ne e] using hl)

/-- A thread whose `sendall` starts writing takes the lock first. -/
theorem Sim.acquire (hs : s.Sim args none c) {i : Nat} {left : List UInt8}
    (hi : s.pcs[i]? = some (.writing left)) :
    ∃ c₁, c.step args (.acquire i) = some c₁ ∧ c₁.log = c.log ∧ s.Sim args (some i) c₁ := by
  obtain ⟨a, ha, he⟩ := hs.fresh i left nofun hi
  have hci : c.pcs[i]? = some .waiting := by simp [hs.pcs, hi, lockedPc]
  refine ⟨{ c.setPc i (.writing left) with holder := some i },
    by simp [CtxConn.step, hs.holder, hci, ha, he], rfl, hs.wire, rfl, hs.broken, fun j => ?_,
    fun j e => ⟨left, by cases e; exact hi⟩, fun j l _ hl => hs.fresh j l nofun hl⟩
  show (c.setPc i _).pcs[j]? = _
  rw [CtxConn.pcs_setPc hci]
  split
  · next e => subst e; simp [hi, lockedPc]
  · next e => rw [hs.pcs, lockedPc_of_ne (show some i ≠ some j by simpa using e)]

/-- A write of the thread holding the lock is the same write in the locked worker. -/
theorem Sim.write {i : Nat} (hs : s.Sim args (some i) c) {n : Nat}
    (h : s.step args (.write i n) = some s') :
    ∃ c', c.step args (.write i n) = some c' ∧ c'.log = c.log ∧ s'.Sim args (some i) c' := by
  obtain ⟨left, hi, hn, hl, rfl⟩ := step_write_inv h
  have hlen : i < s.pcs.length := (List.getElem?_eq_some_iff.mp hi).1
  have hci : c.pcs[i]? = some (.writing left) := by simp [hs.pcs, hi, lockedPc]
  refine ⟨{ c.setPc i (.writing (left.drop n)) with wire := c.wire ++ left.take n },
    by simp [CtxConn.step, hci, hs.holder, hs.broken, hn, hl], rfl, by simp [hs.wire], hs.holder,
    hs.broken, pcs_set hs.pcs (fun _ _ => rfl) (by simp [lockedPc]) hlen,
    fun j e => ⟨left.drop n, by cases e; simp [List.getElem?_set_eq_of_lt _ hlen]⟩,
    fun j l hj hl' => hs.fresh j l hj ?_⟩
  have e : i ≠ j := fun e => hj (e ▸ rfl)
  simpa [List.getElem?_set_ne e] using hl'

/-- `sendall` returns only in the thread holding the lock, which releases it. -/
theorem Sim.finish (hplain : ∀ v, SendArg.json v ∈ args → v.Plain) (hs : s.Sim args o c) {i : Nat}
    (h : s.step args (.finish i) = some s') :
    o = some i ∧ ∃ c', c.step args (.finish i) = some c' ∧ c'.log = c.log ++ [i] ∧
      s'.Sim args none c' := by
  obtain ⟨hi, rfl⟩ := step_finish_inv h
  obtain rfl : o = some i := by
    by_contra hoi
    obtain ⟨a, ha, he⟩ := hs.fresh i [] hoi hi
    cases a with
    | json v => exact CtxConn.send_ne_nil he (hplain v (CtxConn.arg_mem ha)) rfl
    | message m => cases he
  have hlen : i < s.pcs.length := (List.getElem?_eq_some_iff.mp hi).1
  have hci : c.pcs[i]? = some (.writing []) := by simp [hs.pcs, hi, lockedPc]
  refine ⟨rfl, { c.setPc i (.returned true) with holder := none, log := c.log ++ [i] },
    by simp [CtxConn.step, hci, hs.holder], rfl, hs.wire, rfl, hs.broken,
    pcs_set hs.pcs (fun j e => lockedPc_of_ne (by simpa using Ne.symm e)) rfl hlen, nofun,
    fun j l _ hl => ?_⟩
  by_cases e : i = j
  · subst e
    simp [List.getElem?_set_eq_of_lt _ hlen] at hl
  · exact hs.fresh j l (by simpa using e) (by simpa [List.getElem?_set_ne e] using hl)

/-- Every serial run of the unlocked client is matched by the locked worker's run under
`lockedSchedule`. -/
theorem Sim.run (hplain : ∀ v, SendArg.json v ∈ args → v.Plain) :
    ∀ {sts : List SendStep} {s s' : SendConn} {o : Option Nat} {c : CtxConn}, s.Sim args o c →
      s.run args sts = some s' → Serial o sts = true →
      ∃ o' c', c.run args (lockedSchedule o sts) = some c' ∧ c'.log = c.log ++ finishOrder sts ∧
        s'.Sim args o' c'
  | [], _, _, o, c, hs, h, _ => by cases h; exact ⟨o, c, rfl, by simp [finishOrder], hs⟩
  | .dumps _ :: _, _, _, _, _, hs, h, hser => by
    obtain ⟨s₁, h₁, h⟩ := Option.bind_eq_some.mp h
    exact (Sim.run hplain (hs.dumps h₁) h hser :)
  | .write i _ :: _, s, _, o, c, hs, h, hser => by
    obtain ⟨s₁, h₁, h⟩ := Option.bind_eq_some.mp h
    simp only [Serial, Bool.and_eq_true, decide_eq_true_eq] at hser
    -- the thread holds the lock, or takes it now
    obtain ⟨c₀, hc₀, hl₀, hs₀⟩ : ∃ c₀,
        c.run args (if o = some i then [] else [.acquire i]) = some c₀ ∧ c₀.log = c.log ∧
          s.Sim args (some i) c₀ := by
      rcases hser.1 with rfl | rfl
      · obtain ⟨left, hi, -⟩ := step_write_inv h₁
        obtain ⟨c₀, hc₀, hl₀, hs₀⟩ := hs.acquire hi
        exact ⟨c₀, by simp [CtxConn.run, hc₀], hl₀, hs₀⟩
      · exact ⟨c, by simp [CtxConn.run], rfl, hs⟩
    obtain ⟨c₁, hc₁, hl₁, hs₁⟩ := hs₀.write h₁
    obtain ⟨o', c', hrun, hlog, hs'⟩ := Sim.run hplain hs₁ h hser.2
    refine ⟨o', c', ?_, by simp [finishOrder, hlog, hl₁, hl₀], hs'⟩
    rw [lockedSchedule, CtxConn.run_append, hc₀]
    simp [CtxConn.run, hc₁, hrun]
  | .finish _ :: _, _, _, _, _, hs, h, hser => by
    obtain ⟨s₁, h₁, h⟩ := Option.bind_eq_some.mp h
    obtain ⟨rfl, c₁, hc₁, hl₁, hs₁⟩ := hs.finish hplain h₁
    simp only [Serial, if_true] at hser
    obtain ⟨o', c', hrun, hlog, hs'⟩ := Sim.run hplain hs₁ h hser
    exact ⟨o', c', by simp [lockedSchedule, CtxConn.run, hc₁, hrun], by simp [finishOrder, hlog, hl₁],
      hs'⟩

end SendConn

/-- However the threads calling `VsockClient.send` on one connection interleave, as long as no
`sendall` writes while another thread's message is partly written, the run is one of the locked
`_send` of `Vsock.Worker`, under `lockedSchedule`: the same bytes reach the wire, and the same calls
return `True`, in the same order. So the peer's `json_transport.receive`, however `recv` cuts the
stream, yields those calls' messages, each whole and in that order, then the message of the thread
writing if all its bytes are through, and raises nothing. -/
theorem serial_sends_refine_locked {args : List SendArg}
    (hplain : ∀ v, SendArg.json v ∈ args → v.Plain) {sts : List SendStep} {c : SendConn}
    (hrun : (SendConn.init args).run args sts = some c) (hs : Serial none sts = true) :
    ∃ c', (CtxConn.init args).run args (lockedSchedule none sts) = some c' ∧ c'.wire = c.wire ∧
      c'.log = finishOrder sts ∧
      ∀ chunks : List (List UInt8), (∀ ch ∈ chunks, ch ≠ []) → chunks.flatten = c.wire →
        Transport.receive chunks none =
          ⟨(finishOrder sts).map (CtxConn.message args) ++ c'.inFlight args, none⟩ := by
  obtain ⟨_, c', hrun', hlog, hsim⟩ := SendConn.Sim.run hplain (SendConn.sim_init args) hrun hs
  have hinv := CtxConn.Inv.run hplain CtxConn.inv_init hrun'
  refine ⟨c', hrun', hsim.wire, hlog, fun chunks hne hj => ?_⟩
  rw [hinv.receive hplain hne (hj.trans hsim.wire.symm), CtxConn.delivered, hlog]
  rfl

/-- The udev thread's `notify_device_disconnected` writes its `device_removed` in two pieces and
returns; then the receive thread's reply to `get_devices` goes out. -/
theorem removal_then_snapshot_arrive :
    ∃ c, (SendConn.init [.json (Dpm.DeviceRemoved.toJson ⟨"1-2", by decide⟩),
          .json (Dpm.ConnectedDevices.toJson ⟨.empty⟩)]).run
        [.json (Dpm.DeviceRemoved.toJson ⟨"1-2", by decide⟩), .json (Dpm.ConnectedDevices.toJson ⟨.empty⟩)]
        [.dumps 0, .dumps 1, .write 0 20, .write 0 36, .finish 0, .write 1 54, .finish 1] = some c ∧
      Serial none [.dumps 0, .dumps 1, .write 0 20, .write 0 36, .finish 0, .write 1 54, .finish 1] = true ∧
      ∃ c', (CtxConn.init [.json (Dpm.DeviceRemoved.toJson ⟨"1-2", by decide⟩),
            .json (Dpm.ConnectedDevices.toJson ⟨.empty⟩)]).run
          [.json (Dpm.DeviceRemoved.toJson ⟨"1-2", by decide⟩), .json (Dpm.ConnectedDevices.toJson ⟨.empty⟩)]
          (lockedSchedule none
            [.dumps 0, .dumps 1, .write 0 20, .write 0 36, .finish 0, .write 1 54, .finish 1]) = some c' ∧
        c'.wire = c.wire ∧
        c'.log = finishOrder [.dumps 0, .dumps 1, .write 0 20, .write 0 36, .finish 0, .write 1 54, .finish 1] ∧
        ∀ chunks : List (List UInt8), (∀ ch ∈ chunks, ch ≠ []) → chunks.flatten = c.wire →
          Transport.receive chunks none =
            ⟨(finishOrder [.dumps 0, .dumps 1, .write 0 20, .write 0 36, .finish 0, .write 1 54, .finish 1]).map
              (CtxConn.message [.json (Dpm.DeviceRemoved.toJson ⟨"1-2", by decide⟩),
                .json (Dpm.ConnectedDevices.toJson ⟨.empty⟩)]) ++
              c'.inFlight [.json (Dpm.DeviceRemoved.toJson ⟨"1-2", by decide⟩),
                .json (Dpm.ConnectedDevices.toJson ⟨.empty⟩)], none⟩ :=
  ⟨_, rfl, rfl, serial_sends_refine_locked (fun v hv => by
    simp only [List.mem_cons, SendArg.json.injEq, List.mem_nil_iff, or_false] at hv
    rcases hv with rfl | rfl <;> simp [Dpm.DeviceRemoved.toJson, Dpm.ConnectedDevices.toJson,
      Dpm.envelope, Value.Plain, Value.PlainPairs, PyDict.map, PyDict.empty]) rfl rfl⟩

end Vsock
end UsbPassthrough
