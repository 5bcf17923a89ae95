import UsbPassthrough.Vsock.Client

/-!
# UsbPassthrough.Vsock.Worker

`ConnCtx.send(data)`: the `_send` a `VsockConnectionWorker` builds for its connection. It holds
`self._send_lock` around `json_transport.send(self._conn, data)` and answers `True`, or `False` on
any exception. Several threads call it on one connection: the worker's own thread from
`on_message`, and the udev monitor's from the handler's `notify_*` methods.

`json.dumps` runs under the lock, before any byte is written. `sock.sendall` writes the bytes in
as many pieces as the kernel takes, each piece at once. A write that fails breaks the connection
for good (`EPIPE`, `ECONNRESET`, or `EBADF` once `stop` closed the socket), so no later write gets
through. The peer reads the bytes that got through, in order, then the end of the stream.

* `lock_keeps_messages_whole`: for every interleaving of `send` calls on one connection, every way
  `sendall` cuts their bytes and every failure, what the peer's `json_transport.receive` yields,
  however `recv` cuts it, is the messages of the calls that returned `True`, whole, in the order
  they returned, then the message of the call holding the lock once all its bytes are through; and
  those calls are the ones that returned `True`, each once.
-/

namespace UsbPassthrough
namespace Vsock

open Host Channel

/-- Where a thread in `ConnCtx.send(data)` is. -/
inductive CtxSendPc where
  /-- Before `with self._send_lock`. -/
  | waiting
  /-- Holding the lock, in `sock.sendall` with `left` still to write. -/
  | writing (left : List UInt8)
  /-- `_send` returned. -/
  | returned (ok : Bool)
  deriving DecidableEq, Repr

/-- A worker's connection and the threads in its `ConnCtx.send`. -/
structure CtxConn where
  /-- The bytes that got through, in order. -/
  wire : List UInt8
  /-- The thread holding `self._send_lock`. -/
  holder : Option Nat
  /-- A write failed. -/
  broken : Bool
  /-- Where each thread is. -/
  pcs : List CtxSendPc
  /-- The threads whose `_send` returned `True`, in the order they did: a record of the run,
  which the code never reads. -/
  log : List Nat

/-- One thread's step. -/
inductive CtxStep where
  /-- Thread `i` takes `_send_lock`, and `json.dumps` runs. -/
  | acquire (i : Nat)
  /-- `sendall` of thread `i` writes its next `n` bytes. -/
  | write (i n : Nat)
  /-- A write of thread `i` fails: `sendall` raises, the lock is released, `_send` answers
  `False`. -/
  | fail (i : Nat)
  /-- `sendall` of thread `i` returns: the lock is released, `_send` answers `True`. -/
  | finish (i : Nat)

namespace CtxConn

/-- The threads `args.length`, each about to send its argument. -/
def init (args : List SendArg) : CtxConn := ⟨[], none, false, args.map fun _ => .waiting, []⟩

def setPc (c : CtxConn) (i : Nat) (pc : CtxSendPc) : CtxConn := { c with pcs := c.pcs.set i pc }

variable (args : List SendArg)

/-- One step; `none` when the thread cannot take it. -/
def step (c : CtxConn) : CtxStep → Option CtxConn
  | .acquire i =>
    match c.holder, c.pcs[i]?, args[i]? with
    | none, some .waiting, some a =>
      match encodeArg a with
      | .ok bs => some { c.setPc i (.writing bs) with holder := some i }
      | .error _ => some (c.setPc i (.returned false))
    | _, _, _ => none
  | .write i n =>
    match c.pcs[i]? with
    | some (.writing left) =>
      if c.holder = some i ∧ c.broken = false ∧ 0 < n ∧ n ≤ left.length then
        some { c.setPc i (.writing (left.drop n)) with wire := c.wire ++ left.take n }
      else none
    | _ => none
  | .fail i =>
    match c.pcs[i]? with
    | some (.writing (_ :: _)) =>
      if c.holder = some i then some { c.setPc i (.returned false) with holder := none, broken := true }
      else none
    | _ => none
  | .finish i =>
    match c.pcs[i]? with
    | some (.writing []) =>
      if c.holder = some i then
        some { c.setPc i (.returned true) with holder := none, log := c.log ++ [i] }
      else none
    | _ => none

def run : CtxConn → List CtxStep → Option CtxConn
  | c, [] => some c
  | c, st :: sts => (c.step args st).bind (run · sts)

theorem run_append (c : CtxConn) (sts sts' : List CtxStep) :
    c.run args (sts ++ sts') = (c.run args sts).bind (run args · sts') := by
  induction sts generalizing c with
  | nil => rfl
  | cons st sts ih =>
    rw [List.cons_append, run, run, Option.bind_assoc]
    simp only [ih]

/-- The message thread `i` sends. -/
def message (i : Nat) : Value :=
  match args[i]? with
  | some (.json v) => v
  | _ => .none

/-- The messages of the calls that returned `True`, in order. -/
def delivered (c : CtxConn) : List Value := c.log.map (message args)

/-- The message of the thread holding the lock, once all its bytes are through. -/
def inFlight (c : CtxConn) : List Value :=
  match c.holder with
  | some i => if c.pcs[i]? = some (.writing []) then [message args i] else []
  | none => []

/-- What follows the whole messages on the wire: nothing while the lock is free, the part of the
holder's message written so far, or, once a write failed, part of one without its newline. -/
def Tail (c : CtxConn) (p : List UInt8) : Prop :=
  match c.broken, c.holder with
  | false, none => p = []
  | false, some i => ∃ v left, args[i]? = some (.json v) ∧ c.pcs[i]? = some (.writing left) ∧
      Transport.send v = .ok (p ++ left)
  | true, h => (10 : UInt8) ∉ p ∧ ∀ i, h = some i → c.pcs[i]? ≠ some (.writing [])

/-- What `_send_lock` keeps true of a connection. -/
structure Inv (c : CtxConn) : Prop where
  log_nodup : c.log.Nodup
  log_iff : ∀ i, i ∈ c.log ↔ c.pcs[i]? = some (.returned true)
  log_json : ∀ i ∈ c.log, ∃ v, args[i]? = some (.json v)
  wire : ∃ w p, Transport.sendAll (c.delivered args) = .ok w ∧ c.wire = w ++ p ∧ c.Tail args p

/-! ## One step -/

@[simp] theorem setPc_wire (c : CtxConn) (i : Nat) (pc : CtxSendPc) : (c.setPc i pc).wire = c.wire := rfl
@[simp] theorem setPc_holder (c : CtxConn) (i : Nat) (pc : CtxSendPc) :
    (c.setPc i pc).holder = c.holder := rfl
@[simp] theorem setPc_broken (c : CtxConn) (i : Nat) (pc : CtxSendPc) :
    (c.setPc i pc).broken = c.broken := rfl
@[simp] theorem setPc_log (c : CtxConn) (i : Nat) (pc : CtxSendPc) : (c.setPc i pc).log = c.log := rfl

section Steps

variable {args}

theorem tail_idle {c : CtxConn} {p : List UInt8} (hb : c.broken = false) (hh : c.holder = none) :
    c.Tail args p ↔ p = [] := by
  unfold Tail; rw [hb, hh]

theorem tail_busy {c : CtxConn} {p : List UInt8} {i : Nat} (hb : c.broken = false)
    (hh : c.holder = some i) :
    c.Tail args p ↔ ∃ v left, args[i]? = some (.json v) ∧ c.pcs[i]? = some (.writing left) ∧
      Transport.send v = .ok (p ++ left) := by
  unfold Tail; rw [hb, hh]

theorem tail_broken {c : CtxConn} {p : List UInt8} (hb : c.broken = true) :
    c.Tail args p ↔
      (10 : UInt8) ∉ p ∧ ∀ i, c.holder = some i → c.pcs[i]? ≠ some (.writing []) := by
  unfold Tail; rw [hb]

theorem pcs_setPc {c : CtxConn} {i : Nat} {pc₀ : CtxSendPc} (hi : c.pcs[i]? = some pc₀)
    (pc : CtxSendPc) (j : Nat) : (c.setPc i pc).pcs[j]? = if i = j then some pc else c.pcs[j]? := by
  have hl : i < c.pcs.length := (List.getElem?_eq_some_iff.mp hi).1
  simp [setPc, List.getElem?_set, hl]

/-- A thread that neither returned `True` nor does now leaves `log` as it describes. -/
theorem log_iff_setPc {c : CtxConn} (hlog : ∀ j, j ∈ c.log ↔ c.pcs[j]? = some (.returned true))
    {i : Nat} {pc₀ pc : CtxSendPc} (hi : c.pcs[i]? = some pc₀) (h₀ : pc₀ ≠ .returned true)
    (h : pc ≠ .returned true) (j : Nat) :
    j ∈ c.log ↔ (c.setPc i pc).pcs[j]? = some (.returned true) := by
  rw [pcs_setPc hi, hlog]
  split
  · next e => subst e; simp [hi, h₀, h]
  · rfl

theorem arg_mem {i : Nat} {a : SendArg} (h : args[i]? = some a) : a ∈ args :=
  List.mem_iff_getElem?.mpr ⟨i, h⟩

theorem message_json {i : Nat} {v : Value} (h : args[i]? = some (.json v)) : message args i = v := by
  simp [message, h]

/-- A prefix of `send`'s bytes with more to come holds no newline. -/
theorem send_prefix_not_mem {v : Value} {p q : List UInt8} (h : Transport.send v = .ok (p ++ q))
    (hq : q ≠ [])
    (hp : v.Plain) : (10 : UInt8) ∉ p := by
  obtain ⟨t, -, he, hnl⟩ := send_line h hp
  rcases List.append_eq_append_iff.mp he with ⟨a', e, -⟩ | ⟨c', rfl, hc'⟩
  · exact fun hm => hnl (e ▸ List.mem_append_left _ hm)
  · cases c' with
    | nil => simpa using hnl
    | cons x xs =>
      simp only [List.cons_append, List.cons.injEq] at hc'
      exact absurd (List.append_eq_nil.mp hc'.2.symm).2 hq

theorem send_ne_nil {v : Value} {bs : List UInt8} (h : Transport.send v = .ok bs) (hp : v.Plain) :
    bs ≠ [] := by
  obtain ⟨t, -, rfl, -⟩ := send_line h hp
  simp

theorem Inv.acquire_ok (hplain : ∀ v, SendArg.json v ∈ args → v.Plain) {c : CtxConn}
    (hc : c.Inv args) {i : Nat} {a : SendArg} {bs : List UInt8} (hh : c.holder = none)
    (hi : c.pcs[i]? = some .waiting) (ha : args[i]? = some a) (he : encodeArg a = .ok bs) :
    Inv args { c.setPc i (.writing bs) with holder := some i } := by
  obtain ⟨w, p, hs, hw, ht⟩ := hc.wire
  obtain ⟨v, rfl⟩ : ∃ v, a = .json v := by
    cases a with
    | json v => exact ⟨v, rfl⟩
    | message m => cases he
  have hpi : (c.setPc i (.writing bs)).pcs[i]? = some (.writing bs) := by simp [pcs_setPc hi]
  refine ⟨hc.log_nodup, log_iff_setPc hc.log_iff hi nofun nofun, hc.log_json, w, p, hs, hw, ?_⟩
  cases hb : c.broken
  · rw [tail_idle hb hh] at ht
    subst ht
    exact (tail_busy (by simpa using hb) rfl).mpr ⟨v, bs, ha, hpi, he⟩
  · rw [tail_broken hb] at ht
    refine (tail_broken (by simpa using hb)).mpr ⟨ht.1, fun j hj => ?_⟩
    cases hj
    rw [hpi]
    exact fun e => send_ne_nil he (hplain v (arg_mem ha)) (by cases e; rfl)

theorem Inv.acquire_error {c : CtxConn} (hc : c.Inv args) {i : Nat} (hh : c.holder = none)
    (hi : c.pcs[i]? = some .waiting) : Inv args (c.setPc i (.returned false)) := by
  obtain ⟨w, p, hs, hw, ht⟩ := hc.wire
  refine ⟨hc.log_nodup, log_iff_setPc hc.log_iff hi nofun (by simp), hc.log_json, w, p, hs, hw, ?_⟩
  cases hb : c.broken
  · exact (tail_idle (by simpa using hb) (by simpa using hh)).mpr ((tail_idle hb hh).mp ht)
  · exact (tail_broken (by simpa using hb)).mpr ⟨((tail_broken hb).mp ht).1, by simp [hh]⟩

theorem Inv.write {c : CtxConn} (hc : c.Inv args) {i n : Nat} {left : List UInt8}
    (hi : c.pcs[i]? = some (.writing left)) (hh : c.holder = some i) (hb : c.broken = false) :
    Inv args { c.setPc i (.writing (left.drop n)) with wire := c.wire ++ left.take n } := by
  obtain ⟨w, p, hs, hw, ht⟩ := hc.wire
  obtain ⟨v, left', ha, hl, hsend⟩ := (tail_busy hb hh).mp ht
  rw [hi, Option.some.injEq, CtxSendPc.writing.injEq] at hl
  subst hl
  refine ⟨hc.log_nodup, log_iff_setPc hc.log_iff hi nofun nofun, hc.log_json, w, p ++ left.take n,
    hs, by rw [hw, List.append_assoc], (tail_busy (by simpa using hb) (by simpa using hh)).mpr
      ⟨v, left.drop n, ha, by simp [pcs_setPc hi], ?_⟩⟩
  rw [List.append_assoc, List.take_append_drop, hsend]

theorem Inv.fail (hplain : ∀ v, SendArg.json v ∈ args → v.Plain) {c : CtxConn}
    (hc : c.Inv args) {i : Nat} {b : UInt8} {left : List UInt8}
    (hi : c.pcs[i]? = some (.writing (b :: left))) (hh : c.holder = some i) :
    Inv args { c.setPc i (.returned false) with holder := none, broken := true } := by
  obtain ⟨w, p, hs, hw, ht⟩ := hc.wire
  have hnl : (10 : UInt8) ∉ p := by
    cases hb : c.broken
    · obtain ⟨v, left', ha, hl, hsend⟩ := (tail_busy hb hh).mp ht
      rw [hi, Option.some.injEq, CtxSendPc.writing.injEq] at hl
      subst hl
      exact send_prefix_not_mem hsend (List.cons_ne_nil _ _) (hplain v (arg_mem ha))
    · exact ((tail_broken hb).mp ht).1
  exact ⟨hc.log_nodup, log_iff_setPc hc.log_iff hi nofun (by simp), hc.log_json, w, p, hs, hw,
    (tail_broken rfl).mpr ⟨hnl, nofun⟩⟩

theorem Inv.finish {c : CtxConn} (hc : c.Inv args) {i : Nat} (hi : c.pcs[i]? = some (.writing []))
    (hh : c.holder = some i) :
    Inv args { c.setPc i (.returned true) with holder := none, log := c.log ++ [i] } := by
  obtain ⟨w, p, hs, hw, ht⟩ := hc.wire
  cases hb : c.broken
  · obtain ⟨v, left', ha, hl, hsend⟩ := (tail_busy hb hh).mp ht
    rw [hi, Option.some.injEq, CtxSendPc.writing.injEq] at hl
    subst hl
    rw [List.append_nil] at hsend
    have hni : i ∉ c.log := fun hm => by simp [(hc.log_iff i).mp hm] at hi
    refine ⟨hc.log_nodup.append (List.nodup_singleton i) (by simpa using hni), fun j => ?_,
      fun j hj => ?_, w ++ p, [], ?_, by simp [hw], (tail_idle (by simpa using hb) rfl).mpr rfl⟩
    · rw [pcs_setPc hi, List.mem_append, hc.log_iff, List.mem_singleton]
      split
      · next e => subst e; simp [hi]
      · next e => simp [Ne.symm e]
    · rcases List.mem_append.mp hj with hj | hj
      · exact hc.log_json j hj
      · rw [List.mem_singleton.mp hj]; exact ⟨v, ha⟩
    · simp only [delivered, List.map_append, List.map_singleton, message_json ha, Transport.sendAll_eq]
      exact sendAll_append_single (Transport.sendAll_eq ▸ hs) hsend
  · exact absurd hi (((tail_broken hb).mp ht).2 i hh)

theorem Inv.step (hplain : ∀ v, SendArg.json v ∈ args → v.Plain) {c c' : CtxConn} (hc : c.Inv args)
    {st : CtxStep} (h : c.step args st = some c') : c'.Inv args := by
  cases st with
  | acquire i =>
    simp only [CtxConn.step] at h
    split at h
    · next hh hi ha =>
      split at h
      · next bs he => cases h; exact Inv.acquire_ok hplain hc hh hi ha he
      · cases h; exact hc.acquire_error hh hi
    · cases h
  | write i n =>
    simp only [CtxConn.step] at h
    split at h
    · next left hi =>
      split at h
      · next hg => cases h; exact hc.write hi hg.1 hg.2.1
      · cases h
    · cases h
  | fail i =>
    simp only [CtxConn.step] at h
    split at h
    · next b left hi =>
      split at h
      · next hh => cases h; exact Inv.fail hplain hc hi hh
      · cases h
    · cases h
  | finish i =>
    simp only [CtxConn.step] at h
    split at h
    · next hi =>
      split at h
      · next hh => cases h; exact hc.finish hi hh
      · cases h
    · cases h

theorem Inv.run (hplain : ∀ v, SendArg.json v ∈ args → v.Plain) :
    ∀ {c c' : CtxConn} {sts : List CtxStep}, c.Inv args → c.run args sts = some c' → c'.Inv args
  | _, _, [], hc, h => by cases h; exact hc
  | _, _, _ :: _, hc, h => by
    obtain ⟨c₁, h₁, h⟩ := Option.bind_eq_some.mp h
    exact Inv.run hplain (Inv.step hplain hc h₁) h

theorem inv_init : (init args).Inv args :=
  ⟨List.nodup_nil, fun j => by simp [init, List.getElem?_replicate], nofun, [], [], rfl, rfl,
    (tail_idle rfl rfl).mpr rfl⟩

/-- What the peer reads off a connection whose lock kept its invariant. -/
theorem Inv.receive (hplain : ∀ v, SendArg.json v ∈ args → v.Plain) {c : CtxConn} (hc : c.Inv args)
    {chunks : List (List UInt8)} (hne : ∀ ch ∈ chunks, ch ≠ []) (hj : chunks.flatten = c.wire) :
    Transport.receive chunks none = ⟨c.delivered args ++ c.inFlight args, none⟩ := by
  obtain ⟨w, p, hs, hw, ht⟩ := hc.wire
  rw [Transport.sendAll_eq] at hs
  rw [Transport.receive_eq]
  have hpd : ∀ o ∈ c.delivered args, o.Plain := by
    intro o ho
    obtain ⟨i, hi, rfl⟩ := List.mem_map.mp ho
    obtain ⟨v, hv⟩ := hc.log_json i hi
    rw [message_json hv]
    exact hplain v (arg_mem hv)
  rw [hw] at hj
  cases hb : c.broken
  · cases hh : c.holder with
    | none =>
      obtain rfl := (tail_idle hb hh).mp ht
      simpa [inFlight, hh] using receive_sendAll hpd hs chunks hne (by simpa using hj)
    | some i =>
      obtain ⟨v, left, ha, hl, hsend⟩ := (tail_busy hb hh).mp ht
      have hv := hplain v (arg_mem ha)
      cases left with
      | nil =>
        rw [List.append_nil] at hsend
        simp only [inFlight, hh, hl, if_true, message_json ha]
        exact receive_sendAll (fun o ho => (List.mem_append.mp ho).elim (hpd o)
          (fun e => List.mem_singleton.mp e ▸ hv)) (sendAll_append_single hs hsend) chunks hne hj
      | cons b left =>
        simp only [inFlight, hh, hl, Option.some.injEq, CtxSendPc.writing.injEq, reduceCtorEq,
          if_false, List.append_nil]
        exact receive_sendAll_partial hpd hs (send_prefix_not_mem hsend (List.cons_ne_nil _ _) hv)
          chunks hne hj
  · obtain ⟨hnl, hh⟩ := (tail_broken hb).mp ht
    have hf : c.inFlight args = [] := by
      unfold inFlight
      split
      · next i hi => exact if_neg (hh i hi)
      · rfl
    rw [hf, List.append_nil]
    exact receive_sendAll_partial hpd hs hnl chunks hne hj

end Steps

end CtxConn

/-- However the threads calling `ConnCtx.send` on one connection interleave, however `sendall`
cuts each message and whichever writes fail, the peer's `json_transport.receive`, however `recv`
cuts what got through, yields the messages of the calls that returned `True`, each whole, in the
order they returned, and then the message of the call holding the lock if all its bytes are
through; nothing else, and no error. The calls in that order are the ones that returned `True`,
each once. Every message is one `json.loads` reads back as it was sent: no float and no repeated
key. -/
theorem lock_keeps_messages_whole {args : List SendArg}
    (hplain : ∀ v, SendArg.json v ∈ args → v.Plain)
    {sts : List CtxStep} {c : CtxConn} (hrun : (CtxConn.init args).run args sts = some c)
    {chunks : List (List UInt8)} (hne : ∀ ch ∈ chunks, ch ≠ []) (hj : chunks.flatten = c.wire) :
    Transport.receive chunks none = ⟨c.delivered args ++ c.inFlight args, none⟩ ∧ c.log.Nodup ∧
      ∀ i, i ∈ c.log ↔ c.pcs[i]? = some (.returned true) := by
  have hc := CtxConn.Inv.run hplain CtxConn.inv_init hrun
  exact ⟨CtxConn.Inv.receive hplain hc hne hj, hc.log_nodup, hc.log_iff⟩

set_option maxRecDepth 2000 in
/-- `USBPassthroughGUI` sends a removal, then its `reset` hands `_send` a `Reset` object that
`json.dumps` refuses, then a snapshot whose write breaks after ten bytes; the removal went out in
two pieces and the peer's `recv` cuts the stream elsewhere. -/
theorem removal_reset_broken_snapshot :
    (CtxConn.init [.json (Dpm.DeviceRemoved.toJson ⟨"1-2", by decide⟩), .message (.reset ⟨⟩),
        .json (Dpm.ConnectedDevices.toJson ⟨.empty⟩)]).run
      [.json (Dpm.DeviceRemoved.toJson ⟨"1-2", by decide⟩), .message (.reset ⟨⟩),
        .json (Dpm.ConnectedDevices.toJson ⟨.empty⟩)]
      [.acquire 0, .write 0 20, .write 0 36, .finish 0, .acquire 1, .acquire 2, .write 2 10, .fail 2] =
      some ⟨utf8Encode ("\x7b\"type\":\"device_removed\",\"payload\":\x7b\"device_id\":\"1-2\"\x7d\x7d\n" ++
        "\x7b\"type\":\"c").toList, none, true, [.returned true, .returned false, .returned false], [0]⟩ ∧
    Transport.receive (["\x7b\"type\":\"device_removed\",\"pay",
        "load\":\x7b\"device_id\":\"1-2\"\x7d\x7d\n\x7b\"type\":\"c"].map fun (s : String) => utf8Encode s.toList)
        none = ⟨[Dpm.DeviceRemoved.toJson ⟨"1-2", by decide⟩], none⟩ :=
  (and_iff_left_of_imp fun hrun => (lock_keeps_messages_whole (fun v hv => by
    simp only [List.mem_cons, SendArg.json.injEq, reduceCtorEq, List.mem_nil_iff, or_false,
      false_or] at hv
    rcases hv with rfl | rfl <;> simp [Dpm.DeviceRemoved.toJson, Dpm.ConnectedDevices.toJson,
      Dpm.envelope, Value.Plain, Value.PlainPairs, PyDict.map, PyDict.empty]) hrun (by decide)
    rfl).1).mpr rfl

end Vsock
end UsbPassthrough
