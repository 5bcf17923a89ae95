import UsbPassthrough.Mirror.Sequential

/-!
# UsbPassthrough.Mirror.Interleaving

The host's two threads and the mirror. The udev monitor thread calls `notify_device_connected`
and `notify_device_disconnected`: each writes the registry under `self.lock`, then sends after
the lock is released. The vsock receive thread answers `get_devices` in `handle_request`: it reads
the registry into a `ConnectedDevices` snapshot without taking the lock (one step here), then
sends. The transport delivers the sends, in the order they happen, to `DeviceRegister.on_msg`.

`Conc` holds each thread's envelopes between its registry step and its send, and two ghost
flags: whether the udev thread's pending envelope comes from a write made after the pending
snapshot was read, and whether such an envelope was ever sent before that snapshot
(`overtaken`).

* `Absorbing`: a `device_connected` or `device_removed` envelope carries the whole state of the
  entry it touches, so it can be delivered to any mirror that agrees with the host;
* `inv_step`, `inv_run`: what is pending converges to the host's registry, over every schedule
  in which no snapshot is overtaken;
* `agree_of_not_overtaken`: then, once both threads are idle, the mirror agrees with the host;
* `stale_snapshot_undoes_connect`: a snapshot read before a `notify_device_connected` and sent
  after its `device_connected` is applied last, and the mirror loses the device.
-/

namespace UsbPassthrough
namespace Mirror

open Dpm Host Guest

/-! ## Envelopes that carry their entry's state -/

/-- What delivering `u` does is fixed by the host: if delivering `u` to some mirror made it agree
with `h`, delivering it to any mirror that agrees with `h` keeps the agreement. -/
def Absorbing (u : List Value) : Prop :=
  ∀ h X Y, Agree h X → Agree h (deliver Y u) → Agree h (deliver X u)

theorem absorbing_nil : Absorbing [] := fun _ _ _ hX _ => hX

theorem absorbing_connected (m : DeviceConnected) : Absorbing [m.toJson] := by
  intro h X Y hX hY d
  obtain ⟨hokX, hX'⟩ := onMsg_deviceConnected X m
  obtain ⟨hokY, hY'⟩ := onMsg_deviceConnected Y m
  have hd := hY d
  rw [deliver_single hokY, hY'] at hd
  rw [deliver_single hokX, hX']
  by_cases hk : m.deviceId = d
  · simpa [hk] using hd
  · simpa [hk] using hX d

theorem absorbing_removed (m : DeviceRemoved) : Absorbing [m.toJson] := by
  intro h X Y hX hY d
  obtain ⟨hokX, hX'⟩ := onMsg_deviceRemoved X m
  obtain ⟨hokY, hY'⟩ := onMsg_deviceRemoved Y m
  have hd := hY d
  rw [deliver_single hokY, hY' d] at hd
  rw [deliver_single hokX, hX' d]
  by_cases hk : m.deviceId = d
  · simpa [hk] using hd
  · simpa [hk] using hX d

/-- The notifications of the udev monitor thread, with arguments the dpm constructors accept. -/
def UdevOp : Host.Op → Prop
  | .notifyDeviceConnected d v p _ _ => d ≠ "" ∧ v ≠ "" ∧ p ≠ ""
  | .notifyDeviceDisconnected d => d ≠ ""
  | _ => False

theorem UdevOp.mirrorOp {op : Host.Op} (h : UdevOp op) : MirrorOp op := by
  cases op <;> simp_all [UdevOp, MirrorOp]

theorem absorbing_udevOp (env : Env) (s : HostService) {op : Host.Op} (hop : UdevOp op) :
    Absorbing (written (op.outcome env s).calls) := by
  cases op with
  | notifyDeviceConnected d v p vms c =>
    obtain ⟨hd, hv, hp⟩ := hop
    cases hc : s.deviceRegistry.contains d
    · simpa [Op.outcome, notifyDeviceConnected, hc, deviceConnected_init_ok vms c hd hv hp,
        Outcome.erase, written] using absorbing_connected ⟨d, v, p, vms, some c, hd, hv, hp⟩
    · simpa [Op.outcome, notifyDeviceConnected, hc, Outcome.erase, written] using absorbing_nil
  | notifyDeviceDisconnected d =>
    cases hc : s.deviceRegistry.contains d
    · simpa [Op.outcome, notifyDeviceDisconnected, hc, Outcome.erase, written] using absorbing_nil
    · simpa [Op.outcome, notifyDeviceDisconnected, hc, deviceRemoved_init_ok hop, Outcome.erase,
        written] using absorbing_removed ⟨d, hop⟩
  | _ => exact hop.elim

/-! ## The two threads -/

/-- The host, the mirror, and each thread between its registry step and its send. -/
structure Conc where
  host : HostService
  guest : DeviceRegister
  /-- The udev thread's envelopes not yet sent, and whether its registry write came after the
  pending snapshot was read. -/
  udev : Option (List Value × Bool)
  /-- The receive thread's snapshot reply, read and not yet sent. -/
  recv : Option (List Value)
  /-- An envelope of a write made after a pending snapshot's read was sent before it. -/
  overtaken : Bool

inductive Event where
  /-- The udev thread's registry write, under `self.lock`. -/
  | udevLocked (op : Host.Op)
  | udevSend
  /-- The receive thread's read of the registry for `get_devices`. -/
  | recvRead (msg : Value)
  | recvSend

/-- Each thread runs the operations it runs in the service. -/
def Event.Allowed : Event → Prop
  | .udevLocked op => UdevOp op
  | .recvRead msg => getMessageType msg = .ok (.str GetDevices.msgType)
  | _ => True

/-- One step of one thread; `none` when that thread is not at that step. -/
def Conc.step (handler : String → String → Bool) (c : Conc) : Event → Option Conc
  | .udevLocked op =>
    match c.udev with
    | none =>
      let o := op.outcome ⟨reliableSend, handler⟩ c.host
      some ⟨o.service, c.guest, some (written o.calls, c.recv.isSome), c.recv, c.overtaken⟩
    | some _ => none
  | .udevSend =>
    match c.udev with
    | some (u, after) =>
      some ⟨c.host, deliver c.guest u, none, c.recv, c.overtaken || (after && c.recv.isSome)⟩
    | none => none
  | .recvRead msg =>
    match c.recv with
    | none =>
      let o := handleRequest reliableSend handler c.host msg
      some ⟨o.service, c.guest, c.udev.map fun p => (p.1, false), some (written o.calls), c.overtaken⟩
    | some _ => none
  | .recvSend =>
    match c.recv with
    | some r => some ⟨c.host, deliver c.guest r, c.udev, none, c.overtaken⟩
    | none => none

def Conc.run (handler : String → String → Bool) : Conc → List Event → Option Conc
  | c, [] => some c
  | c, e :: es => (c.step handler e).bind fun c' => Conc.run handler c' es

/-! ## The invariant -/

/-- Delivering the snapshot reply `r` to any mirror makes it agree with `h`. -/
def SnapOf (h : HostService) (r : List Value) : Prop := ∀ X, Agree h (deliver X r)

/-- Delivering `u` to a mirror that agrees with `h` keeps the agreement. -/
def Absorbed (h : HostService) (u : List Value) : Prop := ∀ X, Agree h X → Agree h (deliver X u)

/-- What is pending, sent in any order that does not overtake the snapshot, brings the mirror
to agree with the host. -/
def Converges (h : HostService) (g : DeviceRegister) :
    Option (List Value) → Option (List Value × Bool) → Prop
  | none, none => Agree h g
  | none, some (u, _) => Agree h (deliver g u) ∧ Absorbing u
  | some r, none => SnapOf h r
  | some r, some (u, false) => SnapOf h r ∧ Absorbed h u ∧ Absorbing u
  | some r, some (u, true) => Agree h (deliver (deliver g r) u) ∧ Absorbing u

def Conc.Inv (c : Conc) : Prop :=
  SnapshotValid c.host ∧ (c.overtaken = false → Converges c.host c.guest c.recv c.udev)

theorem snapOf_getDevices (handler : String → String → Bool) {s : HostService}
    (hs : SnapshotValid s) {msg : Value} (hmsg : getMessageType msg = .ok (.str GetDevices.msgType)) :
    (handleRequest reliableSend handler s msg).service = s ∧
      SnapOf s (written (handleRequest reliableSend handler s msg).calls) := by
  obtain ⟨cd, hr, -⟩ := handleRequest_getDevices hs reliableSend handler hmsg
  refine ⟨by rw [hr], fun X => ?_⟩
  have := agree_getDevices handler ⟨s, X⟩ hs hmsg
  simpa only [System.step, Op.outcome, hr] using this

/-- A udev notification: its write and its envelope keep what is pending convergent. -/
theorem udevLocked_agree (handler : String → String → Bool) {s : HostService} {X : DeviceRegister}
    {op : Host.Op} (hop : UdevOp op) (hs : SnapshotValid s) (hag : Agree s X) :
    Agree (op.outcome ⟨reliableSend, handler⟩ s).service
      (deliver X (written (op.outcome ⟨reliableSend, handler⟩ s).calls)) :=
  (@agree_step handler ⟨s, X⟩ op hop.mirrorOp hag hs).1

theorem inv_step (handler : String → String → Bool) {c c' : Conc} {e : Event} (he : e.Allowed)
    (hc : c.Inv) (hstep : c.step handler e = some c') : c'.Inv := by
  obtain ⟨s, g, udev, recv, ov⟩ := c
  obtain ⟨hs, hconv⟩ := hc
  cases e with
  | udevLocked op =>
    cases udev with
    | some _ => simp [Conc.step] at hstep
    | none =>
      simp only [Conc.step, Option.some.injEq, reduceCtorEq] at hstep
      subst hstep
      refine ⟨snapshotValid_apply _ he.mirrorOp.connectArgsValid hs, fun hov => ?_⟩
      have hconv := hconv hov
      cases recv with
      | none => exact ⟨udevLocked_agree handler he hs hconv, absorbing_udevOp _ _ he⟩
      | some r => exact ⟨udevLocked_agree handler he hs (hconv g), absorbing_udevOp _ _ he⟩
  | udevSend =>
    cases udev with
    | none => simp [Conc.step] at hstep
    | some p =>
      obtain ⟨u, after⟩ := p
      simp only [Conc.step, Option.some.injEq, reduceCtorEq] at hstep
      subst hstep
      refine ⟨hs, fun hov => ?_⟩
      obtain ⟨hov, hafter⟩ := Bool.or_eq_false_iff.mp hov
      have hconv : Converges s g recv (some (u, after)) := hconv hov
      cases recv with
      | none => exact hconv.1
      | some r =>
        cases after with
        | false => exact hconv.1
        | true => cases hafter
  | recvRead msg =>
    cases recv with
    | some _ => simp [Conc.step] at hstep
    | none =>
      simp only [Conc.step, Option.some.injEq, reduceCtorEq] at hstep
      subst hstep
      obtain ⟨hsvc, hsnap⟩ := snapOf_getDevices handler hs he
      refine ⟨hsvc ▸ hs, fun hov => ?_⟩
      have hconv := hconv hov
      simp only [hsvc]
      cases udev with
      | none => exact hsnap
      | some p =>
        obtain ⟨hag, habs⟩ : Converges s g none (some p) := hconv
        exact ⟨hsnap, fun X hX => habs s X g hX hag, habs⟩
  | recvSend =>
    cases recv with
    | none => simp [Conc.step] at hstep
    | some r =>
      simp only [Conc.step, Option.some.injEq, reduceCtorEq] at hstep
      subst hstep
      refine ⟨hs, fun hov => ?_⟩
      have hconv := hconv hov
      match udev, hconv with
      | none, hconv => exact hconv g
      | some (u, false), hconv => exact ⟨hconv.2.1 _ (hconv.1 g), hconv.2.2⟩
      | some (u, true), hconv => exact hconv

theorem inv_run (handler : String → String → Bool) (es : List Event) (hes : ∀ e ∈ es, e.Allowed) :
    ∀ {c c' : Conc}, c.Inv → c.run handler es = some c' → c'.Inv := by
  induction es with
  | nil => intro c c' hc h; cases h; exact hc
  | cons e es ih =>
    intro c c' hc h
    simp only [Conc.run, Option.bind_eq_some] at h
    obtain ⟨c1, h1, h2⟩ := h
    exact ih (fun x hx => hes x (.tail _ hx)) (inv_step handler (hes e (.head _)) hc h1) h2

/-- From agreement with both threads idle, every schedule of udev notifications and `get_devices`
answers in which no snapshot is overtaken ends, once both threads are idle again, in agreement. -/
theorem agree_of_not_overtaken (handler : String → String → Bool) (es : List Event)
    (hes : ∀ e ∈ es, e.Allowed) {s : HostService} {g : DeviceRegister} (hs : SnapshotValid s)
    (hag : Agree s g) {c' : Conc} (hrun : Conc.run handler ⟨s, g, none, none, false⟩ es = some c')
    (hidle : c'.udev = none ∧ c'.recv = none) (hov : c'.overtaken = false) :
    Agree c'.host c'.guest := by
  obtain ⟨-, hconv⟩ := inv_run handler es hes
    (show Conc.Inv ⟨s, g, none, none, false⟩ from ⟨hs, fun _ => hag⟩) hrun
  have h := hconv hov
  rw [hidle.1, hidle.2] at h
  exact h

/-- The snapshot is read before a `notify_device_connected` and sent before its
`device_connected`. -/
theorem snapshot_sent_first_agrees :
    ∃ c', Conc.run (fun _ _ => true) ⟨.init, .init, none, none, false⟩
        [.recvRead (GetDevices.toJson ⟨⟩),
          .udevLocked (.notifyDeviceConnected "dev-1" "Acme" "Keyboard" ["vm-a"] "vm-a"),
          .recvSend, .udevSend] = some c' ∧
      Agree c'.host c'.guest :=
  ⟨_, rfl, @agree_of_not_overtaken (fun _ _ => true)
    [.recvRead (GetDevices.toJson ⟨⟩),
      .udevLocked (.notifyDeviceConnected "dev-1" "Acme" "Keyboard" ["vm-a"] "vm-a"), .recvSend, .udevSend]
    (by simp [Event.Allowed, UdevOp, GetDevices.toJson]) .init .init
    (fun _ _ h => by simp [HostService.init] at h) (fun _ => rfl) _ rfl ⟨rfl, rfl⟩ rfl⟩

/-- The snapshot is read before a `notify_device_connected` and sent after its
`device_connected`: both threads are idle, the host holds the device and the mirror does not. -/
theorem stale_snapshot_undoes_connect :
    ∃ c', Conc.run (fun _ _ => true) ⟨.init, .init, none, none, false⟩
        [.recvRead (GetDevices.toJson ⟨⟩),
          .udevLocked (.notifyDeviceConnected "dev-1" "Acme" "Keyboard" ["vm-a"] "vm-a"),
          .udevSend, .recvSend] = some c' ∧
      c'.udev = none ∧ c'.recv = none ∧
      c'.host.deviceRegistry.contains "dev-1" = true ∧ c'.guest.deviceRegistry.contains "dev-1" = false :=
  ⟨_, rfl, rfl, rfl, rfl, rfl⟩

end Mirror
end UsbPassthrough
