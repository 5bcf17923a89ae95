import UsbPassthrough.Channel.Reference

/-!
# UsbPassthrough.Vsock.Transport

`vsock.py` frames its messages with `vsock_bridge.json_transport`, which `src/` does not hold:
`VsockClient` and `VsockConnectionWorker` call its `send` and `receive`, so every message between
the host's `HostService`, the guest's `DeviceRegister` and the GUI's `USBPassthroughGUI` goes
through it. It is modelled here from the spec's codec: `send` writes an object's compact JSON and
one newline, UTF-8 encoded, and `receive` buffers what `recv` returns until a zero-byte read ends
the stream, splits it on `\n`, and parses every non-empty stripped line in order, a line that
fails ending the sequence with its error.

* `send_eq`, `receive_eq`: that codec is what `upm/channel/json_transport.py` does
  (`Channel.send`, `Channel.receive`), for every object, every way `recv` cuts the stream, and
  every read that fails; so what `Channel` proves of its framing holds of the bridge's.
-/

namespace UsbPassthrough
namespace Vsock
namespace Transport

open Json Channel

/-- Modelled from the spec: `vsock_bridge.json_transport.send(sock, obj)`, the bytes handed to
`sock.sendall`: the object's compact JSON and one `\n`, UTF-8 encoded. -/
def send (obj : Value) : Except PyError (List UInt8) := do
  let text ← dumps obj
  pure (utf8Encode (text ++ ['\n']))

/-- `send` for each object in turn: the stream they write, or the exception of the first that
raises. -/
def sendAll : List Value → Except PyError (List UInt8)
  | [] => .ok []
  | obj :: objs => do
    let bs ← send obj
    let rest ← sendAll objs
    pure (bs ++ rest)

/-- Modelled from the spec: `vsock_bridge.json_transport.receive(sock)`, run to its end. `recv`
returns `chunks` one by one, an empty one being the end of the stream, and then raises `stop`
if the stream did not end first. The lines of what came before the end are parsed as the spec's
codec parses them (`Channel.reference`): each non-empty stripped line is one value, in order,
and a line that fails to decode ends the sequence with its error. -/
def receive (chunks : List (List UInt8)) (stop : Option PyError) : Received :=
  let r := reference (chunks.takeWhile (!·.isEmpty)).flatten
  ⟨r.values, r.stop <|> if chunks.any List.isEmpty then none else stop⟩

theorem send_eq : send = Channel.send := rfl

theorem sendAll_eq : sendAll = Channel.sendAll := by
  funext objs
  induction objs with
  | nil => rfl
  | cons obj objs ih => simp only [sendAll, Channel.sendAll, send_eq, ih]

/-- The bridge's `receive` is `upm/channel/json_transport.py`'s, however `recv` cut the stream,
ended it or failed. -/
theorem receive_eq (chunks : List (List UInt8)) (stop : Option PyError) :
    receive chunks stop = Channel.receive chunks stop := by
  rw [receive, ← batch_eq_reference, Channel.receive,
    receiveFrom_eq_batch_eof chunks [] stop (List.not_mem_nil _), List.nil_append]
  unfold batch
  split <;> rfl

end Transport
end Vsock
end UsbPassthrough
