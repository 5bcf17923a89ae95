import UsbPassthrough.Guest.Bridge
import UsbPassthrough.Vsock.Dispatch

/-!
# UsbPassthrough.Guest.Service

The guest's `DeviceRegister` together with `usb_db.json`. The receive thread of its
`VsockClient` hands every value it reads to `on_msg`, and `on_msg` writes the file through
`atomic_write_registry`. `__init__` writes `{}` to the file when there is none, and leaves a file
that is there. `os.replace` swaps the whole file at once, so the device bridge, whenever it
reads, reads the file of one of the states below.

* `file_mirrors_registry`: over every run of the receive thread, on any connections and any
  values, the document `_read_schema_once` reads from the file is the guest's registry, entry
  for entry, after every message, whether `on_msg` returned or raised.

The model's strings hold no lone surrogate, which a Python `str` can: `json.loads` makes one from
an unpaired `\udXXX` escape, and `_str_ok` accepts it. `json.dump(..., ensure_ascii=False)` into
the UTF-8 temp file then raises `UnicodeEncodeError`, `atomic_write_registry` catches it, and
`usb_db.json` keeps its old content, so the file no longer mirrors the registry. The result above
is about the registries the model can hold.
-/

namespace UsbPassthrough
namespace Guest

open Json Channel Dpm Vsock

/-- The guest's registry and the bytes of `usb_db.json`. -/
structure GuestService where
  register : DeviceRegister
  file : List UInt8

/-- `DeviceRegister.__init__`: an empty registry, and `usb_db.json` written `{}` unless a file
`existing` is already there. -/
def GuestService.init (existing : Option (List UInt8)) : GuestService :=
  ⟨.init, existing.getD (utf8Encode "{}".toList)⟩

/-- The file after one of `on_msg`'s calls. -/
def Call.file (file : List UInt8) : Call → List UInt8
  | .atomicWriteRegistry d => Guest.atomicWriteRegistry file d
  | .showNewDevicePopup .. => file

/-- `on_msg(msg)` with its calls made in order: the `on_message` of the guest's `VsockClient`. -/
def GuestService.onMsg (st : GuestService) (msg : Value) : Except PyError Unit × GuestService :=
  ((Guest.onMsg st.register msg).result,
    ⟨(Guest.onMsg st.register msg).register,
      (Guest.onMsg st.register msg).calls.foldl Call.file st.file⟩)

/-- The document `_read_schema_once` reads from the file is the registry, entry for entry. -/
def GuestService.FileMirrors (st : GuestService) : Prop :=
  readSchemaOnce st.file = (st.register.deviceRegistry.map Entry.toValue).entries

/-! ## One message -/

theorem foldl_file_of_no_write {calls : List Call} (h : ∀ d, Call.atomicWriteRegistry d ∉ calls)
    (file : List UInt8) : calls.foldl Call.file file = file := by
  induction calls with
  | nil => rfl
  | cons c cs ih =>
    cases c with
    | atomicWriteRegistry d => exact absurd (.head _) (h d)
    | showNewDevicePopup => exact ih (fun d hd => h d (.tail _ hd))

/-- Calls that all write `d`, at least once, leave the file `d` was last written to. -/
theorem foldl_file_of_write {calls : List Call} {d : Value}
    (hw : ∀ d', Call.atomicWriteRegistry d' ∈ calls → d' = d)
    (hd : Call.atomicWriteRegistry d ∈ calls) (file : List UInt8) :
    ∃ f, calls.foldl Call.file file = atomicWriteRegistry f d := by
  induction calls generalizing file with
  | nil => cases hd
  | cons c cs ih =>
    have hw' : ∀ d', Call.atomicWriteRegistry d' ∈ cs → d' = d := fun d' h => hw d' (.tail _ h)
    by_cases hcs : Call.atomicWriteRegistry d ∈ cs
    · exact ih hw' hcs _
    · obtain rfl := ((List.mem_cons.mp hd).resolve_right hcs).symm
      exact ⟨file, @foldl_file_of_no_write cs (fun d' h => hcs (hw' d' h ▸ h))
        (atomicWriteRegistry file d)⟩

theorem GuestService.FileMirrors.onMsg {st : GuestService} (h : st.FileMirrors) (msg : Value) :
    (st.onMsg msg).2.FileMirrors := by
  have hf := onMsg_fileFollows st.register msg
  by_cases hw : ∃ d, Call.atomicWriteRegistry d ∈ (Guest.onMsg st.register msg).calls
  · obtain ⟨d, hd⟩ := hw
    obtain rfl := hf.writes d hd
    obtain ⟨f, hfile⟩ := foldl_file_of_write hf.writes hd st.file
    rw [FileMirrors, GuestService.onMsg, hfile, readSchemaOnce_atomicWriteRegistry]
  · rw [not_exists] at hw
    rw [FileMirrors, GuestService.onMsg, foldl_file_of_no_write hw, hf.keeps hw]
    exact h

/-! ## Every run -/

theorem GuestService.fileMirrors_init {existing : Option (List UInt8)}
    (he : ∀ f, existing = some f → readSchemaOnce f = []) : (GuestService.init existing).FileMirrors := by
  cases existing with
  | none => rfl
  | some f => exact he f rfl

/-- However the host's values arrive, over as many connections as the receive thread makes and
until an exception ends it, the device bridge reads the guest's registry from `usb_db.json`
after every message: from `__init__` with no file, or a file that reads as empty. -/
theorem file_mirrors_registry {existing : Option (List UInt8)}
    (he : ∀ f, existing = some f → readSchemaOnce f = []) (passes : List Received) :
    (runPasses GuestService.onMsg (.init existing) passes).1.FileMirrors :=
  runPasses_keeps (fun _ _ h => h.onMsg _) passes (GuestService.fileMirrors_init he)

end Guest
end UsbPassthrough
