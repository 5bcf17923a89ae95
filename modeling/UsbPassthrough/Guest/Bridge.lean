import UsbPassthrough.Json.Indent
import UsbPassthrough.Channel.Transport
import UsbPassthrough.Guest.Register

/-!
# UsbPassthrough.Guest.Bridge

The guest's registry file `usb_db.json` between its writer and its reader. The writer is
`DeviceRegister.atomic_write_registry`, which `on_msg` calls after each change with the registry
it holds: `json.dump(data, f, indent=2, ensure_ascii=False)` into a temporary file, then
`os.replace`. The reader is the device bridge's `AppWindow._apply_reload_ui`: `_read_schema_once`
loads the file, and `_add_block_ui` builds a card for each device, with a dropdown
(`_make_dropdown`) of `"Select"` and the VMs read from the entry.

The file is bytes, in UTF-8. Writing in text mode turns `\n` into `os.linesep`, `\n` on the
guest; reading in text mode decodes strictly and turns `\r\n` and `\r` into `\n`.
`DeviceRegister.__init__` creates the file, so it is always there. `Gtk.StringList.new` takes only
`str` items, and raises `TypeError` on any other (PyGObject). A card's label markup, its signal
handlers and the passthrough FIFO are not modelled.

* `readSchemaOnce_atomicWriteRegistry`: the reader's document is the registry the writer was
  given, for every registry;
* `reload_ui_ignores_writer_keys`: the entries carry `permitted_vms` and `current_vm`, the reader
  asks for `permitted-vms` and `current-vm`, so after every write of `on_msg` each card's
  dropdown holds `"Select"` alone, with `"Select"` chosen.
-/

namespace UsbPassthrough
namespace Guest

open Json Channel Dpm

/-! ## The file -/

/-- Universal newlines: `\r\n` and `\r` are read as `\n`. -/
def translateNewlines : List Char → List Char
  | '\r' :: '\n' :: cs => '\n' :: translateNewlines cs
  | '\r' :: cs => '\n' :: translateNewlines cs
  | c :: cs => c :: translateNewlines cs
  | [] => []

/-- `f.read()` on `open(path, "r", encoding="utf-8")`. -/
def readText (file : List UInt8) : Except PyError (List Char) :=
  translateNewlines <$> utf8Decode file

/-- `atomic_write_registry(data)`: the file afterwards. When `json.dump` raises (an `int` too long
for `str`), `os.replace` is never reached and the old file stays; the exception is logged. Only
the file is modelled, not the temporary one: a raise inside `json.dump` leaves `tmp_name` at
`None`, so the temporary file is left behind. A `str` holding a lone surrogate would raise
`UnicodeEncodeError` in the UTF-8 write, to the same effect; the model's strings hold none, so
that path is not reached here. -/
def atomicWriteRegistry (file : List UInt8) (data : Value) : List UInt8 :=
  match dumpIndent 0 data with
  | .ok t => utf8Encode t
  | .error _ => file

/-- `x or y`. -/
def pyOr (x y : Value) : Value := if x.truthy then x else y

/-- `_read_schema_once(path)`: `json.load(f) or {}`, and `{}` on any exception or on a document
that is not a `dict`. -/
def readSchemaOnce (file : List UInt8) : List (String × Value) :=
  match readText file >>= loads with
  | .ok doc =>
    match pyOr doc (.dict []) with
    | .dict kvs => kvs
    | _ => []
  | .error _ => []

/-! ## The window -/

/-- `SELECT_LABEL`. -/
def selectLabel : String := "Select"

/-- `list(v)`: the items of a `list`, the characters of a `str`, the keys of a `dict`. -/
def pyList : Value → Except PyError (List Value)
  | .list xs => .ok xs
  | .str s => .ok (s.toList.map fun c => .str (String.singleton c))
  | .dict kvs => .ok (kvs.map fun kv => .str kv.1)
  | v => .error (.typeError ("\x27" ++ v.typeName ++ "\x27 object is not iterable"))

/-- The strings `Gtk.StringList.new` is given. -/
def gtkStrings : List Value → Except PyError (List String)
  | [] => .ok []
  | .str s :: vs => (s :: ·) <$> gtkStrings vs
  | v :: _ => .error (.typeError ("Must be string, not " ++ v.typeName))

/-- `_make_dropdown(device_id, items, selected)`: the dropdown's strings and the index passed to
`set_selected`. A `selected` that is not a `str` equals no `str` item. -/
def makeDropdown (items : List Value) (selected : Value) : Except PyError (List String × Nat) := do
  let strs ← gtkStrings items
  pure (selectLabel :: strs,
    match selected with
    | .str s => if s ≠ "" ∧ s ∈ strs then strs.indexOf s + 1 else 0
    | _ => 0)

/-- A device's card: what `_add_block_ui` is given, and its dropdown. -/
structure Block where
  deviceId : String
  vendor : Value
  product : Value
  /-- The dropdown's strings, `"Select"` first. -/
  items : List String
  /-- The index of the chosen string. -/
  selected : Nat

/-- One turn of `_apply_reload_ui`'s loop. -/
def blockOf (devId : String) (meta : Value) : Except PyError Block := do
  let permitted ← pyList (← meta.getD "permitted-vms" (.list []))
  let vendor := pyOr (← meta.get "vendor") (.str "")
  let product := pyOr (← meta.get "product") (.str "")
  let selected := pyOr (← meta.get "current-vm") (.str "")
  let (items, sel) ← makeDropdown permitted selected
  pure ⟨devId, vendor, product, items, sel⟩

/-- `_apply_reload_ui()` over the document: the cards in the document's order, and the exception
that ended the loop, if one did; the cards built before it stay. -/
def applyReloadUi : List (String × Value) → List Block × Option PyError
  | [] => ([], none)
  | (d, meta) :: rest =>
    match blockOf d meta with
    | .error e => ([], some e)
    | .ok b => (b :: (applyReloadUi rest).1, (applyReloadUi rest).2)

/-- The window after reading `file`. -/
def reloadUi (file : List UInt8) : List Block × Option PyError := applyReloadUi (readSchemaOnce file)

/-! ## Reading back what was written -/

theorem translateNewlines_of_not_mem {cs : List Char} (h : '\r' ∉ cs) : translateNewlines cs = cs := by
  induction cs with
  | nil => rfl
  | cons c cs ih =>
    have hc : c ≠ '\r' := fun e => h (e ▸ .head _)
    rw [translateNewlines.eq_3 c cs (fun _ e _ => hc e) hc, ih fun hm => h (.tail _ hm)]

theorem plainPairs_of {kvs : List (String × Value)} (h : ∀ kv ∈ kvs, kv.2.Plain) :
    Value.PlainPairs kvs := by
  induction kvs with
  | nil => trivial
  | cons kv kvs ih => exact ⟨h kv (.head _), ih fun y hy => h y (.tail _ hy)⟩

theorem plain_ofStrList (xs : List String) : (Value.ofStrList xs).Plain := by
  show Value.PlainList (xs.map .str)
  induction xs with
  | nil => trivial
  | cons x xs ih => exact ⟨trivial, ih⟩

theorem plain_ofOptStr (o : Option String) : (Value.ofOptStr o).Plain := by
  cases o <;> trivial

/-- The fields of an entry, in the order it is written. -/
theorem Entry.mem_toValue {e : Entry} {kv : String × Value}
    (h : kv ∈ (match e.deviceId with
      | some d => [("device_id", Value.str d)]
      | none => []) ++
      [("vendor", .str e.vendor), ("product", .str e.product),
        ("permitted_vms", .ofStrList e.permittedVms), ("current_vm", .ofOptStr e.currentVm)]) :
    (∃ d, kv = ("device_id", .str d)) ∨ kv = ("vendor", .str e.vendor) ∨
      kv = ("product", .str e.product) ∨ kv = ("permitted_vms", .ofStrList e.permittedVms) ∨
      kv = ("current_vm", .ofOptStr e.currentVm) := by
  rcases List.mem_append.mp h with h | h
  · split at h
    · exact .inl ⟨_, List.mem_singleton.mp h⟩
    · cases h
  · simp only [List.mem_cons, List.not_mem_nil, or_false] at h
    exact .inr h

theorem Entry.toValue_plain (e : Entry) : e.toValue.Plain := by
  refine ⟨by split <;> simp only [List.cons_append, List.nil_append, List.map_cons, List.map_nil] <;>
    decide, plainPairs_of fun kv hkv => ?_⟩
  rcases Entry.mem_toValue hkv with ⟨d, rfl⟩ | rfl | rfl | rfl | rfl
  · trivial
  · trivial
  · trivial
  · exact plain_ofStrList _
  · exact plain_ofOptStr _

theorem DeviceRegister.toValue_plain (g : DeviceRegister) : g.toValue.Plain :=
  ⟨(g.deviceRegistry.map Entry.toValue).nodup, plainPairs_of fun kv hkv => by
    obtain ⟨e, -, rfl⟩ := List.mem_map.mp hkv
    exact e.2.toValue_plain⟩

theorem Entry.dumpIndent_ok (level : Nat) (e : Entry) : ∃ t, dumpIndent level e.toValue = .ok t := by
  refine dumpIndent_dict_of fun kv hkv => ?_
  rcases Entry.mem_toValue hkv with ⟨d, rfl⟩ | rfl | rfl | rfl | rfl
  · exact ⟨_, rfl⟩
  · exact ⟨_, rfl⟩
  · exact ⟨_, rfl⟩
  · exact dumpIndent_list_of fun x hx => by
      obtain ⟨s, -, rfl⟩ := List.mem_map.mp hx
      exact ⟨_, rfl⟩
  · cases e.currentVm <;> exact ⟨_, rfl⟩

theorem DeviceRegister.dumpIndent_ok (g : DeviceRegister) : ∃ t, dumpIndent 0 g.toValue = .ok t :=
  dumpIndent_dict_of fun kv hkv => by
    obtain ⟨e, -, rfl⟩ := List.mem_map.mp hkv
    exact e.2.dumpIndent_ok 1

theorem pyOr_dict (kvs : List (String × Value)) : pyOr (.dict kvs) (.dict []) = .dict kvs := by
  cases kvs <;> rfl

/-- The reader's document is the registry the writer was given, for every registry the model's
strings can hold (`atomicWriteRegistry` says which Python registries they leave out). -/
theorem readSchemaOnce_atomicWriteRegistry (file : List UInt8) (g : DeviceRegister) :
    readSchemaOnce (atomicWriteRegistry file g.toValue) = (g.deviceRegistry.map Entry.toValue).entries := by
  obtain ⟨t, ht⟩ := g.dumpIndent_ok
  have hp := g.toValue_plain
  simp only [atomicWriteRegistry, ht, readSchemaOnce, readText, utf8Decode_utf8Encode,
    translateNewlines_of_not_mem (dumpIndent_ne_cr 0 _ ht hp), except_map_ok, except_ok_bind,
    loads_dumpIndent ht hp]
  simp only [DeviceRegister.toValue, pyOr_dict]

/-! ## The cards of a written registry -/

theorem pyOr_str_empty (s : String) : pyOr (.str s) (.str "") = .str s := by
  unfold pyOr
  split
  · rfl
  · next h =>
    simp only [Value.truthy, decide_eq_true_eq, not_not] at h
    rw [h]

theorem pyOr_none (y : Value) : pyOr .none y = y := rfl

/-- A written entry read back: its keys are `permitted_vms` and `current_vm`, and the card asks
for `permitted-vms` and `current-vm`. -/
theorem blockOf_entry (d : String) (e : Entry) :
    blockOf d e.toValue = .ok ⟨d, .str e.vendor, .str e.product, [selectLabel], 0⟩ := by
  rcases e with ⟨_ | id, v, p, vms, cur⟩ <;>
    simp [blockOf, Entry.toValue, Value.getD, Value.get, getEntry, pyList, pyOr_str_empty, pyOr_none,
      makeDropdown, gtkStrings]

theorem applyReloadUi_written (es : List (String × Entry)) :
    applyReloadUi (es.map fun e => (e.1, e.2.toValue)) =
      (es.map fun e => ⟨e.1, .str e.2.vendor, .str e.2.product, [selectLabel], 0⟩, none) := by
  induction es with
  | nil => rfl
  | cons e es ih => simp only [List.map_cons, applyReloadUi, blockOf_entry, ih]

/-- After every write `on_msg` makes, from any registry and on any message, the window shows a
card for each device of the registry written, in its order, and each card's dropdown holds
`"Select"` alone, chosen: whatever VMs a device may go to, and whichever it is on, none is
shown. -/
theorem reload_ui_ignores_writer_keys {g : DeviceRegister} {msg d : Value}
    (hw : Call.atomicWriteRegistry d ∈ (onMsg g msg).calls) (file : List UInt8) :
    reloadUi (atomicWriteRegistry file d) =
      ((onMsg g msg).register.deviceRegistry.entries.map fun e =>
        ⟨e.1, .str e.2.vendor, .str e.2.product, [selectLabel], 0⟩, none) := by
  rw [onMsg_writesRegister g msg d hw, reloadUi, readSchemaOnce_atomicWriteRegistry]
  exact applyReloadUi_written _

/-- The guest starts empty and the host announces `1-2`, which may go to `vm-a` and is on it. -/
theorem connected_device_shows_no_vms :
    (onMsg DeviceRegister.init (DeviceConnected.toJson ⟨"1-2", "Acme", "Key", ["vm-a"], some "vm-a",
        by decide, by decide, by decide⟩)).register.deviceRegistry.entries.map
        (fun e => (e.2.permittedVms, e.2.currentVm)) = [(["vm-a"], some "vm-a")] ∧
      reloadUi (atomicWriteRegistry [] (onMsg DeviceRegister.init (DeviceConnected.toJson
        ⟨"1-2", "Acme", "Key", ["vm-a"], some "vm-a", by decide, by decide, by decide⟩)).register.toValue) =
        ([⟨"1-2", .str "Acme", .str "Key", [selectLabel], 0⟩], none) :=
  ⟨rfl, @reload_ui_ignores_writer_keys DeviceRegister.init (DeviceConnected.toJson
    ⟨"1-2", "Acme", "Key", ["vm-a"], some "vm-a", by decide, by decide, by decide⟩) _ (.head _) []⟩

end Guest
end UsbPassthrough
