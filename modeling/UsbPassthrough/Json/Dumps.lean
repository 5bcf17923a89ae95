import Mathlib.Data.Nat.Digits
import UsbPassthrough.Json.Value

/-!
# UsbPassthrough.Json.Dumps

`json.dumps(obj, separators=(",", ":"))`, as `json_transport.send` calls it: the C encoder of
`json.encoder`, with `ensure_ascii=True`, `allow_nan=True`, no indent and the keys in the order of
the `dict`. The text is a list of characters, a Python `str`.

An `int` is written with `int.__repr__`, which refuses one of more decimal digits than
`sys.get_int_max_str_digits()` (4300 by default) with a `ValueError`. A `float` is written as the
literal it holds.

* `dumps_list_ok`, `dumpsList_cons_ok`, ...: what a text that `dumps` returned is made of;
* `encodeChar_printable`, `dumps_printable`: the text of a value `json.loads` reads back holds
  only printable ASCII: no newline, and nothing `bytes.strip` would remove inside it.
-/

namespace UsbPassthrough
namespace Json

/-- `sys.get_int_max_str_digits()` at its default. -/
def intMaxStrDigits : Nat := 4300

/-- The character of a decimal digit. -/
def digitChar (d : Nat) : Char := Char.ofNat (48 + d)

/-- The decimal digits of `n`, most significant first: `str(n)` for `n ≥ 0`. -/
def decimalDigits (n : Nat) : List Char :=
  if n = 0 then ['0'] else (Nat.digits 10 n).reverse.map digitChar

/-- `int.__repr__`. -/
def intRepr (i : Int) : Except PyError (List Char) :=
  if intMaxStrDigits < (decimalDigits i.natAbs).length then
    .error (.valueError ("Exceeds the limit (4300 digits) for integer string conversion; " ++
      "use sys.set_int_max_str_digits() to increase the limit"))
  else .ok (if i < 0 then '-' :: decimalDigits i.natAbs else decimalDigits i.natAbs)

/-- `\uXXXX` for a code unit `n < 0x10000`, in lower-case hexadecimal. -/
def uEscape (n : Nat) : List Char :=
  ['\\', 'u', hexDigit (n / 4096 % 16), hexDigit (n / 256 % 16), hexDigit (n / 16 % 16), hexDigit (n % 16)]

/-- The characters `encode_basestring_ascii` writes as a backslash and one letter. -/
def shortEscape : Char → Option Char
  | '\\' => some '\\'
  | '"' => some '"'
  | '\x08' => some 'b'
  | '\x0c' => some 'f'
  | '\n' => some 'n'
  | '\r' => some 'r'
  | '\t' => some 't'
  | _ => none

/-- One character of `encode_basestring_ascii`: printable ASCII other than the quote and the
backslash is kept, the rest escaped; a character beyond the BMP becomes a surrogate pair
(`Py_UNICODE_HIGH_SURROGATE`, `Py_UNICODE_LOW_SURROGATE`). -/
def encodeChar (c : Char) : List Char :=
  if ' ' ≤ c ∧ c ≤ '~' ∧ c ≠ '\\' ∧ c ≠ '"' then [c]
  else
    match shortEscape c with
    | some x => ['\\', x]
    | none =>
      if 0x10000 ≤ c.toNat then
        uEscape (0xd800 + (c.toNat - 0x10000) / 1024) ++ uEscape (0xdc00 + (c.toNat - 0x10000) % 1024)
      else uEscape c.toNat

/-- `encode_basestring_ascii(s)`: the string in double quotes. -/
def encodeString (s : String) : List Char := '"' :: s.toList.flatMap encodeChar ++ ['"']

/-- The items of a container as the encoder writes them: the first, then each later one after the
item separator `,`. -/
def joinItems : List (List Char) → List Char
  | [] => []
  | a :: ps => a ++ ps.flatMap (',' :: ·)

mutual
/-- `json.dumps(v, separators=(",", ":"))`. -/
def dumps : Value → Except PyError (List Char)
  | .none => .ok "null".toList
  | .bool b => .ok (if b then "true" else "false").toList
  | .int i => intRepr i
  | .float lit => .ok lit.toList
  | .str s => .ok (encodeString s)
  | .list xs => do
    let parts ← dumpsList xs
    pure ('[' :: joinItems parts ++ [']'])
  | .dict kvs => do
    let parts ← dumpsPairs kvs
    pure ('{' :: joinItems parts ++ ['}'])
/-- The items of a `list`, each encoded. -/
def dumpsList : List Value → Except PyError (List (List Char))
  | [] => .ok []
  | x :: xs => do
    let a ← dumps x
    let rest ← dumpsList xs
    pure (a :: rest)
/-- The items of a `dict`, each encoded as `key:value`. -/
def dumpsPairs : List (String × Value) → Except PyError (List (List Char))
  | [] => .ok []
  | (k, x) :: kvs => do
    let a ← dumps x
    let rest ← dumpsPairs kvs
    pure ((encodeString k ++ ':' :: a) :: rest)
end

/-! ## What the encoder wrote -/

theorem toNat_charOfNat {n : Nat} (h : n < 0xd800) : (Char.ofNat n).toNat = n := by
  unfold Char.ofNat
  rw [dif_pos (Or.inl h)]
  rfl

theorem digitChar_toNat {d : Nat} (hd : d < 10) : (digitChar d).toNat = 48 + d :=
  toNat_charOfNat (by omega)

/-- Every character of `str(n)` is a decimal digit. -/
theorem decimalDigits_digit (n : Nat) : ∀ c ∈ decimalDigits n, 48 ≤ c.toNat ∧ c.toNat ≤ 57 := by
  unfold decimalDigits
  split
  · simp only [List.mem_singleton, forall_eq]
    decide
  · simp only [List.mem_map, List.mem_reverse]
    rintro c ⟨d, hd, rfl⟩
    have := Nat.digits_lt_base (by norm_num) hd
    rw [digitChar_toNat this]
    omega

theorem intRepr_ok {i : Int} {t : List Char} (h : intRepr i = .ok t) :
    (decimalDigits i.natAbs).length ≤ intMaxStrDigits ∧
      t = if i < 0 then '-' :: decimalDigits i.natAbs else decimalDigits i.natAbs := by
  unfold intRepr at h
  split at h
  · cases h
  · exact ⟨by omega, (Except.ok.inj h).symm⟩

theorem dumps_list_ok {xs : List Value} {t : List Char} (h : dumps (.list xs) = .ok t) :
    ∃ parts, dumpsList xs = .ok parts ∧ t = '[' :: joinItems parts ++ [']'] := by
  rw [dumps, except_bind_eq_ok] at h
  obtain ⟨parts, hp, ht⟩ := h
  exact ⟨parts, hp, (Except.ok.inj ht).symm⟩

theorem dumps_dict_ok {kvs : List (String × Value)} {t : List Char} (h : dumps (.dict kvs) = .ok t) :
    ∃ parts, dumpsPairs kvs = .ok parts ∧ t = '{' :: joinItems parts ++ ['}'] := by
  rw [dumps, except_bind_eq_ok] at h
  obtain ⟨parts, hp, ht⟩ := h
  exact ⟨parts, hp, (Except.ok.inj ht).symm⟩

theorem dumpsList_nil_ok {parts : List (List Char)} (h : dumpsList [] = .ok parts) : parts = [] :=
  (Except.ok.inj h).symm

theorem dumpsList_cons_ok {x : Value} {xs : List Value} {parts : List (List Char)}
    (h : dumpsList (x :: xs) = .ok parts) :
    ∃ a r, dumps x = .ok a ∧ dumpsList xs = .ok r ∧ parts = a :: r := by
  rw [dumpsList, except_bind_eq_ok] at h
  obtain ⟨a, ha, h⟩ := h
  obtain ⟨r, hr, h⟩ := except_bind_eq_ok.mp h
  exact ⟨a, r, ha, hr, (Except.ok.inj h).symm⟩

theorem dumpsPairs_nil_ok {parts : List (List Char)} (h : dumpsPairs [] = .ok parts) : parts = [] :=
  (Except.ok.inj h).symm

theorem dumpsPairs_cons_ok {k : String} {x : Value} {kvs : List (String × Value)}
    {parts : List (List Char)} (h : dumpsPairs ((k, x) :: kvs) = .ok parts) :
    ∃ a r, dumps x = .ok a ∧ dumpsPairs kvs = .ok r ∧ parts = (encodeString k ++ ':' :: a) :: r := by
  rw [dumpsPairs, except_bind_eq_ok] at h
  obtain ⟨a, ha, h⟩ := h
  obtain ⟨r, hr, h⟩ := except_bind_eq_ok.mp h
  exact ⟨a, r, ha, hr, (Except.ok.inj h).symm⟩

theorem joinItems_cons_cons (a b : List Char) (ps : List (List Char)) :
    joinItems (a :: b :: ps) = a ++ ',' :: joinItems (b :: ps) := by
  simp [joinItems]

theorem mem_joinItems {parts : List (List Char)} {x : Char} (h : x ∈ joinItems parts) :
    x = ',' ∨ ∃ p ∈ parts, x ∈ p := by
  cases parts with
  | nil => cases h
  | cons a ps =>
    simp only [joinItems, List.mem_append, List.mem_flatMap, List.mem_cons] at h
    rcases h with h | ⟨p, hp, rfl | h⟩
    · exact .inr ⟨a, .head _, h⟩
    · exact .inl rfl
    · exact .inr ⟨p, .tail _ hp, h⟩

/-! ## The text is printable ASCII -/

/-- A character of `' '..'~'`. -/
def Printable (c : Char) : Prop := 32 ≤ c.toNat ∧ c.toNat ≤ 126

instance (c : Char) : Decidable (Printable c) := inferInstanceAs (Decidable (_ ∧ _))

theorem hexDigit_printable {d : Nat} (hd : d < 16) : Printable (hexDigit d) := by
  unfold hexDigit Printable
  split
  · rw [toNat_charOfNat (by omega)]; omega
  · rw [toNat_charOfNat (by omega)]; omega

theorem uEscape_printable (n : Nat) : ∀ x ∈ uEscape n, Printable x := by
  have hex : ∀ k, Printable (hexDigit (k % 16)) := fun k => hexDigit_printable (Nat.mod_lt _ (by norm_num))
  simp only [uEscape, List.mem_cons, List.mem_singleton, List.not_mem_nil, or_false]
  rintro x (rfl | rfl | rfl | rfl | rfl | rfl)
  exacts [by decide, by decide, hex _, hex _, hex _, hex _]

theorem shortEscape_printable {c x : Char} (h : shortEscape c = some x) : Printable x := by
  unfold shortEscape at h
  split at h <;> cases h <;> exact ⟨by decide, by decide⟩

theorem encodeChar_printable (c : Char) : ∀ x ∈ encodeChar c, Printable x := by
  unfold encodeChar
  split
  · rename_i h
    simp only [List.mem_singleton, forall_eq]
    exact ⟨h.1, h.2.1⟩
  · split
    · rename_i x hx
      simp only [List.mem_cons, List.mem_singleton, List.not_mem_nil, or_false]
      rintro y (rfl | rfl)
      · exact ⟨by decide, by decide⟩
      · exact shortEscape_printable hx
    · split
      · intro x hx
        rcases List.mem_append.mp hx with h | h <;> exact uEscape_printable _ x h
      · exact uEscape_printable _

theorem encodeString_printable (s : String) : ∀ x ∈ encodeString s, Printable x := by
  intro x hx
  simp only [encodeString, List.mem_cons, List.mem_append, List.mem_flatMap,
    List.mem_singleton, List.not_mem_nil, or_false] at hx
  rcases hx with (rfl | ⟨c, -, hc⟩) | rfl
  · exact ⟨by decide, by decide⟩
  · exact encodeChar_printable c x hc
  · exact ⟨by decide, by decide⟩

/-- A container: its brackets around its items and the commas between them. -/
theorem bracketed_printable {o c : Char} (ho : Printable o) (hc : Printable c)
    {parts : List (List Char)} (h : ∀ p ∈ parts, ∀ x ∈ p, Printable x) :
    ∀ x ∈ o :: joinItems parts ++ [c], Printable x := by
  intro x hx
  simp only [List.mem_cons, List.mem_append, List.mem_singleton, List.not_mem_nil, or_false] at hx
  rcases hx with (rfl | hx) | rfl
  · exact ho
  · rcases mem_joinItems hx with rfl | ⟨p, hp, hx⟩
    · decide
    · exact h p hp x hx
  · exact hc

mutual
theorem dumps_printable : ∀ (v : Value) {t : List Char}, dumps v = .ok t → v.Plain →
    ∀ x ∈ t, Printable x
  | .none, _, h, _ => by cases h; decide
  | .bool b, _, h, _ => by cases h; cases b <;> decide
  | .int i, _, h, _ => by
    obtain ⟨-, rfl⟩ := intRepr_ok h
    have digit : ∀ x ∈ decimalDigits i.natAbs, Printable x := fun x hx => by
      have := decimalDigits_digit i.natAbs x hx
      exact ⟨by omega, by omega⟩
    split
    · rintro x (_ | ⟨_, hx⟩)
      · decide
      · exact digit x hx
    · exact digit
  | .float _, _, _, hp => hp.elim
  | .str s, _, h, _ => by cases h; exact encodeString_printable s
  | .list xs, _, h, hp => by
    obtain ⟨parts, hparts, rfl⟩ := dumps_list_ok h
    exact bracketed_printable (by decide) (by decide) (dumpsList_printable xs hparts hp)
  | .dict kvs, _, h, hp => by
    obtain ⟨parts, hparts, rfl⟩ := dumps_dict_ok h
    exact bracketed_printable (by decide) (by decide) (dumpsPairs_printable kvs hparts hp.2)
theorem dumpsList_printable : ∀ (xs : List Value) {parts : List (List Char)},
    dumpsList xs = .ok parts → Value.PlainList xs → ∀ p ∈ parts, ∀ x ∈ p, Printable x
  | [], _, h, _ => by cases h; simp
  | x :: xs, _, h, hp => by
    obtain ⟨a, r, ha, hr, rfl⟩ := dumpsList_cons_ok h
    rintro p (_ | ⟨_, hp'⟩)
    · exact dumps_printable x ha hp.1
    · exact dumpsList_printable xs hr hp.2 p hp'
theorem dumpsPairs_printable : ∀ (kvs : List (String × Value)) {parts : List (List Char)},
    dumpsPairs kvs = .ok parts → Value.PlainPairs kvs → ∀ p ∈ parts, ∀ x ∈ p, Printable x
  | [], _, h, _ => by cases h; simp
  | (k, x) :: kvs, _, h, hp => by
    obtain ⟨a, r, ha, hr, rfl⟩ := dumpsPairs_cons_ok h
    rintro p (_ | ⟨_, hp'⟩)
    · intro y hy
      rcases List.mem_append.mp hy with hy | _ | ⟨_, hy⟩
      · exact encodeString_printable k y hy
      · decide
      · exact dumps_printable x ha hp.1 y hy
    · exact dumpsPairs_printable kvs hr hp.2 p hp'
end

end Json
end UsbPassthrough
