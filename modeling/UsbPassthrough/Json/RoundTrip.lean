import UsbPassthrough.Json.Loads

/-!
# UsbPassthrough.Json.RoundTrip

`json.loads` reads back what `json.dumps` wrote, for the values of `Value.Plain` (no floats,
distinct keys in every `dict`).

The scanner is followed through the text one encoder output at a time: a character of
`encode_basestring_ascii` (`scanString_encodeChar`), a string (`scanString_encode`), an `int`
(`matchNumber_intRepr`), and then every value with the items of its containers
(`scanOnce_dumps`, by induction over the value), each followed by nothing or by the delimiter the
encoder wrote after it (`Delim`).

* `loads_dumps`: `json.loads(json.dumps(v, separators=(",", ":"))) == v` whenever `dumps`
  returns.
-/

namespace UsbPassthrough
namespace Json

/-! ## Characters -/

theorem ne_of_toNat_ne {c d : Char} (h : c.toNat ≠ d.toNat) : c ≠ d := fun e => h (e ▸ rfl)

/-- A `Char` is a Unicode scalar value: never a surrogate. -/
theorem Char.toNat_valid (c : Char) : c.toNat < 0xd800 ∨ (0xdfff < c.toNat ∧ c.toNat < 0x110000) :=
  c.valid

theorem hexVal_hexDigit {d : Nat} (hd : d < 16) : hexVal (hexDigit d) = some d := by
  interval_cases d <;> decide

theorem hex4_uEscape {n : Nat} (hn : n < 0x10000) :
    hex4 (hexDigit (n / 4096 % 16)) (hexDigit (n / 256 % 16)) (hexDigit (n / 16 % 16))
      (hexDigit (n % 16)) = some n := by
  simp only [hex4, hexVal_hexDigit (Nat.mod_lt _ (by norm_num : 16 > 0)), Option.pure_def,
    Option.bind_eq_bind, Option.some_bind, Option.some.injEq]
  omega

@[simp] theorem afterChar_self (c : Char) (s : List Char) : afterChar c (c :: s) = some s := by
  simp [afterChar]

theorem afterChar_ne {c x : Char} (h : x ≠ c) (s : List Char) : afterChar c (x :: s) = none := by
  simp [afterChar, h]

theorem skipWs_of_not_ws {c : Char} (h : isWs c = false) (pos : Nat) (s : List Char) :
    skipWs pos (c :: s) = (pos, c :: s) := by
  simp [skipWs, h]

/-! ## Strings -/

theorem scanPiece_plain (begin pos : Nat) {c : Char} (h1 : c ≠ '"') (h2 : c ≠ '\\')
    (h3 : 0x1f < c.toNat) (rest : List Char) :
    scanPiece begin pos (c :: rest) = .ok (.char c 1 rest) := by
  unfold scanPiece
  dsimp only
  rw [if_neg h1, if_neg h2, if_neg (by omega)]

theorem scanPiece_simpleEscape (begin pos : Nat) {x c : Char} (hx : x ≠ 'u')
    (h : simpleEscape x = some c) (rest : List Char) :
    scanPiece begin pos ('\\' :: x :: rest) = .ok (.char c 2 rest) := by
  unfold scanPiece
  dsimp only
  rw [if_neg (by decide), if_pos rfl]
  simp only [if_neg hx, h]

theorem scanPiece_uEscape (begin pos : Nat) {n : Nat} (hn : n < 0x10000)
    (hs : n < 0xd800 ∨ 0xdfff < n) (e : Char) (rest : List Char) :
    scanPiece begin pos (uEscape n ++ e :: rest) = .ok (.char (Char.ofNat n) 6 (e :: rest)) := by
  unfold scanPiece uEscape
  simp only [List.cons_append, List.nil_append, if_true, hex4_uEscape hn,
    show ¬(0xd800 ≤ n ∧ n ≤ 0xdbff) by omega, show ¬(0xdc00 ≤ n ∧ n ≤ 0xdfff) by omega, if_false]
  rw [if_neg (by decide)]

theorem scanPiece_pair (begin pos : Nat) {hi lo : Nat} (hh : 0xd800 ≤ hi ∧ hi ≤ 0xdbff)
    (hl : 0xdc00 ≤ lo ∧ lo ≤ 0xdfff) (e : Char) (rest : List Char) :
    scanPiece begin pos (uEscape hi ++ uEscape lo ++ e :: rest) =
      .ok (.char (Char.ofNat (0x10000 + (hi - 0xd800) * 1024 + (lo - 0xdc00))) 12 (e :: rest)) := by
  unfold scanPiece uEscape
  simp only [List.cons_append, List.nil_append, if_true, hex4_uEscape (show hi < 0x10000 by omega),
    hex4_uEscape (show lo < 0x10000 by omega), if_pos hh, and_self, if_pos hl]
  rw [if_neg (by decide)]

theorem shortEscape_simpleEscape {c x : Char} (h : shortEscape c = some x) :
    x ≠ 'u' ∧ simpleEscape x = some c := by
  unfold shortEscape at h
  split at h <;> cases h <;> exact ⟨by decide, rfl⟩

/-- One encoded character, followed by more text, reads back as itself. -/
theorem scanPiece_encodeChar (begin pos : Nat) (c : Char) {more : List Char} (hm : more ≠ []) :
    scanPiece begin pos (encodeChar c ++ more) = .ok (.char c (encodeChar c).length more) := by
  obtain ⟨m, ms, rfl⟩ := List.exists_cons_of_ne_nil hm
  unfold encodeChar
  split
  · rename_i h
    have h32 : 32 ≤ c.toNat := h.1
    exact scanPiece_plain _ _ h.2.2.2 h.2.2.1 (by omega) _
  · have hv := Char.toNat_valid c
    split
    · rename_i x hx
      obtain ⟨hu, hs⟩ := shortEscape_simpleEscape hx
      exact scanPiece_simpleEscape _ _ hu hs _
    · split
      · have hjoin : 0x10000 + (0xd800 + (c.toNat - 0x10000) / 1024 - 0xd800) * 1024 +
            (0xdc00 + (c.toNat - 0x10000) % 1024 - 0xdc00) = c.toNat := by omega
        rw [scanPiece_pair _ _ ⟨by omega, by omega⟩ ⟨by omega, by omega⟩, hjoin,
          Char.ofNat_toNat]
        rfl
      · rw [scanPiece_uEscape _ _ (by omega) (by omega), Char.ofNat_toNat]
        rfl

theorem scanPiece_quote (begin pos : Nat) (rest : List Char) :
    scanPiece begin pos ('"' :: rest) = .ok (.close rest) := by
  unfold scanPiece
  dsimp only
  rw [if_pos rfl]

theorem encodeChar_ne_nil (c : Char) : encodeChar c ≠ [] := by
  unfold encodeChar
  split
  · simp
  · split
    · simp
    · split <;> simp [uEscape]

/-- A string encoder, one character at a time, that `scanstring` reads back: every character is
written as some text, and that text, followed by more, is read as the character. -/
structure ReadsBack (enc : Char → List Char) : Prop where
  ne_nil : ∀ c, enc c ≠ []
  scanPiece : ∀ begin pos c (more : List Char), more ≠ [] →
    scanPiece begin pos (enc c ++ more) = .ok (.char c (enc c).length more)

/-- The body of an encoded string, then the closing quote, reads back as the string. -/
theorem ReadsBack.scanStringLoop {enc : Char → List Char} (he : ReadsBack enc) (begin : Nat)
    (rest : List Char) (cs : List Char) :
    ∀ (fuel pos : Nat) (acc : List Char), (cs.flatMap enc).length < fuel →
      scanStringLoop begin fuel pos acc (cs.flatMap enc ++ '"' :: rest) =
        .ok (String.mk (acc ++ cs), pos + (cs.flatMap enc).length + 1, rest) := by
  induction cs with
  | nil =>
    intro fuel pos acc hf
    obtain ⟨f, rfl⟩ := Nat.exists_eq_add_one_of_ne_zero (by omega : fuel ≠ 0)
    simp [Json.scanStringLoop, scanPiece_quote]
  | cons c cs ih =>
    intro fuel pos acc hf
    obtain ⟨f, rfl⟩ := Nat.exists_eq_add_one_of_ne_zero (by omega : fuel ≠ 0)
    have hlen := List.length_pos.mpr (he.ne_nil c)
    simp only [List.flatMap_cons, List.length_append] at hf ⊢
    rw [Json.scanStringLoop, List.append_assoc, he.scanPiece _ _ _ _ (by simp)]
    dsimp only
    rw [ih f _ _ (by omega)]
    simp only [List.append_assoc, List.singleton_append, Except.ok.injEq, Prod.mk.injEq, true_and, and_true]
    omega

theorem ReadsBack.scanString {enc : Char → List Char} (he : ReadsBack enc) (begin pos : Nat)
    (s : String) (rest : List Char) :
    scanString begin pos (s.toList.flatMap enc ++ '"' :: rest) =
      .ok (s, pos + (s.toList.flatMap enc).length + 1, rest) := by
  rw [Json.scanString, he.scanStringLoop _ _ _ _ _ _ (by simp; omega)]
  rfl

theorem readsBack_encodeChar : ReadsBack encodeChar :=
  ⟨encodeChar_ne_nil, fun _ _ c _ hm => scanPiece_encodeChar _ _ c hm⟩

theorem scanString_encode (begin pos : Nat) (s : String) (rest : List Char) :
    scanString begin pos (s.toList.flatMap encodeChar ++ '"' :: rest) =
      .ok (s, pos + (s.toList.flatMap encodeChar).length + 1, rest) :=
  readsBack_encodeChar.scanString begin pos s rest

/-! ## Delimiters -/

/-- What `dumps` writes right after a value: nothing, or the delimiter of its container. -/
def Delim (rest : List Char) : Prop :=
  rest = [] ∨ ∃ c r, rest = c :: r ∧ (c = ',' ∨ c = ']' ∨ c = '}')

theorem isDigit_iff (c : Char) : isDigit c = true ↔ 48 ≤ c.toNat ∧ c.toNat ≤ 57 := by
  simp only [isDigit, Bool.and_eq_true, decide_eq_true_eq]
  exact Iff.rfl

/-- What may follow the text of a number without extending it: nothing, or a character that is
no digit, no `.` and no exponent mark. -/
def NumEnd (rest : List Char) : Prop :=
  rest = [] ∨ ∃ c r, rest = c :: r ∧ isDigit c = false ∧ c ≠ '.' ∧ c ≠ 'e' ∧ c ≠ 'E'

theorem numEnd_cons {c : Char} (h : c.toNat < 46 ∨ (57 < c.toNat ∧ c.toNat ≠ 69 ∧ c.toNat ≠ 101))
    (r : List Char) : NumEnd (c :: r) :=
  .inr ⟨c, r, rfl, by rw [← Bool.not_eq_true, isDigit_iff]; omega, ne_of_toNat_ne (by simp; omega),
    ne_of_toNat_ne (by simp; omega), ne_of_toNat_ne (by simp; omega)⟩

theorem Delim.numEnd {rest : List Char} (h : Delim rest) : NumEnd rest := by
  rcases h with rfl | ⟨c, r, rfl, hc⟩
  · exact .inl rfl
  · rcases hc with rfl | rfl | rfl <;> exact numEnd_cons (by decide) r

theorem NumEnd.digits {rest : List Char} (h : NumEnd rest) :
    rest.takeWhile isDigit = [] ∧ rest.dropWhile isDigit = rest := by
  rcases h with rfl | ⟨c, r, rfl, hc, -⟩
  · simp
  · simp [List.takeWhile_cons, List.dropWhile_cons, hc]

theorem NumEnd.matchFraction {rest : List Char} (h : NumEnd rest) : matchFraction rest = none := by
  rcases h with rfl | ⟨c, r, rfl, -, hc, -⟩
  · rfl
  · unfold Json.matchFraction
    split
    · next h => exact absurd (List.cons.inj h).1 hc
    · rfl

theorem NumEnd.matchExponent {rest : List Char} (h : NumEnd rest) : matchExponent rest = none := by
  rcases h with rfl | ⟨c, r, rfl, -, -, he⟩
  · rfl
  · have he : ¬(c = 'e' ∨ c = 'E') := fun h => h.elim he.1 he.2
    rcases r with _ | ⟨s, _ | ⟨d, r⟩⟩ <;> simp only [Json.matchExponent, he, false_and, if_false]

theorem Delim.skipWs {rest : List Char} (h : Delim rest) (pos : Nat) : skipWs pos rest = (pos, rest) := by
  rcases h with rfl | ⟨c, r, rfl, hc⟩
  · rfl
  · rcases hc with rfl | rfl | rfl <;> rfl

theorem delim_cons (c : Char) (r : List Char) (hc : c = ',' ∨ c = ']' ∨ c = '}') : Delim (c :: r) :=
  .inr ⟨c, r, rfl, hc⟩

/-! ## Integers -/

theorem foldr_digitChar (L : List Nat) (hL : ∀ d ∈ L, d < 10) :
    (L.map digitChar).foldr (fun c n => n * 10 + (c.toNat - 48)) 0 = Nat.ofDigits 10 L := by
  induction L with
  | nil => rfl
  | cons d L ih =>
    simp only [List.map_cons, List.foldr_cons, Nat.ofDigits_cons, Nat.cast_id,
      ih (fun x hx => hL x (.tail _ hx)), digitChar_toNat (hL d (.head _))]
    omega

theorem digitsValue_decimalDigits (n : Nat) : digitsValue (decimalDigits n) = n := by
  unfold decimalDigits digitsValue
  split
  · subst n; rfl
  · rw [List.map_reverse, List.foldl_reverse,
      foldr_digitChar _ (fun d hd => Nat.digits_lt_base (by norm_num) hd), Nat.ofDigits_digits]

theorem decimalDigits_isDigit (n : Nat) : ∀ c ∈ decimalDigits n, isDigit c = true :=
  fun c hc => (isDigit_iff c).mpr (decimalDigits_digit n c hc)

/-- `str(n)` starts with a digit, which is `0` only for `0` itself. -/
theorem decimalDigits_cons (n : Nat) :
    ∃ d ds, decimalDigits n = d :: ds ∧ isDigit d = true ∧ (d = '0' → n = 0 ∧ ds = []) := by
  unfold decimalDigits
  split
  · exact ⟨'0', [], rfl, rfl, fun _ => ⟨‹_›, rfl⟩⟩
  · rename_i hn
    have hne : Nat.digits 10 n ≠ [] := Nat.digits_ne_nil_iff_ne_zero.mpr hn
    obtain ⟨ds, d, hds⟩ := List.eq_nil_or_concat (Nat.digits 10 n) |>.resolve_left hne
    have hlast : d ≠ 0 := by
      have := Nat.getLast_digit_ne_zero 10 hn
      simpa [hds] using this
    have hd : d < 10 := Nat.digits_lt_base (by norm_num) (by rw [hds]; simp)
    refine ⟨digitChar d, (ds.reverse.map digitChar), by simp [hds], ?_, fun h => ?_⟩
    · rw [isDigit_iff, digitChar_toNat hd]; omega
    · have := congrArg Char.toNat h
      rw [digitChar_toNat hd] at this
      exact absurd this (by simp; omega)

theorem matchInt'_decimalDigits (n : Nat) {rest : List Char} (hr : NumEnd rest) :
    matchInt.matchInt' (decimalDigits n ++ rest) = some (decimalDigits n, rest) := by
  obtain ⟨d, ds, h, hd, h0⟩ := decimalDigits_cons n
  have hall := decimalDigits_isDigit n
  rw [h] at hall ⊢
  by_cases hz : d = '0'
  · obtain ⟨-, rfl⟩ := h0 hz
    subst hz
    rfl
  · rw [List.cons_append, matchInt.matchInt'.eq_2 _ _ hz, if_pos hd,
      List.takeWhile_append_of_pos (fun c hc => hall c (.tail _ hc)),
      List.dropWhile_append_of_pos (fun c hc => hall c (.tail _ hc)), hr.digits.1, hr.digits.2,
      List.append_nil]

theorem matchInt_intRepr {i : Int} {t : List Char} (ht : intRepr i = .ok t) {rest : List Char}
    (hr : NumEnd rest) : matchInt (t ++ rest) = some (t, rest) := by
  obtain ⟨-, rfl⟩ := intRepr_ok ht
  obtain ⟨d, ds, h, hd, -⟩ := decimalDigits_cons i.natAbs
  split
  · simp [matchInt, matchInt'_decimalDigits _ hr]
  · have hne : d ≠ '-' := by rintro rfl; exact absurd hd (by decide)
    rw [← matchInt'_decimalDigits i.natAbs hr, h, List.cons_append]
    exact matchInt.eq_2 _ fun r e => hne (List.cons.inj e).1

theorem parseInt_intRepr {i : Int} {t : List Char} (ht : intRepr i = .ok t) : parseInt t = .ok i := by
  obtain ⟨hlen, rfl⟩ := intRepr_ok ht
  obtain ⟨d, ds, h, hd, -⟩ := decimalDigits_cons i.natAbs
  have hne : d ≠ '-' := by rintro rfl; exact absurd hd (by decide)
  split
  · simp only [parseInt, List.head?_cons, List.tail_cons, if_true, digitsValue_decimalDigits,
      if_neg (not_lt.mpr hlen), Except.ok.injEq]
    omega
  · have hh : (decimalDigits i.natAbs).head? ≠ some '-' := by simpa [h] using hne
    simp only [parseInt, if_neg hh, digitsValue_decimalDigits, if_neg (not_lt.mpr hlen),
      Except.ok.injEq]
    omega

theorem matchNumber_intRepr {i : Int} {t : List Char} (ht : intRepr i = .ok t) {rest : List Char}
    (hr : NumEnd rest) (pos : Nat) : matchNumber pos (t ++ rest) = .ok (.int i, pos + t.length, rest) := by
  unfold matchNumber
  rw [matchInt_intRepr ht hr]
  simp only [hr.matchFraction, hr.matchExponent, Option.getD_none, List.isEmpty_nil, and_self,
    if_true, parseInt_intRepr ht, except_ok_bind, except_pure, List.append_nil]

/-- The scanner hands a `-` or a digit to `matchNumber`, unless `-Infinity` follows. -/
theorem scanOnce_of_number {c : Char} (hc : c.toNat = 45 ∨ (48 ≤ c.toNat ∧ c.toNat ≤ 57))
    {rest : List Char} (hinf : c = '-' → rest.take 8 ≠ "Infinity".toList) (fuel pos : Nat) :
    scanOnce (fuel + 1) pos (c :: rest) = matchNumber pos (c :: rest) := by
  have ne : ∀ d : Char, d.toNat ≠ 45 → d.toNat < 48 ∨ 57 < d.toNat → c ≠ d :=
    fun d h1 h2 => ne_of_toNat_ne (by omega)
  rw [scanOnce, if_neg (ne '"' (by decide) (by decide)), if_neg (ne '{' (by decide) (by decide)),
    if_neg (ne '[' (by decide) (by decide)), if_neg fun h => ne 'n' (by decide) (by decide) h.1,
    if_neg fun h => ne 't' (by decide) (by decide) h.1,
    if_neg fun h => ne 'f' (by decide) (by decide) h.1,
    if_neg fun h => ne 'N' (by decide) (by decide) h.1,
    if_neg fun h => ne 'I' (by decide) (by decide) h.1, if_neg fun h => hinf h.1 h.2]

theorem scanOnce_intRepr {i : Int} {t : List Char} (ht : intRepr i = .ok t) {rest : List Char}
    (hr : NumEnd rest) (fuel pos : Nat) :
    scanOnce (fuel + 1) pos (t ++ rest) = .ok (.int i, pos + t.length, rest) := by
  rw [← matchNumber_intRepr ht hr pos]
  have hdig := decimalDigits_digit i.natAbs
  obtain ⟨-, rfl⟩ := intRepr_ok ht
  obtain ⟨d, ds, h, -, -⟩ := decimalDigits_cons i.natAbs
  have hdn := hdig d (h ▸ .head _)
  rw [h]
  split
  · refine @scanOnce_of_number '-' (.inl rfl) _ (fun _ e => ?_) fuel pos
    have h1 := congrArg List.head? e
    rw [show "Infinity".toList.head? = some 'I' from rfl] at h1
    simp only [List.append_eq, List.cons_append, List.take_succ_cons, List.head?_cons,
      Option.some.injEq] at h1
    rw [h1] at hdn
    exact absurd hdn (by decide)
  · refine scanOnce_of_number (.inr hdn) (fun e => ?_) fuel pos
    rw [e] at hdn
    exact absurd hdn (by decide)

/-! ## Values -/

/-- How a value's text starts: with a character `skipWs` stops at and that closes no container. -/
def Opens (t : List Char) : Prop := ∃ c t', t = c :: t' ∧ isWs c = false ∧ c ≠ ']' ∧ c ≠ '}'

theorem Opens.skipWs {t : List Char} (h : Opens t) (pos : Nat) (r : List Char) :
    skipWs pos (t ++ r) = (pos, t ++ r) := by
  obtain ⟨c, t', rfl, hw, -, -⟩ := h
  exact skipWs_of_not_ws hw pos _

theorem Opens.afterChar {t : List Char} (h : Opens t) {c : Char} (hc : c = ']' ∨ c = '}')
    (r : List Char) : afterChar c (t ++ r) = none := by
  obtain ⟨d, t', rfl, -, h1, h2⟩ := h
  rcases hc with rfl | rfl
  · exact afterChar_ne h1 _
  · exact afterChar_ne h2 _

theorem opens_cons {c : Char} (h : 33 ≤ c.toNat ∧ c.toNat ≠ 93 ∧ c.toNat ≠ 125) (t : List Char) :
    Opens (c :: t) := by
  have ne : ∀ d : Char, d.toNat < 33 → c ≠ d := fun d hd => ne_of_toNat_ne (by omega)
  refine ⟨c, t, rfl, ?_, ne_of_toNat_ne (by simpa using h.2.1), ne_of_toNat_ne (by simpa using h.2.2)⟩
  simp [isWs, ne ' ' (by decide), ne '\t' (by decide), ne '\n' (by decide), ne '\r' (by decide)]

theorem dumps_opens {v : Value} {t : List Char} (h : dumps v = .ok t) (hp : v.Plain) : Opens t := by
  cases v with
  | none => cases h; exact opens_cons (by decide) _
  | bool b => cases h; cases b <;> exact opens_cons (by decide) _
  | int i =>
    obtain ⟨-, rfl⟩ := intRepr_ok h
    obtain ⟨d, ds, hd, -, -⟩ := decimalDigits_cons i.natAbs
    have := decimalDigits_digit i.natAbs d (hd ▸ .head _)
    split
    · exact opens_cons (by decide) _
    · rw [hd]
      exact opens_cons (by omega) _
  | float => exact hp.elim
  | str s => cases h; exact opens_cons (by decide) _
  | list xs =>
    obtain ⟨_, _, rfl⟩ := dumps_list_ok h
    exact opens_cons (by decide) _
  | dict kvs =>
    obtain ⟨_, _, rfl⟩ := dumps_dict_ok h
    exact opens_cons (by decide) _

/-- How a value's text ends: not with a space. -/
theorem dumps_getLast {v : Value} {t : List Char} (h : dumps v = .ok t) (hp : v.Plain) :
    ∃ c, t.getLast? = some c ∧ c ≠ ' ' := by
  cases v with
  | none => cases h; exact ⟨'l', rfl, by decide⟩
  | bool b => cases h; cases b <;> exact ⟨'e', rfl, by decide⟩
  | int i =>
    obtain ⟨-, rfl⟩ := intRepr_ok h
    obtain ⟨d, ds, hd, -, -⟩ := decimalDigits_cons i.natAbs
    have hlast : ∃ c, (decimalDigits i.natAbs).getLast? = some c ∧ c ≠ ' ' := by
      have hall : ∀ c ∈ d :: ds, 48 ≤ c.toNat ∧ c.toNat ≤ 57 := hd ▸ decimalDigits_digit i.natAbs
      have := hall _ (List.getLast_mem (List.cons_ne_nil d ds))
      rw [hd, List.getLast?_eq_getLast _ (List.cons_ne_nil _ _)]
      exact ⟨_, rfl, ne_of_toNat_ne (by rw [show (' ' : Char).toNat = 32 from rfl]; omega)⟩
    split
    · rw [hd, List.getLast?_cons_cons, ← hd]
      exact hlast
    · exact hlast
  | float => exact hp.elim
  | str s => cases h; exact ⟨'"', List.getLast?_eq_some_iff.mpr ⟨_, rfl⟩, by decide⟩
  | list xs =>
    obtain ⟨_, _, rfl⟩ := dumps_list_ok h
    exact ⟨']', List.getLast?_eq_some_iff.mpr ⟨_, rfl⟩, by decide⟩
  | dict kvs =>
    obtain ⟨_, _, rfl⟩ := dumps_dict_ok h
    exact ⟨'}', List.getLast?_eq_some_iff.mpr ⟨_, rfl⟩, by decide⟩

theorem length_encodeString (s : String) :
    (encodeString s).length = (s.toList.flatMap encodeChar).length + 2 := by
  simp [encodeString]

mutual
/-- `scan_once` reads a value's text back, with the index past it, whatever delimiter follows. -/
theorem scanOnce_dumps : ∀ (v : Value) {t : List Char}, dumps v = .ok t → v.Plain →
    ∀ {fuel : Nat} (pos : Nat) {rest : List Char}, Delim rest → t.length < fuel →
      scanOnce fuel pos (t ++ rest) = .ok (v, pos + t.length, rest)
  | _, _, _, _, 0, _, _, _, hf => absurd hf (Nat.not_lt_zero _)
  | .none, _, h, _, _ + 1, _, _, _, _ => by cases h; rfl
  | .bool b, _, h, _, _ + 1, _, _, _, _ => by cases h; cases b <;> rfl
  | .int _, _, h, _, _ + 1, pos, _, hr, _ => scanOnce_intRepr h hr.numEnd _ pos
  | .float _, _, _, hp, _ + 1, _, _, _, _ => hp.elim
  | .str s, _, h, _, _ + 1, pos, rest, _, _ => by
    cases h
    rw [length_encodeString]
    simp only [encodeString, List.cons_append, List.append_assoc, List.singleton_append]
    rw [scanOnce, if_pos rfl, scanString_encode]
    simp only [except_ok_bind, except_pure, Except.ok.injEq, Prod.mk.injEq, List.nil_append,
      true_and, and_true]
    omega
  | .list xs, _, h, hp, fuel + 1, pos, rest, hr, hf => by
    obtain ⟨parts, hparts, rfl⟩ := dumps_list_ok h
    simp only [List.length_cons, List.length_append, List.length_nil, List.cons_append,
      List.append_assoc, List.nil_append] at hf ⊢
    rw [scanOnce, if_neg (by decide), if_neg (by decide), if_pos rfl]
    cases xs with
    | nil =>
      cases dumpsList_nil_ok hparts
      simp [joinItems, skipWs, isWs]
    | cons x xs =>
      have ho : Opens (joinItems parts) := by
        obtain ⟨a, r, ha, -, rfl⟩ := dumpsList_cons_ok hparts
        obtain ⟨c, a', rfl, hc⟩ := dumps_opens ha hp.1
        exact ⟨c, _, rfl, hc⟩
      simp only [ho.skipWs, ho.afterChar (.inl rfl)]
      rw [parseArray_dumpsList (x :: xs) hparts hp (List.cons_ne_nil _ _) (pos + 1) rest [] (by omega)]
      simp only [List.nil_append, Except.ok.injEq, Prod.mk.injEq, true_and, and_true]
      omega
  | .dict kvs, _, h, hp, fuel + 1, pos, rest, hr, hf => by
    obtain ⟨parts, hparts, rfl⟩ := dumps_dict_ok h
    simp only [List.length_cons, List.length_append, List.length_nil, List.cons_append,
      List.append_assoc, List.nil_append] at hf ⊢
    rw [scanOnce, if_neg (by decide), if_pos rfl]
    cases kvs with
    | nil =>
      cases dumpsPairs_nil_ok hparts
      simp [joinItems, skipWs, isWs]
    | cons kv kvs =>
      have ho : Opens (joinItems parts) := by
        obtain ⟨a, r, -, -, rfl⟩ := dumpsPairs_cons_ok hparts
        exact ⟨'"', _, rfl, rfl, by decide, by decide⟩
      simp only [ho.skipWs, ho.afterChar (.inr rfl)]
      rw [parseObject_dumpsPairs (kv :: kvs) hparts hp.2 (List.cons_ne_nil _ _) (pos + 1) rest []
        (by simpa using hp.1) (by omega)]
      simp only [List.nil_append, Except.ok.injEq, Prod.mk.injEq, true_and, and_true]
      omega
/-- `_parse_array` reads the items of a non-empty list up to its closing bracket. -/
theorem parseArray_dumpsList : ∀ (xs : List Value) {parts : List (List Char)},
    dumpsList xs = .ok parts → Value.PlainList xs → xs ≠ [] →
    ∀ {fuel : Nat} (pos : Nat) (rest : List Char) (acc : List Value),
      (joinItems parts).length + 1 < fuel →
      parseArray fuel pos (joinItems parts ++ ']' :: rest) acc =
        .ok (.list (acc ++ xs), pos + (joinItems parts).length + 1, rest)
  | [], _, _, _, hne, _, _, _, _, _ => absurd rfl hne
  | _ :: _, _, _, _, _, 0, _, _, _, hf => absurd hf (Nat.not_lt_zero _)
  | [x], _, h, hp, _, fuel + 1, pos, rest, acc, hf => by
    obtain ⟨a, r, ha, hr, rfl⟩ := dumpsList_cons_ok h
    cases dumpsList_nil_ok hr
    simp only [joinItems, List.flatMap_nil, List.append_nil] at hf ⊢
    rw [parseArray, scanOnce_dumps x ha hp.1 pos (delim_cons _ _ (by simp)) (by omega)]
    simp [skipWs, isWs]
  | x :: y :: xs, _, h, hp, _, fuel + 1, pos, rest, acc, hf => by
    obtain ⟨a, r, ha, hr, rfl⟩ := dumpsList_cons_ok h
    obtain ⟨b, r', hb, -, rfl⟩ := dumpsList_cons_ok hr
    have ho : Opens (joinItems (b :: r')) := by
      obtain ⟨c, b', rfl, hc⟩ := dumps_opens hb hp.2.1
      exact ⟨c, _, rfl, hc⟩
    rw [joinItems_cons_cons] at hf ⊢
    simp only [List.length_append, List.length_cons] at hf ⊢
    rw [parseArray, List.append_assoc, List.cons_append,
      scanOnce_dumps x ha hp.1 pos (delim_cons _ _ (by simp)) (by omega)]
    simp only [except_ok_bind, skipWs_of_not_ws (by decide : isWs ',' = false),
      afterChar_ne (by decide : ',' ≠ ']'), afterChar_self, ho.skipWs]
    rw [parseArray_dumpsList (y :: xs) hr hp.2 (List.cons_ne_nil _ _) _ rest (acc ++ [x]) (by omega)]
    simp only [List.append_assoc, List.singleton_append, Except.ok.injEq, Prod.mk.injEq, true_and,
      and_true]
    omega
/-- `_parse_object` reads the items of a non-empty object up to its closing brace, each key new to
the ones before it. -/
theorem parseObject_dumpsPairs : ∀ (kvs : List (String × Value)) {parts : List (List Char)},
    dumpsPairs kvs = .ok parts → Value.PlainPairs kvs → kvs ≠ [] →
    ∀ {fuel : Nat} (pos : Nat) (rest : List Char) (acc : List (String × Value)),
      ((acc ++ kvs).map Prod.fst).Nodup → (joinItems parts).length + 1 < fuel →
      parseObject fuel pos (joinItems parts ++ '}' :: rest) acc =
        .ok (.dict (acc ++ kvs), pos + (joinItems parts).length + 1, rest)
  | [], _, _, _, hne, _, _, _, _, _, _ => absurd rfl hne
  | _ :: _, _, _, _, _, 0, _, _, _, _, hf => absurd hf (Nat.not_lt_zero _)
  | (k, x) :: kvs, _, h, hp, _, fuel + 1, pos, rest, acc, hnd, hf => by
    obtain ⟨a, r, ha, hr, rfl⟩ := dumpsPairs_cons_ok h
    have hk : k ∉ acc.map Prod.fst := fun hm =>
      (List.nodup_append.mp (by simpa using hnd)).2.2 hm (List.mem_cons_self _ _)
    have hd : Delim (r.flatMap (',' :: ·) ++ '}' :: rest) := by
      cases r <;> exact delim_cons _ _ (by simp)
    have hJ : (joinItems ((encodeString k ++ ':' :: a) :: r)).length =
        (k.toList.flatMap encodeChar).length + 3 + a.length + (r.flatMap (',' :: ·)).length := by
      simp only [joinItems, List.length_append, List.length_cons, length_encodeString]
      omega
    have hsplit : joinItems ((encodeString k ++ ':' :: a) :: r) ++ '}' :: rest =
        '"' :: (k.toList.flatMap encodeChar ++ '"' :: ':' :: (a ++ (r.flatMap (',' :: ·) ++ '}' :: rest))) := by
      simp [joinItems, encodeString]
    rw [hJ] at hf ⊢
    rw [hsplit, parseObject]
    simp only [afterChar_self, scanString_encode, except_ok_bind, (dumps_opens ha hp.1).skipWs,
      skipWs_of_not_ws (by decide : isWs ':' = false),
      @scanOnce_dumps x a ha hp.1 fuel _ _ hd (by omega), hd.skipWs, setEntry_of_not_mem x hk]
    cases kvs with
    | nil =>
      cases dumpsPairs_nil_ok hr
      simp only [List.flatMap_nil, List.nil_append, List.length_nil, afterChar_self, List.append_assoc,
        List.singleton_append, Except.ok.injEq, Prod.mk.injEq, true_and, and_true]
      omega
    | cons kv kvs =>
      obtain ⟨k', y⟩ := kv
      obtain ⟨b, r', hb, -, rfl⟩ := dumpsPairs_cons_ok hr
      have ho : Opens (encodeString k') := ⟨'"', _, rfl, rfl, by decide, by decide⟩
      simp only [List.flatMap_cons, List.length_append, List.length_cons] at hf ⊢
      have ih := fun p => @parseObject_dumpsPairs ((k', y) :: kvs) _ hr hp.2 (List.cons_ne_nil _ _)
        fuel p rest (acc ++ [(k, x)]) (by simpa using hnd)
        (by simp only [joinItems, List.length_append, List.length_cons] at hf ⊢; omega)
      simp only [joinItems, List.append_assoc, List.cons_append, List.nil_append, List.length_append,
        List.length_cons] at ih
      simp only [List.cons_append, List.append_assoc, afterChar_ne (by decide : ',' ≠ '}'),
        afterChar_self, ho.skipWs, ih, Except.ok.injEq, Prod.mk.injEq, List.singleton_append,
        true_and, and_true]
      omega
end

theorem loads_dumps {v : Value} {t : List Char} (h : dumps v = .ok t) (hp : v.Plain) :
    loads t = .ok v := by
  obtain ⟨c, t', rfl, hc, -, -⟩ := dumps_opens h hp
  have hbom : (c :: t').head? ≠ some (Char.ofNat 0xfeff) := by
    have hc' := dumps_printable v h hp c (.head _)
    have hb : (Char.ofNat 0xfeff).toNat = 0xfeff := rfl
    simp only [List.head?_cons, ne_eq, Option.some.injEq]
    exact ne_of_toNat_ne (by rw [hb]; unfold Printable at hc'; omega)
  have hs := scanOnce_dumps v h hp 0 (.inl rfl) (Nat.lt_succ_self _)
  rw [List.append_nil] at hs
  simp only [loads, if_neg hbom, skipWs_of_not_ws hc, hs, except_ok_bind, Delim.skipWs (.inl rfl),
    List.isEmpty_nil, if_true, except_pure]

end Json
end UsbPassthrough
