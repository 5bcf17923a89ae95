import UsbPassthrough.Json.RoundTrip

/-!
# UsbPassthrough.Json.Indent

`json.dump(data, f, indent=2, ensure_ascii=False)`, as the guest's `atomic_write_registry` writes
`usb_db.json`. With an indent, `json.encoder` takes its Python path (`_make_iterencode`): the item
separator is `","`, the key separator `": "`, an empty container is `[]` or `{}`, and every item
of another one starts a line of its own, indented by two spaces a level, with the closing bracket
on a line of its own at the container's level. With `ensure_ascii=False` a string is written by
`encode_basestring`: `"`, `\` and the control characters are escaped, every other character is
kept as it is.

* `loads_dumpIndent`: `json.loads` reads back what `json.dump(v, indent=2, ensure_ascii=False)`
  wrote, for every value of `Value.Plain`;
* `dumpIndent_ne_cr`: that text holds no carriage return.
-/

namespace UsbPassthrough
namespace Json

/-- One character of `encode_basestring` (`escape_unicode` of `_json.c`). -/
def encodeCharRaw (c : Char) : List Char :=
  match shortEscape c with
  | some x => ['\\', x]
  | none => if c.toNat ≤ 0x1f then uEscape c.toNat else [c]

/-- `encode_basestring(s)`: the string in double quotes. -/
def encodeStringRaw (s : String) : List Char := '"' :: s.toList.flatMap encodeCharRaw ++ ['"']

/-- `'\n' + ' ' * (2 * level)`: the start of a line at `level`. -/
def newlineIndent (level : Nat) : List Char := '\n' :: List.replicate (2 * level) ' '

/-- The items of a container, each on a line at `level`: the first, then each later one after
`","` and a new line. -/
def joinIndented (level : Nat) : List (List Char) → List Char
  | [] => []
  | a :: ps => a ++ ps.flatMap (fun p => ',' :: newlineIndent level ++ p)

mutual
/-- `_iterencode(v, level)` with `indent=2` and `ensure_ascii=False`. -/
def dumpIndent (level : Nat) : Value → Except PyError (List Char)
  | .none => .ok "null".toList
  | .bool b => .ok (if b then "true" else "false").toList
  | .int i => intRepr i
  | .float lit => .ok lit.toList
  | .str s => .ok (encodeStringRaw s)
  | .list xs =>
    if xs.isEmpty then .ok "[]".toList
    else do
      let parts ← dumpIndentList (level + 1) xs
      pure ('[' :: newlineIndent (level + 1) ++ joinIndented (level + 1) parts ++
        newlineIndent level ++ [']'])
  | .dict kvs =>
    if kvs.isEmpty then .ok "{}".toList
    else do
      let parts ← dumpIndentPairs (level + 1) kvs
      pure ('{' :: newlineIndent (level + 1) ++ joinIndented (level + 1) parts ++
        newlineIndent level ++ ['}'])
/-- The items of a `list` at `level`, each encoded. -/
def dumpIndentList (level : Nat) : List Value → Except PyError (List (List Char))
  | [] => .ok []
  | x :: xs => do
    let a ← dumpIndent level x
    let rest ← dumpIndentList level xs
    pure (a :: rest)
/-- The items of a `dict` at `level`, each encoded as `key: value`. -/
def dumpIndentPairs (level : Nat) : List (String × Value) → Except PyError (List (List Char))
  | [] => .ok []
  | (k, x) :: kvs => do
    let a ← dumpIndent level x
    let rest ← dumpIndentPairs level kvs
    pure ((encodeStringRaw k ++ ':' :: ' ' :: a) :: rest)
end

/-! ## What the encoder wrote -/

section Shape

variable {level : Nat} {t : List Char} {parts : List (List Char)}

theorem dumpIndent_list_ok {x : Value} {xs : List Value}
    (h : dumpIndent level (.list (x :: xs)) = .ok t) :
    ∃ parts, dumpIndentList (level + 1) (x :: xs) = .ok parts ∧
      t = '[' :: newlineIndent (level + 1) ++ joinIndented (level + 1) parts ++
        newlineIndent level ++ [']'] := by
  rw [dumpIndent, if_neg (by simp), except_bind_eq_ok] at h
  obtain ⟨parts, hp, ht⟩ := h
  exact ⟨parts, hp, (Except.ok.inj ht).symm⟩

theorem dumpIndent_dict_ok {kv : String × Value} {kvs : List (String × Value)}
    (h : dumpIndent level (.dict (kv :: kvs)) = .ok t) :
    ∃ parts, dumpIndentPairs (level + 1) (kv :: kvs) = .ok parts ∧
      t = '{' :: newlineIndent (level + 1) ++ joinIndented (level + 1) parts ++
        newlineIndent level ++ ['}'] := by
  rw [dumpIndent, if_neg (by simp), except_bind_eq_ok] at h
  obtain ⟨parts, hp, ht⟩ := h
  exact ⟨parts, hp, (Except.ok.inj ht).symm⟩

theorem dumpIndentList_cons_ok {x : Value} {xs : List Value}
    (h : dumpIndentList level (x :: xs) = .ok parts) :
    ∃ a r, dumpIndent level x = .ok a ∧ dumpIndentList level xs = .ok r ∧ parts = a :: r := by
  rw [dumpIndentList, except_bind_eq_ok] at h
  obtain ⟨a, ha, h⟩ := h
  obtain ⟨r, hr, h⟩ := except_bind_eq_ok.mp h
  exact ⟨a, r, ha, hr, (Except.ok.inj h).symm⟩

theorem dumpIndentPairs_cons_ok {k : String} {x : Value} {kvs : List (String × Value)}
    (h : dumpIndentPairs level ((k, x) :: kvs) = .ok parts) :
    ∃ a r, dumpIndent level x = .ok a ∧ dumpIndentPairs level kvs = .ok r ∧
      parts = (encodeStringRaw k ++ ':' :: ' ' :: a) :: r := by
  rw [dumpIndentPairs, except_bind_eq_ok] at h
  obtain ⟨a, ha, h⟩ := h
  obtain ⟨r, hr, h⟩ := except_bind_eq_ok.mp h
  exact ⟨a, r, ha, hr, (Except.ok.inj h).symm⟩

end Shape

theorem joinIndented_cons_cons (level : Nat) (a b : List Char) (ps : List (List Char)) :
    joinIndented level (a :: b :: ps) =
      a ++ ',' :: (newlineIndent level ++ joinIndented level (b :: ps)) := by
  simp [joinIndented]

/-- A value's text starts with a printable ASCII character that is not `]`. -/
theorem dumpIndent_head {level : Nat} {v : Value} {t : List Char} (h : dumpIndent level v = .ok t)
    (hp : v.Plain) : ∃ c t', t = c :: t' ∧ 33 ≤ c.toNat ∧ c.toNat ≤ 123 ∧ c.toNat ≠ 93 := by
  cases v with
  | none => cases h; exact ⟨_, _, rfl, by decide⟩
  | bool b => cases h; cases b <;> exact ⟨_, _, rfl, by decide⟩
  | int i =>
    obtain ⟨-, rfl⟩ := intRepr_ok h
    obtain ⟨d, ds, hd, -, -⟩ := decimalDigits_cons i.natAbs
    have := decimalDigits_digit i.natAbs d (hd ▸ .head _)
    split
    · exact ⟨_, _, rfl, by decide⟩
    · exact ⟨d, ds, hd, by omega⟩
  | float => exact hp.elim
  | str s => cases h; exact ⟨_, _, rfl, by decide⟩
  | list xs =>
    cases xs with
    | nil => cases h; exact ⟨_, _, rfl, by decide⟩
    | cons x xs =>
      obtain ⟨_, _, rfl⟩ := dumpIndent_list_ok h
      exact ⟨_, _, rfl, by decide⟩
  | dict kvs =>
    cases kvs with
    | nil => cases h; exact ⟨_, _, rfl, by decide⟩
    | cons kv kvs =>
      obtain ⟨_, _, rfl⟩ := dumpIndent_dict_ok h
      exact ⟨_, _, rfl, by decide⟩

/-! ## Strings and whitespace -/

theorem shortEscape_eq_none {c : Char} (h : shortEscape c = none) : c ≠ '"' ∧ c ≠ '\\' := by
  constructor <;> rintro rfl <;> exact absurd h (by decide)

theorem scanPiece_encodeCharRaw (begin pos : Nat) (c : Char) {more : List Char} (hm : more ≠ []) :
    scanPiece begin pos (encodeCharRaw c ++ more) = .ok (.char c (encodeCharRaw c).length more) := by
  obtain ⟨m, ms, rfl⟩ := List.exists_cons_of_ne_nil hm
  unfold encodeCharRaw
  split
  · next x hx =>
    obtain ⟨hu, hs⟩ := shortEscape_simpleEscape hx
    exact scanPiece_simpleEscape _ _ hu hs _
  · next hx =>
    split
    · rw [scanPiece_uEscape _ _ (by omega) (by omega), Char.ofNat_toNat]
      rfl
    · obtain ⟨h1, h2⟩ := shortEscape_eq_none hx
      exact scanPiece_plain _ _ h1 h2 (by omega) _

theorem readsBack_encodeCharRaw : ReadsBack encodeCharRaw where
  ne_nil c := by
    unfold encodeCharRaw
    split
    · simp
    · split <;> simp [uEscape]
  scanPiece _ _ c _ hm := scanPiece_encodeCharRaw _ _ c hm

theorem length_encodeStringRaw (s : String) :
    (encodeStringRaw s).length = (s.toList.flatMap encodeCharRaw).length + 2 := by
  simp [encodeStringRaw]

theorem isWs_toNat {c : Char} (h : isWs c = true) : c.toNat < 33 := by
  simp only [isWs, Bool.or_eq_true, decide_eq_true_eq] at h
  rcases h with ((rfl | rfl) | rfl) | rfl <;> decide

theorem newlineIndent_ws (level : Nat) : ∀ c ∈ newlineIndent level, isWs c = true := by
  simp only [newlineIndent, List.mem_cons, List.mem_replicate]
  rintro c (rfl | ⟨-, rfl⟩) <;> rfl

/-- `skipWs` steps over whitespace. -/
theorem skipWs_ws_append {ws : List Char} (h : ∀ c ∈ ws, isWs c = true) (pos : Nat)
    (rest : List Char) : skipWs pos (ws ++ rest) = skipWs (pos + ws.length) rest := by
  induction ws generalizing pos with
  | nil => rfl
  | cons c ws ih =>
    rw [List.cons_append, skipWs, if_pos (h c (.head _)), ih (fun d hd => h d (.tail _ hd)),
      List.length_cons, Nat.add_assoc, Nat.add_comm 1]

theorem skipWs_newlineIndent (level pos : Nat) {c : Char} (hc : isWs c = false) (rest : List Char) :
    skipWs pos (newlineIndent level ++ c :: rest) = (pos + (newlineIndent level).length, c :: rest) := by
  rw [skipWs_ws_append (newlineIndent_ws level), skipWs_of_not_ws hc]

theorem numEnd_newlineIndent (level : Nat) (rest : List Char) : NumEnd (newlineIndent level ++ rest) :=
  numEnd_cons (by decide) _

theorem Opens.append {t : List Char} (h : Opens t) (r : List Char) : Opens (t ++ r) := by
  obtain ⟨c, t', rfl, hc⟩ := h
  exact ⟨c, t' ++ r, rfl, hc⟩

theorem dumpIndent_opens {level : Nat} {v : Value} {t : List Char} (h : dumpIndent level v = .ok t)
    (hp : v.Plain) : Opens t := by
  obtain ⟨c, t', rfl, h1, h2, h3⟩ := dumpIndent_head h hp
  exact opens_cons ⟨h1, h3, by omega⟩ t'

/-! ## Reading the items back -/

/-- `_parse_array` after an item the scanner read as `x`, followed by the closing line. -/
theorem parseArray_last {fuel pos level : Nat} {a rest : List Char} {x : Value} {acc : List Value}
    (hx : scanOnce fuel pos (a ++ (newlineIndent level ++ ']' :: rest)) =
      .ok (x, pos + a.length, newlineIndent level ++ ']' :: rest)) :
    parseArray (fuel + 1) pos (a ++ (newlineIndent level ++ ']' :: rest)) acc =
      .ok (.list (acc ++ [x]), pos + a.length + (newlineIndent level).length + 1, rest) := by
  rw [parseArray, hx]
  simp only [except_ok_bind, skipWs_newlineIndent _ _ (by decide : isWs ']' = false), afterChar_self]

/-- `_parse_array` after an item the scanner read as `x`, followed by the next item's line. -/
theorem parseArray_next {fuel pos level : Nat} {a more : List Char} (hm : Opens more) {x : Value}
    {acc : List Value}
    (hx : scanOnce fuel pos (a ++ ',' :: (newlineIndent level ++ more)) =
      .ok (x, pos + a.length, ',' :: (newlineIndent level ++ more))) :
    parseArray (fuel + 1) pos (a ++ ',' :: (newlineIndent level ++ more)) acc =
      parseArray fuel (pos + a.length + 1 + (newlineIndent level).length) more (acc ++ [x]) := by
  have hs := hm.skipWs (pos + a.length + 1 + (newlineIndent level).length) []
  rw [List.append_nil] at hs
  rw [parseArray, hx]
  simp only [except_ok_bind, skipWs_of_not_ws (by decide : isWs ',' = false),
    afterChar_ne (by decide : ',' ≠ ']'), afterChar_self, skipWs_ws_append (newlineIndent_ws level), hs]

theorem encodeStringRaw_append (s : String) (r : List Char) :
    encodeStringRaw s ++ r = '"' :: (s.toList.flatMap encodeCharRaw ++ '"' :: r) := by
  simp [encodeStringRaw]

theorem skipWs_space (pos : Nat) {t : List Char} (ht : Opens t) (r : List Char) :
    skipWs pos (' ' :: (t ++ r)) = (pos + 1, t ++ r) := by
  have hw : isWs ' ' = true := rfl
  rw [skipWs, if_pos hw]
  exact ht.skipWs _ _

/-- `_parse_object` at a key written by `encode_basestring`, then `": "` and a value the scanner
reads as `x`, followed by the closing line. -/
theorem parseObject_last {fuel pos level : Nat} {k : String} {a rest : List Char} (ha : Opens a)
    {x : Value} {acc : List (String × Value)}
    (hx : ∀ p, scanOnce fuel p (a ++ (newlineIndent level ++ '}' :: rest)) =
      .ok (x, p + a.length, newlineIndent level ++ '}' :: rest)) :
    parseObject (fuel + 1) pos (encodeStringRaw k ++ ':' :: ' ' :: (a ++ (newlineIndent level ++ '}' :: rest)))
      acc = .ok (.dict (setEntry k x acc),
        pos + (encodeStringRaw k).length + 2 + a.length + (newlineIndent level).length + 1, rest) := by
  rw [encodeStringRaw_append, parseObject]
  simp only [afterChar_self, readsBack_encodeCharRaw.scanString, except_ok_bind,
    skipWs_of_not_ws (by decide : isWs ':' = false), skipWs_space _ ha, hx,
    skipWs_newlineIndent _ _ (by decide : isWs '}' = false), Except.ok.injEq, Prod.mk.injEq,
    true_and, and_true, length_encodeStringRaw]
  omega

/-- `_parse_object` at a key, then `": "` and a value the scanner reads as `x`, followed by the
next item's line. -/
theorem parseObject_next {fuel pos level : Nat} {k : String} {a more : List Char} (ha : Opens a)
    (hm : Opens more) {x : Value} {acc : List (String × Value)}
    (hx : ∀ p, scanOnce fuel p (a ++ ',' :: (newlineIndent level ++ more)) =
      .ok (x, p + a.length, ',' :: (newlineIndent level ++ more))) :
    parseObject (fuel + 1) pos (encodeStringRaw k ++ ':' :: ' ' :: (a ++ ',' :: (newlineIndent level ++ more)))
      acc = parseObject fuel (pos + (encodeStringRaw k).length + 2 + a.length + 1 +
        (newlineIndent level).length) more (setEntry k x acc) := by
  have hs := fun p => hm.skipWs p []
  simp only [List.append_nil] at hs
  rw [encodeStringRaw_append, parseObject]
  simp only [afterChar_self, readsBack_encodeCharRaw.scanString, except_ok_bind,
    skipWs_of_not_ws (by decide : isWs ':' = false), skipWs_space _ ha, hx,
    skipWs_of_not_ws (by decide : isWs ',' = false), afterChar_ne (by decide : ',' ≠ '}'),
    skipWs_ws_append (newlineIndent_ws level), hs, length_encodeStringRaw]
  congr 1
  omega

theorem Opens.joinIndented {a : List Char} (h : Opens a) (level : Nat) (ps : List (List Char)) :
    Opens (joinIndented level (a :: ps)) :=
  h.append _

theorem opens_encodeStringRaw (s : String) (r : List Char) : Opens (encodeStringRaw s ++ r) := by
  rw [encodeStringRaw_append]
  exact opens_cons (by decide) _

/-! ## Values -/

mutual
/-- `scan_once` reads a value's text back, with the index past it, whatever may follow a number. -/
theorem scanOnce_dumpIndent : ∀ (level : Nat) (v : Value) {t : List Char},
    dumpIndent level v = .ok t → v.Plain → ∀ {fuel : Nat} (pos : Nat) {rest : List Char},
      NumEnd rest → t.length < fuel → scanOnce fuel pos (t ++ rest) = .ok (v, pos + t.length, rest)
  | _, _, _, _, _, 0, _, _, _, hf => absurd hf (Nat.not_lt_zero _)
  | _, .none, _, h, _, _ + 1, _, _, _, _ => by cases h; rfl
  | _, .bool b, _, h, _, _ + 1, _, _, _, _ => by cases h; cases b <;> rfl
  | _, .int _, _, h, _, _ + 1, pos, _, hr, _ => scanOnce_intRepr h hr _ pos
  | _, .float _, _, _, hp, _ + 1, _, _, _, _ => hp.elim
  | _, .str s, _, h, _, _ + 1, pos, rest, _, _ => by
    cases h
    rw [length_encodeStringRaw, encodeStringRaw_append, scanOnce, if_pos rfl,
      readsBack_encodeCharRaw.scanString]
    simp only [except_ok_bind, except_pure, Except.ok.injEq, Prod.mk.injEq, true_and, and_true]
    omega
  | _, .list [], _, h, _, _ + 1, pos, rest, _, _ => by
    cases h
    simp [scanOnce, skipWs, isWs]
  | level, .list (x :: xs), _, h, hp, fuel + 1, pos, rest, _, hf => by
    obtain ⟨parts, hparts, rfl⟩ := dumpIndent_list_ok h
    have ho : Opens (joinIndented (level + 1) parts) := by
      obtain ⟨a, r, ha, -, rfl⟩ := dumpIndentList_cons_ok hparts
      exact (dumpIndent_opens ha hp.1).joinIndented _ _
    simp only [List.cons_append, List.append_assoc, List.singleton_append, List.nil_append,
      List.length_cons, List.length_append, List.length_nil] at hf ⊢
    rw [scanOnce, if_neg (by decide), if_neg (by decide), if_pos rfl]
    simp only [skipWs_ws_append (newlineIndent_ws _), ho.skipWs, ho.afterChar (.inl rfl)]
    rw [parseArray_dumpIndentList (level + 1) (x :: xs) hparts hp (List.cons_ne_nil _ _) _ level
      rest [] (by omega)]
    simp only [List.nil_append, Except.ok.injEq, Prod.mk.injEq, true_and, and_true]
    omega
  | _, .dict [], _, h, _, _ + 1, pos, rest, _, _ => by
    cases h
    simp [scanOnce, skipWs, isWs]
  | level, .dict (kv :: kvs), _, h, hp, fuel + 1, pos, rest, _, hf => by
    obtain ⟨parts, hparts, rfl⟩ := dumpIndent_dict_ok h
    have ho : Opens (joinIndented (level + 1) parts) := by
      obtain ⟨a, r, -, -, rfl⟩ := dumpIndentPairs_cons_ok hparts
      exact (opens_encodeStringRaw _ _).joinIndented _ _
    simp only [List.cons_append, List.append_assoc, List.singleton_append, List.nil_append,
      List.length_cons, List.length_append, List.length_nil] at hf ⊢
    rw [scanOnce, if_neg (by decide), if_pos rfl]
    simp only [skipWs_ws_append (newlineIndent_ws _), ho.skipWs, ho.afterChar (.inr rfl)]
    rw [parseObject_dumpIndentPairs (level + 1) (kv :: kvs) hparts hp.2 (List.cons_ne_nil _ _) _
      level rest [] (by simpa using hp.1) (by omega)]
    simp only [List.nil_append, Except.ok.injEq, Prod.mk.injEq, true_and, and_true]
    omega
/-- `_parse_array` reads the lines of a non-empty list up to its closing bracket. -/
theorem parseArray_dumpIndentList : ∀ (level : Nat) (xs : List Value) {parts : List (List Char)},
    dumpIndentList level xs = .ok parts → Value.PlainList xs → xs ≠ [] →
    ∀ {fuel : Nat} (pos m : Nat) (rest : List Char) (acc : List Value),
      (joinIndented level parts).length + 1 < fuel →
      parseArray fuel pos (joinIndented level parts ++ (newlineIndent m ++ ']' :: rest)) acc =
        .ok (.list (acc ++ xs),
          pos + (joinIndented level parts).length + (newlineIndent m).length + 1, rest)
  | _, [], _, _, _, hne, _, _, _, _, _, _ => absurd rfl hne
  | _, _ :: _, _, _, _, _, 0, _, _, _, _, hf => absurd hf (Nat.not_lt_zero _)
  | level, [x], _, h, hp, _, fuel + 1, pos, m, rest, acc, hf => by
    obtain ⟨a, r, ha, hr, rfl⟩ := dumpIndentList_cons_ok h
    cases (Except.ok.inj hr : [] = r)
    simp only [joinIndented, List.flatMap_nil, List.append_nil] at hf ⊢
    exact parseArray_last (scanOnce_dumpIndent level x ha hp.1 pos (numEnd_newlineIndent m _)
      (by omega))
  | level, x :: y :: xs, _, h, hp, _, fuel + 1, pos, m, rest, acc, hf => by
    obtain ⟨a, r, ha, hr, rfl⟩ := dumpIndentList_cons_ok h
    obtain ⟨b, r', hb, -, rfl⟩ := dumpIndentList_cons_ok hr
    have ho := ((dumpIndent_opens hb hp.2.1).joinIndented level r').append (newlineIndent m ++ ']' :: rest)
    rw [joinIndented_cons_cons] at hf ⊢
    simp only [List.append_assoc, List.cons_append, List.length_append, List.length_cons] at hf ⊢
    rw [parseArray_next ho (scanOnce_dumpIndent level x ha hp.1 pos (numEnd_cons (by decide) _)
      (by omega)), parseArray_dumpIndentList level (y :: xs) hr hp.2 (List.cons_ne_nil _ _) _ m rest
      (acc ++ [x]) (by omega)]
    simp only [List.append_assoc, List.singleton_append, Except.ok.injEq, Prod.mk.injEq, true_and,
      and_true]
    omega
/-- `_parse_object` reads the lines of a non-empty object up to its closing brace, each key new to
the ones before it. -/
theorem parseObject_dumpIndentPairs : ∀ (level : Nat) (kvs : List (String × Value))
    {parts : List (List Char)}, dumpIndentPairs level kvs = .ok parts → Value.PlainPairs kvs →
    kvs ≠ [] → ∀ {fuel : Nat} (pos m : Nat) (rest : List Char) (acc : List (String × Value)),
      ((acc ++ kvs).map Prod.fst).Nodup → (joinIndented level parts).length + 1 < fuel →
      parseObject fuel pos (joinIndented level parts ++ (newlineIndent m ++ '}' :: rest)) acc =
        .ok (.dict (acc ++ kvs),
          pos + (joinIndented level parts).length + (newlineIndent m).length + 1, rest)
  | _, [], _, _, _, hne, _, _, _, _, _, _, _ => absurd rfl hne
  | _, _ :: _, _, _, _, _, 0, _, _, _, _, _, hf => absurd hf (Nat.not_lt_zero _)
  | level, [(k, x)], _, h, hp, _, fuel + 1, pos, m, rest, acc, hnd, hf => by
    obtain ⟨a, r, ha, hr, rfl⟩ := dumpIndentPairs_cons_ok h
    cases (Except.ok.inj hr : [] = r)
    have hk : k ∉ acc.map Prod.fst := fun hm =>
      (List.nodup_append.mp (by simpa using hnd)).2.2 hm (List.mem_cons_self _ _)
    simp only [joinIndented, List.flatMap_nil, List.append_nil, List.append_assoc, List.cons_append,
      List.length_append, List.length_cons] at hf ⊢
    rw [parseObject_last (dumpIndent_opens ha hp.1) fun p => scanOnce_dumpIndent level x ha hp.1 p
      (numEnd_newlineIndent m _) (by omega), setEntry_of_not_mem x hk]
    simp only [Except.ok.injEq, Prod.mk.injEq, true_and, and_true]
    omega
  | level, (k, x) :: (k', y) :: kvs, _, h, hp, _, fuel + 1, pos, m, rest, acc, hnd, hf => by
    obtain ⟨a, r, ha, hr, rfl⟩ := dumpIndentPairs_cons_ok h
    obtain ⟨b, r', -, -, rfl⟩ := dumpIndentPairs_cons_ok hr
    have hk : k ∉ acc.map Prod.fst := fun hm =>
      (List.nodup_append.mp (by simpa using hnd)).2.2 hm (List.mem_cons_self _ _)
    have ho := ((opens_encodeStringRaw k' (':' :: ' ' :: b)).joinIndented level r').append
      (newlineIndent m ++ '}' :: rest)
    rw [joinIndented_cons_cons] at hf ⊢
    simp only [List.append_assoc, List.cons_append, List.length_append, List.length_cons] at hf ⊢
    rw [parseObject_next (dumpIndent_opens ha hp.1) ho fun p => scanOnce_dumpIndent level x ha hp.1 p
      (numEnd_cons (by decide) _) (by omega), setEntry_of_not_mem x hk,
      parseObject_dumpIndentPairs level ((k', y) :: kvs) hr hp.2 (List.cons_ne_nil _ _) _ m rest
        (acc ++ [(k, x)]) (by simpa using hnd) (by omega)]
    simp only [List.append_assoc, List.singleton_append, Except.ok.injEq, Prod.mk.injEq, true_and,
      and_true]
    omega
end

/-- `json.loads(json.dumps(v, indent=2, ensure_ascii=False)) == v`. -/
theorem loads_dumpIndent {v : Value} {t : List Char} (h : dumpIndent 0 v = .ok t) (hp : v.Plain) :
    loads t = .ok v := by
  obtain ⟨c, t', rfl, h1, h2, -⟩ := dumpIndent_head h hp
  have hc : isWs c = false := by
    cases hw : isWs c
    · rfl
    · exact absurd (isWs_toNat hw) (by omega)
  have hbom : (c :: t').head? ≠ some (Char.ofNat 0xfeff) := by
    simp only [List.head?_cons, ne_eq, Option.some.injEq]
    exact ne_of_toNat_ne (by rw [show (Char.ofNat 0xfeff).toNat = 0xfeff from rfl]; omega)
  have hs := scanOnce_dumpIndent 0 v h hp 0 (.inl rfl) (Nat.lt_succ_self _)
  rw [List.append_nil] at hs
  simp only [loads, if_neg hbom, skipWs_of_not_ws hc, hs, except_ok_bind, Delim.skipWs (.inl rfl),
    List.isEmpty_nil, if_true, except_pure]

/-- A registry of one device, as `usb_db.json` holds it: a non-ASCII character kept, a list and a
`null`. -/
theorem registry_text_loads :
    loads ("\x7b\n  \"1-2\": \x7b\n    \"vendor\": \"Acmé\",\n    \"permitted_vms\": [\n      " ++
      "\"vm-a\"\n    ],\n    \"current_vm\": null\n  \x7d\n\x7d").toList =
    .ok (.dict [("1-2", .dict [("vendor", .str "Acmé"), ("permitted_vms", .list [.str "vm-a"]),
      ("current_vm", .none)])]) :=
  loads_dumpIndent rfl ⟨by decide, ⟨by decide, trivial, ⟨trivial, trivial⟩, trivial, trivial⟩, trivial⟩

/-! ## No carriage return -/

theorem ne_cr_of_printable {x : Char} (h : Printable x) : x ≠ '\r' := by
  rintro rfl
  exact absurd h (by decide)

theorem encodeCharRaw_ne_cr (c : Char) : '\r' ∉ encodeCharRaw c := by
  unfold encodeCharRaw
  split
  · next x hx =>
    simp only [List.mem_cons, List.mem_singleton, List.not_mem_nil, or_false, not_or]
    exact ⟨by decide, (ne_cr_of_printable (shortEscape_printable hx)).symm⟩
  · split
    · exact fun hx => ne_cr_of_printable (uEscape_printable _ _ hx) rfl
    · next hc =>
      simp only [List.mem_singleton]
      rintro rfl
      exact hc (by decide)

theorem encodeStringRaw_ne_cr (s : String) : '\r' ∉ encodeStringRaw s := by
  simp only [encodeStringRaw, List.mem_cons, List.mem_append, List.mem_flatMap, List.mem_singleton,
    not_or, not_exists, not_and]
  exact ⟨⟨by decide, fun c _ => encodeCharRaw_ne_cr c⟩, by decide⟩

theorem newlineIndent_ne_cr (level : Nat) : '\r' ∉ newlineIndent level := by
  simp only [newlineIndent, List.mem_cons, List.mem_replicate, not_or, not_and]
  exact ⟨by decide, fun _ => by decide⟩

theorem joinIndented_ne_cr (level : Nat) {parts : List (List Char)} (h : ∀ p ∈ parts, '\r' ∉ p) :
    '\r' ∉ joinIndented level parts := by
  cases parts with
  | nil => exact List.not_mem_nil _
  | cons a ps =>
    simp only [joinIndented, List.mem_append, List.mem_flatMap, List.mem_cons, not_or, not_exists,
      not_and]
    exact ⟨h a (.head _), fun p hp => ⟨⟨by decide, newlineIndent_ne_cr level⟩, h p (.tail _ hp)⟩⟩

/-- A container: its brackets, its items on their lines, and its closing line. -/
theorem bracketed_ne_cr {o c : Char} (ho : o ≠ '\r') (hc : c ≠ '\r') (level level' : Nat)
    {parts : List (List Char)} (h : ∀ p ∈ parts, '\r' ∉ p) :
    '\r' ∉ o :: newlineIndent level ++ joinIndented level parts ++ newlineIndent level' ++ [c] := by
  simp only [List.cons_append, List.mem_cons, List.mem_append, List.not_mem_nil, or_false, not_or]
  exact ⟨ho.symm, ⟨⟨newlineIndent_ne_cr level, joinIndented_ne_cr level h⟩,
    newlineIndent_ne_cr level'⟩, hc.symm⟩

mutual
/-- The text `json.dump` writes holds no carriage return. -/
theorem dumpIndent_ne_cr : ∀ (level : Nat) (v : Value) {t : List Char},
    dumpIndent level v = .ok t → v.Plain → '\r' ∉ t
  | _, .none, _, h, _ => by cases h; decide
  | _, .bool b, _, h, _ => by cases h; cases b <;> decide
  | _, .int i, _, h, _ => by
    obtain ⟨-, rfl⟩ := intRepr_ok h
    have digit : '\r' ∉ decimalDigits i.natAbs := fun hx => by
      have := decimalDigits_digit i.natAbs _ hx
      simp at this
    split
    · rintro (_ | ⟨_, hx⟩)
      exact digit hx
    · exact digit
  | _, .float _, _, _, hp => hp.elim
  | _, .str s, _, h, _ => by cases h; exact encodeStringRaw_ne_cr s
  | _, .list [], _, h, _ => by cases h; decide
  | level, .list (x :: xs), _, h, hp => by
    obtain ⟨parts, hparts, rfl⟩ := dumpIndent_list_ok h
    exact bracketed_ne_cr (by decide) (by decide) _ _ (dumpIndentList_ne_cr _ _ hparts hp)
  | _, .dict [], _, h, _ => by cases h; decide
  | level, .dict (kv :: kvs), _, h, hp => by
    obtain ⟨parts, hparts, rfl⟩ := dumpIndent_dict_ok h
    exact bracketed_ne_cr (by decide) (by decide) _ _ (dumpIndentPairs_ne_cr _ _ hparts hp.2)
theorem dumpIndentList_ne_cr : ∀ (level : Nat) (xs : List Value) {parts : List (List Char)},
    dumpIndentList level xs = .ok parts → Value.PlainList xs → ∀ p ∈ parts, '\r' ∉ p
  | _, [], _, h, _ => by cases h; simp
  | level, x :: xs, _, h, hp => by
    obtain ⟨a, r, ha, hr, rfl⟩ := dumpIndentList_cons_ok h
    rintro p (_ | ⟨_, hp'⟩)
    · exact dumpIndent_ne_cr level x ha hp.1
    · exact dumpIndentList_ne_cr level xs hr hp.2 p hp'
theorem dumpIndentPairs_ne_cr : ∀ (level : Nat) (kvs : List (String × Value))
    {parts : List (List Char)}, dumpIndentPairs level kvs = .ok parts → Value.PlainPairs kvs →
    ∀ p ∈ parts, '\r' ∉ p
  | _, [], _, h, _ => by cases h; simp
  | level, (k, x) :: kvs, _, h, hp => by
    obtain ⟨a, r, ha, hr, rfl⟩ := dumpIndentPairs_cons_ok h
    rintro p (_ | ⟨_, hp'⟩)
    · simp only [List.mem_append, List.mem_cons, not_or]
      exact ⟨encodeStringRaw_ne_cr k, by decide, by decide, dumpIndent_ne_cr level x ha hp.1⟩
    · exact dumpIndentPairs_ne_cr level kvs hr hp.2 p hp'
end

/-! ## When the encoder returns -/

theorem dumpIndentList_ok {level : Nat} {xs : List Value}
    (h : ∀ x ∈ xs, ∃ t, dumpIndent level x = .ok t) : ∃ parts, dumpIndentList level xs = .ok parts := by
  induction xs with
  | nil => exact ⟨[], rfl⟩
  | cons x xs ih =>
    obtain ⟨a, ha⟩ := h x (.head _)
    obtain ⟨r, hr⟩ := ih fun y hy => h y (.tail _ hy)
    exact ⟨a :: r, by rw [dumpIndentList, ha, except_ok_bind, hr]; rfl⟩

theorem dumpIndentPairs_ok {level : Nat} {kvs : List (String × Value)}
    (h : ∀ kv ∈ kvs, ∃ t, dumpIndent level kv.2 = .ok t) :
    ∃ parts, dumpIndentPairs level kvs = .ok parts := by
  induction kvs with
  | nil => exact ⟨[], rfl⟩
  | cons kv kvs ih =>
    obtain ⟨k, x⟩ := kv
    obtain ⟨a, ha⟩ := h (k, x) (.head _)
    obtain ⟨r, hr⟩ := ih fun y hy => h y (.tail _ hy)
    exact ⟨_, by rw [dumpIndentPairs, ha, except_ok_bind, hr]; rfl⟩

/-- A `list` is written when its items are. -/
theorem dumpIndent_list_of {level : Nat} {xs : List Value}
    (h : ∀ x ∈ xs, ∃ t, dumpIndent (level + 1) x = .ok t) : ∃ t, dumpIndent level (.list xs) = .ok t := by
  cases xs with
  | nil => exact ⟨_, rfl⟩
  | cons x xs =>
    obtain ⟨parts, hp⟩ := dumpIndentList_ok h
    exact ⟨_, by rw [dumpIndent, if_neg (by simp), hp]; rfl⟩

/-- A `dict` is written when its values are. -/
theorem dumpIndent_dict_of {level : Nat} {kvs : List (String × Value)}
    (h : ∀ kv ∈ kvs, ∃ t, dumpIndent (level + 1) kv.2 = .ok t) :
    ∃ t, dumpIndent level (.dict kvs) = .ok t := by
  cases kvs with
  | nil => exact ⟨_, rfl⟩
  | cons kv kvs =>
    obtain ⟨parts, hp⟩ := dumpIndentPairs_ok h
    exact ⟨_, by rw [dumpIndent, if_neg (by simp), hp]; rfl⟩

end Json
end UsbPassthrough
