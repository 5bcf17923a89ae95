import UsbPassthrough.Json.RoundTrip

/-!
# UsbPassthrough.Channel.Transport

`upm.channel.json_transport`: one JSON value a line over a stream socket. `send` hands
`(json.dumps(obj, separators=(",", ":")) + "\n").encode("utf-8")` to `sock.sendall`; `receive`
calls `sock.recv(4096)` until it returns `b""`, keeps in `buf` what it has not split yet, and for
every complete line yields `json.loads` of the line, stripped and decoded, skipping blank lines.

Bytes are `UInt8`s. What `sock.recv` returns is given as the list of its results, call after
call, with how the socket ends after them: `b""`, or an exception. The interpreter's recursion
limit is not modelled, in `json.dumps` nor in `json.loads`.

* `drainAll_append`: the inner loop is incremental: draining `buf` and then what is left with
  more bytes is draining `buf` with them;
* `receive_eq_batch`: how `recv` cut the stream does not matter: `receive` yields what the inner
  loop yields on the whole stream at once;
* `utf8Decode_utf8Encode`: the strict decoder reads back every string the encoder writes;
* `receive_sendAll`: whatever the cut, `receive` yields back the values `send` wrote, in order,
  and nothing else.
-/

namespace UsbPassthrough
namespace Channel

open Json

/-! ## UTF-8 -/

/-- `str.encode("utf-8")` of one character. -/
def utf8EncodeChar (c : Char) : List UInt8 :=
  let n := c.toNat
  if n < 0x80 then [n.toUInt8]
  else if n < 0x800 then [(0xc0 + n / 0x40).toUInt8, (0x80 + n % 0x40).toUInt8]
  else if n < 0x10000 then
    [(0xe0 + n / 0x1000).toUInt8, (0x80 + n / 0x40 % 0x40).toUInt8, (0x80 + n % 0x40).toUInt8]
  else
    [(0xf0 + n / 0x40000).toUInt8, (0x80 + n / 0x1000 % 0x40).toUInt8,
      (0x80 + n / 0x40 % 0x40).toUInt8, (0x80 + n % 0x40).toUInt8]

/-- `str.encode("utf-8")`. -/
def utf8Encode (s : List Char) : List UInt8 := s.flatMap utf8EncodeChar

/-- A lead byte the strict decoder accepts (RFC 3629): how many continuation bytes follow it, and
the range of the first of them. -/
def leadByte (b : Nat) : Option (Nat × Nat × Nat) :=
  if 0xc2 ≤ b ∧ b ≤ 0xdf then some (1, 0x80, 0xbf)
  else if b = 0xe0 then some (2, 0xa0, 0xbf)
  else if 0xe1 ≤ b ∧ b ≤ 0xef ∧ b ≠ 0xed then some (2, 0x80, 0xbf)
  else if b = 0xed then some (2, 0x80, 0x9f)
  else if b = 0xf0 then some (3, 0x90, 0xbf)
  else if 0xf1 ≤ b ∧ b ≤ 0xf3 then some (3, 0x80, 0xbf)
  else if b = 0xf4 then some (3, 0x80, 0x8f)
  else none

/-- The strict decoder a byte at a time: `need` more continuation bytes are expected for the
character whose bits so far are `acc`, the next of them in `lo..hi`. -/
def utf8DecodeFrom : Nat → Nat → Nat → Nat → List UInt8 → Except PyError (List Char)
  | 0, _, _, _, [] => .ok []
  | _ + 1, _, _, _, [] => .error .unicodeDecodeError
  | 0, _, _, _, b :: bs =>
    if b.toNat < 0x80 then (Char.ofNat b.toNat :: ·) <$> utf8DecodeFrom 0 0 0 0 bs
    else
      match leadByte b.toNat with
      | some (n, lo, hi) => utf8DecodeFrom n (b.toNat % (0x40 / 2 ^ n)) lo hi bs
      | none => .error .unicodeDecodeError
  | need + 1, acc, lo, hi, b :: bs =>
    if lo ≤ b.toNat ∧ b.toNat ≤ hi then
      if need = 0 then (Char.ofNat (acc * 0x40 + b.toNat % 0x40) :: ·) <$> utf8DecodeFrom 0 0 0 0 bs
      else utf8DecodeFrom need (acc * 0x40 + b.toNat % 0x40) 0x80 0xbf bs
    else .error .unicodeDecodeError

/-- `bytes.decode("utf-8")`, strict: an invalid or truncated sequence raises. -/
def utf8Decode (bs : List UInt8) : Except PyError (List Char) := utf8DecodeFrom 0 0 0 0 bs

/-! ## Framing -/

/-- The bytes `bytes.strip()` removes: ASCII whitespace, `b" \t\n\r\x0b\x0c"`. -/
def isSpace (b : UInt8) : Bool := b.toNat = 32 || (9 ≤ b.toNat && b.toNat ≤ 13)

/-- `bytes.strip()`. -/
def strip (bs : List UInt8) : List UInt8 :=
  ((bs.dropWhile isSpace).reverse.dropWhile isSpace).reverse

/-- `buf.split(b"\n", 1)`, when `b"\n" in buf`. -/
def splitNewline (buf : List UInt8) : Option (List UInt8 × List UInt8) :=
  if (10 : UInt8) ∈ buf then some (buf.takeWhile (· != 10), (buf.dropWhile (· != 10)).drop 1)
  else none

/-- A complete line: `line.strip()`, nothing if that is empty, else
`json.loads(line.decode("utf-8"))`. -/
def parseLine (line : List UInt8) : Except PyError (Option Value) :=
  let line := strip line
  if line.isEmpty then .ok none
  else do
    let s ← utf8Decode line
    let v ← loads s
    pure (some v)

/-- The inner `while b"\n" in buf` loop: the values it yields, the `buf` it leaves, and the
exception that ends the generator. Each turn removes a newline, so `buf.length + 1` turns are
enough (`drain_eq_drainAll`). -/
def drain : Nat → List UInt8 → List Value × List UInt8 × Option PyError
  | 0, buf => ([], buf, none)
  | fuel + 1, buf =>
    match splitNewline buf with
    | none => ([], buf, none)
    | some (line, buf) =>
      match parseLine line with
      | .error e => ([], buf, some e)
      | .ok none => drain fuel buf
      | .ok (some v) =>
        let (vs, buf, err) := drain fuel buf
        (v :: vs, buf, err)

/-- The inner loop run to its end. -/
def drainAll (buf : List UInt8) : List Value × List UInt8 × Option PyError :=
  drain (buf.length + 1) buf

/-- What `json_transport.receive` yields on one connection, and how it stops: `none` at the end of
the stream, or the exception it raises. -/
structure Received where
  values : List Value
  stop : Option PyError

/-- The outer `while True` loop, `buf` what earlier chunks left: `sock.recv(4096)` returns
`chunks` one by one and then `b""` (`stop = none`) or raises (`stop = some e`). An empty chunk is
the end of the stream. -/
def receiveFrom (buf : List UInt8) : List (List UInt8) → Option PyError → Received
  | [], stop => ⟨[], stop⟩
  | chunk :: chunks, stop =>
    if chunk.isEmpty then ⟨[], none⟩
    else
      match drainAll (buf ++ chunk) with
      | (vs, _, some e) => ⟨vs, some e⟩
      | (vs, buf, none) =>
        let r := receiveFrom buf chunks stop
        ⟨vs ++ r.values, r.stop⟩

/-- `json_transport.receive(sock)`, run to its end. -/
def receive (chunks : List (List UInt8)) (stop : Option PyError) : Received :=
  receiveFrom [] chunks stop

/-- `json_transport.send(sock, obj)`: the bytes it hands to `sock.sendall`. -/
def send (obj : Value) : Except PyError (List UInt8) := do
  let text ← dumps obj
  pure (utf8Encode (text ++ ['\n']))

/-- `send` for each value in turn: the stream they write, or the exception of the first that
raises. -/
def sendAll : List Value → Except PyError (List UInt8)
  | [] => .ok []
  | obj :: objs => do
    let bs ← send obj
    let rest ← sendAll objs
    pure (bs ++ rest)

/-- The whole stream at once: the values of its complete lines, up to the first line that
raises. -/
def batch (stream : List UInt8) (stop : Option PyError) : Received :=
  match drainAll stream with
  | (vs, _, some e) => ⟨vs, some e⟩
  | (vs, _, none) => ⟨vs, stop⟩

/-! ## Lines -/

theorem exists_first_newline {buf : List UInt8} (h : (10 : UInt8) ∈ buf) :
    ∃ line rest, buf = line ++ 10 :: rest ∧ (10 : UInt8) ∉ line := by
  induction buf with
  | nil => cases h
  | cons b bs ih =>
    by_cases hb : b = 10
    · exact ⟨[], bs, by rw [hb]; rfl, List.not_mem_nil _⟩
    · obtain ⟨line, rest, rfl, hl⟩ := ih ((List.mem_cons.mp h).resolve_left (Ne.symm hb))
      exact ⟨b :: line, rest, rfl, by simp [Ne.symm hb, hl]⟩

theorem splitNewline_none {buf : List UInt8} (h : (10 : UInt8) ∉ buf) : splitNewline buf = none := by
  simp [splitNewline, h]

theorem splitNewline_line {line : List UInt8} (h : (10 : UInt8) ∉ line) (rest : List UInt8) :
    splitNewline (line ++ 10 :: rest) = some (line, rest) := by
  have hl : ∀ b ∈ line, (b != 10) = true := fun b hb => by
    simpa using fun e : b = 10 => h (e ▸ hb)
  simp [splitNewline, List.takeWhile_append_of_pos hl, List.dropWhile_append_of_pos hl]

theorem drain_fuel_mono : ∀ (fuel : Nat) (buf : List UInt8), buf.length < fuel →
    ∀ g, fuel ≤ g → drain g buf = drain fuel buf
  | 0, _, h, _, _ => absurd h (Nat.not_lt_zero _)
  | fuel + 1, buf, h, g + 1, hg => by
    by_cases hn : (10 : UInt8) ∈ buf
    · obtain ⟨line, rest, rfl, hl⟩ := exists_first_newline hn
      have hr : rest.length < fuel := by simp at h; omega
      simp only [drain, splitNewline_line hl, drain_fuel_mono fuel rest hr g (by omega)]
    · simp only [drain, splitNewline_none hn]

theorem drain_eq_drainAll {fuel : Nat} {buf : List UInt8} (h : buf.length < fuel) :
    drain fuel buf = drainAll buf :=
  drain_fuel_mono (buf.length + 1) buf (Nat.lt_succ_self _) fuel h

theorem drainAll_of_not_mem {buf : List UInt8} (h : (10 : UInt8) ∉ buf) :
    drainAll buf = ([], buf, none) := by
  simp [drainAll, drain, splitNewline_none h]

/-- One complete line of the buffer, by what `parseLine` makes of it. -/
theorem drainAll_line {line : List UInt8} (h : (10 : UInt8) ∉ line) (rest : List UInt8) :
    drainAll (line ++ 10 :: rest) =
      match parseLine line with
      | .error e => ([], rest, some e)
      | .ok none => drainAll rest
      | .ok (some v) => (v :: (drainAll rest).1, (drainAll rest).2) := by
  have hr : rest.length < (line ++ 10 :: rest).length := by simp; omega
  simp only [drainAll, drain, splitNewline_line h, drain_eq_drainAll hr]

/-- The inner loop is incremental: more bytes after `buf` change nothing of what `buf`'s complete
lines yield, and are drained with what `buf` leaves. -/
theorem drainAll_append (buf more : List UInt8) :
    drainAll (buf ++ more) =
      match drainAll buf with
      | (vs, rest, some e) => (vs, rest ++ more, some e)
      | (vs, rest, none) => (vs ++ (drainAll (rest ++ more)).1, (drainAll (rest ++ more)).2) := by
  obtain ⟨n, hlen⟩ : ∃ n, buf.length < n := ⟨_, Nat.lt_succ_self _⟩
  induction n generalizing buf with
  | zero => exact absurd hlen (Nat.not_lt_zero _)
  | succ n ih =>
    by_cases hn : (10 : UInt8) ∈ buf
    · obtain ⟨line, rest, rfl, hl⟩ := exists_first_newline hn
      have hr : rest.length < n := by simp at hlen; omega
      rw [List.append_assoc, List.cons_append, drainAll_line hl, drainAll_line hl]
      rcases parseLine line with e | _ | v
      · rfl
      · exact ih rest hr
      · dsimp only
        rw [ih rest hr]
        rcases drainAll rest with ⟨vs, r, _ | e⟩ <;> rfl
    · rw [drainAll_of_not_mem hn]
      rfl

theorem drainAll_not_mem_rest {buf : List UInt8} (h : (drainAll buf).2.2 = none) :
    (10 : UInt8) ∉ (drainAll buf).2.1 := by
  obtain ⟨n, hlen⟩ : ∃ n, buf.length < n := ⟨_, Nat.lt_succ_self _⟩
  induction n generalizing buf with
  | zero => exact absurd hlen (Nat.not_lt_zero _)
  | succ n ih =>
    by_cases hn : (10 : UInt8) ∈ buf
    · obtain ⟨line, rest, rfl, hline⟩ := exists_first_newline hn
      have hr : rest.length < n := by simp at hlen; omega
      rw [drainAll_line hline] at h ⊢
      rcases hp : parseLine line with e | _ | v <;> simp only [hp] at h ⊢
      · cases h
      · exact ih h hr
      · exact ih h hr
    · rwa [drainAll_of_not_mem hn]

/-! ## Chunks -/

/-- `receive` reads up to the first empty chunk, the end of the stream: from a `buf` with no
newline left, it yields what the inner loop yields on `buf` and the chunks before that one at
once, and ends with `stop` only when no chunk was empty. -/
theorem receiveFrom_eq_batch_eof : ∀ (chunks : List (List UInt8)) (buf : List UInt8)
    (stop : Option PyError), (10 : UInt8) ∉ buf →
    receiveFrom buf chunks stop = batch (buf ++ (chunks.takeWhile (!·.isEmpty)).flatten)
      (if chunks.any List.isEmpty then none else stop)
  | [], buf, stop, hb => by
    simp [receiveFrom, batch, drainAll_of_not_mem hb]
  | chunk :: chunks, buf, stop, hb => by
    cases hne : chunk.isEmpty
    · rw [receiveFrom, if_neg (by simp [hne]), List.takeWhile_cons_of_pos (by simp [hne]),
        List.flatten_cons, ← List.append_assoc, List.any_cons, hne, Bool.false_or, batch,
        drainAll_append (buf ++ chunk)]
      rcases hd : drainAll (buf ++ chunk) with ⟨vs, rest, _ | e⟩
      · have hr := @drainAll_not_mem_rest (buf ++ chunk) (by rw [hd])
        rw [hd] at hr
        dsimp only
        rw [receiveFrom_eq_batch_eof chunks rest stop hr, batch]
        rcases drainAll (rest ++ _) with ⟨vs', rest', _ | e'⟩ <;> rfl
      · rfl
    · simp [receiveFrom, hne, List.takeWhile_cons_of_neg, batch, drainAll_of_not_mem hb]

/-- `receive` does not depend on how `recv` cut the stream: from a `buf` with no newline left,
it yields what the inner loop yields on `buf` and all the chunks at once. -/
theorem receiveFrom_eq_batch (chunks : List (List UInt8)) (buf : List UInt8)
    (stop : Option PyError) (hc : ∀ c ∈ chunks, c ≠ []) (hb : (10 : UInt8) ∉ buf) :
    receiveFrom buf chunks stop = batch (buf ++ chunks.flatten) stop := by
  have hne : ∀ c ∈ chunks, (!c.isEmpty) = true := fun c hm => by simpa using hc c hm
  rw [receiveFrom_eq_batch_eof chunks buf stop hb, List.takeWhile_eq_self_iff.mpr hne,
    if_neg (by simpa using fun h => hc [] h rfl)]

theorem receive_eq_batch (chunks : List (List UInt8)) (stop : Option PyError)
    (hc : ∀ c ∈ chunks, c ≠ []) : receive chunks stop = batch chunks.flatten stop :=
  receiveFrom_eq_batch chunks [] stop hc (List.not_mem_nil _)

/-! ## What `send` writes -/

theorem toNat_toUInt8 {n : Nat} (h : n < 256) : n.toUInt8.toNat = n :=
  UInt8.toNat_ofNat_of_lt h

theorem utf8Encode_ascii {s : List Char} (h : ∀ c ∈ s, c.toNat < 0x80) :
    utf8Encode s = s.map fun c => c.toNat.toUInt8 := by
  induction s with
  | nil => rfl
  | cons c s ih =>
    simp only [utf8Encode, List.flatMap_cons, List.map_cons] at ih ⊢
    rw [ih fun d hd => h d (.tail _ hd)]
    simp [utf8EncodeChar, h c (.head _)]

/-! ## UTF-8 round trip -/

theorem utf8DecodeFrom_ascii {m : Nat} (h : m < 0x80) (bs : List UInt8) :
    utf8DecodeFrom 0 0 0 0 (m.toUInt8 :: bs) = (Char.ofNat m :: ·) <$> utf8DecodeFrom 0 0 0 0 bs := by
  rw [utf8DecodeFrom, toNat_toUInt8 (by omega), if_pos h]

theorem utf8DecodeFrom_lead {m n lo hi : Nat} (h : 0x80 ≤ m ∧ m < 0x100)
    (hl : leadByte m = some (n, lo, hi)) (bs : List UInt8) :
    utf8DecodeFrom 0 0 0 0 (m.toUInt8 :: bs) = utf8DecodeFrom n (m % (0x40 / 2 ^ n)) lo hi bs := by
  rw [utf8DecodeFrom, toNat_toUInt8 h.2, if_neg (by omega), hl]

theorem utf8DecodeFrom_cont {need acc lo hi m : Nat} (hm : m < 0x100) (h : lo ≤ m ∧ m ≤ hi)
    (bs : List UInt8) :
    utf8DecodeFrom (need + 2) acc lo hi (m.toUInt8 :: bs) =
      utf8DecodeFrom (need + 1) (acc * 0x40 + m % 0x40) 0x80 0xbf bs := by
  rw [utf8DecodeFrom, toNat_toUInt8 hm, if_pos h, if_neg (Nat.succ_ne_zero _)]

theorem utf8DecodeFrom_last {acc lo hi m : Nat} (hm : m < 0x100) (h : lo ≤ m ∧ m ≤ hi)
    (bs : List UInt8) :
    utf8DecodeFrom 1 acc lo hi (m.toUInt8 :: bs) =
      (Char.ofNat (acc * 0x40 + m % 0x40) :: ·) <$> utf8DecodeFrom 0 0 0 0 bs := by
  rw [utf8DecodeFrom, toNat_toUInt8 hm, if_pos h, if_pos rfl]

theorem leadByte_two {n : Nat} (h : 0x80 ≤ n ∧ n < 0x800) :
    leadByte (0xc0 + n / 0x40) = some (1, 0x80, 0xbf) := by
  rw [leadByte, if_pos (by omega)]

/-- The lead byte of a three-byte character is accepted, with a range that admits its next byte:
the overlong and surrogate ranges it excludes hold no scalar value of that length. -/
theorem leadByte_three {n : Nat} (h : 0x800 ≤ n ∧ n < 0x10000) (hs : n < 0xd800 ∨ 0xdfff < n) :
    ∃ lo hi, leadByte (0xe0 + n / 0x1000) = some (2, lo, hi) ∧
      lo ≤ 0x80 + n / 0x40 % 0x40 ∧ 0x80 + n / 0x40 % 0x40 ≤ hi := by
  by_cases he0 : n < 0x1000
  · exact ⟨_, _, by rw [leadByte, if_neg (by omega), if_pos (by omega)], by omega, by omega⟩
  by_cases hed : n / 0x1000 = 13
  · exact ⟨_, _, by rw [leadByte, if_neg (by omega), if_neg (by omega), if_neg (by omega),
      if_pos (by omega)], by omega, by omega⟩
  · exact ⟨_, _, by rw [leadByte, if_neg (by omega), if_neg (by omega), if_pos (by omega)],
      by omega, by omega⟩

/-- The lead byte of a four-byte character is accepted, with a range that admits its next byte. -/
theorem leadByte_four {n : Nat} (h : 0x10000 ≤ n ∧ n < 0x110000) :
    ∃ lo hi, leadByte (0xf0 + n / 0x40000) = some (3, lo, hi) ∧
      lo ≤ 0x80 + n / 0x1000 % 0x40 ∧ 0x80 + n / 0x1000 % 0x40 ≤ hi := by
  have hne : ¬(0xc2 ≤ 0xf0 + n / 0x40000 ∧ 0xf0 + n / 0x40000 ≤ 0xdf) := by omega
  have hne' : ¬(0xe1 ≤ 0xf0 + n / 0x40000 ∧ 0xf0 + n / 0x40000 ≤ 0xef ∧ 0xf0 + n / 0x40000 ≠ 0xed) :=
    by omega
  by_cases hf0 : n < 0x40000
  · exact ⟨_, _, by rw [leadByte, if_neg hne, if_neg (by omega), if_neg hne', if_neg (by omega),
      if_pos (by omega)], by omega, by omega⟩
  by_cases hf4 : n < 0x100000
  · exact ⟨_, _, by rw [leadByte, if_neg hne, if_neg (by omega), if_neg hne', if_neg (by omega),
      if_neg (by omega), if_pos (by omega)], by omega, by omega⟩
  · exact ⟨_, _, by rw [leadByte, if_neg hne, if_neg (by omega), if_neg hne', if_neg (by omega),
      if_neg (by omega), if_neg (by omega), if_pos (by omega)], by omega, by omega⟩

/-- A continuation byte `0x80 + k % 0x40` carries the six bits `k % 0x40`. -/
theorem contByte_mod (k : Nat) : (0x80 + k % 0x40) % 0x40 = k % 0x40 := by omega

/-- The decoder reads back the bytes of one character, whatever follows them. -/
theorem utf8DecodeFrom_encodeChar (c : Char) (rest : List UInt8) :
    utf8DecodeFrom 0 0 0 0 (utf8EncodeChar c ++ rest) = (c :: ·) <$> utf8DecodeFrom 0 0 0 0 rest := by
  have hv := Json.Char.toNat_valid c
  have back := Char.ofNat_toNat c
  unfold utf8EncodeChar
  dsimp only
  generalize c.toNat = n at hv back ⊢
  split_ifs with h1 h2 h3
  · rw [List.singleton_append, utf8DecodeFrom_ascii h1, back]
  · rw [List.cons_append, List.singleton_append, utf8DecodeFrom_lead (by omega)
      (leadByte_two (by omega)), utf8DecodeFrom_last (by omega) (by omega), contByte_mod,
      show (0xc0 + n / 0x40) % (0x40 / 2 ^ 1) * 0x40 + n % 0x40 = n by omega, back]
  · obtain ⟨lo, hi, hl, hb⟩ := @leadByte_three n (by omega) (by omega)
    rw [List.cons_append, List.cons_append, List.singleton_append, utf8DecodeFrom_lead (by omega) hl,
      utf8DecodeFrom_cont (by omega) hb, utf8DecodeFrom_last (by omega) (by omega), contByte_mod,
      contByte_mod, show ((0xe0 + n / 0x1000) % (0x40 / 2 ^ 2) * 0x40 + n / 0x40 % 0x40) * 0x40 +
        n % 0x40 = n by omega, back]
  · obtain ⟨lo, hi, hl, hb⟩ := @leadByte_four n (by omega)
    rw [List.cons_append, List.cons_append, List.cons_append, List.singleton_append,
      utf8DecodeFrom_lead (by omega) hl, utf8DecodeFrom_cont (by omega) hb,
      utf8DecodeFrom_cont (by omega) (by omega), utf8DecodeFrom_last (by omega) (by omega),
      contByte_mod, contByte_mod, contByte_mod,
      show (((0xf0 + n / 0x40000) % (0x40 / 2 ^ 3) * 0x40 + n / 0x1000 % 0x40) * 0x40 +
        n / 0x40 % 0x40) * 0x40 + n % 0x40 = n by omega, back]

/-- `bytes.decode("utf-8")` inverts `str.encode("utf-8")`. -/
theorem utf8Decode_utf8Encode (s : List Char) : utf8Decode (utf8Encode s) = .ok s := by
  induction s with
  | nil => rfl
  | cons c s ih =>
    rw [utf8Encode, List.flatMap_cons, utf8Decode, utf8DecodeFrom_encodeChar]
    rw [utf8Decode, utf8Encode] at ih
    rw [ih]
    rfl

theorem strip_of_not_space {bs : List UInt8} (hh : ∀ b ∈ bs.head?, isSpace b = false)
    (hl : ∀ b ∈ bs.getLast?, isSpace b = false) : strip bs = bs := by
  have drop : ∀ l : List UInt8, (∀ b ∈ l.head?, isSpace b = false) → l.dropWhile isSpace = l := by
    rintro (_ | ⟨b, l⟩) h
    · rfl
    · simp [List.dropWhile_cons, h b rfl]
  rw [strip, drop bs hh, drop _ (by rwa [List.head?_reverse]), List.reverse_reverse]

/-- The byte of a printable character is whitespace only for the space itself. -/
theorem isSpace_printable {c : Char} (h : Printable c) (hs : c ≠ ' ') :
    isSpace c.toNat.toUInt8 = false := by
  have h32 : c.toNat ≠ 32 := fun e => hs (Char.ext (UInt32.toNat.inj (by rw [← Char.toNat, e]; rfl)))
  unfold Printable at h
  simp [isSpace, toNat_toUInt8 (show c.toNat < 256 by omega), h32]
  omega

/-- The line `send` writes for a value, without its newline, reads back as the value. -/
theorem parseLine_dumps {v : Value} {t : List Char} (h : dumps v = .ok t) (hp : v.Plain) :
    parseLine (t.map fun c => c.toNat.toUInt8) = .ok (some v) := by
  have hpr := dumps_printable v h hp
  have hascii : ∀ c ∈ t, c.toNat < 0x80 := fun c hc => by
    have := hpr c hc
    unfold Printable at this
    omega
  obtain ⟨l, hl, hls⟩ := dumps_getLast h hp
  obtain ⟨c, t', rfl, hc, -, -⟩ := dumps_opens h hp
  have hc' : c ≠ ' ' := by
    rintro rfl
    exact absurd hc (by decide)
  have hstrip : strip ((c :: t').map fun c => c.toNat.toUInt8) = (c :: t').map fun c => c.toNat.toUInt8 :=
    strip_of_not_space (by simpa using isSpace_printable (hpr c (.head _)) hc')
      (by
        rw [List.getLast?_map, hl]
        simpa using isSpace_printable (hpr l (List.mem_of_getLast?_eq_some hl)) hls)
  have hne : ((c :: t').map fun c => c.toNat.toUInt8).isEmpty = false := rfl
  rw [parseLine, hstrip, hne, ← utf8Encode_ascii hascii, utf8Decode_utf8Encode]
  simp only [Bool.false_eq_true, if_false, except_ok_bind, loads_dumps h hp, except_pure]

/-- `send` writes the message's text in ASCII, then its only newline. -/
theorem send_line {o : Value} {bs : List UInt8} (h : send o = .ok bs) (hp : o.Plain) :
    ∃ t, dumps o = .ok t ∧ bs = t.map (fun c => c.toNat.toUInt8) ++ [10] ∧
      (10 : UInt8) ∉ t.map fun c => c.toNat.toUInt8 := by
  rw [send, except_bind_eq_ok] at h
  obtain ⟨t, ht, hb⟩ := h
  cases hb
  have hpr : ∀ c ∈ t, Printable c := dumps_printable o ht hp
  have hascii : ∀ c ∈ t ++ ['\n'], c.toNat < 0x80 := by
    intro c hc
    rcases List.mem_append.mp hc with hc | hc
    · exact Nat.lt_of_le_of_lt (hpr c hc).2 (by decide)
    · rw [List.mem_singleton.mp hc]
      decide
  refine ⟨t, ht, by rw [utf8Encode_ascii hascii, List.map_append, List.map_singleton]; rfl, ?_⟩
  simp only [List.mem_map, not_exists, not_and]
  intro c hc e
  have h10 := congrArg UInt8.toNat e
  rw [toNat_toUInt8 (by have := (hpr c hc).2; omega)] at h10
  exact absurd (hpr c hc).1 (by rw [h10]; decide)

theorem drainAll_sendAll {objs : List Value} {stream : List UInt8} (hs : sendAll objs = .ok stream)
    (hp : ∀ o ∈ objs, o.Plain) : drainAll stream = (objs, [], none) := by
  induction objs generalizing stream with
  | nil =>
    cases hs
    rfl
  | cons o objs ih =>
    rw [sendAll, except_bind_eq_ok] at hs
    obtain ⟨bs, hb, hs⟩ := hs
    obtain ⟨rest, hr, hs⟩ := except_bind_eq_ok.mp hs
    cases hs
    have hpo := hp o (.head _)
    obtain ⟨t, ht, rfl, hnl⟩ := send_line hb hpo
    rw [List.append_assoc, List.singleton_append, drainAll_line hnl, parseLine_dumps ht hpo,
      ih hr fun o' h' => hp o' (.tail _ h')]

theorem receive_sendAll {objs : List Value} {stream : List UInt8} (hp : ∀ o ∈ objs, o.Plain)
    (hs : sendAll objs = .ok stream) (chunks : List (List UInt8)) (hc : ∀ c ∈ chunks, c ≠ [])
    (hj : chunks.flatten = stream) : receive chunks none = ⟨objs, none⟩ := by
  rw [receive_eq_batch chunks none hc, hj, batch, drainAll_sendAll hs hp]

/-- Whole messages, then part of one without its newline: `receive` yields the whole ones and
drops the part at the end of the stream. -/
theorem receive_sendAll_partial {objs : List Value} {stream p : List UInt8}
    (hp : ∀ o ∈ objs, o.Plain) (hs : sendAll objs = .ok stream) (hnl : (10 : UInt8) ∉ p)
    (chunks : List (List UInt8)) (hc : ∀ c ∈ chunks, c ≠ []) (hj : chunks.flatten = stream ++ p) :
    receive chunks none = ⟨objs, none⟩ := by
  rw [receive_eq_batch chunks none hc, hj, batch, drainAll_append, drainAll_sendAll hs hp]
  simp [drainAll_of_not_mem hnl]

theorem sendAll_append_single {objs : List Value} {w bs : List UInt8} (hs : sendAll objs = .ok w)
    {o : Value} (ho : send o = .ok bs) : sendAll (objs ++ [o]) = .ok (w ++ bs) := by
  induction objs generalizing w with
  | nil =>
    cases hs
    simp [sendAll, ho]
  | cons x xs ih =>
    rw [sendAll, except_bind_eq_ok] at hs
    obtain ⟨b, hb, hs⟩ := hs
    obtain ⟨rest, hr, hs⟩ := except_bind_eq_ok.mp hs
    cases hs
    simp [sendAll, hb, ih hr]

set_option maxRecDepth 8000 in
/-- A `get_devices` request and a `device_connected` message, cut inside the first line, right
before its newline, and inside the `é` escape of the second. -/
theorem sent_messages_survive_cuts :
    receive (["\x7b\"type\":\"get_dev", "ices\",\"payload\":\x7b\x7d\x7d",
        "\n\x7b\"type\":\"device_connected\",\"payload\":\x7b\"device_id\":\"dev-1\",\"vendor\":\"Acm\\u00",
        "e9\",\"product\":\"Key \\\"Pro\\\"\",\"permitted-vms\":[\"vm-a\",\"vm-b\"],\"current-vm\":null\x7d\x7d\n"].map
        fun s => utf8Encode s.toList) none =
      ⟨[.dict [("type", .str "get_devices"), ("payload", .dict [])],
        .dict [("type", .str "device_connected"), ("payload", .dict [("device_id", .str "dev-1"),
          ("vendor", .str "Acmé"), ("product", .str "Key \"Pro\""),
          ("permitted-vms", .list [.str "vm-a", .str "vm-b"]), ("current-vm", .none)])]], none⟩ :=
  receive_sendAll (by simp [Value.Plain, Value.PlainList, Value.PlainPairs]) (by rfl) _ (by decide)
    (by rfl)

end Channel
end UsbPassthrough
