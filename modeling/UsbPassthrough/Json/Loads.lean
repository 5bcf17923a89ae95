import UsbPassthrough.Json.Dumps

/-!
# UsbPassthrough.Json.Loads

`json.loads(s)` on a `str`, as `json_transport.receive` calls it: `JSONDecoder.decode` around the
C scanner of `_json.c` (`scan_once_unicode`, `_parse_object_unicode`, `_parse_array_unicode`,
`scanstring_unicode`, `_match_number_unicode`) with `strict=True`.

The scanner reads the text from the front and keeps the index of the next character, which the
`JSONDecodeError` it raises carries. A `StopIteration` of the C scanner, at any depth, reaches
`raw_decode` and becomes `JSONDecodeError("Expecting value", s, idx)`; it is raised as that here.

Two departures, both named in `PyError`. A lone surrogate escape ends the scan
(`loneSurrogate`), where Python returns a `str` holding the surrogate: Lean's `String` cannot hold
one, so the values `json.loads` can build with one (and what the code then does with them, such as
a UTF-8 write that raises `UnicodeEncodeError`) are outside the model. And the nesting the scanner
follows is bounded by a fuel argument, which `loads` sets to the length of the text, so that it
never runs out (`recursionError`); Python raises `RecursionError` once the nesting passes the
interpreter's recursion limit, which depends on the depth of the calling stack, and the model
parses such a document instead.
-/

namespace UsbPassthrough
namespace Json

/-- `IS_WHITESPACE` of `_json.c`, and the `[ \t\n\r]` of `json.decoder.WHITESPACE`. -/
def isWs (c : Char) : Bool := c = ' ' || c = '\t' || c = '\n' || c = '\r'

/-- Skip whitespace: the index and the text after it. -/
def skipWs : Nat → List Char → Nat × List Char
  | pos, c :: cs => if isWs c then skipWs (pos + 1) cs else (pos, c :: cs)
  | pos, [] => (pos, [])

/-- The value of a hexadecimal digit of a `\uXXXX` escape. -/
def hexVal (c : Char) : Option Nat :=
  if '0' ≤ c ∧ c ≤ '9' then some (c.toNat - 48)
  else if 'a' ≤ c ∧ c ≤ 'f' then some (c.toNat - 87)
  else if 'A' ≤ c ∧ c ≤ 'F' then some (c.toNat - 55)
  else none

def hex4 (a b c d : Char) : Option Nat := do
  let a ← hexVal a
  let b ← hexVal b
  let c ← hexVal c
  let d ← hexVal d
  pure (((a * 16 + b) * 16 + c) * 16 + d)

/-- The escapes other than `\u`. -/
def simpleEscape : Char → Option Char
  | '"' => some '"'
  | '\\' => some '\\'
  | '/' => some '/'
  | 'b' => some '\x08'
  | 'f' => some '\x0c'
  | 'n' => some '\n'
  | 'r' => some '\r'
  | 't' => some '\t'
  | _ => none

/-- The text after `c`, when the text starts with `c`. -/
def afterChar (c : Char) : List Char → Option (List Char)
  | x :: rest => if x = c then some rest else none
  | [] => none

/-- What one step of the loop of `scanstring_unicode` reads. -/
inductive StrPiece where
  /-- The closing quote, and the text after it. -/
  | close (rest : List Char)
  /-- A character of the string, written as `len` characters of text, and the text after them. -/
  | char (c : Char) (len : Nat) (rest : List Char)

/-- One step of `scanstring_unicode` at index `pos`, inside the string opened at index `begin`.
A `\u` escape needs one more character after its four digits, and the low half of a surrogate
pair one more after its own. -/
def scanPiece (begin pos : Nat) : List Char → Except PyError StrPiece
  | [] => .error (.jsonDecodeError "Unterminated string starting at" begin)
  | c :: rest =>
    if c = '"' then .ok (.close rest)
    else if c = '\\' then
      match rest with
      | [] => .error (.jsonDecodeError "Unterminated string starting at" begin)
      | x :: rest =>
        if x = 'u' then
          match rest with
          | a :: b :: c :: d :: e :: tail =>
            match hex4 a b c d with
            | none => .error (.jsonDecodeError "Invalid \\uXXXX escape" (pos + 1))
            | some u =>
              if 0xd800 ≤ u ∧ u ≤ 0xdbff then
                match e :: tail with
                | e :: x' :: a' :: b' :: c' :: d' :: e' :: tail' =>
                  if e = '\\' ∧ x' = 'u' then
                    match hex4 a' b' c' d' with
                    | none => .error (.jsonDecodeError "Invalid \\uXXXX escape" (pos + 7))
                    | some u' =>
                      if 0xdc00 ≤ u' ∧ u' ≤ 0xdfff then
                        .ok (.char (Char.ofNat (0x10000 + (u - 0xd800) * 1024 + (u' - 0xdc00))) 12
                          (e' :: tail'))
                      else .error (.loneSurrogate pos)
                  else .error (.loneSurrogate pos)
                | _ => .error (.loneSurrogate pos)
              else if 0xdc00 ≤ u ∧ u ≤ 0xdfff then .error (.loneSurrogate pos)
              else .ok (.char (Char.ofNat u) 6 (e :: tail))
          | _ => .error (.jsonDecodeError "Invalid \\uXXXX escape" (pos + 1))
        else
          match simpleEscape x with
          | some c' => .ok (.char c' 2 rest)
          | none => .error (.jsonDecodeError "Invalid \\escape" pos)
    else if c.toNat ≤ 0x1f then .error (.jsonDecodeError "Invalid control character at" pos)
    else .ok (.char c 1 rest)

/-- The loop of `scanstring_unicode`; the characters read so far are `acc`. Every step reads at
least one character, so fuel of one more than the length of the text never runs out. -/
def scanStringLoop (begin : Nat) : Nat → Nat → List Char → List Char →
    Except PyError (String × Nat × List Char)
  | 0, _, _, _ => .error .recursionError
  | fuel + 1, pos, acc, s =>
    match scanPiece begin pos s with
    | .error e => .error e
    | .ok (.close rest) => .ok (String.mk acc, pos + 1, rest)
    | .ok (.char c len rest) => scanStringLoop begin fuel (pos + len) (acc ++ [c]) rest

/-- `scanstring_unicode`, from the character at index `pos` after the opening quote at index
`begin`: the string, the index after the closing quote, and the text after it. -/
def scanString (begin pos : Nat) (s : List Char) : Except PyError (String × Nat × List Char) :=
  scanStringLoop begin (s.length + 1) pos [] s

def isDigit (c : Char) : Bool := '0' ≤ c && c ≤ '9'

/-- The exponent `[eE][-+]?\d+`, if one is there. -/
def matchExponent : List Char → Option (List Char × List Char)
  | e :: s :: d :: rest =>
    if (e = 'e' ∨ e = 'E') ∧ (s = '-' ∨ s = '+') ∧ isDigit d then
      some (e :: s :: d :: rest.takeWhile isDigit, rest.dropWhile isDigit)
    else if (e = 'e' ∨ e = 'E') ∧ isDigit s then
      some (e :: s :: (d :: rest).takeWhile isDigit, (d :: rest).dropWhile isDigit)
    else none
  | [e, d] => if (e = 'e' ∨ e = 'E') ∧ isDigit d then some ([e, d], []) else none
  | _ => none

/-- The fraction `\.\d+`, if one is there. -/
def matchFraction : List Char → Option (List Char × List Char)
  | '.' :: d :: rest =>
    if isDigit d then some ('.' :: d :: rest.takeWhile isDigit, rest.dropWhile isDigit) else none
  | _ => none

/-- The integer part `-?(0|[1-9]\d*)`. -/
def matchInt : List Char → Option (List Char × List Char)
  | '-' :: rest => (matchInt' rest).map fun (t, r) => ('-' :: t, r)
  | s => matchInt' s
where
  matchInt' : List Char → Option (List Char × List Char)
    | '0' :: rest => some (['0'], rest)
    | d :: rest => if isDigit d then some (d :: rest.takeWhile isDigit, rest.dropWhile isDigit) else none
    | [] => none

/-- `int(numstr)`, for the text of an integer: more digits than the limit raise `ValueError`. -/
def parseInt (t : List Char) : Except PyError Int :=
  let ds := if t.head? = some '-' then t.tail else t
  if intMaxStrDigits < ds.length then
    .error (.valueError ("Exceeds the limit (4300 digits) for integer string conversion: value has " ++
      toString ds.length ++ " digits; use sys.set_int_max_str_digits() to increase the limit"))
  else .ok (if t.head? = some '-' then -(digitsValue ds : Int) else digitsValue ds)

/-- `_match_number_unicode` at index `pos`: an `int`, or a `float` kept as its text. -/
def matchNumber (pos : Nat) (s : List Char) : Except PyError (Value × Nat × List Char) :=
  match matchInt s with
  | none => .error (.jsonDecodeError "Expecting value" pos)
  | some (i, r) =>
    let (f, r) := (matchFraction r).getD ([], r)
    let (e, r) := (matchExponent r).getD ([], r)
    let t := i ++ f ++ e
    if f.isEmpty ∧ e.isEmpty then do
      let n ← parseInt i
      pure (.int n, pos + t.length, r)
    else pure (.float (String.mk t), pos + t.length, r)

mutual
/-- `scan_once_unicode` at index `pos`. -/
def scanOnce : Nat → Nat → List Char → Except PyError (Value × Nat × List Char)
  | 0, _, _ => .error .recursionError
  | _ + 1, pos, [] => .error (.jsonDecodeError "Expecting value" pos)
  | fuel + 1, pos, c :: rest =>
    if c = '"' then do
      let (s, pos', rest') ← scanString pos (pos + 1) rest
      pure (.str s, pos', rest')
    else if c = '{' then
      let (pos', rest') := skipWs (pos + 1) rest
      match afterChar '}' rest' with
      | some rest'' => .ok (.dict [], pos' + 1, rest'')
      | none => parseObject fuel pos' rest' []
    else if c = '[' then
      let (pos', rest') := skipWs (pos + 1) rest
      match afterChar ']' rest' with
      | some rest'' => .ok (.list [], pos' + 1, rest'')
      | none => parseArray fuel pos' rest' []
    else if c = 'n' ∧ rest.take 3 = "ull".toList then .ok (.none, pos + 4, rest.drop 3)
    else if c = 't' ∧ rest.take 3 = "rue".toList then .ok (.bool true, pos + 4, rest.drop 3)
    else if c = 'f' ∧ rest.take 4 = "alse".toList then .ok (.bool false, pos + 5, rest.drop 4)
    else if c = 'N' ∧ rest.take 2 = "aN".toList then .ok (.float "NaN", pos + 3, rest.drop 2)
    else if c = 'I' ∧ rest.take 7 = "nfinity".toList then
      .ok (.float "Infinity", pos + 8, rest.drop 7)
    else if c = '-' ∧ rest.take 8 = "Infinity".toList then
      .ok (.float "-Infinity", pos + 9, rest.drop 8)
    else matchNumber pos (c :: rest)
/-- The loop of `_parse_object_unicode`, at a key; the items read so far are `acc`. -/
def parseObject : Nat → Nat → List Char → List (String × Value) →
    Except PyError (Value × Nat × List Char)
  | 0, _, _, _ => .error .recursionError
  | fuel + 1, pos, s, acc =>
    match afterChar '"' s with
    | none => .error (.jsonDecodeError "Expecting property name enclosed in double quotes" pos)
    | some rest => do
      let (key, pos, rest) ← scanString pos (pos + 1) rest
      let (pos, rest) := skipWs pos rest
      match afterChar ':' rest with
      | none => .error (.jsonDecodeError "Expecting ':' delimiter" pos)
      | some rest =>
        let (pos, rest) := skipWs (pos + 1) rest
        let (v, pos, rest) ← scanOnce fuel pos rest
        let (pos, rest) := skipWs pos rest
        match afterChar '}' rest with
        | some rest => .ok (.dict (setEntry key v acc), pos + 1, rest)
        | none =>
          match afterChar ',' rest with
          | some rest =>
            let (pos, rest) := skipWs (pos + 1) rest
            parseObject fuel pos rest (setEntry key v acc)
          | none => .error (.jsonDecodeError "Expecting ',' delimiter" pos)
/-- The loop of `_parse_array_unicode`, at an item; the items read so far are `acc`. -/
def parseArray : Nat → Nat → List Char → List Value → Except PyError (Value × Nat × List Char)
  | 0, _, _, _ => .error .recursionError
  | fuel + 1, pos, s, acc => do
    let (v, pos, rest) ← scanOnce fuel pos s
    let (pos, rest) := skipWs pos rest
    match afterChar ']' rest with
    | some rest => .ok (.list (acc ++ [v]), pos + 1, rest)
    | none =>
      match afterChar ',' rest with
      | some rest =>
        let (pos, rest) := skipWs (pos + 1) rest
        parseArray fuel pos rest (acc ++ [v])
      | none => .error (.jsonDecodeError "Expecting ',' delimiter" pos)
end

/-- `json.loads(s)`: a byte order mark first is refused, then `JSONDecoder.decode`, which skips
whitespace around the one value and refuses anything after it. -/
def loads (s : List Char) : Except PyError Value :=
  if s.head? = some (Char.ofNat 0xfeff) then
    .error (.jsonDecodeError "Unexpected UTF-8 BOM (decode using utf-8-sig)" 0)
  else do
    let (pos, rest) := skipWs 0 s
    let (v, pos, rest) ← scanOnce (s.length + 1) pos rest
    let (pos, rest) := skipWs pos rest
    if rest.isEmpty then pure v else .error (.jsonDecodeError "Extra data" pos)

end Json
end UsbPassthrough
