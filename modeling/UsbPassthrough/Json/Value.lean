import UsbPassthrough.PyDict

/-!
# UsbPassthrough.Json.Value

The values the protocol code handles: Python's JSON data model as `json.loads` builds it
(`None`, `bool`, `int`, `float`, `str`, `list`, and `dict` with `str` keys), and the exceptions
the modelled code raises or lets escape.

A `float` keeps the text of its literal. No modelled function computes with a float: one is only
ever compared with a `str` (never equal), tested for truthiness, or rejected by a type check.
-/

namespace UsbPassthrough

section Except

variable {ε α β : Type}

@[simp] theorem except_ok_bind (a : α) (f : α → Except ε β) : (Except.ok a >>= f) = f a := rfl

@[simp] theorem except_error_bind (e : ε) (f : α → Except ε β) :
    (Except.error e >>= f) = Except.error e := rfl

@[simp] theorem except_pure (a : α) : (pure a : Except ε α) = .ok a := rfl

@[simp] theorem except_throw (e : ε) : (throw e : Except ε α) = .error e := rfl

@[simp] theorem except_map_ok (f : α → β) (a : α) : (f <$> (Except.ok a : Except ε α)) = .ok (f a) :=
  rfl

@[simp] theorem except_map_error (f : α → β) (e : ε) :
    (f <$> (Except.error e : Except ε α)) = .error e := rfl

theorem except_bind_eq_ok {x : Except ε α} {f : α → Except ε β} {b : β} :
    (x >>= f) = .ok b ↔ ∃ a, x = .ok a ∧ f a = .ok b := by
  cases x <;> simp

end Except

/-- Exceptions raised by the modelled code, or by the library calls it makes. -/
inductive PyError where
  | valueError (msg : String)
  /-- `json.JSONDecodeError(msg, doc, pos)`, a subclass of `ValueError`. -/
  | jsonDecodeError (msg : String) (pos : Nat)
  /-- `bytes.decode("utf-8")` on bytes that are not UTF-8. -/
  | unicodeDecodeError
  /-- `'type' object has no attribute 'attr'`. -/
  | attributeError (type attr : String)
  | keyError (key : String)
  | typeError (msg : String)
  /-- A socket operation failed. -/
  | osError
  /-- `RuntimeError`: what `vhotplug`'s attach and detach helpers raise when they fail. -/
  | runtimeError (msg : String)
  /-- A `\u` escape of a lone surrogate: `json.loads` keeps it in the `str` it returns, and a Lean
  `String` cannot hold it, so the model stops there. -/
  | loneSurrogate (pos : Nat)
  /-- `RecursionError`: the JSON scanner nested deeper than it may. -/
  | recursionError
  deriving Repr, DecidableEq

inductive Value where
  | none
  | bool (b : Bool)
  | int (n : Int)
  | float (lit : String)
  | str (s : String)
  | list (xs : List Value)
  | dict (kvs : List (String × Value))
  deriving Repr, Inhabited

/-- A lower-case hexadecimal digit. -/
def hexDigit (d : Nat) : Char := if d < 10 then Char.ofNat (48 + d) else Char.ofNat (87 + d)

/-- One character of `repr(s)` when `q` is the quote `repr` chose. -/
def reprChar (q c : Char) : List Char :=
  if c = q ∨ c = '\\' then ['\\', c]
  else if c = '\t' then ['\\', 't']
  else if c = '\n' then ['\\', 'n']
  else if c = '\r' then ['\\', 'r']
  else if c.toNat < 32 ∨ c.toNat = 127 then ['\\', 'x', hexDigit (c.toNat / 16), hexDigit (c.toNat % 16)]
  else [c]

/-- `repr(s)` of a `str`, as an f-string's `!r` prints it: in single quotes unless `s` holds a
single quote and no double quote. Python also escapes the non-ASCII characters it deems
unprintable; those are kept as they are here. -/
def pyRepr (s : String) : String :=
  let q : Char := if s.contains '\'' && !s.contains '"' then '"' else '\''
  String.mk (q :: s.toList.flatMap (reprChar q) ++ [q])

namespace Json

/-- The value of decimal digits. -/
def digitsValue (ds : List Char) : Nat := ds.foldl (fun n c => n * 10 + (c.toNat - 48)) 0

end Json

namespace Value

/-- `type(v).__name__`. -/
def typeName : Value → String
  | .none => "NoneType"
  | .bool _ => "bool"
  | .int _ => "int"
  | .float _ => "float"
  | .str _ => "str"
  | .list _ => "list"
  | .dict _ => "dict"

/-- `v.get(key, default)`: only a `dict` has a `get` method. -/
def getD (v : Value) (key : String) (default : Value) : Except PyError Value :=
  match v with
  | .dict kvs => .ok ((getEntry key kvs).getD default)
  | w => .error (.attributeError w.typeName "get")

/-- `v == s` for a `str` constant `s`. -/
def isStr (v : Value) (s : String) : Bool :=
  match v with
  | .str t => t = s
  | _ => false

/-- `v.get(key)`. -/
def get (v : Value) (key : String) : Except PyError Value := v.getD key .none

/-- `float(lit) == 0.0`, for the text of a literal the scanner matched:
`-?int(.frac)?([eE][-+]?digits)?`, or `NaN`, `Infinity`, `-Infinity`, none of which is zero.
With `m` the integer its digits spell and `10^k` the power that scales it, the literal is `0.0`
when `m = 0` or when it underflows: `m·10^k ≤ 2^-1075`, half the least subnormal, the tie going
to the even `0.0` (Python's conversion is correctly rounded). Below `10^-(324 + its digits)` a literal
underflows whatever its digits, so `10^-k` is computed only near the boundary. -/
def floatLitIsZero (lit : String) : Bool :=
  let cs := lit.toList.dropWhile (· = '-')
  let mant := cs.takeWhile (fun c => c ≠ 'e' ∧ c ≠ 'E')
  let m := Json.digitsValue (mant.filter (· ≠ '.'))
  let e : Int := match (cs.dropWhile (fun c => c ≠ 'e' ∧ c ≠ 'E')).drop 1 with
    | '-' :: ds => -(Json.digitsValue ds : Int)
    | '+' :: ds => Json.digitsValue ds
    | ds => Json.digitsValue ds
  let k := e - ((mant.dropWhile (· ≠ '.')).drop 1).length
  cs.all (fun c => c.isDigit ∨ c = '.' ∨ c = 'e' ∨ c = 'E' ∨ c = '+' ∨ c = '-') &&
    (m = 0 || k < 0 &&
      (mant.length + 324 ≤ k.natAbs || m * Nat.pow 2 1075 ≤ Nat.pow 10 k.natAbs))

/-- `bool(v)`. -/
def truthy : Value → Bool
  | .none => false
  | .bool b => b
  | .int n => n ≠ 0
  | .float lit => !floatLitIsZero lit
  | .str s => s ≠ ""
  | .list xs => !xs.isEmpty
  | .dict kvs => !kvs.isEmpty

set_option exponentiation.threshold 1100 in
/-- `1e-400` and `2.4e-324` underflow to `0.0`; `2.5e-324` rounds up to the least subnormal. -/
example : truthy (.float "1e-400") = false ∧ truthy (.float "2.4e-324") = false ∧
    truthy (.float "2.5e-324") = true := by decide

/-- The strings of `v` when `_is_list_of_str(v)` holds: `v` is a `list` of `str`. -/
def asStrList : Value → Option (List String)
  | .list xs => xs.mapM fun
    | .str s => some s
    | _ => Option.none
  | _ => Option.none

def ofStrList (xs : List String) : Value := .list (xs.map .str)

/-- `None` or a `str`. -/
def ofOptStr : Option String → Value
  | some s => .str s
  | Option.none => .none

/-- `v` is `None` or a `str` (`v is None or isinstance(v, str)`); then the string, if any. -/
def asOptStr : Value → Option (Option String)
  | .none => some Option.none
  | .str s => some (some s)
  | _ => Option.none

@[simp] theorem asStrList_ofStrList (xs : List String) : asStrList (ofStrList xs) = some xs := by
  induction xs with
  | nil => rfl
  | cons x xs ih =>
    simp only [asStrList, ofStrList, List.map_cons, List.mapM_cons] at ih ⊢
    rw [ih]; rfl

@[simp] theorem asOptStr_str (s : String) : asOptStr (.str s) = some (some s) := rfl

@[simp] theorem asOptStr_none : asOptStr .none = some Option.none := rfl

@[simp] theorem asOptStr_ofOptStr (o : Option String) : asOptStr (ofOptStr o) = some o := by
  cases o <;> rfl

/-- The `dict` that `dict(pairs)` builds: a later pair for a key replaces the earlier value. -/
def dictOfPairs (ps : List (String × Value)) : List (String × Value) :=
  ps.foldl (fun d p => setEntry p.1 p.2 d) []

mutual
/-- The values `json.dumps` turns back into themselves through `json.loads`: no floats, and every
`dict` with distinct keys (a Python `dict` never has two equal keys). -/
def Plain : Value → Prop
  | .float _ => False
  | .list xs => PlainList xs
  | .dict kvs => (kvs.map Prod.fst).Nodup ∧ PlainPairs kvs
  | _ => True
def PlainList : List Value → Prop
  | [] => True
  | x :: xs => Plain x ∧ PlainList xs
def PlainPairs : List (String × Value) → Prop
  | [] => True
  | (_, x) :: xs => Plain x ∧ PlainPairs xs
end

end Value

end UsbPassthrough
