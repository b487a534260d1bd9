import Mathlib.Data.Rat.Defs
import Mathlib.Data.List.Basic

/-!
# The values `json.load` returns, as Python sees them

`validate_json_result` (`testing/util/test_oltpbench.py`) reads the
benchmark's JSON output with `json.load` and then only subscripts it with
`str` keys, asks the histogram for `keys()`, compares its values with `0` and
prints it.  `JsonValue` is what `json.load` can return: `None`, a `bool`, an
`int`, a `float`, a `str`, a `list`, or a `dict`, whose keys are the `str`s of
the object in the order the file has them, without repeats, and a value for
each; as in an extensional JSON tree, a `dict` with a repeated key cannot be
built.  A `list` is `n` values in order.

What each operation does on each kind of value is CPython 3's: `d[key]` is
the value of a key of a `dict`, `KeyError` for a missing one and `TypeError`
on any other kind of value (with the message of Python 3.10 and earlier for a
`str`); `v.keys()` is `AttributeError` on anything but a `dict`; `v != 0` is
false exactly for an `int` or `float` zero and for `False`; and `print(v)`
writes `repr(v)`.  `repr` of a `str` is CPython's `unicode_repr`, whose only
input beyond the text is which characters past ASCII are printable; with
`repr` of a `float` it is the part of the running Python the model takes as
given (`PyRepr`).  `json.load` also reads `NaN` and `Infinity` and lone
surrogates, which a `ℚ` and a Lean `String` cannot hold: they are left out.
-/

namespace TerrierScript
namespace Testing

/-- A value `json.load` returns. -/
inductive JsonValue
  | null
  | bool (b : Bool)
  | int (n : ℤ)
  | float (x : ℚ)
  | str (s : String)
  | list (n : ℕ) (elems : Fin n → JsonValue)
  | dict (keys : List String) (nodup : keys.Nodup) (vals : {k // k ∈ keys} → JsonValue)

/-- What `repr` takes from the running Python: `float.__repr__`, and which
characters past ASCII `str.isprintable()` accepts. -/
structure PyRepr where
  float : ℚ → String
  printable : Char → Bool

/-! ## `repr` of a `str` -/

/-- The lowercase hexadecimal digits of `n`, with zeros in front up to `width`. -/
def hexDigits (width n : ℕ) : List Char :=
  List.replicate (width - (Nat.toDigits 16 n).length) '0' ++ Nat.toDigits 16 n

/-- How `unicode_repr` writes one character of a `str` it quotes with `quote`. -/
def reprChar (printable : Char → Bool) (quote c : Char) : List Char :=
  if c = quote ∨ c = '\\' then ['\\', c]
  else if c = '\t' then ['\\', 't']
  else if c = '\n' then ['\\', 'n']
  else if c = '\r' then ['\\', 'r']
  else if c.toNat < 0x20 ∨ c.toNat = 0x7f then '\\' :: 'x' :: hexDigits 2 c.toNat
  else if c.toNat < 0x7f ∨ printable c then [c]
  else if c.toNat ≤ 0xff then '\\' :: 'x' :: hexDigits 2 c.toNat
  else if c.toNat ≤ 0xffff then '\\' :: 'u' :: hexDigits 4 c.toNat
  else '\\' :: 'U' :: hexDigits 8 c.toNat

/-- `repr(s)`: in single quotes, unless `s` has a single quote and no double
quote. -/
def reprStr (printable : Char → Bool) (s : String) : String :=
  let quote := if '\'' ∈ s.toList ∧ '"' ∉ s.toList then '"' else '\''
  String.mk (quote :: s.toList.flatMap (reprChar printable quote) ++ [quote])

/-! ## The operations `validate_json_result` applies -/

namespace JsonValue

/-- `type(v).__name__`. -/
def typeName : JsonValue → String
  | .null => "NoneType"
  | .bool _ => "bool"
  | .int _ => "int"
  | .float _ => "float"
  | .str _ => "str"
  | .list _ _ => "list"
  | .dict _ _ _ => "dict"

/-- `v[key]` for a `str` key. -/
def getItem (printable : Char → Bool) (v : JsonValue) (key : String) : Except String JsonValue :=
  match v with
  | .dict keys _ vals =>
      if h : key ∈ keys then .ok (vals ⟨key, h⟩) else .error ("KeyError: " ++ reprStr printable key)
  | .list _ _ => .error "TypeError: list indices must be integers or slices, not str"
  | .str _ => .error "TypeError: string indices must be integers"
  | v => .error ("TypeError: '" ++ v.typeName ++ "' object is not subscriptable")

/-- `v.keys()`. -/
def keys : JsonValue → Except String (List String)
  | .dict keys _ _ => .ok keys
  | v => .error ("AttributeError: '" ++ v.typeName ++ "' object has no attribute 'keys'")

/-- `v != 0`. -/
def neZero : JsonValue → Bool
  | .bool b => b
  | .int n => n ≠ 0
  | .float x => x ≠ 0
  | _ => true

/-- `repr(v)`, which `print(v)` writes. -/
def repr (r : PyRepr) : JsonValue → String
  | .null => "None"
  | .bool b => if b then "True" else "False"
  | .int n => toString n
  | .float x => r.float x
  | .str s => reprStr r.printable s
  | .list _ elems => "[" ++ ", ".intercalate (List.ofFn fun i => (elems i).repr r) ++ "]"
  | .dict keys _ vals =>
      "\x7b" ++ ", ".intercalate (keys.attach.map fun k =>
        reprStr r.printable k.1 ++ ": " ++ (vals k).repr r) ++ "\x7d"

@[simp] theorem getItem_dict_of_mem (printable : Char → Bool) {keys : List String}
    (nodup : keys.Nodup) (vals : {k // k ∈ keys} → JsonValue) (k : {k // k ∈ keys}) :
    (dict keys nodup vals).getItem printable k.1 = .ok (vals k) := by
  simp [getItem, k.2]

end JsonValue

end Testing
end TerrierScript
