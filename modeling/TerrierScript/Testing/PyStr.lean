import Mathlib.Data.List.Basic
import Mathlib.Data.Nat.Digits

/-!
# Python's string functions: `strip`, `split` and `int()`

`kill_pids_on_port` and `run_collect_mem_info` (`testing/util/common.py`) cut
what a subprocess printed into lines and fields and turn them into integers
with `int()`.  On a `str` in base 10,
CPython strips the surrounding whitespace, reads an optional sign and decimal
digits, and allows one underscore between two digits; anything else raises
`ValueError`.  The model reads ASCII: Unicode digits and spaces are left out.

The round trip: `int(str(z)) == z` for every integer `z`, so the number a pid
is printed as is read back as that pid.  `str` of a natural number is core's
`Nat.toDigits`, which is first characterised as `decimal`, the numeral with
its most significant digit first.
-/

namespace TerrierScript
namespace Testing

/-! ## `str.strip()` -/

/-- `str.isspace()` of one ASCII character: tab to carriage return, the four
separators and the space. -/
def isPySpace (c : Char) : Bool :=
  (9 ≤ c.toNat && c.toNat ≤ 13) || (28 ≤ c.toNat && c.toNat ≤ 32)

/-- `str.strip()`: the string without its leading and trailing whitespace. -/
def strip (s : String) : String :=
  String.mk ((s.toList.dropWhile isPySpace).reverse.dropWhile isPySpace).reverse

/-- `str.lstrip()`: the string without its leading whitespace. -/
def lstrip (s : String) : String := String.mk (s.toList.dropWhile isPySpace)

theorem dropWhile_of_forall {p : Char → Bool} {l : List Char} (h : ∀ c ∈ l, p c = false) :
    l.dropWhile p = l := by
  cases l with
  | nil => rfl
  | cons c l => exact List.dropWhile_cons_of_neg (by simp [h c (List.mem_cons_self c l)])

/-- A string without whitespace is its own `strip()`. -/
theorem strip_of_forall {s : String} (h : ∀ c ∈ s.toList, isPySpace c = false) : strip s = s := by
  have hrev : ∀ c ∈ s.toList.reverse, isPySpace c = false := fun c hc => h c (List.mem_reverse.mp hc)
  rw [strip, dropWhile_of_forall h, dropWhile_of_forall hrev, List.reverse_reverse]
  rfl

/-- `str.split(sep)` for a one-character separator. -/
def pySplit (s : String) (sep : Char) : List String := (s.toList.splitOn sep).map String.mk

/-- `stdout.readline().decode("utf-8").rstrip("\n")`: the first line. -/
def firstLine (out : String) : String := String.mk (out.toList.takeWhile (· ≠ '\n'))

/-- `s.rstrip("\n")`. -/
def rstripNewlines (s : String) : String :=
  String.mk (s.toList.reverse.dropWhile (· = '\n')).reverse

/-- `os.path.basename(path)`: what follows the last `/`. -/
def basename (path : String) : String := ((pySplit path '/').getLast?).getD ""

/-! ## The literal of `int()` -/

/-- The value of a decimal digit. -/
def digitValue (c : Char) : ℕ := c.toNat - '0'.toNat

/-- The digits after the first of a literal, onto the value `acc` of those
before: each digit may follow one underscore. -/
def digitsFrom (acc : ℕ) : List Char → Option ℕ
  | [] => some acc
  | '_' :: c :: cs => if c.isDigit then digitsFrom (10 * acc + digitValue c) cs else none
  | c :: cs => if c.isDigit then digitsFrom (10 * acc + digitValue c) cs else none

/-- The digits of a literal: a digit, then `digitsFrom`. -/
def parseDigits : List Char → Option ℕ
  | c :: cs => if c.isDigit then digitsFrom (digitValue c) cs else none
  | [] => none

/-- A stripped literal: an optional sign, then the digits. -/
def parseIntLiteral : List Char → Option ℤ
  | c :: cs =>
      if c = '-' then (parseDigits cs).map fun n => -(n : ℤ)
      else if c = '+' then (parseDigits cs).map Int.ofNat
      else (parseDigits (c :: cs)).map Int.ofNat
  | [] => none

/-- `int(s)` of a `str`.  CPython quotes the string with `repr`; the message
here quotes it as it is. -/
def pyInt (s : String) : Except String ℤ :=
  match parseIntLiteral (strip s).toList with
  | some z => .ok z
  | none => .error ("ValueError: invalid literal for int() with base 10: '" ++ s ++ "'")

theorem digitsFrom_digit {acc : ℕ} {c : Char} (cs : List Char) (hc : c.isDigit) :
    digitsFrom acc (c :: cs) = digitsFrom (10 * acc + digitValue c) cs := by
  have h_ : c ≠ '_' := by rintro rfl; exact absurd hc (by decide)
  cases cs <;> simp [digitsFrom, hc, h_]

theorem parseDigits_digit {c : Char} (cs : List Char) (hc : c.isDigit) :
    parseDigits (c :: cs) = digitsFrom 0 (c :: cs) := by
  rw [parseDigits, if_pos hc, digitsFrom_digit cs hc, Nat.mul_zero, Nat.zero_add]

/-! ## `str()` of a natural number -/

/-- The decimal numeral of `n`, its most significant digit first. -/
def decimal (n : ℕ) : List Char :=
  if n < 10 then [Nat.digitChar n] else decimal (n / 10) ++ [Nat.digitChar (n % 10)]
termination_by n
decreasing_by omega

theorem digitChar_isDigit : ∀ k < 10, (Nat.digitChar k).isDigit ∧ digitValue (Nat.digitChar k) = k := by
  decide

/-- `Nat.toDigitsCore` writes `decimal n` in front of what it has written,
given enough fuel. -/
theorem toDigitsCore_eq_decimal :
    ∀ {fuel n : ℕ} (ds : List Char), n < fuel → Nat.toDigitsCore 10 fuel n ds = decimal n ++ ds
  | 0, _, _, h => absurd h (Nat.not_lt_zero _)
  | fuel + 1, n, ds, h => by
      rw [Nat.toDigitsCore, decimal]
      by_cases hn : n / 10 = 0
      · have hlt : n < 10 := by omega
        simp only [hn, if_true, if_pos hlt, Nat.mod_eq_of_lt hlt, List.singleton_append]
      · have hlt : ¬n < 10 := by omega
        simp only [hn, if_false, if_neg hlt, List.append_assoc, List.singleton_append]
        exact toDigitsCore_eq_decimal _ (by omega)

theorem toList_toString (n : ℕ) : (toString n).toList = decimal n := by
  show (Nat.toDigitsCore 10 (n + 1) n []) = decimal n
  rw [toDigitsCore_eq_decimal [] (Nat.lt_succ_self n), List.append_nil]

theorem forall_isDigit_decimal (n : ℕ) : ∀ c ∈ decimal n, c.isDigit := by
  induction n using Nat.strong_induction_on with
  | _ n ih =>
      rw [decimal]
      split_ifs with hlt
      · simpa using (digitChar_isDigit n hlt).1
      · intro c hc
        rcases List.mem_append.mp hc with hc | hc
        · exact ih (n / 10) (by omega) c hc
        · rw [List.mem_singleton.mp hc]
          exact (digitChar_isDigit (n % 10) (Nat.mod_lt n (by omega))).1

theorem decimal_ne_nil (n : ℕ) : decimal n ≠ [] := by
  rw [decimal]
  split_ifs <;> simp

/-- `int()`'s digit loop reads `decimal n` as `n`. -/
theorem digitsFrom_decimal_append (n : ℕ) (ds : List Char) :
    digitsFrom 0 (decimal n ++ ds) = digitsFrom n ds := by
  induction n using Nat.strong_induction_on generalizing ds with
  | _ n ih =>
      rw [decimal]
      split_ifs with hlt
      · obtain ⟨hdigit, hvalue⟩ := digitChar_isDigit n hlt
        rw [List.singleton_append, digitsFrom_digit ds hdigit, hvalue, Nat.mul_zero, Nat.zero_add]
      · obtain ⟨hdigit, hvalue⟩ := digitChar_isDigit (n % 10) (Nat.mod_lt n (by omega))
        rw [List.append_assoc, List.singleton_append, ih (n / 10) (by omega),
          digitsFrom_digit ds hdigit, hvalue, Nat.div_add_mod]

theorem parseDigits_decimal (n : ℕ) : parseDigits (decimal n) = some n := by
  obtain ⟨c, cs, hcs⟩ := List.exists_cons_of_ne_nil (decimal_ne_nil n)
  have hc : c.isDigit := forall_isDigit_decimal n c (hcs ▸ List.mem_cons_self c cs)
  rw [hcs, parseDigits_digit cs hc, ← hcs, ← List.append_nil (decimal n),
    digitsFrom_decimal_append, digitsFrom]

/-! ## The round trip -/

theorem toNat_of_isDigit {c : Char} (hc : c.isDigit) : 48 ≤ c.toNat ∧ c.toNat ≤ 57 := by
  simp only [Char.isDigit, Bool.and_eq_true, decide_eq_true_eq] at hc
  exact ⟨hc.1, hc.2⟩

theorem not_isPySpace_of_isDigit {c : Char} (hc : c.isDigit) : isPySpace c = false := by
  have := toNat_of_isDigit hc
  simp only [isPySpace, Bool.or_eq_false_iff, Bool.and_eq_false_iff, decide_eq_false_iff_not]
  omega

/-- `parseIntLiteral` of a numeral without a sign. -/
theorem parseIntLiteral_decimal (n : ℕ) : parseIntLiteral (decimal n) = some (n : ℤ) := by
  obtain ⟨c, cs, hcs⟩ := List.exists_cons_of_ne_nil (decimal_ne_nil n)
  have hc := toNat_of_isDigit (forall_isDigit_decimal n c (hcs ▸ List.mem_cons_self c cs))
  have hminus : c ≠ '-' := by rintro rfl; simp at hc
  have hplus : c ≠ '+' := by rintro rfl; simp at hc
  rw [hcs, parseIntLiteral, if_neg hminus, if_neg hplus, ← hcs, parseDigits_decimal]
  rfl

/-- `int(str(z)) == z`: every integer reads back from its `str`. -/
theorem pyInt_toString (z : ℤ) : pyInt (toString z) = .ok z := by
  have hdigits (n : ℕ) : ∀ c ∈ decimal n, isPySpace c = false :=
    fun c hc => not_isPySpace_of_isDigit (forall_isDigit_decimal n c hc)
  cases z with
  | ofNat n =>
      have hstrip : strip (toString (Int.ofNat n)) = toString n :=
        strip_of_forall ((toList_toString n).symm ▸ hdigits n)
      rw [pyInt, hstrip, toList_toString, parseIntLiteral_decimal]
      rfl
  | negSucc n =>
      have hlist : (toString (Int.negSucc n)).toList = '-' :: decimal (n + 1) :=
        congrArg (List.cons '-') (toList_toString (n + 1))
      have hstrip : strip (toString (Int.negSucc n)) = toString (Int.negSucc n) :=
        strip_of_forall (hlist ▸ List.forall_mem_cons.mpr ⟨rfl, hdigits (n + 1)⟩)
      rw [pyInt, hstrip, hlist, parseIntLiteral, if_pos rfl, parseDigits_decimal]
      rfl

/-- The characters of `str(z)`: digits and a minus sign. -/
theorem mem_toString_int {z : ℤ} {ch : Char} (h : ch ∈ (toString z).toList) :
    ch.isDigit ∨ ch = '-' := by
  cases z with
  | ofNat n => exact .inl (forall_isDigit_decimal n ch (toList_toString n ▸ h))
  | negSucc n =>
      have hlist : (toString (Int.negSucc n)).toList = '-' :: decimal (n + 1) :=
        congrArg (List.cons '-') (toList_toString (n + 1))
      rcases List.mem_cons.mp (hlist ▸ h) with h | h
      · exact .inr h
      · exact .inl (forall_isDigit_decimal (n + 1) ch h)

theorem toString_int_ne_empty (z : ℤ) : toString z ≠ "" := by
  cases z with
  | ofNat n => exact fun h => decimal_ne_nil n (toList_toString n ▸ congrArg String.toList h)
  | negSucc n => exact fun h => nomatch congrArg String.toList h

end Testing
end TerrierScript
