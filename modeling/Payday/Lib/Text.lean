/-
# Numbers as texts

The texts of fixed-size words and of unsigned numbers, with the readers that accept them.  Readers
are more liberal than writers: hexadecimal digits may be in either case and need no marker, and
decimal numbers may have a sign, leading zeros or, for wide numbers, separators.
-/
import Mathlib
import Payday.Lib.Bytes

namespace Payday

/-! ### Hexadecimal -/

/-- The value of a hexadecimal digit, in either case. -/
def hexValue (c : Char) : Option ℕ :=
  if 48 ≤ c.toNat ∧ c.toNat ≤ 57 then some (c.toNat - 48)
  else if 97 ≤ c.toNat ∧ c.toNat ≤ 102 then some (c.toNat - 87)
  else if 65 ≤ c.toNat ∧ c.toNat ≤ 70 then some (c.toNat - 55)
  else none

/-- The digit of a value below 16, in lower case. -/
def hexChar (n : ℕ) : Char := if n < 10 then Char.ofNat (48 + n) else Char.ofNat (87 + n)

/-- The last `width` hexadecimal digits of a number. -/
def hexDigits : ℕ → ℕ → List Char
  | 0, _ => []
  | width + 1, n => hexDigits width (n / 16) ++ [hexChar (n % 16)]

/-- The number that hexadecimal digits spell. -/
def ofHex (digits : List Char) : Option ℕ :=
  digits.foldlM (fun n c => (hexValue c).map (16 * n + ·)) 0

/-- Without the marker, which may be in either case. -/
def stripMarker : List Char → List Char
  | '0' :: 'x' :: digits => digits
  | '0' :: 'X' :: digits => digits
  | digits => digits

/-- A word of `size` bytes, read from its text. -/
def parseFixed (size : ℕ) (text : String) : Option ℕ :=
  if (stripMarker text.toList).length = 2 * size then ofHex (stripMarker text.toList) else none

/-- Any number of bytes, read from their text. -/
def parseHex (text : String) : Option (List UInt8) :=
  if (stripMarker text.toList).length % 2 = 0 then
    (ofHex (stripMarker text.toList)).map (toBE ((stripMarker text.toList).length / 2))
  else none

/-- The text of a word of `size` bytes. -/
def fixedText (size n : ℕ) : String := String.ofList ('0' :: 'x' :: hexDigits (2 * size) n)

/-- The digits with some of the letters in upper case. -/
def raise (raised : ℕ → Bool) (digits : List Char) : List Char :=
  digits.mapIdx fun i c => if raised i then c.toUpper else c

@[simp] lemma length_hexDigits (width n : ℕ) : (hexDigits width n).length = width := by
  induction width generalizing n with
  | zero => rfl
  | succ width ih => simp [hexDigits, ih]

lemma hexValue_hexChar {n : ℕ} (h : n < 16) : hexValue (hexChar n) = some n := by
  have hall : ∀ n < 16, hexValue (hexChar n) = some n := by decide
  exact hall n h

/-- The case of a digit does not matter. -/
lemma hexValue_toUpper_hexChar {n : ℕ} (h : n < 16) : hexValue (hexChar n).toUpper = some n := by
  have hall : ∀ n < 16, hexValue (hexChar n).toUpper = some n := by decide
  exact hall n h

lemma ofHex_concat (digits : List Char) (c : Char) :
    ofHex (digits ++ [c]) = (ofHex digits).bind fun n => (hexValue c).map (16 * n + ·) := by
  simp [ofHex, List.foldlM_append]

/-- Digits in any case are read back. -/
lemma ofHex_raise_hexDigits (raised : ℕ → Bool) {width n : ℕ} (h : n < 16 ^ width) :
    ofHex (raise raised (hexDigits width n)) = some n := by
  induction width generalizing n with
  | zero =>
    have : n = 0 := by simpa using h
    rw [this]
    rfl
  | succ width ih =>
    have hdiv : n / 16 < 16 ^ width := by
      rw [Nat.div_lt_iff_lt_mul (by decide)]
      simpa [pow_succ] using h
    have hmod : n % 16 < 16 := Nat.mod_lt _ (by decide)
    have hdigit : hexValue (if raised width then (hexChar (n % 16)).toUpper else hexChar (n % 16)) =
        some (n % 16) := by
      split
      · exact hexValue_toUpper_hexChar hmod
      · exact hexValue_hexChar hmod
    have hraise : raise raised (hexDigits (width + 1) n) = raise raised (hexDigits width (n / 16)) ++
        [if raised width then (hexChar (n % 16)).toUpper else hexChar (n % 16)] := by
      simp [raise, hexDigits, List.mapIdx_append]
    rw [hraise, ofHex_concat, ih hdiv, hdigit]
    show some (16 * (n / 16) + n % 16) = some n
    rw [Nat.div_add_mod]

lemma raise_none (digits : List Char) : raise (fun _ => false) digits = digits :=
  List.ext_getElem (by simp [raise]) (by simp [raise])

lemma ofHex_hexDigits {width n : ℕ} (h : n < 16 ^ width) : ofHex (hexDigits width n) = some n := by
  rw [← raise_none (hexDigits width n)]
  exact ofHex_raise_hexDigits _ h

lemma two_pow_bytes (size : ℕ) : 2 ^ (8 * size) = 16 ^ (2 * size) := by
  have h : 2 ^ 8 = 16 ^ 2 := rfl
  rw [pow_mul, pow_mul, h]

/-- A word is read back from its text. -/
lemma parseFixed_fixedText {size n : ℕ} (h : n < 2 ^ (8 * size)) :
    parseFixed size (fixedText size n) = some n := by
  rw [two_pow_bytes] at h
  simp [parseFixed, fixedText, stripMarker, ofHex_hexDigits h]

/-- A word is read back from its text in any case. -/
lemma parseFixed_raise {size n : ℕ} (raised : ℕ → Bool) (h : n < 2 ^ (8 * size)) :
    parseFixed size (String.ofList ('0' :: 'x' :: raise raised (hexDigits (2 * size) n))) = some n := by
  rw [two_pow_bytes] at h
  have hlength : (raise raised (hexDigits (2 * size) n)).length = 2 * size := by simp [raise]
  simp [parseFixed, stripMarker, hlength, ofHex_raise_hexDigits raised h]

/-- Bytes are read back from their text. -/
lemma parseHex_fixedText (bytes : List UInt8) :
    parseHex (fixedText bytes.length (ofBE bytes)) = some bytes := by
  have hlt : ofBE bytes < 16 ^ (2 * bytes.length) := by
    have h := ofBE_lt bytes
    rwa [show 256 = 2 ^ 8 from rfl, ← pow_mul, two_pow_bytes] at h
  have heven : 2 * bytes.length % 2 = 0 := Nat.mul_mod_right 2 _
  have hhalf : 2 * bytes.length / 2 = bytes.length := Nat.mul_div_cancel_left _ (by decide)
  simp [parseHex, fixedText, stripMarker, ofHex_hexDigits hlt, heven, hhalf, toBE_ofBE]

lemma lt_of_ofHex {digits : List Char} {n : ℕ} (h : ofHex digits = some n) : n < 16 ^ digits.length := by
  induction digits using List.reverseRecOn generalizing n with
  | nil =>
    cases h
    simp
  | append_singleton digits c ih =>
    rw [ofHex_concat] at h
    obtain ⟨m, hm, h⟩ := Option.bind_eq_some_iff.1 h
    obtain ⟨d, hd, rfl⟩ := Option.map_eq_some_iff.1 h
    have hdigit : d < 16 := by
      unfold hexValue at hd
      split at hd
      · cases hd
        omega
      split at hd
      · cases hd
        omega
      split at hd
      · cases hd
        omega
      · cases hd
    have hrest := ih hm
    rw [List.length_append, List.length_singleton, pow_succ]
    omega

/-- A word that was read fits. -/
lemma lt_of_parseFixed {size n : ℕ} {text : String} (h : parseFixed size text = some n) :
    n < 2 ^ (8 * size) := by
  unfold parseFixed at h
  split at h
  · rename_i hlength
    have hlt := lt_of_ofHex h
    rwa [hlength, ← two_pow_bytes] at hlt
  · cases h

/-! ### Decimal -/

/-- An unsigned number below `bound`: digits, possibly behind a plus sign. -/
def parseNat (bound : ℕ) (text : String) : Option ℕ :=
  let digits := match text.toList with
    | '+' :: digits => digits
    | digits => digits
  if digits.isEmpty = false ∧ digits.all Char.isDigit = true ∧ Nat.ofDigitChars 10 digits 0 < bound then
    some (Nat.ofDigitChars 10 digits 0)
  else none

/-- An unsigned number below `bound`: any digits, with underscores anywhere. -/
def parseDigits (bound : ℕ) (text : String) : Option ℕ :=
  let digits := text.toList.filter (· ≠ '_')
  if digits.all Char.isDigit = true ∧ Nat.ofDigitChars 10 digits 0 < bound then
    some (Nat.ofDigitChars 10 digits 0)
  else none

lemma isDigit_toList_repr {n : ℕ} {c : Char} (h : c ∈ n.repr.toList) : c.isDigit = true := by
  rw [Nat.toList_repr] at h
  exact Nat.isDigit_of_mem_toDigits (by decide) (by decide) h

/-- A number is read back from its decimal text. -/
lemma parseNat_repr {bound n : ℕ} (h : n < bound) : parseNat bound n.repr = some n := by
  have hdigits : (match n.repr.toList with
      | '+' :: digits => digits
      | digits => digits) = n.repr.toList := by
    split
    · rename_i digits heq
      have hplus : '+'.isDigit = true := isDigit_toList_repr (by rw [heq]; exact List.mem_cons_self ..)
      exact absurd hplus (by decide)
    · rfl
  have hempty : n.repr.toList.isEmpty = false := by
    rw [Nat.toList_repr, List.isEmpty_eq_false_iff]
    exact Nat.toDigits_ne_nil
  have hall : n.repr.toList.all Char.isDigit = true :=
    List.all_eq_true.2 fun c hc => isDigit_toList_repr hc
  have hvalue : Nat.ofDigitChars 10 n.repr.toList 0 = n := by
    rw [Nat.toList_repr]
    exact Nat.ofDigitChars_toDigits (by decide) (by decide)
  simp only [parseNat, hdigits, hvalue]
  rw [if_pos ⟨hempty, hall, h⟩]

lemma parseDigits_repr {bound n : ℕ} (h : n < bound) : parseDigits bound n.repr = some n := by
  have hfilter : n.repr.toList.filter (· ≠ '_') = n.repr.toList := by
    rw [List.filter_eq_self]
    intro c hc
    refine decide_eq_true fun heq => ?_
    have hdigit := isDigit_toList_repr hc
    rw [heq] at hdigit
    exact absurd hdigit (by decide)
  have hall : n.repr.toList.all Char.isDigit = true :=
    List.all_eq_true.2 fun c hc => isDigit_toList_repr hc
  have hvalue : Nat.ofDigitChars 10 n.repr.toList 0 = n := by
    rw [Nat.toList_repr]
    exact Nat.ofDigitChars_toDigits (by decide) (by decide)
  simp only [parseDigits, hfilter, hvalue]
  rw [if_pos ⟨hall, h⟩]

lemma lt_of_parseNat {bound n : ℕ} {text : String} (h : parseNat bound text = some n) : n < bound := by
  simp only [parseNat, Option.ite_none_right_eq_some, Option.some.injEq] at h
  obtain ⟨⟨-, -, hlt⟩, rfl⟩ := h
  exact hlt

lemma lt_of_parseDigits {bound n : ℕ} {text : String} (h : parseDigits bound text = some n) : n < bound := by
  simp only [parseDigits, Option.ite_none_right_eq_some, Option.some.injEq] at h
  obtain ⟨⟨-, hlt⟩, rfl⟩ := h
  exact hlt

end Payday
