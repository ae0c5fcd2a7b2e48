/-
# Texts in JavaScript

Clients compare numbers as texts: hexadecimal numbers up to case, after a regular expression fixed
their shape.  Two texts of that shape are the same up to case exactly when they spell one number.
-/
import Payday.Lib.Text

namespace Payday

/-! ### Hexadecimal numbers of a fixed size -/

/-- `/^0x[0-9a-fA-F]{…}$/`: what the text spells, if it is the marker and the digits of `size` bytes. -/
def hexText (size : ℕ) (text : String) : Option ℕ :=
  match text.toList with
  | '0' :: 'x' :: digits => if digits.length = 2 * size then ofHex digits else none
  | _ => none

lemma hexText_eq_some {size n : ℕ} {text : String} :
    hexText size text = some n ↔
      ∃ digits, text.toList = '0' :: 'x' :: digits ∧ digits.length = 2 * size ∧ ofHex digits = some n := by
  unfold hexText
  constructor
  · intro h
    split at h
    · rename_i digits htext
      split at h
      · rename_i hlength
        exact ⟨digits, htext, hlength, h⟩
      · cases h
    · cases h
  · rintro ⟨digits, htext, hlength, h⟩
    rw [htext]
    exact (if_pos hlength).trans h

lemma lt_of_hexText {size n : ℕ} {text : String} (h : hexText size text = some n) : n < 2 ^ (8 * size) := by
  obtain ⟨digits, -, hlength, hdigits⟩ := hexText_eq_some.1 h
  rw [two_pow_bytes, ← hlength]
  exact lt_of_ofHex hdigits

/-- Leading zeros spell nothing. -/
lemma ofHex_replicate (k : ℕ) (digits : List Char) : ofHex (List.replicate k '0' ++ digits) = ofHex digits := by
  induction k with
  | zero => rfl
  | succ k ih =>
    rw [← ih, List.replicate_succ, List.cons_append]
    rfl

/-- Every character of digits that spell a number is a digit. -/
lemma isSome_hexValue_of_ofHex {digits : List Char} {n : ℕ} (h : ofHex digits = some n) :
    ∀ c ∈ digits, (hexValue c).isSome := by
  induction digits using List.reverseRecOn generalizing n with
  | nil => simp
  | append_singleton digits c ih =>
    rw [ofHex_concat] at h
    obtain ⟨m, hm, h⟩ := Option.bind_eq_some_iff.1 h
    obtain ⟨v, hv, -⟩ := Option.map_eq_some_iff.1 h
    intro c' hc'
    rcases List.mem_append.1 hc' with hc' | hc'
    · exact ih hm c' hc'
    · rw [List.mem_singleton.1 hc', hv]
      rfl

lemma ascii_of_hexValue {c : Char} (h : (hexValue c).isSome) : c.toNat < 128 := by
  unfold hexValue at h
  split at h
  · omega
  split at h
  · omega
  split at h
  · omega
  · cases h

/-- The text of a fixed-size number is ASCII. -/
lemma ascii_of_hexText {size n : ℕ} {text : String} (h : hexText size text = some n) :
    ∀ c ∈ text.toList, c.toNat < 128 := by
  obtain ⟨digits, htext, -, hdigits⟩ := hexText_eq_some.1 h
  rw [htext]
  intro c hc
  rcases List.mem_cons.1 hc with rfl | hc
  · decide
  rcases List.mem_cons.1 hc with rfl | hc
  · decide
  · exact ascii_of_hexValue (isSome_hexValue_of_ofHex hdigits c hc)

lemma toNat_toLower (c : Char) :
    c.toLower.toNat = if 65 ≤ c.toNat ∧ c.toNat ≤ 90 then c.toNat + 32 else c.toNat := by
  have hupper : (c.val ≥ 'A'.val ∧ c.val ≤ 'Z'.val) ↔ 65 ≤ c.toNat ∧ c.toNat ≤ 90 := by
    rw [ge_iff_le, UInt32.le_iff_toNat_le, UInt32.le_iff_toNat_le]
    exact Iff.rfl
  unfold Char.toLower
  by_cases h : c.val ≥ 'A'.val ∧ c.val ≤ 'Z'.val
  · have hle : c.val.toNat ≤ 90 := (hupper.1 h).2
    have hsum : c.val.toNat + 32 < 2 ^ 32 := by omega
    rw [dif_pos h, if_pos (hupper.1 h)]
    exact (UInt32.toNat_add c.val 32).trans (Nat.mod_eq_of_lt hsum)
  · rw [dif_neg h, if_neg (mt hupper.2 h)]

/-- A digit has its value in either case. -/
lemma hexValue_toLower (c : Char) : hexValue c.toLower = hexValue c := by
  unfold hexValue
  rw [toNat_toLower]
  split
  · rename_i h
    by_cases hf : c.toNat ≤ 70
    · rw [if_neg (by omega), if_pos (by omega), if_neg (by omega), if_neg (by omega), if_pos (by omega)]
      congr 1
    · rw [if_neg (by omega), if_neg (by omega), if_neg (by omega), if_neg (by omega), if_neg (by omega),
        if_neg (by omega)]
  · rfl

lemma ofHex_map_toLower (digits : List Char) : ofHex (digits.map Char.toLower) = ofHex digits := by
  unfold ofHex
  rw [List.foldlM_map]
  simp only [hexValue_toLower]

lemma toLower_of_hexValue {c : Char} {n : ℕ} (h : hexValue c = some n) : n < 16 ∧ c.toLower = hexChar n := by
  have hcodes : ∀ k < 128, ∀ n, hexValue (Char.ofNat k) = some n →
      n < 16 ∧ (Char.ofNat k).toLower = hexChar n := by decide
  simpa using hcodes c.toNat (ascii_of_hexValue (by rw [h]; rfl)) n (by simpa using h)

/-- Digits in lower case are those of the number they spell. -/
lemma map_toLower_of_ofHex {digits : List Char} {n : ℕ} (h : ofHex digits = some n) :
    digits.map Char.toLower = hexDigits digits.length n := by
  induction digits using List.reverseRecOn generalizing n with
  | nil => rfl
  | append_singleton digits c ih =>
    rw [ofHex_concat] at h
    obtain ⟨m, hm, h⟩ := Option.bind_eq_some_iff.1 h
    obtain ⟨v, hv, rfl⟩ := Option.map_eq_some_iff.1 h
    obtain ⟨hlt, hlower⟩ := toLower_of_hexValue hv
    have hquotient : (16 * m + v) / 16 = m := by omega
    have hrest : (16 * m + v) % 16 = v := by omega
    rw [List.map_append, ih hm, List.length_append, List.length_singleton, hexDigits, hquotient, hrest,
      List.map_singleton, hlower]

/-! ### The runtime -/

/-- What JavaScript provides for texts. -/
structure Javascript where
  /-- `Number(text)`, where it is a natural number. -/
  number : String → Option ℕ
  number_repr : ∀ n < 2 ^ 53, number n.repr = some n
  /-- `BigInt(text)`; `none` if it throws. -/
  bigInt : String → Option ℤ
  bigInt_repr : ∀ n : ℕ, bigInt n.repr = some n
  toLowerCase : String → String
  toLowerCase_ascii : ∀ text, (∀ c ∈ text.toList, c.toNat < 128) →
    toLowerCase text = String.ofList (text.toList.map Char.toLower)
  /-- No letter beyond ASCII has a hexadecimal digit or an `x` for its lower case. -/
  toLowerCase_hex : ∀ text, (∀ c ∈ (toLowerCase text).toList, c = 'x' ∨ (hexValue c).isSome) →
    ∀ c ∈ text.toList, c.toNat < 128

variable (J : Javascript)

/-- `sameAddress`, and `same` of the dashboard: the texts are equal in lower case. -/
def Javascript.same (a b : String) : Bool := decide (J.toLowerCase a = J.toLowerCase b)

variable {J}

lemma Javascript.same_refl (text : String) : J.same text text = true := decide_eq_true rfl

lemma Javascript.same_trans {a b c : String} (h : J.same a b = true) (h' : J.same b c = true) :
    J.same a c = true :=
  decide_eq_true ((of_decide_eq_true h).trans (of_decide_eq_true h'))

/-- ASCII texts that are the same up to case, character by character. -/
lemma Javascript.same_ascii {a b : String} (ha : ∀ c ∈ a.toList, c.toNat < 128)
    (hb : ∀ c ∈ b.toList, c.toNat < 128) :
    J.same a b = true ↔ a.toList.map Char.toLower = b.toList.map Char.toLower := by
  rw [Javascript.same, decide_eq_true_eq, J.toLowerCase_ascii a ha, J.toLowerCase_ascii b hb,
    String.ofList_inj]

/-- Texts of numbers that are the same up to case spell one number. -/
lemma Javascript.hexText_of_same {size m n : ℕ} {a b : String} (h : J.same a b = true)
    (ha : hexText size a = some m) (hb : hexText size b = some n) : m = n := by
  have hlower := (Javascript.same_ascii (ascii_of_hexText ha) (ascii_of_hexText hb)).1 h
  obtain ⟨as, htext, -, has⟩ := hexText_eq_some.1 ha
  obtain ⟨bs, htext', -, hbs⟩ := hexText_eq_some.1 hb
  rw [htext, htext'] at hlower
  have hdigits : as.map Char.toLower = bs.map Char.toLower := by simpa using hlower
  rw [← ofHex_map_toLower, hdigits, ofHex_map_toLower, hbs] at has
  exact (Option.some.inj has).symm

/-- All texts of a number are the same up to case. -/
lemma Javascript.same_of_hexText {size n : ℕ} {a b : String} (ha : hexText size a = some n)
    (hb : hexText size b = some n) : J.same a b = true := by
  rw [Javascript.same_ascii (ascii_of_hexText ha) (ascii_of_hexText hb)]
  obtain ⟨as, htext, hlength, has⟩ := hexText_eq_some.1 ha
  obtain ⟨bs, htext', hlength', hbs⟩ := hexText_eq_some.1 hb
  rw [htext, htext', List.map_cons, List.map_cons, List.map_cons, List.map_cons,
    map_toLower_of_ofHex has, map_toLower_of_ofHex hbs, hlength, hlength']

/-- What is the same as the text of a number is ASCII. -/
lemma Javascript.ascii_of_same {size n : ℕ} {a b : String} (h : J.same a b = true)
    (hb : hexText size b = some n) : ∀ c ∈ a.toList, c.toNat < 128 := by
  apply J.toLowerCase_hex a
  rw [of_decide_eq_true h, J.toLowerCase_ascii b (ascii_of_hexText hb)]
  obtain ⟨bs, htext, -, hbs⟩ := hexText_eq_some.1 hb
  intro c hc
  rw [htext] at hc
  simp only [String.toList_ofList, List.map_cons, List.mem_cons, List.mem_map] at hc
  rcases hc with rfl | rfl | ⟨d, hd, rfl⟩
  · exact Or.inr rfl
  · exact Or.inl rfl
  · rw [hexValue_toLower]
    exact Or.inr (isSome_hexValue_of_ofHex hbs d hd)

end Payday
