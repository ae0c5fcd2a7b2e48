/-
# Amounts

`Amount::from_decimal_str` and the amount of `create_deposit_request`.  The text is checked here,
and converted by alloy's `parse_units`, which is a parameter: it takes the dot out, reads the
digits as a `U256` and multiplies by the missing power of ten, with the wrapping multiplication of
`U256` (`ReadsUnits`).  The checks look at characters only and never at the product.  So a text is
read as the number it writes unless its digits fit and the product does not, and then it is
accepted for what is left of the product modulo `2 ^ 256`.
-/
import Mathlib.Data.List.TakeWhile
import Payday.Proofs.Issuance

namespace Payday.Api

open Proofs (currencyDecimals)

/-! ### The parser -/

/-- What stands before the first dot: `split_once('.')`, or all of the text. -/
def wholePart (text : String) : List Char := text.toList.takeWhile (· ≠ '.')

/-- What stands after the first dot; empty when there is none. -/
def fractionPart (text : String) : List Char := (text.toList.dropWhile (· ≠ '.')).drop 1

inductive AmountParseError
  | invalidFormat
  | tooManyDecimalUnits
  /-- The error of `parse_units`, by its text. -/
  | units (message : String)
deriving DecidableEq, Repr

def AmountParseError.text : AmountParseError → String
  | .invalidFormat => "amount must be an unsigned decimal number such as \"1\" or \"1.50\""
  | .tooManyDecimalUnits => "Parsing number with more decimal units than target decimals."
  | .units message => message

section

variable (parseUnits : String → UInt8 → Except String ℕ)

/-- `Amount::from_decimal_str`. -/
def fromDecimalStr (amountString : String) (decimals : UInt8) : Except AmountParseError ℕ :=
  let whole := wholePart amountString
  let fraction := fractionPart amountString
  if whole.isEmpty || !whole.all Char.isDigit || !fraction.all Char.isDigit ||
      (amountString.toList.contains '.' && fraction.isEmpty) then .error .invalidFormat
  else if decimals.toNat < fraction.length then .error .tooManyDecimalUnits
  else match parseUnits amountString decimals with
    | .error message => .error (.units message)
    | .ok units => .ok units

/-- `ApiError::invalid_amount`. -/
inductive AmountRefused
  | invalidAmount (message : String)
deriving DecidableEq, Repr

/-- The amount of a deposit request: step 4 of `create_deposit_request`. -/
def requestedAmount (amount : String) (currency : Currency) : Except AmountRefused ℕ :=
  match fromDecimalStr parseUnits amount (.ofNat (currencyDecimals currency)) with
  | .error e => .error (.invalidAmount e.text)
  | .ok units =>
    if units = 0 then .error (.invalidAmount "amount must be positive") else .ok units

end

/-! ### What a text writes -/

/-- The number decimal digits spell. -/
def spelled (digits : List Char) : ℕ := Nat.ofDigitChars 10 digits 0

/-- The text is `digits` or `digits.digits` with at most `decimals` digits behind the dot, and
`value` is the number it writes, in units of `10 ^ -decimals`. -/
def WrittenAs (text : String) (decimals value : ℕ) : Prop :=
  ∃ whole fraction : List Char, whole ≠ [] ∧ (∀ c ∈ whole, c.isDigit) ∧
    (∀ c ∈ fraction, c.isDigit) ∧
    (text.toList = whole ∧ fraction = [] ∨ text.toList = whole ++ '.' :: fraction ∧ fraction ≠ []) ∧
    fraction.length ≤ decimals ∧
    value = spelled whole * 10 ^ decimals + spelled fraction * 10 ^ (decimals - fraction.length)

/-- The digits of the text, without the dot, as one number. -/
def allDigits (text : String) : ℕ := spelled (text.toList.filter (· ≠ '.'))

/-- What alloy's `parse_units` does with a text that writes a number: the digits without the dot
are read as a `U256`, and the missing power of ten is multiplied modulo `2 ^ 256`. -/
structure ReadsUnits (parseUnits : String → UInt8 → Except String ℕ) : Prop where
  reads : ∀ text decimals value, WrittenAs text decimals.toNat value → decimals.toNat ≤ 77 →
    allDigits text < 2 ^ 256 → parseUnits text decimals =
      .ok (allDigits text * 10 ^ (decimals.toNat - (fractionPart text).length) % 2 ^ 256)
  overflows : ∀ text decimals value, WrittenAs text decimals.toNat value → decimals.toNat ≤ 77 →
    2 ^ 256 ≤ allDigits text → ∃ message, parseUnits text decimals = .error message

/-- The parser accepts exactly the texts that write a number below `2 ^ 256`, for that number. -/
def ParsesExactly (parseUnits : String → UInt8 → Except String ℕ) (text : String)
    (decimals : UInt8) : Prop :=
  ∀ amount, fromDecimalStr parseUnits text decimals = .ok amount ↔
    WrittenAs text decimals.toNat amount ∧ amount < 2 ^ 256

/-- A request is issued for the number its text writes, or not at all. -/
def IssuedAsWritten (parseUnits : String → UInt8 → Except String ℕ) (text : String)
    (currency : Currency) : Prop :=
  ∀ amount, requestedAmount parseUnits text currency = .ok amount →
    WrittenAs text (currencyDecimals currency) amount

/-- The digits fit, and the amount they write does not. -/
def Wraps (text : String) (decimals : ℕ) : Prop :=
  ∃ value, WrittenAs text decimals value ∧ allDigits text < 2 ^ 256 ∧ 2 ^ 256 ≤ value

/-! ### The grammar and the checks -/

lemma isDigit_ne_dot {c : Char} (h : c.isDigit = true) : c ≠ '.' := by
  rintro rfl
  exact absurd h (by decide)

lemma parts_of_digits {text : String} {whole : List Char} (hwhole : ∀ c ∈ whole, c.isDigit)
    (h : text.toList = whole) : wholePart text = whole ∧ fractionPart text = [] := by
  have hne : ∀ c ∈ whole, decide (c ≠ '.') = true := fun c hc =>
    decide_eq_true (isDigit_ne_dot (hwhole c hc))
  rw [wholePart, fractionPart, h, List.takeWhile_eq_self_iff.2 hne, List.dropWhile_eq_nil_iff.2 hne]
  exact ⟨rfl, rfl⟩

lemma parts_of_dotted {text : String} {whole fraction : List Char}
    (hwhole : ∀ c ∈ whole, c.isDigit) (h : text.toList = whole ++ '.' :: fraction) :
    wholePart text = whole ∧ fractionPart text = fraction := by
  have hne : ∀ c ∈ whole, decide (c ≠ '.') = true := fun c hc =>
    decide_eq_true (isDigit_ne_dot (hwhole c hc))
  rw [wholePart, fractionPart, h, List.takeWhile_append_of_pos hne, List.dropWhile_append_of_pos hne]
  simp

/-- The text is its two parts, with a dot between them unless there is none. -/
lemma text_of_parts (text : String) :
    ('.' ∉ text.toList ∧ text.toList = wholePart text ∧ fractionPart text = []) ∨
      ('.' ∈ text.toList ∧ text.toList = wholePart text ++ '.' :: fractionPart text) := by
  have hsplit : text.toList = wholePart text ++ text.toList.dropWhile (· ≠ '.') :=
    List.takeWhile_append_dropWhile.symm
  rcases hdrop : text.toList.dropWhile (· ≠ '.') with _ | ⟨c, rest⟩
  · refine Or.inl ⟨?_, by rw [hdrop, List.append_nil] at hsplit; exact hsplit, ?_⟩
    · intro hdot
      have hall := List.dropWhile_eq_nil_iff.1 hdrop '.' hdot
      simp at hall
    · rw [fractionPart, hdrop]
      rfl
  · have hc : c = '.' := by
      have hhead := List.head?_dropWhile_not (· ≠ '.') text.toList
      rw [hdrop] at hhead
      simpa using hhead
    have hfraction : fractionPart text = rest := by
      rw [fractionPart, hdrop]
      rfl
    rw [hdrop, hc, ← hfraction] at hsplit
    exact Or.inr ⟨by rw [hsplit]; simp, hsplit⟩

/-- The checks `from_decimal_str` makes before it converts. -/
def Checked (text : String) (decimals : ℕ) : Prop :=
  wholePart text ≠ [] ∧ (∀ c ∈ wholePart text, c.isDigit) ∧ (∀ c ∈ fractionPart text, c.isDigit) ∧
    ('.' ∈ text.toList → fractionPart text ≠ []) ∧ (fractionPart text).length ≤ decimals

/-- The number the two parts write. -/
def writtenValue (text : String) (decimals : ℕ) : ℕ :=
  spelled (wholePart text) * 10 ^ decimals +
    spelled (fractionPart text) * 10 ^ (decimals - (fractionPart text).length)

/-- The texts that pass the checks are those that write a number. -/
lemma writtenAs_iff {text : String} {decimals value : ℕ} :
    WrittenAs text decimals value ↔ Checked text decimals ∧ value = writtenValue text decimals := by
  constructor
  · rintro ⟨whole, fraction, hne, hwhole, hfraction, htext, hlength, rfl⟩
    rcases htext with ⟨htext, rfl⟩ | ⟨htext, hfne⟩
    · obtain ⟨hw, hf⟩ := parts_of_digits hwhole htext
      have hdot : '.' ∉ text.toList := by
        rw [htext]
        exact fun hmem => isDigit_ne_dot (hwhole _ hmem) rfl
      rw [Checked, writtenValue, hw, hf]
      exact ⟨⟨hne, hwhole, hfraction, fun hmem => absurd hmem hdot, hlength⟩, rfl⟩
    · obtain ⟨hw, hf⟩ := parts_of_dotted hwhole htext
      rw [Checked, writtenValue, hw, hf]
      exact ⟨⟨hne, hwhole, hfraction, fun _ => hfne, hlength⟩, rfl⟩
  · rintro ⟨⟨hne, hwhole, hfraction, hdot, hlength⟩, rfl⟩
    refine ⟨wholePart text, fractionPart text, hne, hwhole, hfraction, ?_, hlength, rfl⟩
    rcases text_of_parts text with ⟨-, htext, hf⟩ | ⟨hmem, htext⟩
    · exact Or.inl ⟨htext, hf⟩
    · exact Or.inr ⟨htext, hdot hmem⟩

lemma spelled_append (digits digits' : List Char) :
    spelled (digits ++ digits') = spelled digits * 10 ^ digits'.length + spelled digits' := by
  rw [spelled, Nat.ofDigitChars_append, Nat.ofDigitChars_eq_ofDigitChars_zero, mul_comm]
  rfl

/-- The amount is the digits without the dot, times the missing power of ten. -/
lemma writtenValue_eq {text : String} {decimals : ℕ} (h : Checked text decimals) :
    writtenValue text decimals =
      allDigits text * 10 ^ (decimals - (fractionPart text).length) := by
  obtain ⟨-, hwhole, hfraction, -, hlength⟩ := h
  have hfilter : text.toList.filter (· ≠ '.') = wholePart text ++ fractionPart text := by
    have hkeep : ∀ digits : List Char, (∀ c ∈ digits, c.isDigit) →
        digits.filter (· ≠ '.') = digits := fun digits hdigits =>
      List.filter_eq_self.2 fun c hc => decide_eq_true (isDigit_ne_dot (hdigits c hc))
    rcases text_of_parts text with ⟨-, htext, hf⟩ | ⟨-, htext⟩
    · rw [hf, List.append_nil, htext]
      exact hkeep _ hwhole
    · rw [htext, List.filter_append, hkeep _ hwhole, List.filter_cons_of_neg (by simp),
        hkeep _ hfraction]
  have hpow : 10 ^ decimals =
      10 ^ (fractionPart text).length * 10 ^ (decimals - (fractionPart text).length) := by
    rw [← pow_add, Nat.add_sub_cancel' hlength]
  rw [allDigits, hfilter, spelled_append, writtenValue, hpow, add_mul, mul_assoc]

section

variable {parseUnits : String → UInt8 → Except String ℕ} {text : String} {decimals : UInt8}

/-- The parser fails on a text that does not pass the checks, and otherwise answers what
`parse_units` answers. -/
lemma fromDecimalStr_eq_ok {amount : ℕ} :
    fromDecimalStr parseUnits text decimals = .ok amount ↔
      Checked text decimals.toNat ∧ parseUnits text decimals = .ok amount := by
  have hformat : (((wholePart text).isEmpty || !(wholePart text).all Char.isDigit ||
      !(fractionPart text).all Char.isDigit ||
      (text.toList.contains '.' && (fractionPart text).isEmpty)) = false) ↔
      wholePart text ≠ [] ∧ (∀ c ∈ wholePart text, c.isDigit) ∧
        (∀ c ∈ fractionPart text, c.isDigit) ∧ ('.' ∈ text.toList → fractionPart text ≠ []) := by
    simp [and_assoc, List.isEmpty_eq_false_iff]
  simp only [fromDecimalStr]
  split
  · rename_i hbad
    refine ⟨by simp, ?_⟩
    rintro ⟨⟨hne, hwhole, hfraction, hdot, -⟩, -⟩
    rw [hformat.2 ⟨hne, hwhole, hfraction, hdot⟩] at hbad
    cases hbad
  · rename_i hgood
    obtain ⟨hne, hwhole, hfraction, hdot⟩ := hformat.1 (by simpa using hgood)
    split
    · rename_i hlong
      refine ⟨by simp, ?_⟩
      rintro ⟨⟨-, -, -, -, hlength⟩, -⟩
      omega
    · rename_i hshort
      have hchecked : Checked text decimals.toNat :=
        ⟨hne, hwhole, hfraction, hdot, by omega⟩
      rcases parseUnits text decimals with message | units
      · simp
      · simp [hchecked]

/-- A text that does not wrap is read as the number it writes. -/
lemma parsesExactly_of_not_wraps (hunits : ReadsUnits parseUnits) (hd : decimals.toNat ≤ 77)
    (h : ¬ Wraps text decimals.toNat) : ParsesExactly parseUnits text decimals := by
  intro amount
  rw [fromDecimalStr_eq_ok, writtenAs_iff, and_assoc, and_congr_right_iff]
  intro hchecked
  have hwritten : WrittenAs text decimals.toNat (writtenValue text decimals.toNat) :=
    writtenAs_iff.2 ⟨hchecked, rfl⟩
  have hvalue := writtenValue_eq hchecked
  rcases lt_or_ge (allDigits text) (2 ^ 256) with hfits | hlarge
  · -- the digits fit, so the product does too
    have hlt : writtenValue text decimals.toNat < 2 ^ 256 := by
      by_contra hge
      exact h ⟨_, hwritten, hfits, not_lt.1 hge⟩
    rw [hunits.reads text decimals _ hwritten hd hfits, ← hvalue, Nat.mod_eq_of_lt hlt]
    constructor
    · rintro ⟨⟩
      exact ⟨rfl, hlt⟩
    · rintro ⟨rfl, -⟩
      rfl
  · -- the digits alone are too large, and the power of ten only makes them larger
    obtain ⟨message, herror⟩ := hunits.overflows text decimals _ hwritten hd hlarge
    have hge : 2 ^ 256 ≤ writtenValue text decimals.toNat := by
      rw [hvalue]
      exact hlarge.trans (Nat.le_mul_of_pos_right _ (Nat.pow_pos (by decide)))
    rw [herror]
    constructor
    · rintro ⟨⟩
    · rintro ⟨rfl, hlt⟩
      omega

/-- A text that wraps is accepted. -/
lemma fromDecimalStr_of_wraps (hunits : ReadsUnits parseUnits) (hd : decimals.toNat ≤ 77)
    (h : Wraps text decimals.toNat) : ∃ value, WrittenAs text decimals.toNat value ∧
      2 ^ 256 ≤ value ∧ fromDecimalStr parseUnits text decimals = .ok (value % 2 ^ 256) := by
  obtain ⟨value, hwritten, hfits, hlarge⟩ := h
  obtain ⟨hchecked, hvalue⟩ := writtenAs_iff.1 hwritten
  refine ⟨value, hwritten, hlarge, fromDecimalStr_eq_ok.2 ⟨hchecked, ?_⟩⟩
  rw [hunits.reads text decimals value hwritten hd hfits, hvalue, writtenValue_eq hchecked]

end

/-- Amounts are parsed exactly, and issued as written, unless the digits of the text fit into 256
bits and the amount they write does not. -/
theorem amounts_parse_exactly_iff {parseUnits : String → UInt8 → Except String ℕ}
    (hunits : ReadsUnits parseUnits) (text : String) (decimals : UInt8)
    (hd : decimals.toNat ≤ 77) :
    (ParsesExactly parseUnits text decimals ∧ ∀ currency, currencyDecimals currency = decimals.toNat →
      IssuedAsWritten parseUnits text currency) ↔ ¬ Wraps text decimals.toNat := by
  constructor
  · rintro ⟨hexact, -⟩ hwraps
    obtain ⟨value, hwritten, hlarge, hok⟩ := fromDecimalStr_of_wraps hunits hd hwraps
    -- the text writes one number only, and that one is not below the bound
    obtain ⟨hmod, hlt⟩ := (hexact _).1 hok
    have heq : value % 2 ^ 256 = value :=
      (writtenAs_iff.1 hmod).2.trans (writtenAs_iff.1 hwritten).2.symm
    omega
  · intro hwraps
    have hexact := parsesExactly_of_not_wraps hunits hd hwraps
    refine ⟨hexact, fun currency hcurrency amount hamount => ?_⟩
    have hdecimals : UInt8.ofNat (currencyDecimals currency) = decimals := by
      rw [hcurrency, UInt8.ofNat_toNat]
    rw [requestedAmount, hdecimals] at hamount
    rw [hcurrency]
    rcases hparse : fromDecimalStr parseUnits text decimals with e | units
    · rw [hparse] at hamount
      cases hamount
    · simp only [hparse] at hamount
      split at hamount
      · cases hamount
      · cases hamount
        exact ((hexact _).1 hparse).1

/-- `parse_units` on a text without a sign. -/
def wrappingUnits (text : String) (decimals : UInt8) : Except String ℕ :=
  if allDigits text < 2 ^ 256 then
    .ok (allDigits text * 10 ^ (decimals.toNat - (fractionPart text).length) % 2 ^ 256)
  else .error "number is too large to fit in target type"

lemma readsUnits_wrappingUnits : ReadsUnits wrappingUnits where
  reads := fun _ _ _ _ _ hfits => if_pos hfits
  overflows := fun _ _ _ _ _ hlarge => ⟨_, if_neg (not_lt.2 hlarge)⟩

lemma not_wraps_of_lt {text : String} {decimals : ℕ} (h : writtenValue text decimals < 2 ^ 256) :
    ¬ Wraps text decimals := by
  rintro ⟨value, hwritten, -, hlarge⟩
  have hvalue := (writtenAs_iff.1 hwritten).2
  omega

theorem amounts_parse_exactly_iff_cents :
    ParsesExactly wrappingUnits "1.50" 6 :=
  ((amounts_parse_exactly_iff readsUnits_wrappingUnits "1.50" 6 (by decide)).2
    (not_wraps_of_lt (by decide))).1

/-- `2 ^ 250 + 1` whole units are a request for one unit. -/
theorem wrapped_amount_is_issued :
    ReadsUnits wrappingUnits ∧
    requestedAmount wrappingUnits
      "1809251394333065553493296640760748560207343510400633813116524750123642650625" .usdc =
        .ok 1000000 ∧
    ¬ WrittenAs "1809251394333065553493296640760748560207343510400633813116524750123642650625"
      (currencyDecimals .usdc) 1000000 ∧
    ¬ ParsesExactly wrappingUnits
      "1809251394333065553493296640760748560207343510400633813116524750123642650625" 6 := by
  have hok : fromDecimalStr wrappingUnits
      "1809251394333065553493296640760748560207343510400633813116524750123642650625" 6 =
        .ok 1000000 := by
    decide +kernel
  have hnot : ¬ WrittenAs
      "1809251394333065553493296640760748560207343510400633813116524750123642650625" 6 1000000 := by
    intro hwritten
    exact absurd (writtenAs_iff.1 hwritten).2 (by decide +kernel)
  refine ⟨readsUnits_wrappingUnits, by decide +kernel, hnot, fun hexact => ?_⟩
  exact hnot ((hexact _).1 hok).1

end Payday.Api
