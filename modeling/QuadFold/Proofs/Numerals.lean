import Mathlib.Data.Nat.Digits.Lemmas
import QuadFold.Proofs.Literals

/-! Literals as numerals. A numeral is read by its digits alone, whatever their number, and leading
zeros change nothing; so a value has many numerals, of which one is written. -/
namespace QuadFold.Literal

/-- What digits write in base ten, the last one counting units. -/
def magnitude (digits : List Char) : Nat :=
  Nat.ofDigits 10 (digits.map fun c => c.toNat - '0'.toNat).reverse

/-- An optional minus sign and one or more decimal digits, with the integer that they write. -/
inductive Writes : List Char → Int → Prop
  | plain {digits : List Char} (nonempty : digits ≠ [])
      (decimal : ∀ c ∈ digits, c.isDigit = true) : Writes digits (magnitude digits)
  | minus {digits : List Char} (nonempty : digits ≠ [])
      (decimal : ∀ c ∈ digits, c.isDigit = true) : Writes ('-' :: digits) (-(magnitude digits))

def Fits (n : Int) : Prop := -2 ^ 63 ≤ n ∧ n ≤ 2 ^ 63 - 1

instance (n : Int) : Decidable (Fits n) := inferInstanceAs (Decidable (_ ∧ _))

/-- No zero before another digit, and none after a minus sign. -/
def isCanonical : List Char → Bool
  | '0' :: _ :: _ => false
  | '-' :: '0' :: _ => false
  | _ => true

theorem magnitude_cons (c : Char) (rest : List Char) :
    magnitude (c :: rest) = 10 ^ rest.length * (c.toNat - '0'.toNat) + magnitude rest := by
  rw [magnitude, List.map_cons, Nat.ofDigits_reverse_cons, List.length_map, Nat.add_comm]
  rfl

theorem ofDigitChars_eq_magnitude (digits : List Char) :
    Nat.ofDigitChars 10 digits 0 = magnitude digits := by
  induction digits with
  | nil => rfl
  | cons c rest ih =>
    rw [Nat.ofDigitChars_cons, Nat.ofDigitChars_eq_ofDigitChars_zero, ih, magnitude_cons,
      Nat.mul_zero, Nat.zero_add]

theorem natural?_eq_some_iff (cs : List Char) (n : Nat) : Text.natural? cs = some n ↔
    (cs ≠ [] ∧ ∀ c ∈ cs, c.isDigit = true) ∧ magnitude cs = n := by
  simp [Text.natural?, ofDigitChars_eq_magnitude]

theorem integer?_of_writes {cs : List Char} {n : Int} (h : Writes cs n) :
    Text.integer? cs = some n := by
  cases h with
  | plain nonempty decimal =>
    exact Text.integer?_of_natural? ((natural?_eq_some_iff _ _).mpr ⟨⟨nonempty, decimal⟩, rfl⟩)
  | minus nonempty decimal =>
    refine (Text.integer?_minus_eq_some_iff _ _).mpr ⟨_, ?_, rfl⟩
    exact (natural?_eq_some_iff _ _).mpr ⟨⟨nonempty, decimal⟩, rfl⟩

theorem isStrict_iff_writes (s : String) : isStrict s = true ↔ ∃ n, Writes s.toList n := by
  rw [isStrict_iff]
  generalize s.toList = cs
  constructor
  · unfold afterMinus
    split
    · rintro ⟨nonempty, decimal⟩
      exact ⟨_, .minus nonempty decimal⟩
    · rintro ⟨nonempty, decimal⟩
      exact ⟨_, .plain nonempty decimal⟩
  · rintro ⟨n, writes⟩
    cases writes with
    | minus nonempty decimal => exact ⟨nonempty, decimal⟩
    | plain nonempty decimal =>
      obtain ⟨c, rest, rfl⟩ := List.exists_cons_of_ne_nil nonempty
      rw [afterMinus_of_digit rest (decimal c (by simp))]
      exact ⟨nonempty, decimal⟩

theorem fits_iff (n : Int) : Fits n ↔ ∃ value : Int64, value.toInt = n := by
  constructor
  · rintro ⟨low, high⟩
    exact ⟨Int64.ofInt n, Int64.toInt_ofInt_of_le low (by omega)⟩
  · rintro ⟨value, rfl⟩
    have low := value.le_toInt
    have high := value.toInt_lt
    exact ⟨low, by omega⟩

theorem ofInt?_eq_some_iff (n : Int) (value : Int64) :
    ofInt? n = some value ↔ value.toInt = n := by
  constructor
  · intro h
    unfold ofInt? at h
    split at h
    · rename_i range
      cases h
      exact Int64.toInt_ofInt_of_le range.1 (Int.lt_of_le_sub_one range.2)
    · contradiction
  · rintro rfl
    exact ofInt?_toInt value

theorem denotation?_eq_some_iff (s : String) (value : Int64) :
    denotation? s = some value ↔ Writes s.toList value.toInt := by
  rw [← accepts_and_value?_iff .strict, value?, Option.bind_eq_some_iff]
  constructor
  · rintro ⟨strict, n, read, fits⟩
    obtain ⟨m, writes⟩ := (isStrict_iff_writes s).mp strict
    have same := Option.some.inj ((integer?_of_writes writes).symm.trans read)
    rwa [(ofInt?_eq_some_iff n value).mp fits, ← same]
  · intro writes
    exact ⟨(isStrict_iff_writes s).mpr ⟨_, writes⟩, _, integer?_of_writes writes,
      ofInt?_toInt value⟩

theorem toNat_of_isDigit {c : Char} (digit : c.isDigit = true) :
    '0'.toNat ≤ c.toNat ∧ c.toNat < '0'.toNat + 10 := by
  simp only [Char.isDigit, Bool.and_eq_true, decide_eq_true_eq] at digit
  exact ⟨digit.1, Nat.lt_succ_of_le digit.2⟩

theorem digitChar_of_isDigit {c : Char} (digit : c.isDigit = true) :
    Nat.digitChar (c.toNat - '0'.toNat) = c := by
  obtain ⟨low, high⟩ := toNat_of_isDigit digit
  apply Char.toNat_inj.mp
  rw [Nat.toNat_digitChar_of_lt_ten (by omega)]
  exact Nat.add_sub_of_le low

theorem toDigits_ofDigitChars {before : Nat} (positive : 0 < before) {digits : List Char}
    (decimal : ∀ c ∈ digits, c.isDigit = true) :
    Nat.toDigits 10 (Nat.ofDigitChars 10 digits before) = Nat.toDigits 10 before ++ digits := by
  induction digits generalizing before with
  | nil => simp
  | cons c rest ih =>
    have digit := decimal c (by simp)
    obtain ⟨low, high⟩ := toNat_of_isDigit digit
    have small : c.toNat - '0'.toNat < 10 := by omega
    have longer : Nat.toDigits 10 before ++ [c] =
        Nat.toDigits 10 (10 * before + (c.toNat - '0'.toNat)) := by
      rw [← Nat.toDigits_append_toDigits (by decide) positive small, Nat.toDigits_of_lt_base small,
        digitChar_of_isDigit digit]
    rw [Nat.ofDigitChars_cons, ih (by omega) fun d hd => decimal d (by simp [hd]), ← longer,
      List.append_assoc, List.singleton_append]

theorem toDigits_magnitude {c : Char} {rest : List Char}
    (decimal : ∀ d ∈ c :: rest, d.isDigit = true) (leading : c = '0' → rest = []) :
    Nat.toDigits 10 (magnitude (c :: rest)) = c :: rest := by
  have digit := decimal c (by simp)
  obtain ⟨low, high⟩ := toNat_of_isDigit digit
  have alone : Nat.toDigits 10 (c.toNat - '0'.toNat) = [c] := by
    rw [Nat.toDigits_of_lt_base (by omega), digitChar_of_isDigit digit]
  rw [← ofDigitChars_eq_magnitude, Nat.ofDigitChars_cons, Nat.mul_zero, Nat.zero_add]
  by_cases zero : c = '0'
  · rw [leading zero, Nat.ofDigitChars_nil, alone]
  · have apart : c.toNat ≠ '0'.toNat := fun same => zero (Char.toNat_inj.mp same)
    rw [toDigits_ofDigitChars (by omega) fun d hd => decimal d (by simp [hd]), alone]
    rfl

theorem writes_ofInt (n : Int) : Writes (Text.ofInt n) n := by
  obtain ⟨⟨nonempty, decimal⟩, read⟩ :=
    (natural?_eq_some_iff _ _).mp (Text.natural?_toDigits n.natAbs)
  unfold Text.ofInt
  split
  · have writes := Writes.minus nonempty decimal
    rwa [read, show -(n.natAbs : Int) = n by omega] at writes
  · have writes := Writes.plain nonempty decimal
    rwa [read, show (n.natAbs : Int) = n by omega] at writes

theorem isCanonical_minus_iff (digits : List Char) :
    isCanonical ('-' :: digits) = true ↔ digits.head? ≠ some '0' := by
  cases digits with
  | nil => simp [isCanonical]
  | cons c rest => by_cases zero : c = '0' <;> simp [isCanonical, zero]

theorem isCanonical_digits_iff {c : Char} (rest : List Char) (digit : c.isDigit = true) :
    isCanonical (c :: rest) = true ↔ (c = '0' → rest = []) := by
  have no_minus : c ≠ '-' := by
    rintro rfl
    contradiction
  cases rest <;> by_cases zero : c = '0' <;> simp [isCanonical, zero, no_minus]

theorem isCanonical_ofInt (n : Int) : isCanonical (Text.ofInt n) = true := by
  unfold Text.ofInt
  split
  · rename_i negative
    rw [isCanonical_minus_iff]
    intro zero
    have magnitude_zero := Text.eq_zero_of_head?_toDigits zero
    omega
  · obtain ⟨⟨nonempty, decimal⟩, _⟩ :=
      (natural?_eq_some_iff _ _).mp (Text.natural?_toDigits n.natAbs)
    have unpadded := Text.toDigits_ne_padded n.natAbs
    obtain ⟨c, rest, digits⟩ := List.exists_cons_of_ne_nil nonempty
    rw [digits] at decimal unpadded ⊢
    rw [isCanonical_digits_iff rest (decimal c (by simp))]
    rintro rfl
    cases rest with
    | nil => rfl
    | cons d rest => exact absurd rfl (unpadded d rest)

theorem Writes.eq_ofInt {cs : List Char} {n : Int} (writes : Writes cs n)
    (canonical : isCanonical cs = true) : cs = Text.ofInt n := by
  cases writes with
  | plain nonempty decimal =>
    obtain ⟨c, rest, rfl⟩ := List.exists_cons_of_ne_nil nonempty
    rw [isCanonical_digits_iff rest (decimal c (by simp))] at canonical
    rw [Text.ofInt, if_neg (by omega), Int.natAbs_natCast, toDigits_magnitude decimal canonical]
  | minus nonempty decimal =>
    obtain ⟨c, rest, rfl⟩ := List.exists_cons_of_ne_nil nonempty
    rw [isCanonical_minus_iff, List.head?_cons, ne_eq, Option.some.injEq] at canonical
    have digits := toDigits_magnitude decimal fun zero => absurd zero canonical
    have positive : magnitude (c :: rest) ≠ 0 := by
      intro zero
      rw [zero, Nat.toDigits_zero] at digits
      cases digits
      contradiction
    rw [Text.ofInt, if_pos (by omega), Int.natAbs_neg, Int.natAbs_natCast, digits]

theorem text_unique (value : Int64) (s : String) :
    Writes s.toList value.toInt ∧ isCanonical s.toList = true ↔ s = text value := by
  constructor
  · rintro ⟨writes, canonical⟩
    rw [text, ← writes.eq_ofInt canonical, String.ofList_toList]
  · rintro rfl
    rw [text, String.toList_ofList]
    exact ⟨writes_ofInt _, isCanonical_ofInt _⟩

/-- What is recognised as a literal, what has a value and what is written agree. Under either policy
the literals with a value are the numerals that fit in 64 bits, the value is what the numeral
writes, and of all numerals of a value the written one alone has no superfluous zero or sign. -/
theorem literals_are_numerals (policy : Policy) :
    (∀ s, (policy.accepts s = true ∧ ∃ value, value? s = some value) ↔
      ∃ n, Writes s.toList n ∧ Fits n) ∧
    (∀ s n value, Writes s.toList n → value? s = some value → value.toInt = n) ∧
    (∀ value s, (policy.accepts s = true ∧ value? s = some value) ∧ isCanonical s.toList = true ↔
      s = text value) := by
  have literal (s : String) (value : Int64) :
      policy.accepts s = true ∧ value? s = some value ↔ Writes s.toList value.toInt :=
    (accepts_and_value?_iff policy s value).trans (denotation?_eq_some_iff s value)
  refine ⟨fun s => ?_, fun s n value writes read => ?_, fun value s => ?_⟩
  · rw [← exists_and_left]
    simp only [literal, fits_iff]
    constructor
    · rintro ⟨value, writes⟩
      exact ⟨_, writes, value, rfl⟩
    · rintro ⟨_, writes, value, rfl⟩
      exact ⟨value, writes⟩
  · rw [value?, integer?_of_writes writes] at read
    exact (ofInt?_eq_some_iff n value).mp read
  · rw [literal]
    exact text_unique value s

/-- The lowest value behind zeros, one that is out of range by one, and a zero with a sign. -/
theorem literals_are_numerals_lowest :
    Writes "-009223372036854775808".toList (-2 ^ 63) ∧
      value? "-009223372036854775808" = some Int64.minValue ∧ Int64.minValue.toInt = -2 ^ 63 ∧
      (¬ ∃ n, Writes "9223372036854775808".toList n ∧ Fits n) ∧
      value? "-0" = some 0 ∧ "-0" ≠ text 0 ∧ text 0 = "0" := by
  have writes : Writes "-009223372036854775808".toList (-2 ^ 63) :=
    @Writes.minus "009223372036854775808".toList (by decide) (List.all_eq_true.mp (by decide))
  obtain ⟨numerals, exact, written⟩ := literals_are_numerals .permissive
  have read : value? "-009223372036854775808" = some Int64.minValue := by decide +kernel
  have unread : value? "9223372036854775808" = none := by decide +kernel
  refine ⟨writes, read, exact _ _ _ writes read, ?_, by decide +kernel, ?_, ?_⟩
  · rw [← numerals, unread]
    simp
  · rw [ne_eq, ← written]
    decide
  · exact ((written 0 "0").mp (by decide)).symm

end QuadFold.Literal
