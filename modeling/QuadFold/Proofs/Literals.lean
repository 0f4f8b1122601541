import QuadFold.Literal

/-! Integers and their texts: what is written is read back, and the two policies differ only on
texts without a value. -/
namespace QuadFold.Text

theorem natural?_digits {cs : List Char} {n : Nat} (h : natural? cs = some n) :
    cs ≠ [] ∧ ∀ c ∈ cs, c.isDigit = true := by
  unfold natural? at h
  split at h
  · rename_i digits
    exact ⟨digits.1, List.all_eq_true.mp digits.2⟩
  · contradiction

theorem natural?_toDigits (n : Nat) : natural? (Nat.toDigits 10 n) = some n := by
  have digits : (Nat.toDigits 10 n).all Char.isDigit = true :=
    List.all_eq_true.mpr fun c hc => Nat.isDigit_of_mem_toDigits (by decide) (by decide) hc
  simp [natural?, Nat.toDigits_ne_nil, digits, Nat.ofDigitChars_ten_toDigits]

theorem eq_zero_of_head?_toDigits {n : Nat} (h : (Nat.toDigits 10 n).head? = some '0') : n = 0 := by
  induction n using Nat.strongRecOn with
  | ind n ih =>
    by_cases small : n < 10
    · rw [Nat.toDigits_of_lt_base small, List.head?_cons, Option.some.injEq] at h
      have digits : ∀ m < 10, Nat.digitChar m = '0' → m = 0 := by decide
      exact digits n small h
    · obtain ⟨c, rest, digits⟩ := List.exists_cons_of_ne_nil (@Nat.toDigits_ne_nil (n / 10) 10)
      rw [Nat.toDigits_of_base_le (by decide) (by omega), digits] at h
      have quotient := ih (n / 10) (by omega) (digits ▸ h)
      omega

/-- A zero has no digit behind it. -/
theorem toDigits_ne_padded (n : Nat) (c : Char) (rest : List Char) :
    Nat.toDigits 10 n ≠ '0' :: c :: rest := by
  intro padded
  have zero := @eq_zero_of_head?_toDigits n (by rw [padded]; rfl)
  rw [zero, Nat.toDigits_zero] at padded
  cases padded

theorem integer?_minus_eq_some_iff (cs : List Char) (n : Int) :
    integer? ('-' :: cs) = some n ↔ ∃ m : Nat, natural? cs = some m ∧ n = -(m : Int) := by
  cases h : natural? cs <;> simp [integer?, h, eq_comm]

theorem integer?_of_natural? {cs : List Char} {n : Nat} (h : natural? cs = some n) :
    integer? cs = some (n : Int) := by
  obtain ⟨nonempty, digits⟩ := natural?_digits h
  cases cs with
  | nil => contradiction
  | cons c rest =>
    have hc := digits c (by simp)
    unfold integer?
    split
    · rename_i same; cases same; contradiction
    · rename_i same; cases same; contradiction
    · simp [h]

theorem integer?_ofInt (n : Int) : integer? (ofInt n) = some n := by
  have magnitude := natural?_toDigits n.natAbs
  unfold ofInt
  split
  · exact (integer?_minus_eq_some_iff _ n).mpr ⟨n.natAbs, magnitude, by omega⟩
  · rw [integer?_of_natural? magnitude, Option.some.injEq]
    omega

end QuadFold.Text

namespace QuadFold.Literal

theorem ofInt?_toInt (value : Int64) : ofInt? value.toInt = some value := by
  rw [ofInt?, if_pos ⟨value.minValue_le_toInt, value.toInt_le⟩, Int64.ofInt_toInt]

@[simp] theorem value?_text (value : Int64) : value? (text value) = some value := by
  simp [value?, text, Text.integer?_ofInt, ofInt?_toInt]

theorem afterMinus_of_ne {c : Char} (rest : List Char) (hc : c ≠ '-') :
    afterMinus (c :: rest) = c :: rest := by
  unfold afterMinus
  split
  · rename_i same; cases same; contradiction
  · rfl

theorem afterMinus_of_digit {c : Char} (rest : List Char) (hc : c.isDigit = true) :
    afterMinus (c :: rest) = c :: rest := by
  apply afterMinus_of_ne rest
  rintro rfl
  contradiction

theorem isStrict_iff (s : String) : isStrict s = true ↔
    afterMinus s.toList ≠ [] ∧ ∀ c ∈ afterMinus s.toList, c.isDigit = true := by
  simp [isStrict]

theorem isStrict_text (value : Int64) : isStrict (text value) = true := by
  have magnitude := Text.natural?_digits (Text.natural?_toDigits value.toInt.natAbs)
  rw [text, isStrict_iff, String.toList_ofList]
  unfold Text.ofInt
  split
  · exact magnitude
  · obtain ⟨c, rest, digits⟩ := List.exists_cons_of_ne_nil magnitude.1
    rw [digits] at magnitude ⊢
    rw [afterMinus_of_digit rest (magnitude.2 c (by simp))]
    exact magnitude

theorem isLoose_of_isStrict {s : String} (strict : isStrict s = true) : isLoose s = true := by
  simp only [isStrict, Bool.and_eq_true, Bool.not_eq_true', List.isEmpty_eq_false_iff] at strict
  simp only [isLoose, Bool.and_eq_true, Bool.not_eq_true', List.isEmpty_eq_false_iff]
  generalize s.toList = cs at strict ⊢
  unfold afterMinus at strict
  split at strict
  · simpa using fun c hc => Or.inl (List.all_eq_true.mp strict.2 c hc)
  · exact ⟨strict.1, List.all_eq_true.mpr fun c hc => by
      simp [List.all_eq_true.mp strict.2 c hc]⟩

theorem isStrict_of_isLoose {s : String} {value : Int64} (loose : isLoose s = true)
    (h : value? s = some value) : isStrict s = true := by
  simp only [isLoose, Bool.and_eq_true] at loose
  simp only [value?, Option.bind_eq_some_iff] at h
  obtain ⟨n, hn, _⟩ := h
  rw [isStrict_iff]
  revert loose hn
  generalize s.toList = cs
  intro loose hn
  unfold Text.integer? at hn
  split at hn
  · obtain ⟨m, hm, _⟩ := (Text.integer?_minus_eq_some_iff _ n).mp hn
    exact Text.natural?_digits hm
  · simp at loose
  · obtain ⟨m, hm, _⟩ := Option.map_eq_some_iff.mp hn
    have digits := Text.natural?_digits hm
    obtain ⟨c, rest, rfl⟩ := List.exists_cons_of_ne_nil digits.1
    rw [afterMinus_of_digit rest (digits.2 c (by simp))]
    exact digits

def WellFormed (s : String) : Prop := isStrict s = true ∧ (value? s).isSome = true

instance (s : String) : Decidable (WellFormed s) := inferInstanceAs (Decidable (_ ∧ _))

/-- The integer that a text denotes by itself, if it does; no policy is asked. -/
def denotation? (s : String) : Option Int64 := if isStrict s then value? s else none

theorem wellFormed_iff (s : String) : WellFormed s ↔ ∃ value, denotation? s = some value := by
  by_cases strict : isStrict s = true <;>
    simp [WellFormed, denotation?, strict, Option.isSome_iff_exists]

theorem denotation?_eq_none_iff (s : String) : denotation? s = none ↔ ¬ WellFormed s := by
  rw [wellFormed_iff, not_exists, Option.eq_none_iff_forall_ne_some]

@[simp] theorem denotation?_text (value : Int64) : denotation? (text value) = some value := by
  simp [denotation?, isStrict_text]

theorem wellFormed_text (value : Int64) : WellFormed (text value) :=
  (wellFormed_iff _).mpr ⟨value, denotation?_text value⟩

theorem accepts_and_value?_iff (policy : Policy) (s : String) (value : Int64) :
    policy.accepts s = true ∧ value? s = some value ↔ denotation? s = some value := by
  have denotes : denotation? s = some value ↔ isStrict s = true ∧ value? s = some value := by
    by_cases strict : isStrict s = true <;> simp [denotation?, strict]
  rw [denotes]
  cases policy with
  | permissive =>
    constructor
    · rintro ⟨loose, h⟩
      exact ⟨isStrict_of_isLoose loose h, h⟩
    · rintro ⟨strict, h⟩
      exact ⟨isLoose_of_isStrict strict, h⟩
  | strict => exact Iff.rfl

theorem refuses_of_head (policy : Policy) {c : Char} (rest : List Char) (digit : c.isDigit = false)
    (minus : c ≠ '-') : policy.accepts (String.ofList (c :: rest)) = false := by
  cases policy with
  | permissive => simp [Policy.accepts, isLoose, digit, minus]
  | strict => simp [Policy.accepts, isStrict, afterMinus_of_ne rest minus, digit]

theorem text_ne_empty (value : Int64) : text value ≠ "" := by
  intro empty
  have loose := isLoose_of_isStrict (isStrict_text value)
  rw [empty] at loose
  contradiction

end QuadFold.Literal
