import Mathlib.Data.Int.ModEq
import QuadFold.Proofs.Locality
import QuadFold.Proofs.Numerals

/-! Arithmetic on texts. Operators work on words, but what they give is the result over the integers
up to a multiple of the word size; so a fold can be told from the numerals alone. -/
namespace QuadFold

/-- The result over the integers, the quotient without its fraction; there is none for a division
by zero, nor for `assign`. -/
def Operator.unwrapped? : Operator → Int → Int → Option Int
  | .assign, _, _ => none
  | .add, m, n => some (m + n)
  | .sub, m, n => some (m - n)
  | .mul, m, n => some (m * n)
  | .div, m, n => if n = 0 then none else some (m.tdiv n)

theorem Operator.unwrapped?_eq_none_iff {operator : Operator} (binary : operator.isBinary = true)
    (m n : Int) : operator.unwrapped? m n = none ↔ operator = .div ∧ n = 0 := by
  cases operator with
  | assign => contradiction
  | div => simp [unwrapped?]
  | _ => simp [unwrapped?]

theorem Operator.evaluate_eq_unwrapped? (operator : Operator) (x y : Int64) :
    operator.evaluate x y = (operator.unwrapped? x.toInt y.toInt).map Int64.ofInt := by
  cases operator with
  | assign => rfl
  | add => simp [evaluate, unwrapped?, Int64.ofInt_add]
  | sub => simp [evaluate, unwrapped?, Int64.ofInt_sub]
  | mul => simp [evaluate, unwrapped?, Int64.ofInt_mul]
  | div =>
    have zero : y.toInt = 0 ↔ y = 0 := Int64.toInt_inj (y := 0)
    have quotient : Int64.ofInt (x.toInt.tdiv y.toInt) = x / y := by
      rw [Int64.ofInt_tdiv x.minValue_le_toInt x.toInt_le y.minValue_le_toInt y.toInt_le,
        Int64.ofInt_toInt, Int64.ofInt_toInt]
    by_cases hy : y = 0 <;> simp [evaluate, unwrapped?, zero, hy, quotient]

theorem toInt_modEq_iff (value : Int64) (n : Int) :
    value.toInt ≡ n [ZMOD 2 ^ 64] ↔ value = Int64.ofInt n := by
  have low := value.le_toInt
  have high := value.toInt_lt
  rw [eq_comm, Int64.ofInt_eq_iff_bmod_eq_toInt, Int.bmod_eq_iff (by decide), Int.modEq_comm,
    Int.modEq_iff_dvd]
  constructor
  · intro divides
    exact ⟨low, high, divides⟩
  · rintro ⟨_, _, divides⟩
    exact divides

namespace Policies

theorem fold_denoted (p : Policies) {i : Instruction} {right : Operand} {x y : Int64}
    (named : i.result ≠ "") (two : i.right = some right)
    (hx : Literal.denotation? i.left = some x) (hy : Literal.denotation? right = some y) :
    (p.fold [i]).map Folded.output = .ok ((i.operator.evaluate x y).elim ([i], []) fun value =>
      ([{ left := Literal.text value, result := i.result }], [.ofInstruction i value])) := by
  have judged : p.judge i.operator (Constants.empty.resolve i.left)
      (i.right.map Constants.empty.resolve) =
        .ok ((i.operator.evaluate x y).elim .undefined .folded) := by
    rw [two]
    exact judge_denoted i.operator hx hy
  rw [fold, foldFrom_cons_output, step_eq_map p .empty named, judged]
  cases i.operator.evaluate x y <;> rfl

/-- Folding computes with the integers that the operands write, whatever the policies and however
the operands are padded. Unless it divides by zero, an instruction over two literals comes to the
one text without superfluous zeros or sign of the one word that is congruent to the result over the
integers; a division by zero stays as it is written. -/
theorem fold_literals_exactly (p : Policies) {i : Instruction} {right : Operand} {m n : Int}
    (binary : i.operator.isBinary = true) (named : i.result ≠ "") (two : i.right = some right)
    (left_writes : Literal.Writes i.left.toList m) (left_fits : Literal.Fits m)
    (right_writes : Literal.Writes right.toList n) (right_fits : Literal.Fits n) :
    (¬ (i.operator = .div ∧ n = 0) → ∃ (result : Int) (value : Int64) (digits : Operand),
      i.operator.unwrapped? m n = some result ∧
      (∀ v : Int64, v.toInt ≡ result [ZMOD 2 ^ 64] ↔ v = value) ∧
      (∀ t : Operand, Literal.Writes t.toList value.toInt ∧ Literal.isCanonical t.toList = true ↔
        t = digits) ∧
      (p.fold [i]).map Folded.output =
        .ok ([{ left := digits, result := i.result }], [.ofInstruction i value])) ∧
    (i.operator = .div ∧ n = 0 → (p.fold [i]).map Folded.output = .ok ([i], [])) := by
  obtain ⟨x, rfl⟩ := (Literal.fits_iff m).mp left_fits
  obtain ⟨y, rfl⟩ := (Literal.fits_iff n).mp right_fits
  have folded := fold_denoted p named two ((Literal.denotation?_eq_some_iff _ x).mpr left_writes)
    ((Literal.denotation?_eq_some_iff _ y).mpr right_writes)
  rw [Operator.evaluate_eq_unwrapped?] at folded
  have defined := Operator.unwrapped?_eq_none_iff binary x.toInt y.toInt
  constructor
  · intro regular
    obtain ⟨result, computed⟩ := Option.ne_none_iff_exists'.mp fun none => regular (defined.mp none)
    rw [computed] at folded
    exact ⟨result, Int64.ofInt result, Literal.text (Int64.ofInt result), computed,
      fun v => toInt_modEq_iff v result, Literal.text_unique _, folded⟩
  · intro by_zero
    rw [defined.mpr by_zero] at folded
    exact folded

def overflowing : Instruction :=
  { operator := .div, left := "-009223372036854775808", right := some "-01", result := "q" }

theorem fold_literals_exactly_overflowing :
    Literal.Writes overflowing.left.toList (-2 ^ 63) ∧ Literal.Writes "-01".toList (-1) ∧
      overflowing.operator.unwrapped? (-2 ^ 63) (-1) = some (2 ^ 63) ∧
      (Policies.fold {} [overflowing]).map Folded.output =
        .ok ([{ left := "-9223372036854775808", result := "q" }],
          [.ofInstruction overflowing Int64.minValue]) ∧
      (Policies.fold {} [{ overflowing with right := some "-00" }]).map Folded.output =
        .ok ([{ overflowing with right := some "-00" }], []) := by
  have low : Literal.Writes overflowing.left.toList (-2 ^ 63) :=
    (Literal.denotation?_eq_some_iff _ Int64.minValue).mp (by decide +kernel)
  have minus_one : Literal.Writes "-01".toList (-1) :=
    (Literal.denotation?_eq_some_iff _ (-1)).mp (by decide +kernel)
  have minus_zero : Literal.Writes "-00".toList 0 :=
    (Literal.denotation?_eq_some_iff _ 0).mp (by decide +kernel)
  have lowest : Literal.Writes "-9223372036854775808".toList Int64.minValue.toInt :=
    (Literal.denotation?_eq_some_iff _ _).mp (by decide +kernel)
  have wide : overflowing.operator.unwrapped? (-2 ^ 63) (-1) = some (2 ^ 63) := by decide
  obtain ⟨result, value, digits, computed, words, texts, folded⟩ :=
    (fold_literals_exactly {} (i := overflowing) rfl (by decide) rfl low (by decide) minus_one
      (by decide)).1 (by decide)
  obtain rfl := Option.some.inj (wide.symm.trans computed)
  obtain rfl : Int64.minValue = value := (words _).mp (by decide)
  obtain rfl := (texts "-9223372036854775808").mp ⟨lowest, by decide⟩
  exact ⟨low, minus_one, wide, folded,
    (fold_literals_exactly {} (i := { overflowing with right := some "-00" }) rfl (by decide) rfl
      low (by decide) minus_zero (by decide)).2 ⟨rfl, rfl⟩⟩

end Policies

end QuadFold
