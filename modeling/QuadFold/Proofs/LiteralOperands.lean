import QuadFold.Proofs.Log
import QuadFold.Proofs.Reaching
import QuadFold.Proofs.RoundTrip

/-! Integer literals as operands. Operands are looked up among the known names before they are
recognised as literals, and digits alone may be a name; so a literal can be taken for a name. -/
namespace QuadFold

namespace Policies

section
variable (values : String → Option Int64)

/-- A literal has its own value, and any other text the one that is known. -/
def ownValue? (operand : Operand) : Option Int64 :=
  (Literal.denotation? operand).or (values operand)

def namesOnly (operand : Operand) : Option Int64 :=
  if Literal.WellFormed operand then none else values operand

/-- Every literal among the operands denotes itself: it stays as it is, and where the instruction is
folded, its own value is the one that the operator is applied to. -/
structure LiteralsKept (old new : Instruction) : Prop where
  left : old.isFold new = false → Literal.WellFormed old.left → new.left = old.left
  right : old.isFold new = false → ∀ right, old.right = some right → Literal.WellFormed right →
    new.right = some right
  folded : old.isFold new = true → ∃ right x y value, old.right = some right ∧
    ownValue? values old.left = some x ∧ ownValue? values right = some y ∧
    old.operator.evaluate x y = some value ∧
    Folding.entry? old new = some (.ofInstruction old value)

variable {values}

theorem written_namesOnly {operand : Operand} (h : Literal.WellFormed operand) :
    written (namesOnly values) operand = operand := by
  simp [written, namesOnly, h]

theorem denotation?_written_namesOnly (operand : Operand) :
    Literal.denotation? (written (namesOnly values) operand) = ownValue? values operand := by
  by_cases literal : Literal.WellFormed operand
  · obtain ⟨value, denotes⟩ := (Literal.wellFormed_iff operand).mp literal
    rw [written_namesOnly literal, ownValue?, denotes, Option.some_or]
  · have no_literal : Literal.denotation? operand = none :=
      (Literal.denotation?_eq_none_iff operand).mpr literal
    rw [ownValue?, no_literal, Option.none_or, written, namesOnly, if_neg literal]
    cases values operand with
    | none => exact no_literal
    | some value => exact Literal.denotation?_text value

theorem literalsKept_self (values : String → Option Int64) (i : Instruction) :
    LiteralsKept values i i where
  left _ _ := rfl
  right _ _ hr _ := hr
  folded fold := by
    rw [Instruction.isFold_of_operator_eq rfl] at fold
    contradiction

theorem literalsKept_rewritten (p : Policies) (values : String → Option Int64) (i : Instruction) :
    LiteralsKept values i (p.rewritten (namesOnly values) i) := by
  have becomes := rewriting_rewritten p (namesOnly values) i
  generalize p.rewritten (namesOnly values) i = new at becomes
  cases becomes with
  | @folded right x y value hr hx hy hv =>
    have binary := Operator.isBinary_of_evaluate hv
    have fold : i.isFold { left := Literal.text value, result := i.result } = true := by
      simp [Instruction.isFold, binary, Operator.isAssign]
    rw [denotation?_written_namesOnly] at hx hy
    exact ⟨fun no_fold => by simp [fold] at no_fold, fun no_fold => by simp [fold] at no_fold,
      fun _ => ⟨right, x, y, value, hr, hx, hy, hv, Folding.entry?_assigned binary value⟩⟩
  | same => exact literalsKept_self values i
  | written =>
    refine ⟨fun _ literal => written_namesOnly literal, fun _ right hr literal => ?_,
      fun fold => ?_⟩
    · simp [hr, written_namesOnly literal]
    · simp [Instruction.isFold_of_operator_eq] at fold

theorem rewritten_of_literalsKept {p : Policies} {values : String → Option Int64} {i : Instruction}
    (kept : LiteralsKept values i (p.rewritten values i)) :
    p.rewritten values i = i ∨ p.rewritten values i = p.rewritten (namesOnly values) i := by
  have becomes := rewriting_rewritten p values i
  generalize equation : p.rewritten values i = new at becomes kept ⊢
  cases becomes with
  | @folded right x y value hr hx hy hv =>
    -- the value in the log is one number, so both readings of the operands must give it
    have binary := Operator.isBinary_of_evaluate hv
    have entry := Folding.entry?_assigned binary value
    obtain ⟨right', x', y', value', hr', hx', hy', hv', entry'⟩ :=
      kept.folded (by simp [Instruction.isFold, binary, Operator.isAssign])
    obtain rfl : value = value' :=
      congrArg Folding.value (Option.some.inj (entry.symm.trans entry'))
    rw [← denotation?_written_namesOnly] at hx' hy'
    exact .inr (rewritten_of_folded p hr' hx' hy' hv').symm
  | same => exact .inl rfl
  | written =>
    have no_fold : i.isFold
        { i with left := written values i.left, right := i.right.map (written values) } = false :=
      Instruction.isFold_of_operator_eq rfl
    right
    rw [← equation]
    apply rewritten_congr
    intro o ho
    by_cases literal : Literal.WellFormed o
    · rw [written_namesOnly literal]
      rcases List.mem_cons.mp ho with rfl | ho
      · exact kept.left no_fold literal
      · have hr : i.right = some o := by simpa using ho
        have stays := kept.right no_fold o hr literal
        simpa [hr] using stays
    · simp [written, namesOnly, literal]

theorem literalsKept_iff (p : Policies) (values : String → Option Int64) (i : Instruction) :
    LiteralsKept values i (p.rewritten values i) ↔
      p.rewritten values i = i ∨ p.rewritten values i = p.rewritten (namesOnly values) i := by
  constructor
  · exact rewritten_of_literalsKept
  · rintro (same | same)
    · rw [same]
      exact literalsKept_self values i
    · rw [same]
      exact literalsKept_rewritten p values i

end

/-- Where literals denote themselves. The log has an entry for each folded place, in order. At every
place the literals of the instruction are kept exactly if it stays as it is, or if it would become
the same without the values of names that are literals; so they are kept wherever none of them is
the result of an earlier instruction. -/
theorem fold_keeps_literals_iff (source : String) (program : Program)
    (read : Listing.parse source = .ok program) (p : Policies) (r : Folded)
    (ok : p.fold program = .ok r) :
    r.foldings =
      ((program.zip r.program).filterMap fun place => Folding.entry? place.1 place.2) ∧
    ∀ k old new, program[k]? = some old → r.program[k]? = some new →
      (LiteralsKept (p.reaching? (r.program.take k)) old new ↔
        new = old ∨ new = p.rewritten (namesOnly (p.reaching? (r.program.take k))) old) ∧
      ((∀ x ∈ old.operands, Literal.WellFormed x → x ∉ Program.results (program.take k)) →
        LiteralsKept (p.reaching? (r.program.take k)) old new) := by
  have shaped : ∀ i ∈ program, i.WellShaped := fun i hi =>
    (Listing.representable_of_parse read i hi).wellShaped
  refine ⟨foldFrom_foldings ok, fun k old new was becomes => ?_⟩
  obtain ⟨_, was', rfl⟩ := fold_place ok shaped becomes
  cases was.symm.trans was'
  have exactly := literalsKept_iff p (p.reaching? (r.program.take k)) old
  refine ⟨exactly, fun unnamed => exactly.mpr (.inr ?_)⟩
  apply rewritten_congr
  intro o ho
  by_cases literal : Literal.WellFormed o
  · have same_results : Program.results (r.program.take k) = Program.results (program.take k) := by
      have results := foldFrom_results ok
      simp only [Program.results, List.map_take] at results ⊢
      rw [results]
    have unknown : p.reaching? (r.program.take k) o = none :=
      reaching?_eq_none p (same_results ▸ unnamed o ho literal)
    simp [written, namesOnly, unknown]
  · simp [written, namesOnly, literal]

/-- A name of digits only, and the same digits as an operand of a fold and of a copy; then a literal
that no instruction defines. -/
def shadowing : Program :=
  [{ left := "3", result := "5" },
   { operator := .add, left := "5", right := some "1", result := "x" },
   { left := "5", result := "y" },
   { operator := .mul, left := "7", right := some "a", result := "z" }]

theorem fold_keeps_literals_iff_shadowing :
    Listing.parse "5 = 3\nx = 5 + 1\ny = 5\nz = 7 * a" = .ok shadowing ∧
    ∃ r, Policies.fold {} shadowing = .ok r ∧
      (∃ old new, shadowing[2]? = some old ∧ r.program[2]? = some new ∧
        ¬ LiteralsKept (reaching? {} (r.program.take 2)) old new) ∧
      (∃ old new, shadowing[3]? = some old ∧ r.program[3]? = some new ∧
        LiteralsKept (reaching? {} (r.program.take 3)) old new) := by
  have read : Listing.parse "5 = 3\nx = 5 + 1\ny = 5\nz = 7 * a" = .ok shadowing := rfl
  have exactly := (fold_keeps_literals_iff _ shadowing read {} _ rfl).2
  refine ⟨read, _, rfl, ⟨_, _, rfl, rfl, ?_⟩, ⟨_, _, rfl, rfl, ?_⟩⟩
  · rw [(exactly 2 _ _ rfl rfl).1]
    decide
  · exact (exactly 3 _ _ rfl rfl).2 (by decide)

/-- The sum is that of the value of the name, and the copy is of that value too. -/
theorem literals_not_always_kept :
    Listing.parse "5 = 3\nx = 5 + 1\ny = 5\nz = 7 * a" = .ok shadowing ∧ Literal.WellFormed "5" ∧
    ∃ r, Policies.fold {} shadowing = .ok r ∧
      r.program.map Instruction.text = ["5 = 3", "x = 4", "y = 3", "z = 7 * a"] ∧
      r.foldings.map Folding.text = ["Folded 5 + 1 -> 4"] ∧
      ¬ ∀ k old new, shadowing[k]? = some old → r.program[k]? = some new →
        LiteralsKept (reaching? {} (r.program.take k)) old new := by
  refine ⟨rfl, by decide, _, rfl, by decide, by decide, fun kept => ?_⟩
  have copied := (kept 2 _ _ rfl rfl).left (by decide) (by decide)
  exact absurd copied (by decide)

end Policies

end QuadFold
