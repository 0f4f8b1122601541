import QuadFold.Proofs.Log
import QuadFold.Proofs.Meaning

/-! Programs that read nothing from outside. All names that they have defined are known at every
place, with the values that a run gives them there; so no fold is missed. -/
namespace QuadFold

/-- Whatever is read is a literal, one of these names, or the result of an earlier instruction. -/
def Program.ClosedOver (names : List String) (program : Program) : Prop :=
  ∀ k i, program[k]? = some i → ∀ o ∈ i.operands,
    Literal.WellFormed o ∨ o ∈ names ++ Program.results (program.take k)

namespace Program

theorem closedOver_nil (names : List String) : ClosedOver names [] := by
  intro k i here
  simp at here

theorem closedOver_cons_iff {names : List String} {i : Instruction} {rest : Program} :
    ClosedOver names (i :: rest) ↔ (∀ o ∈ i.operands, Literal.WellFormed o ∨ o ∈ names) ∧
      ClosedOver (names ++ [i.result]) rest := by
  constructor
  · intro closed
    constructor
    · intro o read
      have here := closed 0 i rfl o read
      simpa [Program.results] using here
    · intro k j hj o read
      have later := closed (k + 1) j hj o read
      simpa [Program.results] using later
  · rintro ⟨here, later⟩ k j hj o read
    cases k with
    | zero =>
      cases hj
      simpa [Program.results] using here o read
    | succ k =>
      have behind := later k j hj o read
      simpa [Program.results] using behind

instance decidableClosedOver (names : List String) :
    (program : Program) → Decidable (ClosedOver names program)
  | [] => isTrue (closedOver_nil names)
  | i :: rest =>
    have := decidableClosedOver (names ++ [i.result]) rest
    decidable_of_iff' _ closedOver_cons_iff

end Program

/-- What is known holds in the store, and all of these names are known. -/
structure Constants.Covers (known : Constants) (store : Store) (names : List String) : Prop where
  agrees : known.Agrees store
  complete : ∀ name ∈ names, known.get? name = some (store name)

theorem Constants.Covers.denotation? {known : Constants} {store : Store} {names : List String}
    (covers : known.Covers store names) (p : Policies) {o : Operand}
    (readable : Literal.WellFormed o ∨ o ∈ names) :
    Literal.denotation? (known.resolve o) = some (p.value store o) := by
  rcases readable with literal | defined
  · obtain ⟨value, denotes⟩ := (Literal.wellFormed_iff o).mp literal
    rw [resolve_of_wellFormed covers.agrees.named literal, denotes,
      Policies.value_of_denotation? denotes]
  · have found : known.get? o = some (store o) := covers.complete o defined
    have resolved : known.resolve o = Literal.text (store o) := by simp [resolve, found]
    have no_literal : Literal.denotation? o = none :=
      (Literal.denotation?_eq_none_iff o).mpr (covers.agrees.named o (store o) found)
    rw [resolved, Literal.denotation?_text, Policies.value_eq, no_literal, Option.getD_none]

namespace Policies

/-- A step over operands that all have a value finds the value of the result. -/
theorem step_evaluates {p : Policies} {known : Constants} {store : Store} {names : List String}
    {i : Instruction} {value : Int64} (covers : known.Covers store names) (shaped : i.WellShaped)
    (readable : ∀ o ∈ i.operands, Literal.WellFormed o ∨ o ∈ names)
    (gives : p.result? .stops store i = some value) :
    ∃ s, p.step known i = .ok s ∧ s.known.get? i.result = some value ∧
      s.folding.toList.length = if i.operator.isBinary then 1 else 0 := by
  have left := covers.denotation? p (readable i.left (by simp [Instruction.operands]))
  cases hr : i.right with
  | none =>
    have assigns : i.operator = .assign := shaped.assign_iff.mpr hr
    obtain rfl : p.value store i.left = value := by simpa [result?, hr] using gives
    have judged : p.judge i.operator (known.resolve i.left) (i.right.map known.resolve) =
        .ok (.settled (p.value store i.left)) := by
      rw [hr]
      exact judge_assigned left
    refine ⟨_, (step_ok_iff shaped.1).mpr ⟨_, judged, rfl⟩, ?_, ?_⟩
    · simp [after, Constants.get?_bind]
    · simp [after, assigns, Operator.isBinary]
  | some o =>
    have right := covers.denotation? p (readable o (by simp [Instruction.operands, hr]))
    have evaluated : i.operator.evaluate (p.value store i.left) (p.value store o) = some value := by
      simp only [result?, hr] at gives
      split at gives
      · rename_i v hv
        exact hv.trans gives
      · contradiction
    have judged : p.judge i.operator (known.resolve i.left) (i.right.map known.resolve) =
        .ok (.folded value) := by
      rw [hr]
      exact judge_evaluated left right evaluated
    refine ⟨_, (step_ok_iff shaped.1).mpr ⟨_, judged, rfl⟩, ?_, ?_⟩
    · simp [after, Constants.get?_bind]
    · simp [after, Operator.isBinary_of_evaluate evaluated]

theorem step_covers {p : Policies} {known : Constants} {store : Store} {names : List String}
    {i : Instruction} {value : Int64} {s : Step} (covers : known.Covers store names)
    (shaped : i.WellShaped) (name : ¬ Literal.WellFormed i.result)
    (gives : p.result? .stops store i = some value) (ok : p.step known i = .ok s)
    (found : s.known.get? i.result = some value) :
    s.known.Covers (store.set i.result value) (names ++ [i.result]) := by
  obtain ⟨_, _, agrees_after⟩ := step_agrees ok shaped name covers.agrees .stops
  refine ⟨agrees_after value gives, fun other member => ?_⟩
  by_cases defined : i.result = other
  · simpa [Store.set, defined] using found
  · have earlier : other ∈ names := by simpa [Ne.symm defined] using member
    rw [step_get?_of_ne ok defined, covers.complete other earlier]
    simp [Store.set, defined]

theorem runFrom_cons_safe {p : Policies} {place : Nat} {store : Store} {i : Instruction}
    {rest : Program} (safe : (p.runFrom .stops place store (i :: rest)).stop = none) :
    ∃ value, p.result? .stops store i = some value ∧
      (p.runFrom .stops (place + 1) (store.set i.result value) rest).stop = none := by
  simp only [runFrom] at safe
  split at safe
  · rename_i value gives
    exact ⟨value, gives, safe⟩
  · contradiction

theorem foldFrom_evaluates {p : Policies} {known : Constants} {store : Store}
    {names : List String} {program : Program} (covers : known.Covers store names)
    (shaped : ∀ i ∈ program, i.WellShaped) (fresh : ∀ i ∈ program, ¬ Literal.WellFormed i.result)
    (closed : program.ClosedOver names) (place : Nat)
    (safe : (p.runFrom .stops place store program).stop = none) :
    ∃ r, p.foldFrom known program = .ok r ∧
      (∀ k i, program[k]? = some i → p.settledAt? r.program k =
        some ((p.runFrom .stops place store (program.take (k + 1))).store i.result)) ∧
      r.foldings.length = program.countP (·.operator.isBinary) := by
  induction program generalizing known store names place with
  | nil => exact ⟨_, rfl, by simp, rfl⟩
  | cons i rest ih =>
    have shaped_i := shaped i (by simp)
    obtain ⟨readable, closed_after⟩ := Program.closedOver_cons_iff.mp closed
    obtain ⟨value, gives, safe_after⟩ := runFrom_cons_safe safe
    obtain ⟨s, hs, found, logged⟩ := step_evaluates covers shaped_i readable gives
    have covers_after := step_covers covers shaped_i (fresh i (by simp)) gives hs found
    obtain ⟨t, ht, settled, counted⟩ := ih covers_after (fun j hj => shaped j (by simp [hj]))
      (fun j hj => fresh j (by simp [hj])) closed_after (place + 1) safe_after
    refine ⟨_, foldFrom_cons_ok_iff.mpr ⟨s, t, hs, ht, rfl⟩, fun k j here => ?_, ?_⟩
    · cases k with
      | zero =>
        cases here
        have first : p.settles? s.instruction = some value :=
          (step_settles? hs shaped_i).trans found
        simpa [settledAt?, runFrom, gives, Store.set] using first
      | succ k =>
        have later := settled k j here
        simpa [settledAt?, runFrom, gives] using later
    · rw [List.length_append, logged, counted, List.countP_cons, Nat.add_comm]

/-- A program that reads nothing from outside and never divides by zero is evaluated completely:
each instruction becomes the assignment of a literal whose value is the one that a run has for the
result at that place, and each operation has its entry in the log. -/
theorem fold_closed_program (p : Policies) (program : Program)
    (shaped : ∀ i ∈ program, i.WellShaped)
    (fresh : ∀ i ∈ program, ¬ Literal.WellFormed i.result) (closed : program.ClosedOver [])
    (store : Store) (safe : (p.run .stops store program).stop = none) :
    ∃ r, p.fold program = .ok r ∧ r.program.results = program.results ∧
      (∀ k i, program[k]? = some i → p.settledAt? r.program k =
        some ((p.run .stops store (program.take (k + 1))).store i.result)) ∧
      r.foldings.length = program.countP (·.operator.isBinary) := by
  have covers : Constants.empty.Covers store [] := ⟨Constants.empty_agrees store, by simp⟩
  obtain ⟨r, ok, settled, counted⟩ := foldFrom_evaluates covers shaped fresh closed 0 safe
  exact ⟨r, ok, foldFrom_results ok, settled, counted⟩

/-- Sums and quotients that leave the range of the words, a name of digits and signs, and names that
are defined again through themselves. -/
def enclosed : Program :=
  [{ left := "9223372036854775807", result := "a" },
   { operator := .add, left := "a", right := some "01", result := "b" },
   { operator := .div, left := "b", right := some "-1", result := "12-3" },
   { left := "12-3", result := "a" },
   { operator := .sub, left := "a", right := some "1", result := "a" },
   { operator := .div, left := "-7", right := some "2", result := "b" },
   { operator := .mul, left := "b", right := some "b", result := "b" }]

theorem fold_closed_program_enclosed :
    (∀ i ∈ enclosed, i.WellShaped) ∧ (∀ i ∈ enclosed, ¬ Literal.WellFormed i.result) ∧
    enclosed.ClosedOver [] ∧ (run {} .stops (fun _ => 0) enclosed).stop = none ∧
    ∃ r, Policies.fold {} enclosed = .ok r ∧
      r.program.map Instruction.text =
        ["a = 9223372036854775807", "b = -9223372036854775808", "12-3 = -9223372036854775808",
          "a = -9223372036854775808", "a = 9223372036854775807", "b = -3", "b = 9"] ∧
      settledAt? {} r.program 6 = some ((run {} .stops (fun _ => 0) enclosed).store "b") ∧
      r.foldings.length = 5 := by
  have shaped : ∀ i ∈ enclosed, i.WellShaped := by decide
  have fresh : ∀ i ∈ enclosed, ¬ Literal.WellFormed i.result := by decide
  have closed : enclosed.ClosedOver [] := by decide
  have safe : (run {} .stops (fun _ => 0) enclosed).stop = none := by decide
  obtain ⟨r, ok, _, settled, counted⟩ :=
    fold_closed_program {} enclosed shaped fresh closed (fun _ => 0) safe
  cases ok
  exact ⟨shaped, fresh, closed, safe, _, rfl, by decide, settled 6 _ rfl, counted⟩

end Policies

end QuadFold
