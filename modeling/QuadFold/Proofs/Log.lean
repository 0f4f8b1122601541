import Mathlib.Data.List.Forall2
import QuadFold.Proofs.Reaching

/-! The log of folds belongs to the places of the program: each fold turns an operation into an
assignment, and nothing else does. So the places of the folds are found by comparing the old program
with the new one, and the log goes through them in order. -/
namespace QuadFold

theorem Operator.isBinary_of_evaluate {operator : Operator} {x y value : Int64}
    (h : operator.evaluate x y = some value) : operator.isBinary = true := by
  cases operator with
  | assign => contradiction
  | _ => rfl

namespace Instruction

def isFold (old new : Instruction) : Bool := old.operator.isBinary && new.operator.isAssign

theorem isFold_of_operator_eq {old new : Instruction} (same : new.operator = old.operator) :
    isFold old new = false := by
  unfold isFold
  rw [same]
  cases old.operator <;> rfl

end Instruction

def Program.FoldedAt (old new : Program) (k : Nat) : Prop :=
  ∃ i j, old[k]? = some i ∧ new[k]? = some j ∧ i.isFold j = true

/-- The entry that the log has for an instruction and what became of it. -/
def Folding.entry? (old new : Instruction) : Option Folding :=
  if old.isFold new then (Literal.denotation? new.left).map (.ofInstruction old) else none

theorem Folding.entry?_assigned {i : Instruction} (binary : i.operator.isBinary = true)
    (value : Int64) :
    Folding.entry? i { left := Literal.text value, result := i.result } =
      some (.ofInstruction i value) := by
  simp [Folding.entry?, Instruction.isFold, binary, Operator.isAssign]

theorem Folding.entry?_of_operator_eq {old new : Instruction} (same : new.operator = old.operator) :
    Folding.entry? old new = none := by
  simp [Folding.entry?, Instruction.isFold_of_operator_eq same]

/-- An entry tells what the old instruction was, and that the new one assigns the value. -/
structure Folding.Records (f : Folding) (old new : Instruction) : Prop where
  result : f.result = old.result
  operator : f.operator = old.operator
  left : f.left = old.left
  right : f.right = old.right
  value : new.left = Literal.text f.value
  alone : new.right = none

inductive Folding.Told (old new : Instruction) : Option Folding → Prop
  | folded {f : Folding} (fold : old.isFold new = true) (records : f.Records old new) :
      Told old new (some f)
  | kept (stays : old.isFold new = false) (same : new.operator = old.operator) : Told old new none

theorem Folding.told_of_operator_eq {old new : Instruction} (same : new.operator = old.operator) :
    Told old new (Folding.entry? old new) := by
  rw [Folding.entry?_of_operator_eq same]
  exact .kept (Instruction.isFold_of_operator_eq same) same

theorem filterMap_places {α β : Type} (f : α → Option β) (xs : List α) :
    ∃ places : List Nat, places.Pairwise (· < ·) ∧
      (∀ k, k ∈ places ↔ ∃ x b, xs[k]? = some x ∧ f x = some b) ∧
      List.Forall₂ (fun k b => ∃ x, xs[k]? = some x ∧ f x = some b) places (xs.filterMap f) := by
  induction xs with
  | nil => exact ⟨[], .nil, by simp, .nil⟩
  | cons x rest ih =>
    obtain ⟨places, ordered, exactly, aligned⟩ := ih
    have moved : (places.map (· + 1)).Pairwise (· < ·) := by
      simpa [List.pairwise_map] using ordered
    have behind : List.Forall₂ (fun k b => ∃ y, (x :: rest)[k]? = some y ∧ f y = some b)
        (places.map (· + 1)) (rest.filterMap f) := by
      rw [List.forall₂_map_left_iff]
      simpa using aligned
    cases here : f x with
    | none =>
      refine ⟨places.map (· + 1), moved, fun k => ?_, by simpa [here] using behind⟩
      cases k <;> simp [exactly, here]
    | some b =>
      refine ⟨0 :: places.map (· + 1), by simpa using moved, fun k => ?_, ?_⟩
      · cases k <;> simp [exactly, here]
      · rw [List.filterMap_cons_some here]
        exact .cons ⟨x, rfl, here⟩ behind

namespace Policies

theorem step_entry? {p : Policies} {known : Constants} {i : Instruction} {s : Step}
    (ok : p.step known i = .ok s) : s.folding = Folding.entry? i s.instruction := by
  obtain ⟨v, judged, rfl⟩ := step_ok ok
  cases judge_ok judged with
  | @folded _ _ _ value _ _ _ hv =>
    have binary := Operator.isBinary_of_evaluate hv
    exact (Folding.entry?_assigned binary value).symm
  | settled _ _ => exact (Folding.entry?_of_operator_eq (Constants.writeIn_operator known i)).symm
  | undefined _ _ _ _ => exact (Folding.entry?_of_operator_eq rfl).symm
  | unsettled _ => exact (Folding.entry?_of_operator_eq (Constants.writeIn_operator known i)).symm

theorem foldFrom_foldings {p : Policies} {known : Constants} {program : Program} {r : Folded}
    (ok : p.foldFrom known program = .ok r) : r.foldings =
      (program.zip r.program).filterMap fun place => Folding.entry? place.1 place.2 := by
  induction program generalizing known r with
  | nil =>
    cases ok
    rfl
  | cons i rest ih =>
    obtain ⟨s, t, hs, ht, rfl⟩ := foldFrom_cons_ok_iff.mp ok
    have tail := ih ht
    have first := step_entry? hs
    simp only [List.zip_cons_cons, List.filterMap_cons, tail, first]
    cases Folding.entry? i s.instruction <;> rfl

theorem Rewriting.told {values : String → Option Int64} {old new : Instruction}
    (becomes : Rewriting values old new) : Folding.Told old new (Folding.entry? old new) := by
  cases becomes with
  | @folded _ _ _ value _ _ _ hv =>
    have binary := Operator.isBinary_of_evaluate hv
    rw [Folding.entry?_assigned binary value]
    exact .folded (by simp [Instruction.isFold, binary, Operator.isAssign])
      ⟨rfl, rfl, rfl, rfl, rfl, rfl⟩
  | same => exact Folding.told_of_operator_eq rfl
  | written => exact Folding.told_of_operator_eq rfl

theorem fold_told {p : Policies} {program : Program} {r : Folded} (ok : p.fold program = .ok r)
    (shaped : ∀ i ∈ program, i.WellShaped) {k : Nat} {old new : Instruction}
    (was : program[k]? = some old) (becomes : r.program[k]? = some new) :
    Folding.Told old new (Folding.entry? old new) := by
  obtain ⟨old', was', rfl⟩ := fold_place ok shaped becomes
  cases was.symm.trans was'
  exact (rewriting_rewritten p _ old).told

theorem fold_records {p : Policies} {program : Program} {r : Folded} (ok : p.fold program = .ok r)
    (shaped : ∀ i ∈ program, i.WellShaped) {k : Nat} {place : Instruction × Instruction}
    {f : Folding} (here : (program.zip r.program)[k]? = some place)
    (entry : Folding.entry? place.1 place.2 = some f) :
    ∃ old new, program[k]? = some old ∧ r.program[k]? = some new ∧ old.isFold new = true ∧
      f.Records old new := by
  obtain ⟨was, becomes⟩ := List.getElem?_zip_eq_some.mp here
  have told := fold_told ok shaped was becomes
  rw [entry] at told
  cases told with
  | folded fold records => exact ⟨place.1, place.2, was, becomes, fold, records⟩

theorem fold_foldedAt_iff {p : Policies} {program : Program} {r : Folded}
    (ok : p.fold program = .ok r) (shaped : ∀ i ∈ program, i.WellShaped) (k : Nat) :
    Program.FoldedAt program r.program k ↔ ∃ place f, (program.zip r.program)[k]? = some place ∧
      Folding.entry? place.1 place.2 = some f := by
  constructor
  · rintro ⟨old, new, was, becomes, fold⟩
    have told := fold_told ok shaped was becomes
    cases entry : Folding.entry? old new with
    | none =>
      rw [entry] at told
      cases told with
      | kept stays _ =>
        rw [stays] at fold
        contradiction
    | some f => exact ⟨(old, new), f, List.getElem?_zip_eq_some.mpr ⟨was, becomes⟩, entry⟩
  · rintro ⟨place, f, here, entry⟩
    obtain ⟨old, new, was, becomes, fold, _⟩ := fold_records ok shaped here entry
    exact ⟨old, new, was, becomes, fold⟩

/-- The new program has the old results at the old places, and an operator changes only where an
operation becomes an assignment. The log goes through exactly these places in order, and each entry
has the old instruction and the value that is assigned now. -/
theorem fold_log_complete (p : Policies) (program : Program)
    (shaped : ∀ i ∈ program, i.WellShaped) (r : Folded) (ok : p.fold program = .ok r) :
    r.program.length = program.length ∧ r.program.results = program.results ∧
    (∀ (k : Nat) (old new : Instruction), program[k]? = some old → r.program[k]? = some new →
      ¬ Program.FoldedAt program r.program k → new.operator = old.operator) ∧
    ∃ places : List Nat, places.Pairwise (· < ·) ∧
      (∀ k, k ∈ places ↔ Program.FoldedAt program r.program k) ∧
      List.Forall₂ (fun k f => ∃ old new, program[k]? = some old ∧ r.program[k]? = some new ∧
        Folding.Records f old new) places r.foldings := by
  obtain ⟨places, ordered, exactly, aligned⟩ :=
    filterMap_places (fun place => Folding.entry? place.1 place.2) (program.zip r.program)
  refine ⟨foldFrom_length ok, foldFrom_results ok, fun k old new was becomes kept => ?_,
    places, ordered, fun k => (exactly k).trans (fold_foldedAt_iff ok shaped k).symm, ?_⟩
  · have told := fold_told ok shaped was becomes
    generalize Folding.entry? old new = entry at told
    cases told with
    | folded fold _ => exact absurd ⟨old, new, was, becomes, fold⟩ kept
    | kept _ same => exact same
  · rw [foldFrom_foldings ok]
    refine aligned.imp fun k f => ?_
    rintro ⟨place, here, entry⟩
    obtain ⟨old, new, was, becomes, _, records⟩ := fold_records ok shaped here entry
    exact ⟨old, new, was, becomes, records⟩

def assorted : Program :=
  [{ left := "2", result := "a" },
   { operator := .add, left := "a", right := some "3", result := "b" },
   { operator := .mul, left := "b", right := some "x", result := "c" },
   { operator := .div, left := "7", right := some "0", result := "d" },
   { left := "b", result := "b" },
   { operator := .sub, left := "b", right := some "a", result := "a" },
   { left := "x", result := "b" }]

theorem fold_log_complete_assorted :
    (∀ i ∈ assorted, i.WellShaped) ∧ ∃ r, Policies.fold {} assorted = .ok r ∧
      r.program.map Instruction.text =
        ["a = 2", "b = 5", "c = 5 * x", "d = 7 / 0", "b = 5", "a = 3", "b = x"] ∧
      r.foldings.map Folding.text = ["Folded a + 3 -> 5", "Folded b - a -> 3"] ∧
      ∃ places : List Nat, places.Pairwise (· < ·) ∧ 1 ∈ places ∧ 5 ∈ places ∧
        List.Forall₂ (fun k f => ∃ old new, assorted[k]? = some old ∧ r.program[k]? = some new ∧
          Folding.Records f old new) places r.foldings := by
  have shaped : ∀ i ∈ assorted, i.WellShaped := by decide
  obtain ⟨_, _, _, places, ordered, exactly, aligned⟩ := fold_log_complete {} assorted shaped _ rfl
  exact ⟨shaped, _, rfl, by decide, by decide, places, ordered,
    (exactly 1).mpr ⟨_, _, rfl, rfl, by decide⟩, (exactly 5).mpr ⟨_, _, rfl, rfl, by decide⟩,
    aligned⟩

end Policies

end QuadFold
