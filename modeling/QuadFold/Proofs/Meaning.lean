import QuadFold.Proofs.Steps

/-! The meaning of programs, and that folding keeps it. Nothing in the meaning refers to the walk:
a text is read by itself, or from the store. -/
namespace QuadFold

/-- The value of every text when it stands for a variable. -/
def Store := String → Int64

def Store.set (store : Store) (name : String) (value : Int64) : Store :=
  fun other => if name = other then value else store other

/-- What a division by zero does: the run stops there, or some number takes the place of the
quotient. -/
inductive ZeroDivision
  | stops
  | gives (quotient : Int64 → Int64)

def ZeroDivision.quotient? : ZeroDivision → Int64 → Option Int64
  | stops, _ => none
  | gives quotient, dividend => some (quotient dividend)

/-- How far a run has come: its store, and the place of the instruction where it has stopped. -/
structure Reached where
  store : Store
  stop : Option Nat

namespace Policies

/-- An integer that counts as a literal denotes itself, any other text is looked up. -/
def value (p : Policies) (store : Store) (operand : Operand) : Int64 :=
  match p.literals.accepts operand, Literal.value? operand with
  | true, some value => value
  | _, _ => store operand

/-- The value that an instruction gives to its result; `none` where the run stops. -/
def result? (p : Policies) (z : ZeroDivision) (store : Store) (i : Instruction) : Option Int64 :=
  match i.right with
  | none => some (p.value store i.left)
  | some right =>
    match i.operator.evaluate (p.value store i.left) (p.value store right) with
    | some value => some value
    | none => z.quotient? (p.value store i.left)

def runFrom (p : Policies) (z : ZeroDivision) (place : Nat) (store : Store) : Program → Reached
  | [] => ⟨store, none⟩
  | i :: rest =>
    match p.result? z store i with
    | some value => p.runFrom z (place + 1) (store.set i.result value) rest
    | none => ⟨store, some place⟩

def run (p : Policies) (z : ZeroDivision) (store : Store) (program : Program) : Reached :=
  p.runFrom z 0 store program

theorem value_eq (p : Policies) (store : Store) (operand : Operand) :
    p.value store operand = (Literal.denotation? operand).getD (store operand) := by
  unfold value
  split
  · rename_i v accepted hv
    simp [(Literal.accepts_and_value?_iff p.literals operand v).mp ⟨accepted, hv⟩]
  · rename_i other
    cases h : Literal.denotation? operand with
    | none => rfl
    | some v =>
      obtain ⟨accepted, hv⟩ := (Literal.accepts_and_value?_iff p.literals operand v).mpr h
      exact absurd hv (other v accepted)

theorem value_of_denotation? {operand : Operand} {v : Int64}
    (h : Literal.denotation? operand = some v) (p : Policies) (store : Store) :
    p.value store operand = v := by
  simp [value_eq, h]

end Policies

/-- What is known holds in the store, and is known of names only. -/
structure Constants.Agrees (known : Constants) (store : Store) : Prop where
  values : ∀ name value, known.get? name = some value → store name = value
  named : known.Named

namespace Constants

theorem empty_agrees (store : Store) : empty.Agrees store where
  values name value h := by simp at h
  named := empty_named

theorem bind_agrees {known : Constants} {store : Store} (agrees : known.Agrees store)
    {name : String} (h : ¬ Literal.WellFormed name) (value : Int64) :
    (known.bind name value).Agrees (store.set name value) where
  values other v hv := by
    rw [get?_bind] at hv
    by_cases same : name = other
    · simpa [Store.set, same] using hv
    · simp only [Store.set, if_neg same] at hv ⊢
      exact agrees.values other v hv
  named := bind_named agrees.named h value

theorem forget_agrees {known : Constants} {store : Store} (agrees : known.Agrees store)
    (name : String) (value : Int64) : (known.forget name).Agrees (store.set name value) where
  values other v hv := by
    rw [get?_forget] at hv
    by_cases same : name = other
    · simp [same] at hv
    · simp only [Store.set, if_neg same] at hv ⊢
      exact agrees.values other v hv
  named := forget_named agrees.named name

theorem value_resolve {known : Constants} {store : Store} (agrees : known.Agrees store)
    (p : Policies) (operand : Operand) :
    p.value store (known.resolve operand) = p.value store operand := by
  cases h : known.get? operand with
  | none => simp [resolve, h]
  | some v =>
    have resolved : known.resolve operand = Literal.text v := by simp [resolve, h]
    have no_literal : Literal.denotation? operand = none :=
      (Literal.denotation?_eq_none_iff operand).mpr (agrees.named operand v h)
    rw [resolved, Policies.value_of_denotation? (Literal.denotation?_text v), Policies.value_eq,
      no_literal, Option.getD_none, agrees.values operand v h]

end Constants

namespace Policies

theorem result?_writeIn {known : Constants} {store : Store} (agrees : known.Agrees store)
    (p : Policies) (z : ZeroDivision) {i : Instruction} (shaped : i.WellShaped) :
    p.result? z store (known.writeIn i) = p.result? z store i := by
  have resolved := Constants.value_resolve agrees p
  simp only [result?, Constants.writeIn_right known shaped, Constants.writeIn_left,
    Constants.writeIn_operator, resolved]
  cases i.right with
  | none => rfl
  | some right => simp only [Option.map_some, resolved]

/-- One step: the new instruction has the result of the old one in every store that agrees with what
is known, and what is known afterwards agrees with the store after it. -/
theorem step_agrees {p : Policies} {known : Constants} {i : Instruction} {s : Step}
    (ok : p.step known i = .ok s) (shaped : i.WellShaped) (name : ¬ Literal.WellFormed i.result)
    {store : Store} (agrees : known.Agrees store) (z : ZeroDivision) :
    s.instruction.result = i.result ∧
    p.result? z store s.instruction = p.result? z store i ∧
    ∀ value, p.result? z store i = some value → s.known.Agrees (store.set i.result value) := by
  obtain ⟨v, judged, rfl⟩ := step_ok ok
  have resolved := Constants.value_resolve agrees p
  cases judge_ok judged with
  | @folded _ x y value hr hx hy hv =>
    obtain ⟨right, right_eq, rfl⟩ := Option.map_eq_some_iff.mp hr
    have original : p.result? z store i = some value := by
      simp only [result?, right_eq]
      rw [← resolved i.left, ← resolved right, value_of_denotation? hx, value_of_denotation? hy, hv]
    refine ⟨rfl, ?_, ?_⟩
    · rw [original]
      simp [after, result?, value_of_denotation?]
    · intro w hw
      cases original.symm.trans hw
      exact Constants.bind_agrees agrees name value
  | @settled value hr hx =>
    have right_eq : i.right = none := by simpa using hr
    have original : p.result? z store i = some value := by
      simp only [result?, right_eq]
      rw [← resolved i.left, value_of_denotation? hx]
    refine ⟨rfl, result?_writeIn agrees p z shaped, ?_⟩
    intro w hw
    cases original.symm.trans hw
    exact Constants.bind_agrees agrees name value
  | undefined _ _ _ _ =>
    exact ⟨rfl, rfl, fun w _ => Constants.forget_agrees agrees i.result w⟩
  | unsettled _ =>
    exact ⟨rfl, result?_writeIn agrees p z shaped,
      fun w _ => Constants.forget_agrees agrees i.result w⟩

theorem foldFrom_runs {p : Policies} {known : Constants} {program : Program} {r : Folded}
    (ok : p.foldFrom known program = .ok r) (shaped : ∀ i ∈ program, i.WellShaped)
    (names : ∀ i ∈ program, ¬ Literal.WellFormed i.result) (z : ZeroDivision) (place : Nat)
    {store : Store} (agrees : known.Agrees store) :
    p.runFrom z place store r.program = p.runFrom z place store program := by
  induction program generalizing known r place store with
  | nil => cases ok; rfl
  | cons i rest ih =>
    obtain ⟨s, t, hs, ht, rfl⟩ := foldFrom_cons_ok_iff.mp ok
    obtain ⟨same_name, same_result, agrees_after⟩ :=
      step_agrees hs (shaped i (by simp)) (names i (by simp)) agrees z
    simp only [runFrom, same_result, same_name]
    cases h : p.result? z store i with
    | none => rfl
    | some value =>
      exact ih ht (fun j hj => shaped j (by simp [hj])) (fun j hj => names j (by simp [hj]))
        (place + 1) (agrees_after value h)

/-- Folding keeps the meaning of every prefix: the same store after each instruction, and the same
place where a division by zero stops the run, if one does. -/
theorem fold_preserves_runs (p : Policies) (program : Program)
    (shaped : ∀ i ∈ program, i.WellShaped)
    (names : ∀ i ∈ program, ¬ Literal.WellFormed i.result)
    (r : Folded) (ok : p.fold program = .ok r) (z : ZeroDivision) (store : Store) :
    (∀ k, p.run z store (r.program.take k) = p.run z store (program.take k)) ∧
      p.run z store r.program = p.run z store program := by
  have agrees := Constants.empty_agrees store
  constructor
  · intro k
    obtain ⟨t, ht, taken⟩ := foldFrom_take ok k
    rw [← taken]
    exact foldFrom_runs ht (fun i hi => shaped i (List.mem_of_mem_take hi))
      (fun i hi => names i (List.mem_of_mem_take hi)) z 0 agrees
  · exact foldFrom_runs ok shaped names z 0 agrees

/-- A program that redefines a name through itself, gives a name of digits and signs a value, divides
by zero, and goes on with the names that are then no longer known. -/
def tangled : Program :=
  [{ left := "007", result := "a" },
   { operator := .add, left := "a", right := some "1", result := "a" },
   { operator := .mul, left := "a", right := some "-2", result := "12-3" },
   { operator := .div, left := "a", right := some "0", result := "q" },
   { operator := .sub, left := "12-3", right := some "q", result := "b" },
   { left := "q", result := "a" },
   { operator := .add, left := "a", right := some "--1", result := "c" }]

theorem fold_preserves_runs_tangled :
    (∀ i ∈ tangled, i.WellShaped) ∧ (∀ i ∈ tangled, ¬ Literal.WellFormed i.result) ∧
    ∃ r, Policies.fold {} tangled = .ok r ∧
      r.program.map Instruction.text =
        ["a = 007", "a = 8", "12-3 = -16", "q = a / 0", "b = -16 - q", "a = q", "c = a + --1"] ∧
      ∀ z store, (∀ k, run {} z store (r.program.take k) = run {} z store (tangled.take k)) ∧
        run {} z store r.program = run {} z store tangled := by
  have shaped : ∀ i ∈ tangled, i.WellShaped := by decide
  have names : ∀ i ∈ tangled, ¬ Literal.WellFormed i.result := by decide
  exact ⟨shaped, names, _, rfl, by decide, fold_preserves_runs {} tangled shaped names _ rfl⟩

end Policies

end QuadFold
