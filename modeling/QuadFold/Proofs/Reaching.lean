import QuadFold.Proofs.Steps

/-! Folding said without a table of constants. A name has a value at some place if its last
definition before that place, in the new program, is a plain assignment of a literal; and a new
instruction depends on nothing but the old one and these values. -/
namespace QuadFold

theorem Instruction.WellShaped.assign_iff {i : Instruction} (shaped : i.WellShaped) :
    i.operator = .assign ↔ i.right = none := by
  have arity := shaped.2.2.2
  cases h : i.operator <;> simp_all [Operator.isBinary, Option.isSome_iff_ne_none]

namespace Policies

def literal? (p : Policies) (operand : Operand) : Option Int64 :=
  if p.literals.accepts operand then Literal.value? operand else none

def settles? (p : Policies) (definition : Instruction) : Option Int64 :=
  if definition.operator = .assign then p.literal? definition.left else none

/-- The value of the literal that is plainly assigned at this place. -/
def settledAt? (p : Policies) (program : Program) (k : Nat) : Option Int64 :=
  program[k]?.bind p.settles?

/-- What the last definition of a name says about its value. -/
def reaching? (p : Policies) (before : Program) (name : String) : Option Int64 :=
  (before.filter (·.result = name)).getLast?.bind p.settles?

def written (values : String → Option Int64) (operand : Operand) : Operand :=
  (values operand).elim operand Literal.text

/-- What becomes of an instruction when these are the values of the names: the result of its
operation, the same instruction if its operation has none, and else only the values are written
in. -/
def rewritten (p : Policies) (values : String → Option Int64) (i : Instruction) : Instruction :=
  let right := i.right.map (written values)
  match p.literal? (written values i.left), right.bind p.literal? with
  | some x, some y =>
    match i.operator.evaluate x y with
    | some value => { left := Literal.text value, result := i.result }
    | none => i
  | _, _ => { i with left := written values i.left, right }

theorem literal?_eq_denotation? (p : Policies) : p.literal? = Literal.denotation? := by
  funext operand
  by_cases accepted : p.literals.accepts operand = true
  · rw [literal?, if_pos accepted, denotation?_of_accepts accepted]
  · rw [literal?, if_neg accepted, denotation?_of_not_accepts accepted]

inductive Rewriting (values : String → Option Int64) (i : Instruction) : Instruction → Prop
  | folded {right : Operand} {x y value : Int64} (hr : i.right = some right)
      (hx : Literal.denotation? (written values i.left) = some x)
      (hy : Literal.denotation? (written values right) = some y)
      (hv : i.operator.evaluate x y = some value) :
      Rewriting values i { left := Literal.text value, result := i.result }
  | same : Rewriting values i i
  | written : Rewriting values i
      { i with left := written values i.left, right := i.right.map (written values) }

theorem rewriting_rewritten (p : Policies) (values : String → Option Int64) (i : Instruction) :
    Rewriting values i (p.rewritten values i) := by
  simp only [rewritten, literal?_eq_denotation?]
  split
  · rename_i x y hx hy
    obtain ⟨other, mapped, hy⟩ := Option.bind_eq_some_iff.mp hy
    obtain ⟨right, hr, rfl⟩ := Option.map_eq_some_iff.mp mapped
    split
    · rename_i value hv
      exact .folded hr hx hy hv
    · exact .same
  · exact .written

theorem rewritten_of_folded (p : Policies) {values : String → Option Int64} {i : Instruction}
    {right : Operand} {x y value : Int64} (hr : i.right = some right)
    (hx : Literal.denotation? (written values i.left) = some x)
    (hy : Literal.denotation? (written values right) = some y)
    (hv : i.operator.evaluate x y = some value) :
    p.rewritten values i = { left := Literal.text value, result := i.result } := by
  simp only [rewritten, literal?_eq_denotation?, hr, hx, hy, hv, Option.map_some, Option.bind_some]

theorem rewritten_congr (p : Policies) {values values' : String → Option Int64} {i : Instruction}
    (same : ∀ o ∈ i.operands, written values o = written values' o) :
    p.rewritten values i = p.rewritten values' i := by
  have left : written values i.left = written values' i.left :=
    same i.left (by simp [Instruction.operands])
  have right : i.right.map (written values) = i.right.map (written values') := by
    apply Option.map_congr
    intro o ho
    exact same o (by simp [Instruction.operands, ho])
  simp only [rewritten, left, right]

theorem get?_empty_eq_reaching? (p : Policies) : Constants.empty.get? = p.reaching? [] := by
  funext name
  rfl

theorem reaching?_concat (p : Policies) (before : Program) (d : Instruction) (name : String) :
    p.reaching? (before ++ [d]) name =
      if d.result = name then p.settles? d else p.reaching? before name := by
  by_cases defines : d.result = name <;> simp [reaching?, List.filter_append, defines]

theorem reaching?_eq_none (p : Policies) {before : Program} {name : String}
    (undefined : name ∉ before.results) : p.reaching? before name = none := by
  have no_definition : before.filter (·.result = name) = [] := by
    simp only [List.filter_eq_nil_iff, decide_eq_true_eq]
    intro d hd same
    exact undefined (List.mem_map.mpr ⟨d, hd, same⟩)
  simp [reaching?, no_definition]

theorem written_get? (known : Constants) : written known.get? = known.resolve := by
  funext operand
  unfold written Constants.resolve
  cases known.get? operand <;> rfl

theorem writeIn_eq (known : Constants) {i : Instruction} (shaped : i.WellShaped) :
    known.writeIn i =
      { i with left := known.resolve i.left, right := i.right.map known.resolve } := by
  rw [← Constants.writeIn_right known shaped]
  rfl

theorem step_rewritten {p : Policies} {known : Constants} {i : Instruction} {s : Step}
    (ok : p.step known i = .ok s) (shaped : i.WellShaped) :
    s.instruction = p.rewritten known.get? i := by
  obtain ⟨v, judged, rfl⟩ := step_ok ok
  have in_writing := writeIn_eq known shaped
  simp only [rewritten, written_get?, literal?_eq_denotation?]
  cases judge_ok judged with
  | folded hr hx hy hv => simp only [hr, hx, hy, hv, Option.bind_some, after]
  | settled hr hx => simp only [hr, hx, Option.bind_none, after, in_writing]
  | undefined hr hx hy hv => simp only [hr, hx, hy, hv, Option.bind_some, after]
  | unsettled h =>
    rcases h with hx | ⟨other, hr, hy⟩
    · simp only [hx, after, in_writing]
    · simp only [hr, hy, Option.bind_some, after, in_writing]
      cases Literal.denotation? (known.resolve i.left) <;> rfl

theorem step_get? {p : Policies} {known : Constants} {i : Instruction} {s : Step}
    (ok : p.step known i = .ok s) (shaped : i.WellShaped) (name : String) :
    s.known.get? name =
      if s.instruction.result = name then p.settles? s.instruction else known.get? name := by
  obtain ⟨v, judged, rfl⟩ := step_ok ok
  have plain : i.operator = .assign ↔ i.right = none := shaped.assign_iff
  cases judge_ok judged with
  | @folded _ _ _ value _ _ _ _ =>
    have gives : p.settles? { left := Literal.text value, result := i.result } = some value := by
      simp [settles?, literal?_eq_denotation?]
    simp only [after, Constants.get?_bind, gives]
  | @settled value hr hx =>
    have assigns : i.operator = .assign := plain.mpr (by simpa using hr)
    have gives : p.settles? (known.writeIn i) = some value := by
      simp [settles?, literal?_eq_denotation?, assigns, hx]
    simp only [after, Constants.get?_bind, Constants.writeIn_result, gives]
  | undefined hr _ _ _ =>
    have operates : i.operator ≠ .assign := by
      intro assigns
      simp [plain.mp assigns] at hr
    have gives : p.settles? i = none := if_neg operates
    simp only [after, Constants.get?_forget, gives]
  | unsettled h =>
    have gives : p.settles? (known.writeIn i) = none := by
      by_cases assigns : i.operator = .assign
      · have hx : Literal.denotation? (known.resolve i.left) = none := by
          rcases h with hx | ⟨other, hr, _⟩
          · exact hx
          · simp [plain.mp assigns] at hr
        simp [settles?, literal?_eq_denotation?, hx]
      · exact if_neg assigns
    simp only [after, Constants.get?_forget, Constants.writeIn_result, gives]

theorem step_settles? {p : Policies} {known : Constants} {i : Instruction} {s : Step}
    (ok : p.step known i = .ok s) (shaped : i.WellShaped) :
    p.settles? s.instruction = s.known.get? i.result := by
  rw [step_get? ok shaped, step_result ok, if_pos rfl]

theorem foldFrom_rewritten {p : Policies} {known : Constants} {program : Program} {r : Folded}
    (ok : p.foldFrom known program = .ok r) (shaped : ∀ i ∈ program, i.WellShaped)
    {before : Program} (tracked : known.get? = p.reaching? before) (k : Nat) :
    r.program[k]? = program[k]?.map (p.rewritten (p.reaching? (before ++ r.program.take k))) := by
  induction program generalizing known r before k with
  | nil =>
    cases ok
    rfl
  | cons i rest ih =>
    obtain ⟨s, t, hs, ht, rfl⟩ := foldFrom_cons_ok_iff.mp ok
    have shaped_i := shaped i (by simp)
    cases k with
    | zero =>
      have first := step_rewritten hs shaped_i
      rw [tracked] at first
      simp [first]
    | succ k =>
      have tracked_after : s.known.get? = p.reaching? (before ++ [s.instruction]) := by
        funext name
        rw [step_get? hs shaped_i name, reaching?_concat, tracked]
      have tail := ih ht (fun j hj => shaped j (by simp [hj])) tracked_after k
      simpa using tail

theorem fold_place {p : Policies} {program : Program} {r : Folded} (ok : p.fold program = .ok r)
    (shaped : ∀ i ∈ program, i.WellShaped) {k : Nat} {new : Instruction}
    (becomes : r.program[k]? = some new) :
    ∃ old, program[k]? = some old ∧ new = p.rewritten (p.reaching? (r.program.take k)) old := by
  have place := foldFrom_rewritten ok shaped (get?_empty_eq_reaching? p) k
  rw [becomes, List.nil_append] at place
  obtain ⟨old, was, same⟩ := Option.map_eq_some_iff.mp place.symm
  exact ⟨old, was, same.symm⟩

/-- Folding is the rewriting of every instruction by the definitions that reach it. -/
theorem fold_by_reaching_definitions (p : Policies) (program : Program)
    (shaped : ∀ i ∈ program, i.WellShaped) (r : Folded) (ok : p.fold program = .ok r) (k : Nat) :
    r.program[k]? = program[k]?.map (p.rewritten (p.reaching? (r.program.take k))) :=
  foldFrom_rewritten ok shaped (get?_empty_eq_reaching? p) k

def redefined : Program :=
  [{ left := "1", result := "a" },
   { operator := .add, left := "b", right := some "a", result := "a" },
   { operator := .mul, left := "a", right := some "-3", result := "c" },
   { left := "0", result := "a" },
   { operator := .div, left := "7", right := some "a", result := "q" },
   { left := "a", result := "c" },
   { operator := .sub, left := "c", right := some "07", result := "q" }]

theorem fold_by_reaching_definitions_redefined :
    (∀ i ∈ redefined, i.WellShaped) ∧ ∃ r, Policies.fold {} redefined = .ok r ∧
      r.program.map Instruction.text =
        ["a = 1", "a = b + 1", "c = a * -3", "a = 0", "q = 7 / a", "c = 0", "q = -7"] ∧
      reaching? {} (r.program.take 2) "a" = none ∧ reaching? {} (r.program.take 4) "a" = some 0 ∧
      ∀ k, r.program[k]? =
        redefined[k]?.map (rewritten {} (reaching? {} (r.program.take k))) := by
  have shaped : ∀ i ∈ redefined, i.WellShaped := by decide
  exact ⟨shaped, _, rfl, by decide, by decide, by decide,
    fold_by_reaching_definitions {} redefined shaped _ rfl⟩

end Policies

end QuadFold
