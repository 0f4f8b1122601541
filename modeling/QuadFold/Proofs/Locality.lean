import QuadFold.Proofs.Steps

/-! What an instruction can see. A step looks its operands up and nothing else, and changes what is
known of its result and of nothing else; so a run never looks ahead, and names that a program does
not read have no part in what becomes of it. -/
namespace QuadFold

def Program.operands (program : Program) : List Operand := program.flatMap Instruction.operands

namespace Constants

/-- What is known after a definition of the name, with its value if that is known. -/
def define (known : Constants) (name : String) : Option Int64 → Constants
  | some value => known.bind name value
  | none => known.forget name

theorem get?_define (known : Constants) (name other : String) (value : Option Int64) :
    (known.define name value).get? other = if name = other then value else known.get? other := by
  cases value with
  | none => exact known.get?_forget name other
  | some value => exact known.get?_bind name other value

def AgreeOn (known known' : Constants) (texts : List Operand) : Prop :=
  ∀ text ∈ texts, known.get? text = known'.get? text

theorem resolve_congr {known known' : Constants} {text : Operand}
    (same : known.get? text = known'.get? text) : known.resolve text = known'.resolve text := by
  unfold resolve
  rw [same]

end Constants

namespace Policies

def Folded.output (r : Folded) : Program × List Folding := (r.program, r.foldings)

/-- The step over other constants that has the same outcome for this name. -/
def Step.over (s : Step) (name : String) (known : Constants) : Step :=
  { s with known := known.define name (s.known.get? name) }

theorem step_over (p : Policies) {known known' : Constants} {i : Instruction}
    (same : known.AgreeOn known' i.operands) :
    p.step known' i = (p.step known i).map (·.over i.result known') := by
  have left : known'.resolve i.left = known.resolve i.left := by
    apply Constants.resolve_congr
    exact (same i.left (by simp [Instruction.operands])).symm
  have right : i.right.map known'.resolve = i.right.map known.resolve := by
    apply Option.map_congr
    intro o ho
    apply Constants.resolve_congr
    exact (same o (by simp [Instruction.operands, ho])).symm
  have bound (value : Int64) : known'.define i.result ((known.bind i.result value).get? i.result) =
      known'.bind i.result value := by
    rw [Constants.get?_bind, if_pos rfl]
    rfl
  have forgotten : known'.define i.result ((known.forget i.result).get? i.result) =
      known'.forget i.result := by
    rw [Constants.get?_forget, if_pos rfl]
    rfl
  simp only [step, left, right]
  cases p.judge i.operator (known.resolve i.left) (i.right.map known.resolve) with
  | error e => rfl
  | ok v =>
    cases v with
    | folded value =>
      simp only [bind, Except.bind]
      cases Instruction.assign i.result (Literal.text value) with
      | error e => rfl
      | ok j => simp only [pure, Except.pure, Except.map, Step.over, bound]
    | settled value =>
      simp only [bind, Except.bind, pure, Except.pure, Except.map, Step.over, bound]
    | undefined =>
      simp only [bind, Except.bind, pure, Except.pure, Except.map, Step.over, forgotten]
    | unsettled =>
      simp only [bind, Except.bind, pure, Except.pure, Except.map, Step.over, forgotten]

theorem foldFrom_get?_of_not_mem {p : Policies} {known : Constants} {program : Program}
    {r : Folded} (ok : p.foldFrom known program = .ok r) {name : String}
    (undefined : name ∉ program.results) : r.known.get? name = known.get? name := by
  induction program generalizing known r with
  | nil =>
    cases ok
    rfl
  | cons i rest ih =>
    obtain ⟨s, t, hs, ht, rfl⟩ := foldFrom_cons_ok_iff.mp ok
    simp only [Program.results, List.map_cons, List.mem_cons, not_or] at undefined
    have first := step_get?_of_ne hs (Ne.symm undefined.1)
    have later := ih ht undefined.2
    exact later.trans first

theorem step_agreeOn {p : Policies} {known known' : Constants} {i : Instruction} {s : Step}
    (ok : p.step known i = .ok s) {texts : List Operand} (same : known.AgreeOn known' texts) :
    s.known.AgreeOn (s.over i.result known').known texts := by
  intro text read
  simp only [Step.over, Constants.get?_define]
  by_cases defined : i.result = text
  · rw [if_pos defined, defined]
  · rw [if_neg defined, step_get?_of_ne ok defined]
    exact same text read

theorem foldFrom_cons_output (p : Policies) (known : Constants) (i : Instruction) (rest : Program) :
    (p.foldFrom known (i :: rest)).map Folded.output = (p.step known i).bind fun s =>
      ((p.foldFrom s.known rest).map Folded.output).map fun o =>
        (s.instruction :: o.1, s.folding.toList ++ o.2) := by
  simp only [foldFrom]
  cases p.step known i with
  | error e => rfl
  | ok s =>
    simp only [bind, Except.bind]
    cases p.foldFrom s.known rest <;> rfl

theorem foldFrom_output_congr (p : Policies) {known known' : Constants} {program : Program}
    (same : known.AgreeOn known' program.operands) :
    (p.foldFrom known program).map Folded.output =
      (p.foldFrom known' program).map Folded.output := by
  -- the constants need not become equal: names that are never read may differ to the end
  induction program generalizing known known' with
  | nil => rfl
  | cons i rest ih =>
    have here : known.AgreeOn known' i.operands := by
      intro text read
      exact same text (by simp [Program.operands, read])
    have behind : known.AgreeOn known' (Program.operands rest) := by
      intro text read
      refine same text ?_
      rw [Program.operands, List.flatMap_cons]
      exact List.mem_append_right _ read
    rw [foldFrom_cons_output, foldFrom_cons_output, step_over p here]
    cases hs : p.step known i with
    | error e => rfl
    | ok s =>
      have tail := ih (step_agreeOn hs behind)
      change Except.map _ ((p.foldFrom s.known rest).map Folded.output) = _
      rw [tail]
      rfl

theorem foldFrom_ok_congr {p : Policies} {known known' : Constants} {program : Program} {r : Folded}
    (ok : p.foldFrom known program = .ok r) (same : known.AgreeOn known' program.operands) :
    ∃ t, p.foldFrom known' program = .ok t ∧ t.program = r.program ∧ t.foldings = r.foldings := by
  have shown := foldFrom_output_congr p same
  rw [ok] at shown
  obtain ⟨t, ht, outputs⟩ := Except.map_eq_ok_iff.mp shown.symm
  exact ⟨t, ht, congrArg Prod.fst outputs, congrArg Prod.snd outputs⟩

theorem foldFrom_output_append (p : Policies) {known : Constants} {first : Program} {r : Folded}
    (ok : p.foldFrom known first = .ok r) (second : Program) :
    (p.foldFrom known (first ++ second)).map Folded.output =
      ((p.foldFrom r.known second).map Folded.output).map fun o =>
        (r.program ++ o.1, r.foldings ++ o.2) := by
  rw [foldFrom_append, ok]
  simp only [Except.bind]
  cases p.foldFrom r.known second <;> rfl

/-- What comes later has no part in what becomes of a program, not even by its failure. What comes
earlier has none either, if it defines nothing that is read later: the two parts are then folded or
refused as if each stood alone. -/
theorem fold_append_local (p : Policies) (first second : Program) :
    (∀ e, p.fold first = .error e → p.fold (first ++ second) = .error e) ∧
    (∀ r whole, p.fold first = .ok r → p.fold (first ++ second) = .ok whole →
      r.program <+: whole.program ∧ r.foldings <+: whole.foldings) ∧
    (∀ r, p.fold first = .ok r → (∀ o ∈ second.operands, o ∉ first.results) →
      (∀ e, p.fold (first ++ second) = .error e ↔ p.fold second = .error e) ∧
      (∀ t, p.fold second = .ok t → ∃ whole, p.fold (first ++ second) = .ok whole ∧
        whole.program = r.program ++ t.program ∧ whole.foldings = r.foldings ++ t.foldings)) := by
  refine ⟨fun e failed => ?_, fun r whole ok both => ?_, fun r ok apart => ?_⟩
  · have stopped : p.foldFrom .empty first = .error e := failed
    rw [fold, foldFrom_append, stopped]
    rfl
  · obtain ⟨r', t, hr, _, rfl⟩ := foldFrom_append_ok_iff.mp both
    cases ok.symm.trans hr
    exact ⟨List.prefix_append _ _, List.prefix_append _ _⟩
  · have same : r.known.AgreeOn .empty second.operands := by
      intro o read
      exact foldFrom_get?_of_not_mem ok (apart o read)
    have parts := foldFrom_output_append p ok second
    rw [foldFrom_output_congr p same] at parts
    constructor
    · intro e
      have failing := congrArg (· = .error e) parts
      simp only [Except.map_eq_error_iff, eq_iff_iff] at failing
      exact failing
    · intro t alone
      have done : p.foldFrom .empty second = .ok t := alone
      rw [done] at parts
      obtain ⟨whole, both, shown⟩ := Except.map_eq_ok_iff.mp parts
      exact ⟨whole, both, congrArg Prod.fst shown, congrArg Prod.snd shown⟩

def leading : Program :=
  [{ left := "2", result := "a" },
   { operator := .add, left := "a", right := some "3", result := "b" },
   { operator := .div, left := "b", right := some "0", result := "a" }]

def trailing : Program :=
  [{ left := "4", result := "c" },
   { operator := .mul, left := "c", right := some "-6", result := "b" },
   { left := "n", result := "a" }]

theorem fold_append_local_parts :
    (∀ o ∈ trailing.operands, o ∉ leading.results) ∧
    ∃ r t whole, Policies.fold {} leading = .ok r ∧ Policies.fold {} trailing = .ok t ∧
      Policies.fold {} (leading ++ trailing) = .ok whole ∧
      whole.program = r.program ++ t.program ∧ whole.foldings = r.foldings ++ t.foldings ∧
      r.foldings.map Folding.text = ["Folded a + 3 -> 5"] ∧
      t.foldings.map Folding.text = ["Folded c * -6 -> -24"] ∧
      Policies.fold {} (leading ++ [{ left := "1-", result := "d" }]) =
        .error (.malformedLiteral "1-") := by
  have apart : ∀ o ∈ trailing.operands, o ∉ leading.results := by decide
  obtain ⟨_, _, parts⟩ := fold_append_local {} leading trailing
  obtain ⟨whole, both, program, foldings⟩ := (parts _ rfl apart).2 _ rfl
  obtain ⟨_, _, refused⟩ := fold_append_local {} leading [{ left := "1-", result := "d" }]
  exact ⟨apart, _, _, whole, rfl, rfl, both, program, foldings, by decide, by decide,
    ((refused _ rfl (by decide)).1 _).mpr rfl⟩

end Policies

end QuadFold
