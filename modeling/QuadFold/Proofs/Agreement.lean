import QuadFold.Proofs.Steps

/-! The policies differ only in what they refuse. A verdict rests on the operands alone, so runs
that succeed know the same constants all along, and a milder policy can take the place of another
one at every step. -/
namespace QuadFold

theorem Verdict.Justified.unique {operator : Operator} {left : Operand} {right : Option Operand}
    {v w : Verdict} (hv : v.Justified operator left right) (hw : w.Justified operator left right) :
    v = w := by
  cases hv <;> cases hw <;> simp_all

namespace Policies

/-- All operands count as literals, and this is the first one without a value. -/
def Refuses (p : Policies) (operands : List Operand) (text : Operand) : Prop :=
  p.malformed = .reject ∧ (∀ o ∈ operands, p.literals.accepts o = true) ∧
    operands.find? (fun o => (Literal.value? o).isNone) = some text

theorem read_error_iff {p : Policies} {literal : Operand} {e : Error} :
    p.read literal = .error e ↔ p.malformed = .reject ∧ Literal.value? literal = none ∧
      e = .malformedLiteral literal := by
  unfold read
  cases Literal.value? literal <;> cases p.malformed <;> simp [eq_comm]

theorem judge_error_iff {p : Policies} {operator : Operator} {left : Operand}
    {right : Option Operand} {e : Error} : p.judge operator left right = .error e ↔
      ∃ text, e = .malformedLiteral text ∧ p.Refuses (left :: right.toList) text := by
  cases right with
  | none =>
    by_cases accepted : p.literals.accepts left = true
    · simp only [judge, accepted, if_true, Except.bind_eq_error_iff, read_error_iff]
      constructor
      · rintro (⟨mode, hx, rfl⟩ | ⟨x, -, impossible⟩)
        · exact ⟨left, rfl, mode, by simpa using accepted, by simp [hx]⟩
        · cases x <;> contradiction
      · rintro ⟨text, rfl, mode, -, found⟩
        obtain ⟨hx, rfl⟩ : Literal.value? left = none ∧ left = text := by simpa using found
        exact .inl ⟨mode, hx, rfl⟩
    · simp [judge, Refuses, accepted]
  | some other =>
    by_cases accepted : p.literals.accepts left = true ∧ p.literals.accepts other = true
    · simp only [judge, accepted, Bool.and_self, if_true, Except.bind_eq_error_iff, read_error_iff]
      constructor
      · rintro (⟨mode, hx, rfl⟩ | ⟨x, hx, ⟨mode, hy, rfl⟩ | ⟨y, -, impossible⟩⟩)
        · exact ⟨left, rfl, mode, by simpa using accepted, by simp [hx]⟩
        · have left_value : Literal.value? left ≠ none := by
            intro none
            have refused := read_error_iff.mpr ⟨mode, none, rfl⟩
            rw [hx] at refused
            contradiction
          exact ⟨other, rfl, mode, by simpa using accepted, by simp [hy, left_value]⟩
        · split at impossible
          · split at impossible <;> contradiction
          · contradiction
      · rintro ⟨text, rfl, mode, -, found⟩
        cases hx : Literal.value? left with
        | none =>
          obtain rfl : left = text := by simpa [hx] using found
          exact .inl ⟨mode, rfl, rfl⟩
        | some x =>
          obtain ⟨hy, rfl⟩ : Literal.value? other = none ∧ other = text := by simpa [hx] using found
          exact .inr ⟨some x, by simp [read, hx], .inl ⟨mode, hy, rfl⟩⟩
    · simp [judge, Refuses, accepted]

/-- Whatever the first policies refuse, the second ones refuse too. -/
def MilderThan (p q : Policies) : Prop :=
  ∀ operands text, p.Refuses operands text → q.Refuses operands text

theorem passThrough_milder (literals : Literal.Policy) (q : Policies) :
    MilderThan ⟨literals, .passThrough⟩ q := by
  rintro operands text ⟨mode, -⟩
  contradiction

theorem strict_milder (malformed : Malformed) :
    MilderThan ⟨.strict, malformed⟩ ⟨.permissive, malformed⟩ := by
  rintro operands text ⟨mode, accepted, found⟩
  exact ⟨mode, fun o ho => Literal.isLoose_of_isStrict (accepted o ho), found⟩

theorem judge_of_milder {p q : Policies} (milder : p.MilderThan q) {operator : Operator}
    {left : Operand} {right : Option Operand} {v : Verdict}
    (ok : q.judge operator left right = .ok v) : p.judge operator left right = .ok v := by
  cases judged : p.judge operator left right with
  | error e =>
    obtain ⟨text, rfl, refused⟩ := judge_error_iff.mp judged
    have also_refused : q.judge operator left right = .error (.malformedLiteral text) :=
      judge_error_iff.mpr ⟨text, rfl, milder _ _ refused⟩
    rw [ok] at also_refused
    contradiction
  | ok w => rw [(judge_ok judged).unique (judge_ok ok)]

theorem step_of_milder {p q : Policies} (milder : p.MilderThan q) {known : Constants}
    {i : Instruction} (named : i.result ≠ "") {s : Step} (ok : q.step known i = .ok s) :
    p.step known i = .ok s := by
  obtain ⟨v, judged, rfl⟩ := step_ok ok
  exact (step_ok_iff named).mpr ⟨v, judge_of_milder milder judged, rfl⟩

theorem foldFrom_of_milder {p q : Policies} (milder : p.MilderThan q) {known : Constants}
    {program : Program} (named : ∀ i ∈ program, i.result ≠ "") {r : Folded}
    (ok : q.foldFrom known program = .ok r) : p.foldFrom known program = .ok r := by
  induction program generalizing known r with
  | nil => exact ok
  | cons i rest ih =>
    obtain ⟨s, t, hs, ht, rfl⟩ := foldFrom_cons_ok_iff.mp ok
    have first := step_of_milder milder (named i (by simp)) hs
    have tail := ih (fun j hj => named j (by simp [hj])) ht
    exact foldFrom_cons_ok_iff.mpr ⟨s, t, first, tail, rfl⟩

theorem step_error_iff {p : Policies} {known : Constants} {i : Instruction} (named : i.result ≠ "")
    {e : Error} : p.step known i = .error e ↔
      ∃ text, e = .malformedLiteral text ∧ p.Refuses (i.operands.map known.resolve) text := by
  have operands : i.operands.map known.resolve =
      known.resolve i.left :: (i.right.map known.resolve).toList := by
    cases h : i.right <;> simp [Instruction.operands, h]
  have judged : p.judge i.operator (known.resolve i.left) (i.right.map known.resolve) = .error e ↔
      ∃ text, e = .malformedLiteral text ∧ p.Refuses (i.operands.map known.resolve) text := by
    rw [operands]
    exact judge_error_iff
  rw [← judged, step_eq_map p known named]
  cases p.judge i.operator (known.resolve i.left) (i.right.map known.resolve) <;> simp [Except.map]

theorem foldFrom_error {p : Policies} {known : Constants} {program : Program}
    (named : ∀ i ∈ program, i.result ≠ "") {e : Error}
    (failed : p.foldFrom known program = .error e) :
    ∃ operands text, e = .malformedLiteral text ∧ p.Refuses operands text := by
  obtain ⟨k, r, i, _, here, failed⟩ := foldFrom_error_iff.mp failed
  exact ⟨_, (step_error_iff (named i (List.mem_of_getElem? here))).mp failed⟩

/-- All policies give the same outcome wherever they give one. Those that let malformed literals
pass always do, the others may refuse a malformed literal, and the strict ones refuse no program
that the permissive ones accept. -/
theorem fold_policies_agree (program : Program) (named : ∀ i ∈ program, i.result ≠ "") :
    ∃ r : Folded,
      (∀ literals, fold ⟨literals, .passThrough⟩ program = .ok r) ∧
      (∀ literals, fold ⟨literals, .reject⟩ program = .ok r ∨
        ∃ text, fold ⟨literals, .reject⟩ program = .error (.malformedLiteral text)) ∧
      (∀ t, fold ⟨.permissive, .reject⟩ program = .ok t →
        fold ⟨.strict, .reject⟩ program = .ok t) := by
  cases outcome : fold ⟨.permissive, .passThrough⟩ program with
  | error e =>
    obtain ⟨_, _, _, refused⟩ := foldFrom_error named outcome
    exact absurd refused.1 (by simp)
  | ok r =>
    refine ⟨r, fun literals => ?_, fun literals => ?_, fun t ht => ?_⟩
    · exact foldFrom_of_milder (passThrough_milder literals _) named outcome
    · cases rejecting : fold ⟨literals, .reject⟩ program with
      | error e =>
        obtain ⟨_, text, rfl, _⟩ := foldFrom_error named rejecting
        exact .inr ⟨text, rfl⟩
      | ok t =>
        have passed : fold ⟨.permissive, .passThrough⟩ program = .ok t :=
          foldFrom_of_milder (passThrough_milder .permissive _) named rejecting
        exact .inl (passed.symm.trans outcome)
    · exact foldFrom_of_milder (strict_milder .reject) named ht

def mixed : Program :=
  [{ left := "4", result := "12-3" },
   { operator := .mul, left := "12-3", right := some "2", result := "y" },
   { operator := .add, left := "1-", right := some "y", result := "z" },
   { operator := .sub, left := "99999999999999999999", right := some "q", result := "w" }]

theorem fold_policies_agree_mixed :
    (∀ i ∈ mixed, i.result ≠ "") ∧
    fold ⟨.permissive, .reject⟩ mixed = .error (.malformedLiteral "1-") ∧
    ∃ r : Folded, r.program.map Instruction.text =
        ["12-3 = 4", "y = 8", "z = 1- + 8", "w = 99999999999999999999 - q"] ∧
      fold ⟨.strict, .reject⟩ mixed = .ok r ∧
      ∀ literals, fold ⟨literals, .passThrough⟩ mixed = .ok r := by
  have named : ∀ i ∈ mixed, i.result ≠ "" := by decide
  obtain ⟨r, passing, rejecting, _⟩ := fold_policies_agree mixed named
  have strict : fold ⟨.strict, .reject⟩ mixed = .ok r := by
    rcases rejecting .strict with ok | ⟨text, failed⟩
    · exact ok
    · contradiction
  obtain rfl := Except.ok.inj strict
  exact ⟨named, rfl, _, by decide, rfl, passing⟩

end Policies

end QuadFold
