import QuadFold.Proofs.Agreement
import QuadFold.Proofs.Locality
import QuadFold.Proofs.Log

/-! A program with another one before it. Whatever is known without the context is known with it,
and this stays so although the two runs may part at every instruction: where the run without the
context finds something out, the other one finds out the same. -/
namespace QuadFold

namespace Constants

def Included (known known' : Constants) : Prop :=
  ∀ name value, known.get? name = some value → known'.get? name = some value

theorem empty_included (known : Constants) : empty.Included known := by
  intro name value h
  simp at h

theorem Included.denotation? {known known' : Constants} (included : known.Included known')
    (named : known'.Named) {o : Operand} {value : Int64}
    (h : Literal.denotation? (known.resolve o) = some value) :
    Literal.denotation? (known'.resolve o) = some value := by
  cases found : known.get? o with
  | some w =>
    have same : known'.get? o = some w := included o w found
    have resolved : known.resolve o = known'.resolve o := resolve_congr (found.trans same.symm)
    rwa [resolved] at h
  | none =>
    have resolved : known.resolve o = o := by simp [resolve, found]
    rw [resolved] at h
    have literal : Literal.WellFormed o := (Literal.wellFormed_iff o).mpr ⟨value, h⟩
    rwa [resolve_of_wellFormed named literal]

end Constants

theorem Verdict.Justified.mono {known known' : Constants} (included : known.Included known')
    (named : known'.Named) {operator : Operator} {left : Operand} {right : Option Operand}
    {v : Verdict}
    (justified : v.Justified operator (known.resolve left) (right.map known.resolve)) :
    v = .unsettled ∨
      v.Justified operator (known'.resolve left) (right.map known'.resolve) := by
  cases justified with
  | folded hr hx hy hv =>
    obtain ⟨o, rfl, rfl⟩ := Option.map_eq_some_iff.mp hr
    have hx' := included.denotation? named hx
    have hy' := included.denotation? named hy
    exact .inr (.folded rfl hx' hy' hv)
  | settled hr hx =>
    have none_right : right.map known'.resolve = none := by simpa using hr
    have hx' := included.denotation? named hx
    exact .inr (.settled none_right hx')
  | undefined hr hx hy hv =>
    obtain ⟨o, rfl, rfl⟩ := Option.map_eq_some_iff.mp hr
    have hx' := included.denotation? named hx
    have hy' := included.denotation? named hy
    exact .inr (.undefined rfl hx' hy' hv)
  | unsettled _ => exact .inl rfl

namespace Policies

section
variable {p : Policies} {known known' : Constants} {i : Instruction} {s s' : Step}

theorem steps_compare (included : known.Included known') (named : known'.Named)
    (hs : p.step known i = .ok s) (hs' : p.step known' i = .ok s') :
    ∃ v v', after known i v = s ∧ after known' i v' = s' ∧ (v = .unsettled ∨ v = v') := by
  obtain ⟨v, judged, rfl⟩ := step_ok hs
  obtain ⟨v', judged', rfl⟩ := step_ok hs'
  refine ⟨v, v', rfl, rfl, ?_⟩
  rcases (judge_ok judged).mono included named with unsettled | justified
  · exact .inl unsettled
  · exact .inr (justified.unique (judge_ok judged'))

theorem step_included (included : known.Included known') (named : known'.Named)
    (hs : p.step known i = .ok s) (hs' : p.step known' i = .ok s') :
    s.known.Included s'.known := by
  intro name value found
  by_cases defined : i.result = name
  · obtain ⟨v, v', rfl, rfl, unsettled | same⟩ := steps_compare included named hs hs'
    · simp [unsettled, after, Constants.get?_forget, defined] at found
    · have told : (after known i v).known.get? name = (after known' i v).known.get? name := by
        cases v <;> simp [after, Constants.get?_bind, Constants.get?_forget, defined]
      rw [← same, ← told]
      exact found
  · rw [step_get?_of_ne hs defined] at found
    rw [step_get?_of_ne hs' defined]
    exact included name value found

theorem step_folding_sublist (included : known.Included known') (named : known'.Named)
    (hs : p.step known i = .ok s) (hs' : p.step known' i = .ok s') :
    s.folding.toList.Sublist s'.folding.toList := by
  obtain ⟨v, v', rfl, rfl, unsettled | same⟩ := steps_compare included named hs hs'
  · rw [unsettled]
    exact List.nil_sublist _
  · rw [← same]
    cases v <;> exact List.Sublist.refl _

end

theorem foldFrom_informed {p : Policies} {known known' : Constants} {program : Program}
    {r t : Folded} (hr : p.foldFrom known program = .ok r) (ht : p.foldFrom known' program = .ok t)
    (shaped : ∀ i ∈ program, i.WellShaped) (names : ∀ i ∈ program, ¬ Literal.WellFormed i.result)
    (included : known.Included known') (named : known'.Named) :
    r.foldings.Sublist t.foldings ∧
      ∀ k value, p.settledAt? r.program k = some value → p.settledAt? t.program k = some value := by
  -- neither run has to follow the other one; only the inclusion is carried from step to step
  induction program generalizing known known' r t with
  | nil =>
    cases hr
    cases ht
    exact ⟨List.Sublist.refl _, fun _ _ h => h⟩
  | cons i rest ih =>
    obtain ⟨s, u, hs, hu, rfl⟩ := foldFrom_cons_ok_iff.mp hr
    obtain ⟨s', u', hs', hu', rfl⟩ := foldFrom_cons_ok_iff.mp ht
    have shaped_i := shaped i (by simp)
    have included_after := step_included included named hs hs'
    have named_after := step_named hs' named (names i (by simp))
    obtain ⟨logged, settled⟩ := ih hu hu' (fun j hj => shaped j (by simp [hj]))
      (fun j hj => names j (by simp [hj])) included_after named_after
    refine ⟨(step_folding_sublist included named hs hs').append logged, fun k value here => ?_⟩
    cases k with
    | zero =>
      have first : p.settles? s.instruction = some value := here
      rw [step_settles? hs shaped_i] at first
      have first' := included_after i.result value first
      rw [← step_settles? hs' shaped_i] at first'
      exact first'
    | succ k => exact settled k value here

theorem settledAt?_append (p : Policies) (first second : Program) (k : Nat) :
    p.settledAt? (first ++ second) (first.length + k) = p.settledAt? second k := by
  simp [settledAt?, List.getElem?_append_right]

theorem operator_of_settles? {p : Policies} {i : Instruction} {value : Int64}
    (h : p.settles? i = some value) : i.operator = .assign := by
  unfold settles? at h
  split at h
  · assumption
  · contradiction

theorem foldedAt_append {p : Policies} {first first' second new new' : Program} {k : Nat}
    {value : Int64} (folded : Program.FoldedAt second new k)
    (settled : p.settledAt? new' k = some value) (lengths : first'.length = first.length) :
    Program.FoldedAt (first ++ second) (first' ++ new') (first.length + k) := by
  obtain ⟨i, j, was, _, fold⟩ := folded
  obtain ⟨j', becomes, assigned⟩ := Option.bind_eq_some_iff.mp settled
  simp only [Instruction.isFold, Bool.and_eq_true] at fold
  refine ⟨i, j', ?_, ?_, ?_⟩
  · simp [List.getElem?_append_right, was]
  · simp [← lengths, List.getElem?_append_right, becomes]
  · simp [Instruction.isFold, fold.1, operator_of_settles? assigned, Operator.isAssign]

/-- With a context before it, no fold of a program is lost: what is folded to a value without the
context is folded to the same value with it, and so is every assignment of a literal that was there
or has come about. The log of the program alone is found again in the log, after the entries of the
context. -/
theorem fold_with_context (p : Policies) (context program : Program)
    (shaped : ∀ i ∈ context ++ program, i.WellShaped)
    (names : ∀ i ∈ context ++ program, ¬ Literal.WellFormed i.result) (r whole : Folded)
    (alone : p.fold program = .ok r) (within : p.fold (context ++ program) = .ok whole) :
    (∀ k value, Program.FoldedAt program r.program k → p.settledAt? r.program k = some value →
      Program.FoldedAt (context ++ program) whole.program (context.length + k) ∧
      p.settledAt? whole.program (context.length + k) = some value) ∧
    (∀ k value, p.settledAt? r.program k = some value →
      p.settledAt? whole.program (context.length + k) = some value) ∧
    ∃ q later, p.fold context = .ok q ∧ whole.foldings = q.foldings ++ later ∧
      r.foldings.Sublist later := by
  obtain ⟨q, t, hq, ht, rfl⟩ := foldFrom_append_ok_iff.mp within
  have lengths : q.program.length = context.length := foldFrom_length hq
  have named : q.known.Named := foldFrom_named hq Constants.empty_named fun i hi =>
    names i (List.mem_append_left _ hi)
  obtain ⟨logged, settled⟩ := foldFrom_informed alone ht
    (fun i hi => shaped i (List.mem_append_right _ hi))
    (fun i hi => names i (List.mem_append_right _ hi)) (Constants.empty_included _) named
  have shifted : ∀ k value, p.settledAt? r.program k = some value →
      p.settledAt? (q.append t).program (context.length + k) = some value := by
    intro k value here
    rw [Folded.append, ← lengths, settledAt?_append]
    exact settled k value here
  refine ⟨fun k value folded here => ?_, shifted, q, t.foldings, hq, rfl, logged⟩
  exact ⟨foldedAt_append folded (settled k value here) lengths, shifted k value here⟩

def premises : Program :=
  [{ left := "3", result := "b" },
   { left := "0", result := "n" }]

/-- Folds with and without the premises, a fold and a division by zero that come about only with
them, and a literal that is assigned in any case. -/
def conclusions : Program :=
  [{ left := "2", result := "a" },
   { operator := .add, left := "a", right := some "1", result := "c" },
   { operator := .mul, left := "b", right := some "c", result := "d" },
   { operator := .div, left := "a", right := some "n", result := "c" },
   { left := "05", result := "e" },
   { operator := .sub, left := "e", right := some "a", result := "b" }]

theorem fold_with_context_premises :
    (∀ i ∈ premises ++ conclusions, i.WellShaped) ∧
    (∀ i ∈ premises ++ conclusions, ¬ Literal.WellFormed i.result) ∧
    ∃ r whole, Policies.fold {} conclusions = .ok r ∧
      Policies.fold {} (premises ++ conclusions) = .ok whole ∧
      r.program.map Instruction.text =
        ["a = 2", "c = 3", "d = b * 3", "c = 2 / n", "e = 05", "b = 3"] ∧
      whole.program.map Instruction.text =
        ["b = 3", "n = 0", "a = 2", "c = 3", "d = 9", "c = a / n", "e = 05", "b = 3"] ∧
      Program.FoldedAt (premises ++ conclusions) whole.program 7 ∧
      settledAt? {} whole.program 7 = some 3 ∧ settledAt? {} whole.program 6 = some 5 := by
  have shaped : ∀ i ∈ premises ++ conclusions, i.WellShaped := by decide
  have names : ∀ i ∈ premises ++ conclusions, ¬ Literal.WellFormed i.result := by decide
  obtain ⟨folds, settles, _⟩ := fold_with_context {} premises conclusions shaped names _ _ rfl rfl
  obtain ⟨folded, value⟩ := folds 5 3 ⟨_, _, rfl, rfl, by decide⟩ (by decide)
  exact ⟨shaped, names, _, _, rfl, rfl, by decide, by decide, folded, value,
    settles 4 5 (by decide)⟩

end Policies

end QuadFold
