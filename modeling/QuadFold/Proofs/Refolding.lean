import QuadFold.Proofs.Steps

/-! Folding a program that has been folded already. The second walk knows the same constants at
every place as the first one, so it changes nothing and leaves whatever follows as it was. -/
namespace QuadFold.Policies

theorem step_writeIn (p : Policies) {known : Constants} (named : known.Named) {i : Instruction}
    (shaped : i.WellShaped) : p.step known (known.writeIn i) =
      (p.judge i.operator (known.resolve i.left) (i.right.map known.resolve)).map
        (after known (known.writeIn i)) := by
  have fixed : (i.right.map known.resolve).map known.resolve = i.right.map known.resolve := by
    simp [Function.comp_def, Constants.resolve_resolve named]
  have name : (known.writeIn i).result ≠ "" := shaped.1
  rw [step_eq_map p known name, Constants.writeIn_right known shaped, fixed, Constants.writeIn_left,
    Constants.resolve_resolve named, Constants.writeIn_operator]

/-- A step taken again on what it gave, with the same constants, repeats it without a fold. -/
theorem step_again {p : Policies} {known : Constants} {i : Instruction} {s : Step}
    (ok : p.step known i = .ok s) (shaped : i.WellShaped) (named : known.Named) :
    p.step known s.instruction = .ok ⟨s.instruction, s.known, none⟩ := by
  obtain ⟨v, judged, rfl⟩ := step_ok ok
  have written := step_writeIn p named shaped
  rw [judged] at written
  cases judge_ok judged with
  | @folded _ _ _ value _ _ _ _ =>
    have literal : known.resolve (Literal.text value) = Literal.text value :=
      Constants.resolve_of_wellFormed named (Literal.wellFormed_text value)
    have settled : p.judge .assign (Literal.text value) none = .ok (.settled value) :=
      judge_assigned (Literal.denotation?_text value)
    have name : (after known i (.folded value)).instruction.result ≠ "" := shaped.1
    refine (step_ok_iff name).mpr ⟨.settled value, ?_, ?_⟩
    · simpa only [after, literal, Option.map_none] using settled
    · simp [after, Constants.writeIn, literal, Instruction.withOperands, Operator.isBinary]
  | settled _ _ => simpa [after, Except.map, Constants.writeIn_writeIn named] using written
  | undefined _ _ _ _ => exact ok
  | unsettled _ => simpa [after, Except.map, Constants.writeIn_writeIn named] using written

theorem foldFrom_again {p : Policies} {known : Constants} {program : Program} {r : Folded}
    (ok : p.foldFrom known program = .ok r) (shaped : ∀ i ∈ program, i.WellShaped)
    (names : ∀ i ∈ program, ¬ Literal.WellFormed i.result) (named : known.Named) :
    p.foldFrom known r.program = .ok ⟨r.program, [], r.known⟩ := by
  induction program generalizing known r with
  | nil => cases ok; rfl
  | cons i rest ih =>
    obtain ⟨s, t, hs, ht, rfl⟩ := foldFrom_cons_ok_iff.mp ok
    have shaped_i := shaped i (by simp)
    have named_after := step_named hs named (names i (by simp))
    have tail := ih ht (fun j hj => shaped j (by simp [hj])) (fun j hj => names j (by simp [hj]))
      named_after
    exact foldFrom_cons_ok_iff.mpr ⟨_, _, step_again hs shaped_i named, tail, rfl⟩

/-- A folded prefix may stand for the program it came from: whatever follows is folded or refused in
the same way, and only the folds of the prefix are not recorded again. With nothing to follow, a
second run succeeds, changes nothing and records nothing. -/
theorem fold_folded_prefix (p : Policies) (first : Program)
    (shaped : ∀ i ∈ first, i.WellShaped) (names : ∀ i ∈ first, ¬ Literal.WellFormed i.result)
    (r : Folded) (ok : p.fold first = .ok r) :
    (∀ second e, p.fold (r.program ++ second) = .error e ↔ p.fold (first ++ second) = .error e) ∧
    (∀ second whole, p.fold (first ++ second) = .ok whole →
      ∃ again, p.fold (r.program ++ second) = .ok again ∧ again.program = whole.program ∧
        whole.foldings = r.foldings ++ again.foldings) ∧
    p.fold r.program = .ok ⟨r.program, [], r.known⟩ := by
  have again : p.foldFrom .empty r.program = .ok ⟨r.program, [], r.known⟩ :=
    foldFrom_again ok shaped names Constants.empty_named
  refine ⟨fun second e => ?_, fun second whole hw => ?_, again⟩
  · have original : p.foldFrom .empty first = .ok r := ok
    rw [fold, fold, foldFrom_append, foldFrom_append, original, again]
    simp only [Except.bind]
    cases p.foldFrom r.known second <;> simp [Except.map]
  · obtain ⟨r', t, hr, ht, rfl⟩ := foldFrom_append_ok_iff.mp hw
    cases ok.symm.trans hr
    exact ⟨_, foldFrom_append_ok_iff.mpr ⟨_, t, again, ht, rfl⟩, rfl, rfl⟩

def divided : Program :=
  [{ left := "007", result := "x" },
   { operator := .add, left := "x", right := some "x", result := "y" },
   { operator := .div, left := "y", right := some "0", result := "z" }]

theorem fold_folded_prefix_divided :
    (∀ i ∈ divided, i.WellShaped) ∧ (∀ i ∈ divided, ¬ Literal.WellFormed i.result) ∧
    ∃ r, Policies.fold {} divided = .ok r ∧
      r.program.map Instruction.text = ["x = 007", "y = 14", "z = y / 0"] ∧
      r.foldings.map Folding.text = ["Folded x + x -> 14"] ∧
      Policies.fold {} r.program = .ok ⟨r.program, [], r.known⟩ ∧
      Policies.fold {} (r.program ++
        [{ operator := .mul, left := "y", right := some "1-2", result := "w" }]) =
          .error (.malformedLiteral "1-2") := by
  have shaped : ∀ i ∈ divided, i.WellShaped := by decide
  have names : ∀ i ∈ divided, ¬ Literal.WellFormed i.result := by decide
  have refolded := fold_folded_prefix {} divided shaped names _ rfl
  exact ⟨shaped, names, _, rfl, by decide, by decide, refolded.2.2, (refolded.1 _ _).mpr rfl⟩

end QuadFold.Policies
