import QuadFold.Proofs.Agreement

/-! Where a run fails. Operands are read only when all of them count as literals, so a malformed one
may stand beside a variable until the variable is known; what is written in for a name is never
malformed. -/
namespace QuadFold.Policies

def Reaches (p : Policies) (program : Program) (k : Nat) (known : Constants) (i : Instruction) :
    Prop :=
  ∃ r, p.fold (program.take k) = .ok r ∧ r.known = known ∧ program[k]? = some i

/-- With the constants written in, all operands of the instruction at `k` count as literals, and not
all of them have a value. -/
def MalformedAt (p : Policies) (program : Program) (k : Nat) : Prop :=
  ∃ known i, p.Reaches program k known i ∧
    (∀ o ∈ i.operands, p.literals.accepts (known.resolve o) = true) ∧
    ∃ o ∈ i.operands, Literal.value? (known.resolve o) = none

/-- The first operand without a value, as it is written. -/
def firstMalformed? (known : Constants) (i : Instruction) : Option Operand :=
  i.operands.find? fun o => (Literal.value? (known.resolve o)).isNone

theorem get?_of_malformed {known : Constants} {o : Operand}
    (h : Literal.value? (known.resolve o) = none) : known.get? o = none := by
  cases found : known.get? o with
  | none => rfl
  | some value =>
    have resolved : known.resolve o = Literal.text value := by simp [Constants.resolve, found]
    rw [resolved, Literal.value?_text] at h
    contradiction

theorem resolve_of_malformed {known : Constants} {o : Operand}
    (h : Literal.value? (known.resolve o) = none) : known.resolve o = o := by
  simp [Constants.resolve, get?_of_malformed h]

theorem value?_of_firstMalformed {known : Constants} {i : Instruction} {o : Operand}
    (first : firstMalformed? known i = some o) :
    o ∈ i.operands ∧ Literal.value? (known.resolve o) = none := by
  refine ⟨List.mem_of_find?_eq_some first, ?_⟩
  have found := List.find?_some first
  simpa using found

/-- A text that is refused was there before the constants were written in. -/
theorem refuses_resolved_iff {p : Policies} {known : Constants} {i : Instruction} {text : Operand} :
    p.Refuses (i.operands.map known.resolve) text ↔ p.malformed = .reject ∧
      (∀ o ∈ i.operands, p.literals.accepts (known.resolve o) = true) ∧
      firstMalformed? known i = some text := by
  have verbatim : (i.operands.map known.resolve).find? (fun o => (Literal.value? o).isNone) =
      firstMalformed? known i := by
    rw [List.find?_map]
    change (firstMalformed? known i).map known.resolve = _
    cases first : firstMalformed? known i with
    | none => rfl
    | some o =>
      have malformed := (value?_of_firstMalformed first).2
      simp [resolve_of_malformed malformed]
  simp only [Refuses, List.forall_mem_map, verbatim]

theorem malformedAt_of_fold_error {p : Policies} {program : Program}
    (named : ∀ i ∈ program, i.result ≠ "") {e : Error} (failed : p.fold program = .error e) :
    p.malformed = .reject ∧ ∃ k known i text, p.Reaches program k known i ∧
      p.MalformedAt program k ∧ firstMalformed? known i = some text ∧
      e = .malformedLiteral text := by
  obtain ⟨k, r, i, before, here, stopped⟩ := foldFrom_error_iff.mp failed
  obtain ⟨text, rfl, refused⟩ := (step_error_iff (named i (List.mem_of_getElem? here))).mp stopped
  obtain ⟨mode, literals, first⟩ := refuses_resolved_iff.mp refused
  have reached : p.Reaches program k r.known i := ⟨r, before, rfl, here⟩
  have malformed := value?_of_firstMalformed first
  exact ⟨mode, k, r.known, i, text, reached, ⟨r.known, i, reached, literals, text, malformed⟩,
    first, rfl⟩

theorem fold_error_of_malformedAt {p : Policies} {program : Program}
    (named : ∀ i ∈ program, i.result ≠ "") (mode : p.malformed = .reject) {k : Nat}
    (malformed : p.MalformedAt program k) : ∃ e, p.fold program = .error e := by
  obtain ⟨_, i, ⟨r, before, rfl, here⟩, literals, o, operand, no_value⟩ := malformed
  have some_first : (firstMalformed? r.known i).isSome = true :=
    List.find?_isSome.mpr ⟨o, operand, by simp [no_value]⟩
  obtain ⟨text, first⟩ := Option.isSome_iff_exists.mp some_first
  have refused := refuses_resolved_iff.mpr ⟨mode, literals, first⟩
  have stopped := (step_error_iff (named i (List.mem_of_getElem? here))).mpr ⟨text, rfl, refused⟩
  exact ⟨_, foldFrom_error_iff.mpr ⟨k, r, i, before, here, stopped⟩⟩

/-- No run passes a malformed instruction, so there is none before a place that it comes to. -/
theorem not_malformedAt_of_reaches {p : Policies} {program : Program}
    (named : ∀ i ∈ program, i.result ≠ "") (mode : p.malformed = .reject) {k : Nat}
    {known : Constants} {i : Instruction} (reached : p.Reaches program k known i) {j : Nat}
    (earlier : j < k) : ¬ p.MalformedAt program j := by
  rintro ⟨known', i', ⟨t, before, rfl, here⟩, literals, some_malformed⟩
  obtain ⟨r, ok, _, _⟩ := reached
  have within : p.MalformedAt (program.take k) j := by
    refine ⟨t.known, i', ⟨t, ?_, rfl, ?_⟩, literals, some_malformed⟩
    · rw [List.take_take, Nat.min_eq_left (Nat.le_of_lt earlier)]
      exact before
    · rw [List.getElem?_take_of_lt earlier]
      exact here
  have named_within : ∀ i ∈ program.take k, i.result ≠ "" :=
    fun i hi => named i (List.mem_of_mem_take hi)
  obtain ⟨e, failed⟩ := fold_error_of_malformedAt named_within mode within
  rw [ok] at failed
  contradiction

/-- If malformed literals may pass, every run succeeds. If not, a run fails exactly if it comes to a
malformed instruction. The failure names the first malformed operand of the first such instruction,
in its own words: it is no name with a known value. -/
theorem fold_fails_at_first_malformed (p : Policies) (program : Program)
    (shaped : ∀ i ∈ program, i.WellShaped) :
    (p.malformed = .passThrough → ∃ r, p.fold program = .ok r) ∧
    (p.malformed = .reject →
      ((∃ e, p.fold program = .error e) ↔ ∃ k, p.MalformedAt program k)) ∧
    (∀ e, p.fold program = .error e → ∃ k known i text, p.Reaches program k known i ∧
      p.MalformedAt program k ∧ (∀ j < k, ¬ p.MalformedAt program j) ∧
      firstMalformed? known i = some text ∧ known.get? text = none ∧
      e = .malformedLiteral text) := by
  have named : ∀ i ∈ program, i.result ≠ "" := fun i hi => (shaped i hi).1
  refine ⟨fun mode => ?_, fun mode => ⟨?_, ?_⟩, fun e failed => ?_⟩
  · cases outcome : p.fold program with
    | ok r => exact ⟨r, rfl⟩
    | error e =>
      obtain ⟨rejects, _⟩ := malformedAt_of_fold_error named outcome
      rw [mode] at rejects
      contradiction
  · rintro ⟨e, failed⟩
    obtain ⟨_, k, _, _, _, _, malformed, _⟩ := malformedAt_of_fold_error named failed
    exact ⟨k, malformed⟩
  · rintro ⟨k, malformed⟩
    exact fold_error_of_malformedAt named mode malformed
  · obtain ⟨mode, k, known, i, text, reached, malformed, first, rfl⟩ :=
      malformedAt_of_fold_error named failed
    have no_value := (value?_of_firstMalformed first).2
    exact ⟨k, known, i, text, reached, malformed,
      fun j earlier => not_malformedAt_of_reaches named mode reached earlier, first,
      get?_of_malformed no_value, rfl⟩

/-- The same malformed literal beside a variable that is not known, and beside it when it is; then
an instruction that a run does not come to. -/
def belated : Program :=
  [{ operator := .add, left := "1-2", right := some "b", result := "x" },
   { left := "4", result := "b" },
   { operator := .add, left := "b", right := some "1-2", result := "y" },
   { operator := .mul, left := "--", right := some "-", result := "z" }]

theorem fold_fails_at_first_malformed_belated :
    (∀ i ∈ belated, i.WellShaped) ∧
    (∃ r, fold ⟨.permissive, .passThrough⟩ belated = .ok r) ∧
    Policies.fold {} belated = .error (.malformedLiteral "1-2") ∧
    MalformedAt {} belated 2 ∧
    ∃ k ≤ 2, ∃ known i, Reaches {} belated k known i ∧ (∀ j < k, ¬ MalformedAt {} belated j) ∧
      firstMalformed? known i = some "1-2" ∧ known.get? "1-2" = none := by
  have shaped : ∀ i ∈ belated, i.WellShaped := by decide
  have malformed : MalformedAt {} belated 2 :=
    ⟨_, _, ⟨_, rfl, rfl, rfl⟩, by decide, "1-2", by decide, by decide⟩
  obtain ⟨passes, _, _⟩ := fold_fails_at_first_malformed ⟨.permissive, .passThrough⟩ belated shaped
  obtain ⟨_, _, tells⟩ := fold_fails_at_first_malformed {} belated shaped
  obtain ⟨k, known, i, text, reached, _, least, first, unknown, same⟩ := tells _ rfl
  cases same
  have early : k ≤ 2 := Nat.le_of_not_lt fun late => least 2 late malformed
  exact ⟨shaped, passes rfl, rfl, malformed, k, early, known, i, reached, least, first, unknown⟩

end QuadFold.Policies
