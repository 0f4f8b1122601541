import QuadFold.Folding
import QuadFold.Proofs.Literals

/-! What one step of the walk does, and how the steps of a run compose. Every later fact about runs
rests on these and does not open the walk again. -/
namespace QuadFold

theorem Except.bind_eq_ok_iff {ε α β : Type} {x : Except ε α} {f : α → Except ε β} {b : β} :
    (x >>= f) = .ok b ↔ ∃ a, x = .ok a ∧ f a = .ok b := by
  cases x <;> simp [bind, Except.bind]

theorem Except.bind_eq_error_iff {ε α β : Type} {x : Except ε α} {f : α → Except ε β}
    {e : ε} : (x >>= f) = .error e ↔ x = .error e ∨ ∃ a, x = .ok a ∧ f a = .error e := by
  cases x <;> simp [bind, Except.bind]

theorem Except.map_eq_ok_iff {ε α β : Type} {x : Except ε α} {f : α → β} {b : β} :
    x.map f = .ok b ↔ ∃ a, x = .ok a ∧ f a = b := by
  cases x <;> simp [Except.map]

theorem Except.map_eq_error_iff {ε α β : Type} {x : Except ε α} {f : α → β} {e : ε} :
    x.map f = .error e ↔ x = .error e := by
  cases x <;> simp [Except.map]

theorem Except.mapError_eq_ok_iff {ε ε' α : Type} {x : Except ε α} {f : ε → ε'} {a : α} :
    x.mapError f = .ok a ↔ x = .ok a := by
  cases x with
  | error e => constructor <;> intro impossible <;> cases impossible
  | ok b => constructor <;> intro same <;> cases same <;> rfl

theorem Except.exists_error_iff {ε α : Type} {x : Except ε α} :
    (∃ e, x = .error e) ↔ ∀ a, x ≠ .ok a := by
  cases x <;> simp

theorem Instruction.checked_eq_ok_iff {i j : Instruction} :
    i.checked = .ok j ↔ i.WellShaped ∧ i = j := by
  rw [← defect?_eq_none_iff]
  unfold checked
  cases i.defect? <;> simp

/-- What the operands alone say about an instruction; no policy is asked. -/
inductive Verdict.Justified (operator : Operator) (left : Operand) (right : Option Operand) :
    Verdict → Prop
  | folded {other : Operand} {x y value : Int64} (hr : right = some other)
      (hx : Literal.denotation? left = some x) (hy : Literal.denotation? other = some y)
      (hv : operator.evaluate x y = some value) : Justified operator left right (.folded value)
  | settled {value : Int64} (hr : right = none) (hx : Literal.denotation? left = some value) :
      Justified operator left right (.settled value)
  | undefined {other : Operand} {x y : Int64} (hr : right = some other)
      (hx : Literal.denotation? left = some x) (hy : Literal.denotation? other = some y)
      (hv : operator.evaluate x y = none) : Justified operator left right .undefined
  | unsettled (h : Literal.denotation? left = none ∨
      ∃ other, right = some other ∧ Literal.denotation? other = none) :
      Justified operator left right .unsettled

namespace Constants

/-- Only names that are no integer literals are known. -/
def Named (known : Constants) : Prop :=
  ∀ name value, known.get? name = some value → ¬ Literal.WellFormed name

theorem empty_named : empty.Named := by
  intro name value h
  simp at h

theorem bind_named {known : Constants} (named : known.Named) {name : String}
    (h : ¬ Literal.WellFormed name) (value : Int64) : (known.bind name value).Named := by
  intro other v hv
  rw [get?_bind] at hv
  split at hv
  · rename_i same
    exact same ▸ h
  · exact named other v hv

theorem forget_named {known : Constants} (named : known.Named) (name : String) :
    (known.forget name).Named := by
  intro other v hv
  rw [get?_forget] at hv
  split at hv
  · contradiction
  · exact named other v hv

theorem resolve_of_wellFormed {known : Constants} (named : known.Named) {operand : Operand}
    (h : Literal.WellFormed operand) : known.resolve operand = operand := by
  unfold resolve
  split
  · rename_i value hv
    exact absurd h (named operand value hv)
  · rfl

theorem resolve_resolve {known : Constants} (named : known.Named) (operand : Operand) :
    known.resolve (known.resolve operand) = known.resolve operand := by
  cases h : known.get? operand with
  | none => simp [resolve, h]
  | some value =>
    have resolved : known.resolve operand = Literal.text value := by simp [resolve, h]
    rw [resolved, resolve_of_wellFormed named (Literal.wellFormed_text value)]

def writeIn (known : Constants) (i : Instruction) : Instruction :=
  i.withOperands (known.resolve i.left) (i.right.map known.resolve)

@[simp] theorem writeIn_operator (known : Constants) (i : Instruction) :
    (known.writeIn i).operator = i.operator := rfl

@[simp] theorem writeIn_left (known : Constants) (i : Instruction) :
    (known.writeIn i).left = known.resolve i.left := rfl

@[simp] theorem writeIn_result (known : Constants) (i : Instruction) :
    (known.writeIn i).result = i.result := rfl

theorem writeIn_right (known : Constants) {i : Instruction} (shaped : i.WellShaped) :
    (known.writeIn i).right = i.right.map known.resolve := by
  simp only [writeIn, Instruction.withOperands]
  split
  · rfl
  · rename_i plain
    have right_eq : i.right = none := by simpa [plain] using shaped.2.2.2
    simp [right_eq]

theorem writeIn_writeIn {known : Constants} (named : known.Named) (i : Instruction) :
    known.writeIn (known.writeIn i) = known.writeIn i := by
  obtain ⟨operator, left, right, result⟩ := i
  cases binary : operator.isBinary <;>
    simp [writeIn, Instruction.withOperands, binary, resolve_resolve named, Function.comp_def]

end Constants

namespace Policies

theorem read_ok {p : Policies} {literal : Operand} {x : Option Int64}
    (h : p.read literal = .ok x) : x = Literal.value? literal := by
  unfold read at h
  split at h
  · rename_i value hv
    cases h
    exact hv.symm
  · contradiction
  · rename_i hv _
    cases h
    exact hv.symm

theorem denotation?_of_accepts {p : Policies} {s : Operand}
    (accepted : p.literals.accepts s = true) : Literal.denotation? s = Literal.value? s := by
  ext value
  rw [← Literal.accepts_and_value?_iff p.literals s value]
  simp [accepted]

theorem denotation?_of_not_accepts {p : Policies} {s : Operand}
    (refused : ¬ p.literals.accepts s = true) : Literal.denotation? s = none := by
  apply Option.eq_none_iff_forall_ne_some.mpr
  intro value h
  exact refused ((Literal.accepts_and_value?_iff p.literals s value).mpr h).1

/-- A policy decides whether there is a verdict, not which one it is. -/
theorem judge_ok {p : Policies} {operator : Operator} {left : Operand} {right : Option Operand}
    {v : Verdict} (h : p.judge operator left right = .ok v) : v.Justified operator left right := by
  cases right with
  | none =>
    simp only [judge] at h
    split at h
    · rename_i accepted
      obtain ⟨x, hx, h⟩ := Except.bind_eq_ok_iff.mp h
      have left_value := (denotation?_of_accepts accepted).trans (read_ok hx).symm
      cases x with
      | none => cases h; exact .unsettled (.inl left_value)
      | some x => cases h; exact .settled rfl left_value
    · rename_i refused
      cases h
      exact .unsettled (.inl (denotation?_of_not_accepts refused))
  | some other =>
    simp only [judge] at h
    split at h
    · rename_i accepted
      rw [Bool.and_eq_true] at accepted
      obtain ⟨x, hx, h⟩ := Except.bind_eq_ok_iff.mp h
      obtain ⟨y, hy, h⟩ := Except.bind_eq_ok_iff.mp h
      have left_value := (denotation?_of_accepts accepted.1).trans (read_ok hx).symm
      have right_value := (denotation?_of_accepts accepted.2).trans (read_ok hy).symm
      cases x with
      | none => cases h; exact .unsettled (.inl left_value)
      | some x =>
        cases y with
        | none => cases h; exact .unsettled (.inr ⟨other, rfl, right_value⟩)
        | some y =>
          dsimp only at h
          split at h
          · rename_i value hv
            cases h
            exact .folded rfl left_value right_value hv
          · rename_i hv
            cases h
            exact .undefined rfl left_value right_value hv
    · rename_i refused
      cases h
      by_cases accepted : p.literals.accepts left = true
      · have other_refused : ¬ p.literals.accepts other = true := by simpa [accepted] using refused
        exact .unsettled (.inr ⟨other, rfl, denotation?_of_not_accepts other_refused⟩)
      · exact .unsettled (.inl (denotation?_of_not_accepts accepted))

theorem judge_assigned {p : Policies} {operator : Operator} {left : Operand} {value : Int64}
    (h : Literal.denotation? left = some value) :
    p.judge operator left none = .ok (.settled value) := by
  obtain ⟨accepted, hv⟩ := (Literal.accepts_and_value?_iff p.literals left value).mpr h
  simp [judge, accepted, read, hv, bind, Except.bind, pure, Except.pure]

theorem judge_denoted {p : Policies} (operator : Operator) {left right : Operand} {x y : Int64}
    (hx : Literal.denotation? left = some x) (hy : Literal.denotation? right = some y) :
    p.judge operator left (some right) =
      .ok ((operator.evaluate x y).elim .undefined .folded) := by
  obtain ⟨left_accepted, left_value⟩ := (Literal.accepts_and_value?_iff p.literals left x).mpr hx
  obtain ⟨right_accepted, right_value⟩ := (Literal.accepts_and_value?_iff p.literals right y).mpr hy
  cases hv : operator.evaluate x y <;>
    simp [judge, left_accepted, right_accepted, read, left_value, right_value, hv, bind,
      Except.bind, pure, Except.pure]

theorem judge_evaluated {p : Policies} {operator : Operator} {left right : Operand}
    {x y value : Int64} (hx : Literal.denotation? left = some x)
    (hy : Literal.denotation? right = some y) (hv : operator.evaluate x y = some value) :
    p.judge operator left (some right) = .ok (.folded value) := by
  rw [judge_denoted operator hx hy, hv, Option.elim_some]

/-- What a verdict makes of an instruction and of the known constants. -/
def after (known : Constants) (i : Instruction) : Verdict → Step
  | .folded value =>
    ⟨{ left := Literal.text value, result := i.result }, known.bind i.result value,
      some (.ofInstruction i value)⟩
  | .settled value => ⟨known.writeIn i, known.bind i.result value, none⟩
  | .undefined => ⟨i, known.forget i.result, none⟩
  | .unsettled => ⟨known.writeIn i, known.forget i.result, none⟩

theorem step_eq_map (p : Policies) (known : Constants) {i : Instruction} (named : i.result ≠ "") :
    p.step known i = (p.judge i.operator (known.resolve i.left) (i.right.map known.resolve)).map
      (after known i) := by
  simp only [step]
  cases judged : p.judge i.operator (known.resolve i.left) (i.right.map known.resolve) with
  | error e => rfl
  | ok v =>
    cases judge_ok judged with
    | @folded _ _ _ value _ _ _ _ =>
      have sound : Instruction.assign i.result (Literal.text value) =
          .ok { left := Literal.text value, result := i.result } := by
        simp [Instruction.assign, Instruction.checked, Instruction.defect?, named,
          Literal.text_ne_empty, Operator.isBinary]
      simp only [bind, Except.bind, sound]
      rfl
    | settled hr _ =>
      simp only [Except.map, after, Constants.writeIn, hr]
      rfl
    | undefined _ _ _ _ => rfl
    | unsettled _ => rfl

theorem step_ok {p : Policies} {known : Constants} {i : Instruction} {s : Step}
    (ok : p.step known i = .ok s) : ∃ v,
      p.judge i.operator (known.resolve i.left) (i.right.map known.resolve) = .ok v ∧
        after known i v = s := by
  simp only [step] at ok
  obtain ⟨v, judged, ok⟩ := Except.bind_eq_ok_iff.mp ok
  refine ⟨v, judged, ?_⟩
  cases judge_ok judged with
  | folded _ _ _ _ =>
    obtain ⟨instruction, checked, ok⟩ := Except.bind_eq_ok_iff.mp ok
    obtain ⟨_, rfl⟩ := Instruction.checked_eq_ok_iff.mp checked
    cases ok
    rfl
  | settled hr _ =>
    cases ok
    simp only [after, Constants.writeIn, hr]
  | undefined _ _ _ _ =>
    cases ok
    rfl
  | unsettled _ =>
    cases ok
    rfl

theorem step_ok_iff {p : Policies} {known : Constants} {i : Instruction} (named : i.result ≠ "")
    {s : Step} : p.step known i = .ok s ↔ ∃ v,
      p.judge i.operator (known.resolve i.left) (i.right.map known.resolve) = .ok v ∧
        after known i v = s := by
  rw [step_eq_map p known named]
  cases p.judge i.operator (known.resolve i.left) (i.right.map known.resolve) <;> simp [Except.map]

theorem after_named {known : Constants} (named : known.Named) {i : Instruction}
    (h : ¬ Literal.WellFormed i.result) (v : Verdict) : (after known i v).known.Named := by
  cases v with
  | folded value => exact Constants.bind_named named h value
  | settled value => exact Constants.bind_named named h value
  | undefined => exact Constants.forget_named named i.result
  | unsettled => exact Constants.forget_named named i.result

theorem step_result {p : Policies} {known : Constants} {i : Instruction} {s : Step}
    (ok : p.step known i = .ok s) : s.instruction.result = i.result := by
  obtain ⟨v, _, rfl⟩ := step_ok ok
  cases v <;> rfl

theorem step_get?_of_ne {p : Policies} {known : Constants} {i : Instruction} {s : Step}
    (ok : p.step known i = .ok s) {name : String} (other : i.result ≠ name) :
    s.known.get? name = known.get? name := by
  obtain ⟨v, _, rfl⟩ := step_ok ok
  cases v with
  | folded value => simp [after, Constants.get?_bind, other]
  | settled value => simp [after, Constants.get?_bind, other]
  | undefined => simp [after, Constants.get?_forget, other]
  | unsettled => simp [after, Constants.get?_forget, other]

theorem step_named {p : Policies} {known : Constants} {i : Instruction} {s : Step}
    (ok : p.step known i = .ok s) (named : known.Named) (h : ¬ Literal.WellFormed i.result) :
    s.known.Named := by
  obtain ⟨v, _, rfl⟩ := step_ok ok
  exact after_named named h v

theorem foldFrom_cons_ok_iff {p : Policies} {known : Constants} {i : Instruction} {rest : Program}
    {r : Folded} : p.foldFrom known (i :: rest) = .ok r ↔ ∃ s t, p.step known i = .ok s ∧
      p.foldFrom s.known rest = .ok t ∧
        r = ⟨s.instruction :: t.program, s.folding.toList ++ t.foldings, t.known⟩ := by
  simp only [foldFrom, Except.bind_eq_ok_iff, pure, Except.pure, Except.ok.injEq, eq_comm (a := r)]
  constructor
  · rintro ⟨s, hs, t, ht, hr⟩
    exact ⟨s, t, hs, ht, hr⟩
  · rintro ⟨s, t, hs, ht, hr⟩
    exact ⟨s, hs, t, ht, hr⟩

theorem foldFrom_cons_error_iff {p : Policies} {known : Constants} {i : Instruction}
    {rest : Program} {e : Error} : p.foldFrom known (i :: rest) = .error e ↔
      p.step known i = .error e ∨ ∃ s, p.step known i = .ok s ∧
        p.foldFrom s.known rest = .error e := by
  simp only [foldFrom, Except.bind_eq_error_iff, pure, Except.pure, reduceCtorEq, and_false,
    exists_false, or_false]

/-- A run fails at the first instruction that its step refuses. -/
theorem foldFrom_error_iff {p : Policies} {known : Constants} {program : Program} {e : Error} :
    p.foldFrom known program = .error e ↔ ∃ k r i, p.foldFrom known (program.take k) = .ok r ∧
      program[k]? = some i ∧ p.step r.known i = .error e := by
  induction program generalizing known with
  | nil => simp [foldFrom]
  | cons i rest ih =>
    rw [foldFrom_cons_error_iff]
    constructor
    · rintro (failed | ⟨s, hs, failed⟩)
      · exact ⟨0, ⟨[], [], known⟩, i, rfl, rfl, failed⟩
      · obtain ⟨k, t, j, ht, here, failed⟩ := ih.mp failed
        exact ⟨k + 1, _, j, foldFrom_cons_ok_iff.mpr ⟨s, t, hs, ht, rfl⟩, here, failed⟩
    · rintro ⟨k, r, j, hr, here, failed⟩
      cases k with
      | zero =>
        cases hr
        cases here
        exact .inl failed
      | succ k =>
        obtain ⟨s, t, hs, ht, rfl⟩ := foldFrom_cons_ok_iff.mp hr
        exact .inr ⟨s, hs, ih.mpr ⟨k, t, j, ht, here, failed⟩⟩

def Folded.append (r t : Folded) : Folded :=
  ⟨r.program ++ t.program, r.foldings ++ t.foldings, t.known⟩

/-- A run meets the second part of a program with what it knows after the first. -/
theorem foldFrom_append (p : Policies) (known : Constants) (first second : Program) :
    p.foldFrom known (first ++ second) = (p.foldFrom known first).bind fun r =>
      (p.foldFrom r.known second).map r.append := by
  induction first generalizing known with
  | nil =>
    simp only [List.nil_append, foldFrom, Except.bind]
    cases p.foldFrom known second <;> rfl
  | cons i rest ih =>
    simp only [List.cons_append, foldFrom]
    cases hs : p.step known i with
    | error e => rfl
    | ok s =>
      simp only [bind, Except.bind, ih]
      cases hr : p.foldFrom s.known rest with
      | error e => rfl
      | ok r =>
        simp only [pure, Except.pure]
        cases p.foldFrom r.known second with
        | error e => rfl
        | ok t => simp [Except.map, Folded.append]

theorem foldFrom_append_ok_iff {p : Policies} {known : Constants} {first second : Program}
    {whole : Folded} : p.foldFrom known (first ++ second) = .ok whole ↔
      ∃ r t, p.foldFrom known first = .ok r ∧ p.foldFrom r.known second = .ok t ∧
        whole = r.append t := by
  rw [foldFrom_append]
  cases p.foldFrom known first with
  | error e => simp [Except.bind]
  | ok r => cases ht : p.foldFrom r.known second <;> simp [Except.bind, Except.map, ht, eq_comm]

theorem foldFrom_length {p : Policies} {known : Constants} {program : Program} {r : Folded}
    (ok : p.foldFrom known program = .ok r) : r.program.length = program.length := by
  induction program generalizing known r with
  | nil => cases ok; rfl
  | cons i rest ih =>
    obtain ⟨s, t, _, ht, rfl⟩ := foldFrom_cons_ok_iff.mp ok
    simp [ih ht]

theorem foldFrom_results {p : Policies} {known : Constants} {program : Program} {r : Folded}
    (ok : p.foldFrom known program = .ok r) : r.program.results = program.results := by
  induction program generalizing known r with
  | nil => cases ok; rfl
  | cons i rest ih =>
    obtain ⟨s, t, hs, ht, rfl⟩ := foldFrom_cons_ok_iff.mp ok
    have tail := ih ht
    simp only [Program.results, List.map_cons, step_result hs] at tail ⊢
    rw [tail]

theorem foldFrom_named {p : Policies} {known : Constants} {program : Program} {r : Folded}
    (ok : p.foldFrom known program = .ok r) (named : known.Named)
    (names : ∀ i ∈ program, ¬ Literal.WellFormed i.result) : r.known.Named := by
  induction program generalizing known r with
  | nil =>
    cases ok
    exact named
  | cons i rest ih =>
    obtain ⟨s, t, hs, ht, rfl⟩ := foldFrom_cons_ok_iff.mp ok
    have named_after := step_named hs named (names i (by simp))
    have later : t.known.Named := ih ht named_after fun j hj => names j (by simp [hj])
    exact later

theorem foldFrom_take {p : Policies} {known : Constants} {program : Program} {r : Folded}
    (ok : p.foldFrom known program = .ok r) (k : Nat) :
    ∃ t, p.foldFrom known (program.take k) = .ok t ∧ t.program = r.program.take k := by
  rw [← List.take_append_drop k program] at ok
  obtain ⟨t, u, ht, hu, rfl⟩ := foldFrom_append_ok_iff.mp ok
  have taken := foldFrom_length ht
  have dropped := foldFrom_length hu
  refine ⟨t, ht, ?_⟩
  simp only [Folded.append]
  rcases Nat.le_total k program.length with short | long
  · rw [List.take_left' (by simpa [short] using taken)]
  · have none_left : u.program = [] := List.eq_nil_of_length_eq_zero (by simp [dropped, long])
    rw [none_left, List.append_nil, List.take_of_length_le (taken ▸ List.length_take_le k program)]

end Policies

end QuadFold
