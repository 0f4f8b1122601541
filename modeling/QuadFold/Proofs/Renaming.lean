import QuadFold.Proofs.Locality

/-! Other names for the variables. Names and literals are texts of one kind, and what a run writes
in are literals; so a renaming has to leave all literals alone, and then it passes through every
step: the constants are found under the new names, and each verdict stays what it was. -/
namespace QuadFold

/-- Another text for each text. Literals stay, different texts stay different, and none is lost. -/
structure Renaming (policy : Literal.Policy) where
  apply : String → String
  injective : Function.Injective apply
  literal : ∀ s, policy.accepts s = true → apply s = s
  nonempty : ∀ s, s ≠ "" → apply s ≠ ""

namespace Renaming

variable {policy : Literal.Policy}

instance : CoeFun (Renaming policy) fun _ => String → String := ⟨apply⟩

variable (f : Renaming policy)

theorem accepts_apply (s : String) : policy.accepts (f s) = policy.accepts s := by
  cases accepted : policy.accepts s with
  | true => rw [f.literal s accepted, accepted]
  | false =>
    rw [Bool.eq_false_iff]
    intro image_accepted
    have same : f s = s := f.injective (f.literal (f s) image_accepted)
    rw [same, accepted] at image_accepted
    contradiction

theorem apply_text (value : Int64) : f (Literal.text value) = Literal.text value := by
  apply f.literal
  exact ((Literal.accepts_and_value?_iff policy _ value).mpr (Literal.denotation?_text value)).1

def instruction (i : Instruction) : Instruction :=
  { i with left := f i.left, right := i.right.map f, result := f i.result }

def folding (entry : Folding) : Folding :=
  { entry with left := f entry.left, right := entry.right.map f, result := f entry.result }

def Carries (known known' : Constants) : Prop :=
  ∀ name, known'.get? (f name) = known.get? name

variable {f} {known known' : Constants}

theorem carries_empty : f.Carries .empty .empty := by
  intro name
  simp

theorem Carries.define (carried : f.Carries known known') (name : String) (value : Option Int64) :
    f.Carries (known.define name value) (known'.define (f name) value) := by
  intro other
  rw [Constants.get?_define, Constants.get?_define, carried other]
  simp only [f.injective.eq_iff]

theorem Carries.resolve (carried : f.Carries known known') (operand : Operand) :
    known'.resolve (f operand) = f (known.resolve operand) := by
  unfold Constants.resolve
  rw [carried operand]
  cases known.get? operand with
  | none => rfl
  | some value => exact (f.apply_text value).symm

theorem Carries.resolve_right (carried : f.Carries known known') (right : Option Operand) :
    (right.map f).map known'.resolve = (right.map known.resolve).map f := by
  cases right with
  | none => rfl
  | some operand => exact congrArg some (carried.resolve operand)

theorem Carries.writeIn (carried : f.Carries known known') (i : Instruction) :
    known'.writeIn (f.instruction i) = f.instruction (known.writeIn i) := by
  simp only [Constants.writeIn, Instruction.withOperands, instruction, carried.resolve,
    carried.resolve_right]
  cases i.operator.isBinary <;> rfl

end Renaming

namespace Policies

variable {p : Policies} (f : Renaming p.literals)

theorem judge_rename (operator : Operator) (left : Operand) (right : Option Operand) :
    p.judge operator (f left) (right.map f) = p.judge operator left right := by
  cases right with
  | none =>
    simp only [Option.map_none, judge, f.accepts_apply]
    by_cases accepted : p.literals.accepts left = true
    · rw [f.literal left accepted]
    · rw [if_neg accepted, if_neg accepted]
  | some other =>
    simp only [Option.map_some, judge, f.accepts_apply]
    by_cases accepted : (p.literals.accepts left && p.literals.accepts other) = true
    · obtain ⟨left_accepted, other_accepted⟩ := Bool.and_eq_true_iff.mp accepted
      rw [f.literal left left_accepted, f.literal other other_accepted]
    · rw [if_neg accepted, if_neg accepted]

/-- One step follows the other: its instruction and its entry in the log under the new names, and
what is known after it too. -/
structure Step.Follows (s s' : Step) : Prop where
  instruction : s'.instruction = f.instruction s.instruction
  folding : s'.folding = s.folding.map f.folding
  known : f.Carries s.known s'.known

variable {f} {known known' : Constants}

theorem after_follows (carried : f.Carries known known') (i : Instruction) (v : Verdict) :
    (after known i v).Follows f (after known' (f.instruction i) v) := by
  cases v with
  | folded value =>
    refine ⟨?_, rfl, carried.define i.result (some value)⟩
    simp only [after, Renaming.instruction, f.apply_text, Option.map_none]
  | settled value => exact ⟨carried.writeIn i, rfl, carried.define i.result (some value)⟩
  | undefined => exact ⟨rfl, rfl, carried.define i.result none⟩
  | unsettled => exact ⟨carried.writeIn i, rfl, carried.define i.result none⟩

theorem step_rename (carried : f.Carries known known') {i : Instruction} (named : i.result ≠ "") :
    p.step known' (f.instruction i) =
      (p.judge i.operator (known.resolve i.left) (i.right.map known.resolve)).map
        (after known' (f.instruction i)) := by
  have renamed : (f.instruction i).result ≠ "" := f.nonempty i.result named
  rw [step_eq_map p known' renamed]
  simp only [Renaming.instruction, carried.resolve, carried.resolve_right, judge_rename]

def renamedOutput (f : Renaming p.literals) (o : Program × List Folding) : Program × List Folding :=
  (o.1.map f.instruction, o.2.map f.folding)

theorem foldFrom_rename (carried : f.Carries known known') {program : Program}
    (named : ∀ i ∈ program, i.result ≠ "") :
    (p.foldFrom known' (program.map f.instruction)).map Folded.output =
      ((p.foldFrom known program).map Folded.output).map (renamedOutput f) := by
  induction program generalizing known known' with
  | nil => rfl
  | cons i rest ih =>
    have here : i.result ≠ "" := named i (by simp)
    rw [List.map_cons, foldFrom_cons_output, foldFrom_cons_output, step_rename carried here,
      step_eq_map p known here]
    cases p.judge i.operator (known.resolve i.left) (i.right.map known.resolve) with
    | error e => rfl
    | ok v =>
      have follows := after_follows carried i v
      have tail := ih follows.known fun j hj => named j (by simp [hj])
      simp only [Except.map, Except.bind] at tail ⊢
      rw [tail, follows.instruction, follows.folding]
      cases p.foldFrom (after known i v).known rest with
      | error e => rfl
      | ok r => cases (after known i v).folding <;> rfl

/-- The names of variables have no part in folding. A renamed program is refused for the same
literal, or it becomes what the program becomes, under the new names; and what was no literal has
not become one. -/
theorem fold_renamed_program (p : Policies) (f : Renaming p.literals) (program : Program)
    (shaped : ∀ i ∈ program, i.WellShaped) :
    (∀ s, p.literals.accepts s = false → p.literals.accepts (f s) = false) ∧
    (∀ e, p.fold program = .error e → p.fold (program.map f.instruction) = .error e) ∧
    ∀ r, p.fold program = .ok r → ∃ t, p.fold (program.map f.instruction) = .ok t ∧
      t.program = r.program.map f.instruction ∧ t.foldings = r.foldings.map f.folding := by
  have outputs := foldFrom_rename (f := f) Renaming.carries_empty fun i hi => (shaped i hi).1
  refine ⟨fun s refused => (f.accepts_apply s).trans refused, fun e failed => ?_, fun r ok => ?_⟩
  · have stopped : p.foldFrom .empty program = .error e := failed
    rw [stopped] at outputs
    exact Except.map_eq_error_iff.mp outputs
  · have done : p.foldFrom .empty program = .ok r := ok
    rw [done] at outputs
    obtain ⟨t, ht, shown⟩ := Except.map_eq_ok_iff.mp outputs
    exact ⟨t, ht, congrArg Prod.fst shown, congrArg Prod.snd shown⟩

/-- A letter before every text that is no literal. The images leave out most names. -/
def marked (policy : Literal.Policy) : Renaming policy where
  apply s := if policy.accepts s then s else String.ofList ('v' :: s.toList)
  injective := by
    have apart (s t : String) (accepted : policy.accepts s = true) :
        s ≠ String.ofList ('v' :: t.toList) := by
      rintro rfl
      rw [Literal.refuses_of_head policy _ (by decide) (by decide)] at accepted
      contradiction
    intro s t same
    dsimp only at same
    split at same <;> split at same
    · exact same
    · exact absurd same (apart s t ‹_›)
    · exact absurd same.symm (apart t s ‹_›)
    · simpa using same
  literal s accepted := if_pos accepted
  nonempty s named := by
    split
    · exact named
    · simp

def signed : Program :=
  [{ left := "07", result := "a" },
   { operator := .sub, left := "a", right := some "-3", result := "--" },
   { operator := .div, left := "--", right := some "0", result := "--" },
   { operator := .mul, left := "--", right := some "a", result := "a" }]

def overlong : Instruction := { left := "9223372036854775808", result := "b" }

theorem fold_renamed_program_signed :
    (∀ i ∈ signed, i.WellShaped) ∧ (∀ i ∈ signed ++ [overlong], i.WellShaped) ∧
    ∃ r t, Policies.fold { literals := .strict } signed = .ok r ∧
      Policies.fold { literals := .strict } (signed.map (marked .strict).instruction) = .ok t ∧
      r.foldings.map Folding.text = ["Folded a - -3 -> 10"] ∧
      t.program.map Instruction.text = ["va = 07", "v-- = 10", "v-- = v-- / 0", "va = v-- * 7"] ∧
      t.program = r.program.map (marked .strict).instruction ∧
      t.foldings = r.foldings.map (marked .strict).folding ∧
      Policies.fold { literals := .strict }
          ((signed ++ [overlong]).map (marked .strict).instruction) =
        .error (.malformedLiteral "9223372036854775808") := by
  have shaped : ∀ i ∈ signed, i.WellShaped := by decide
  have shaped' : ∀ i ∈ signed ++ [overlong], i.WellShaped := by decide
  obtain ⟨_, _, follows⟩ :=
    fold_renamed_program { literals := .strict } (marked .strict) signed shaped
  obtain ⟨t, ht, program, foldings⟩ := follows _ rfl
  obtain ⟨_, refused, _⟩ :=
    fold_renamed_program { literals := .strict } (marked .strict) (signed ++ [overlong]) shaped'
  refine ⟨shaped, shaped', _, t, rfl, ht, by decide, ?_, program, foldings, refused _ rfl⟩
  rw [program]
  decide

end Policies

end QuadFold
