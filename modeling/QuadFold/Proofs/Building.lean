import QuadFold.Session
import QuadFold.Proofs.Reaching
import QuadFold.Proofs.RoundTrip

/-! Programs under construction. Shapes are checked where an instruction is made from its fields,
and folding checks nothing that it writes in; so the shape of all instructions rests on what each
way of changing a program gives. -/
namespace QuadFold

theorem mapM_mem {ε α β : Type} {f : α → Except ε β} {xs : List α} {ys : List β}
    (ok : xs.mapM f = .ok ys) {y : β} (member : y ∈ ys) : ∃ x ∈ xs, f x = .ok y := by
  induction xs generalizing ys with
  | nil =>
    cases ok
    contradiction
  | cons x rest ih =>
    rw [List.mapM_cons] at ok
    obtain ⟨first, hf, ok⟩ := Except.bind_eq_ok_iff.mp ok
    obtain ⟨others, ho, ok⟩ := Except.bind_eq_ok_iff.mp ok
    cases ok
    rcases List.mem_cons.mp member with rfl | member
    · exact ⟨x, by simp, hf⟩
    · obtain ⟨x', hx, hy⟩ := ih ho member
      exact ⟨x', by simp [hx], hy⟩

theorem mapM_ok {ε α β : Type} {f : α → Except ε β} {xs : List α} {ys : List β}
    (ok : xs.mapM f = .ok ys) {x : α} (member : x ∈ xs) : ∃ y, f x = .ok y := by
  induction xs generalizing ys with
  | nil => contradiction
  | cons first rest ih =>
    rw [List.mapM_cons] at ok
    obtain ⟨y, hy, ok⟩ := Except.bind_eq_ok_iff.mp ok
    obtain ⟨others, ho, _⟩ := Except.bind_eq_ok_iff.mp ok
    rcases List.mem_cons.mp member with rfl | member
    · exact ⟨y, hy⟩
    · exact ih ho member

namespace Instruction

theorem withOperands_wellShaped {i : Instruction} (shaped : i.WellShaped) {left right : Operand}
    (hl : left ≠ "") (hr : right ≠ "") : (i.withOperands left (some right)).WellShaped := by
  refine ⟨shaped.1, hl, ?_, ?_⟩
  · cases binary : i.operator.isBinary <;> simp [withOperands, binary, hr]
  · cases binary : i.operator.isBinary <;> simp [withOperands, binary]

end Instruction

namespace Policies

theorem written_ne_empty {values : String → Option Int64} {operand : Operand} (h : operand ≠ "") :
    written values operand ≠ "" := by
  unfold written
  cases values operand with
  | none => exact h
  | some value => exact Literal.text_ne_empty value

theorem Rewriting.wellShaped {values : String → Option Int64} {old new : Instruction}
    (becomes : Rewriting values old new) (shaped : old.WellShaped) : new.WellShaped := by
  cases becomes with
  | folded _ _ _ _ =>
    exact ⟨shaped.1, Literal.text_ne_empty _, by simp, by simp [Operator.isBinary]⟩
  | same => exact shaped
  | written =>
    obtain ⟨result, left, right, arity⟩ := shaped
    refine ⟨result, written_ne_empty left, ?_, by simpa using arity⟩
    intro empty
    obtain ⟨operand, was, written_empty⟩ := Option.map_eq_some_iff.mp empty
    have nonempty : operand ≠ "" := by
      rintro rfl
      exact right was
    exact written_ne_empty nonempty written_empty

theorem fold_wellShaped {p : Policies} {program : Program} {r : Folded}
    (ok : p.fold program = .ok r) (shaped : ∀ i ∈ program, i.WellShaped) :
    ∀ i ∈ r.program, i.WellShaped := by
  intro new member
  obtain ⟨k, becomes⟩ := List.mem_iff_getElem?.mp member
  obtain ⟨old, was, rfl⟩ := fold_place ok shaped becomes
  exact (rewriting_rewritten p _ old).wellShaped (shaped old (List.mem_of_getElem? was))

end Policies

namespace Document

theorem Decode.unexpected_ne_ok {α : Type} {path : Path} {n : Node} {expected : String} {a : α} :
    Decode.unexpected path n expected ≠ .ok a := by
  intro ok
  obtain ⟨_, _, impossible⟩ := Except.bind_eq_ok_iff.mp ok
  contradiction

namespace Record

theorem instruction_wellShaped {anchors : Anchors} {path : Path} {n : Node} {i : Instruction}
    (ok : instruction anchors path n = .ok i) : i.WellShaped := by
  have of_fields {j : Instruction} (ok : j.checked.mapError Fault.instruction = .ok i) :
      i.WellShaped := by
    obtain ⟨shaped, rfl⟩ := Instruction.checked_eq_ok_iff.mp (Except.mapError_eq_ok_iff.mp ok)
    exact shaped
  unfold instruction at ok
  split at ok
  all_goals
    obtain ⟨_, _, ok⟩ := Except.bind_eq_ok_iff.mp ok
    exact of_fields ok

theorem program_wellShaped {anchors : Anchors} {n : Node} {p : Program}
    (ok : program anchors n = .ok p) : ∀ i ∈ p, i.WellShaped := by
  unfold program at ok
  split at ok
  · intro i member
    obtain ⟨_, _, decoded⟩ := mapM_mem ok member
    exact instruction_wellShaped decoded
  · exact absurd ok Decode.unexpected_ne_ok

theorem decode_of_ofText {α : Type} {decode : Anchors → Node → Decoded α} {source : String} {a : α}
    (ok : ofText decode source = .ok a) : ∃ anchors n, decode anchors n = .ok a := by
  unfold ofText at ok
  split at ok
  · contradiction
  · contradiction
  · rename_i n more anchors _
    obtain ⟨a', decoded, ok⟩ := Except.bind_eq_ok_iff.mp ok
    split at ok
    · cases ok
      exact ⟨anchors, n, decoded⟩
    · contradiction

end Record

end Document

theorem Listing.parse_wellShaped {source : String} {p : Program} (ok : parse source = .ok p) :
    ∀ i ∈ p, i.WellShaped :=
  fun i member => (representable_of_parse ok i member).wellShaped

namespace FileTree

theorem decode_of_loadDocument {α : Type} {t : FileTree} {path : String} {unavailable : Failure}
    {decode : Document.Anchors → Document.Node → Document.Decoded α} {a : α}
    (ok : t.loadDocument path unavailable decode = .ok a) :
    ∃ anchors n, decode anchors n = .ok a := by
  unfold loadDocument at ok
  split at ok
  · contradiction
  · contradiction
  · split at ok
    · exact Document.Record.decode_of_ofText (Except.mapError_eq_ok_iff.mp ok)
    · contradiction

theorem loadProgram_wellShaped {t : FileTree} {path : String} {p : Program}
    (ok : t.loadProgram path = .ok p) : ∀ i ∈ p, i.WellShaped := by
  have records (ok : t.loadRecords path = .ok p) : ∀ i ∈ p, i.WellShaped := by
    obtain ⟨_, _, decoded⟩ := decode_of_loadDocument ok
    exact Document.Record.program_wellShaped decoded
  unfold loadProgram at ok
  split at ok
  · exact records ok
  · exact records ok
  · unfold loadListing at ok
    split at ok
    · exact Listing.parse_wellShaped (Except.mapError_eq_ok_iff.mp ok)
    · contradiction

end FileTree

namespace Program

theorem append_checked_ok {p q : Program} {i : Instruction}
    (ok : (do return p ++ [← i.checked] : Except Error Program) = .ok q) :
    i.WellShaped ∧ q = p ++ [i] := by
  obtain ⟨j, checked, ok⟩ := Except.bind_eq_ok_iff.mp ok
  obtain ⟨shaped, rfl⟩ := Instruction.checked_eq_ok_iff.mp checked
  cases ok
  exact ⟨shaped, rfl⟩

theorem assign_ok {p q : Program} {result : String} {operand : Operand}
    (ok : p.assign result operand = .ok q) :
    Instruction.WellShaped { left := operand, result } ∧
      q = p ++ [{ left := operand, result }] :=
  append_checked_ok ok

theorem compute_ok {p q : Program} {result : String} {operator : Operator} {left right : Operand}
    (ok : p.compute result operator left right = .ok q) :
    Instruction.WellShaped { operator, left, right := some right, result } ∧
      q = p ++ [{ operator, left, right := some right, result }] :=
  append_checked_ok ok

end Program

/-- Operands that are put in unchecked are all there, and none is empty. -/
def Command.Whole : Command → Prop
  | .withOperands _ left right => left ≠ "" ∧ ∃ other, right = some other ∧ other ≠ ""
  | _ => True

namespace Session

/-- What a command does to a program, and how it is answered. -/
inductive Effect (before : Program) : Command → Except Failure Reply → Program → Prop
  | failed {c : Command} {e : Failure} : Effect before c (.error e) before
  | parts {c : Command} {reply : Reply} {after : Program} (old : ∀ i ∈ after, i ∈ before) :
      Effect before c (.ok reply) after
  | added {c : Command} {reply : Reply} {i : Instruction} (shaped : i.WellShaped) :
      Effect before c (.ok reply) (before ++ [i])
  | derived {index : Nat} {left : Operand} {right : Option Operand} {reply : Reply}
      {i : Instruction} (old : i ∈ before) :
      Effect before (.withOperands index left right) (.ok reply)
        (before ++ [i.withOperands left right])
  | read {c : Command} {reply : Reply} {after : Program} (shaped : ∀ i ∈ after, i.WellShaped) :
      Effect before c (.ok reply) after
  | folded {c : Command} {reply : Reply} {policies : Policies} {r : Policies.Folded}
      (ok : policies.fold before = .ok r) : Effect before c (.ok reply) r.program

theorem replace_effect {s : Session} {c : Command} {outcome : Except Error Program}
    (h : ∀ p, outcome = .ok p → Effect s.program c (.ok .done) p) :
    Effect s.program c (s.replace outcome).1 (s.replace outcome).2.program := by
  cases outcome with
  | error e => exact .failed
  | ok p => exact h p rfl

theorem replace_added {s : Session} {c : Command} {outcome : Except Error Program}
    (h : ∀ p, outcome = .ok p → ∃ i, i.WellShaped ∧ p = s.program ++ [i]) :
    Effect s.program c (s.replace outcome).1 (s.replace outcome).2.program := by
  refine replace_effect fun p ok => ?_
  obtain ⟨i, shaped, rfl⟩ := h p ok
  exact .added shaped

theorem run_effect (s : Session) (c : Command) :
    Effect s.program c (s.run c).1 (s.run c).2.program := by
  have same {c : Command} {reply : Reply} : Effect s.program c (.ok reply) s.program :=
    .parts fun _ member => member
  cases c with
  | clear => exact .parts fun _ member => absurd member List.not_mem_nil
  | push i =>
    refine replace_added fun p ok => ?_
    exact ⟨i, Program.append_checked_ok (by rw [← ok]; cases i.checked <;> rfl)⟩
  | assign result operand => exact replace_added fun p ok => ⟨_, Program.assign_ok ok⟩
  | compute result operator left right => exact replace_added fun p ok => ⟨_, Program.compute_ok ok⟩
  | temporary name operator left right =>
    simp only [run, Program.computeTemporary]
    cases computed : s.program.compute (s.supply name).next.1 operator left right with
    | error e => exact .failed
    | ok p =>
      obtain ⟨shaped, rfl⟩ := Program.compute_ok computed
      exact .added shaped
  | freshName name => exact same
  | issued name => exact same
  | copySupply source target => exact same
  | get index => exact same
  | withOperands index left right =>
    simp only [run]
    cases here : s.program[index]? with
    | none =>
      refine .parts ?_
      simp
    | some i => exact .derived (List.mem_of_getElem? here)
  | results => exact same
  | take count => exact .parts fun _ member => List.mem_of_mem_take member
  | reverse => exact .parts fun _ member => List.mem_reverse.mp member
  | parse source => exact replace_effect fun p ok => .read (Listing.parse_wellShaped ok)
  | fold policies keep =>
    simp only [run]
    cases outcome : policies.fold s.program with
    | error e => exact .failed
    | ok r =>
      cases keep with
      | true => exact same
      | false => exact .folded outcome
  | dump path =>
    simp only [run]
    cases s.files.dump path s.program with
    | error e => exact .failed
    | ok files => exact same
  | load path =>
    simp only [run]
    cases loaded : s.files.loadProgram path with
    | error e => exact .failed
    | ok p => exact .read (FileTree.loadProgram_wellShaped loaded)

theorem Effect.unchanged {before after : Program} {c : Command} {e : Failure}
    (effect : Effect before c (.error e) after) : after = before := by
  cases effect
  rfl

theorem Effect.wellShaped {before after : Program} {c : Command} {answer : Except Failure Reply}
    (effect : Effect before c answer after) (whole : c.Whole)
    (shaped : ∀ i ∈ before, i.WellShaped) : ∀ i ∈ after, i.WellShaped := by
  cases effect with
  | failed => exact shaped
  | parts old => exact fun i member => shaped i (old i member)
  | added shaped_i => simpa [or_imp, forall_and, shaped_i] using shaped
  | @derived _ left _ _ j old =>
    obtain ⟨hl, right, rfl, hr⟩ := whole
    have shaped_j := Instruction.withOperands_wellShaped (shaped j old) hl hr
    simpa [or_imp, forall_and, shaped_j] using shaped
  | read shaped_after => exact shaped_after
  | folded ok => exact Policies.fold_wellShaped ok shaped

def runAll (s : Session) (cs : List Command) : Session := cs.foldl (fun s c => (s.run c).2) s

theorem runAll_wellShaped {s : Session} {cs : List Command} (whole : ∀ c ∈ cs, c.Whole)
    (shaped : ∀ i ∈ s.program, i.WellShaped) : ∀ i ∈ (s.runAll cs).program, i.WellShaped := by
  induction cs generalizing s with
  | nil => exact shaped
  | cons c rest ih =>
    have first := (s.run_effect c).wellShaped (whole c (by simp)) shaped
    exact ih (fun d hd => whole d (by simp [hd])) first

/-- Whatever is done to a program that starts empty, all its instructions have the right shape, and
a command that fails leaves it as it was. An instruction that is decoded from a record needs no
other check: it can be added as it is. -/
theorem session_keeps_shape (supplies : List (String × Temporaries)) (files : FileTree)
    (cs : List Command) (whole : ∀ c ∈ cs, c.Whole) (s : Session)
    (reached : ({ supplies, files } : Session).runAll cs = s) :
    (∀ i ∈ s.program, i.WellShaped) ∧
    (∀ c e, (s.run c).1 = .error e → (s.run c).2.program = s.program) ∧
    (∀ anchors path n i, Document.Record.instruction anchors path n = .ok i →
      s.run (.push i) = (.ok .done, { s with program := s.program ++ [i] })) := by
  subst reached
  refine ⟨runAll_wellShaped whole (by simp), fun c e failed => ?_, fun anchors path n i ok => ?_⟩
  · exact (failed ▸ run_effect _ c).unchanged
  · have checked : i.checked = .ok i :=
      Instruction.checked_eq_ok_iff.mpr ⟨Document.Record.instruction_wellShaped ok, rfl⟩
    simp only [run, checked]
    rfl

def recorded : FileTree :=
  (FileTree.empty ["work"]).set ["work", "p.yaml"] (.file "- { arg1: 4, result: a }".toUTF8)

/-- Reading, computing, folding and deriving, with failures between them: a missing file, an empty
name, an empty operand, a missing operand, and a line that cannot be read. -/
def attempts : List Command :=
  [.load "p.yaml", .load "q.yaml", .assign "" "1", .temporary "g" .add "a" "",
   .temporary "g" .mul "a" "3", .push { operator := .div, left := "t2", result := "b" },
   .parse "b = a +", .fold {} false, .withOperands 1 "7" (some "x")]

theorem session_keeps_shape_attempts :
    (∀ c ∈ attempts, c.Whole) ∧ ∃ s, ({ files := recorded } : Session).runAll attempts = s ∧
      s.program.map Instruction.text = ["a = 4", "t2 = 12", "t2 = 7"] ∧
      (∀ i ∈ s.program, i.WellShaped) ∧
      (s.run (.assign "b" "")).1 = .error (.program (.invalidInstruction (.emptyLeft "b"))) ∧
      (s.run (.assign "b" "")).2.program = s.program := by
  have whole : ∀ c ∈ attempts, c.Whole := by simp [attempts, Command.Whole]
  obtain ⟨shaped, unchanged, _⟩ := session_keeps_shape [] recorded attempts whole _ rfl
  exact ⟨whole, _, rfl, by decide +kernel, shaped, rfl, unchanged _ _ rfl⟩

end Session

end QuadFold
