import Mathlib.Logic.Function.Basic
import QuadFold.Proofs.Building

/-! One supply of temporaries for several programs. Every draw uses up a name, also where the
instruction that it was drawn for is refused; so no two draws get the same name, whatever programs
they serve. -/
namespace QuadFold

namespace Temporaries

theorem name_injective : Function.Injective name := by
  intro m n same
  have digits : Nat.toDigits 10 m = Nat.toDigits 10 n := by
    simpa [name] using congrArg String.toList same
  have read := Text.natural?_toDigits m
  rw [digits, Text.natural?_toDigits] at read
  exact (Option.some.inj read).symm

theorem spelled_name (n : Nat) : Listing.Spelled Listing.isNameChar (name n) := by
  refine ⟨by simp [name], fun c hc => ?_⟩
  rw [name, String.toList_ofList, List.mem_cons] at hc
  rcases hc with rfl | digit
  · decide
  · exact Listing.isNameChar_of_isDigit
      (Nat.isDigit_of_mem_toDigits (by decide) (by decide) digit)

theorem refuses_name (policy : Literal.Policy) (n : Nat) : policy.accepts (name n) = false :=
  Literal.refuses_of_head policy _ (by decide) (by decide)

theorem issued_succ {t : Temporaries} (room : t.issued.toNat + 1 < UInt64.size) :
    (t.issued + 1).toNat = t.issued.toNat + 1 := by
  rw [UInt64.toNat_add]
  exact Nat.mod_eq_of_lt room

end Temporaries

/-- A name alone, or one for the result of an instruction that is to be added to a program. -/
inductive Draw (ι : Type)
  | name
  | compute (target : ι) (operator : Operator) (left right : Operand)

structure Workshop (ι : Type) where
  supply : Temporaries := {}
  programs : ι → Program

namespace Workshop

variable {ι : Type} [DecidableEq ι]

def draw (w : Workshop ι) : Draw ι → Except Error String × Workshop ι
  | .name => (.ok w.supply.next.1, { w with supply := w.supply.next.2 })
  | .compute target operator left right =>
    match (w.programs target).computeTemporary w.supply operator left right with
    | (.ok (temporary, p), rest) => (.ok temporary, ⟨rest, Function.update w.programs target p⟩)
    | (.error e, rest) => (.error e, { w with supply := rest })

/-- One draw: what was there, what was asked for and answered, and what is there now. -/
structure Turn (ι : Type) where
  before : Workshop ι
  request : Draw ι
  answer : Except Error String
  after : Workshop ι

def Turn.name (t : Turn ι) : String := t.before.supply.next.1

def Turn.added? (t : Turn ι) : Option (ι × Instruction) :=
  match t.request, t.answer with
  | .compute target operator left right, .ok temporary =>
    some (target, { operator, left, right := some right, result := temporary })
  | _, _ => none

def turns (w : Workshop ι) : List (Draw ι) → List (Turn ι)
  | [] => []
  | d :: rest => ⟨w, d, (w.draw d).1, (w.draw d).2⟩ :: turns (w.draw d).2 rest

def drawAll (w : Workshop ι) (ds : List (Draw ι)) : Workshop ι :=
  ds.foldl (fun w d => (w.draw d).2) w

def asked (w : Workshop ι) (operator : Operator) (left right : Operand) : Instruction :=
  { operator, left, right := some right, result := w.supply.next.1 }

/-- What a draw can answer, and what becomes of the programs. -/
inductive Outcome (w : Workshop ι) : Draw ι → Except Error String → (ι → Program) → Prop
  | named : Outcome w .name (.ok w.supply.next.1) w.programs
  | added {target : ι} {operator : Operator} {left right : Operand}
      (shaped : (w.asked operator left right).WellShaped) :
      Outcome w (.compute target operator left right) (.ok w.supply.next.1)
        (Function.update w.programs target
          (w.programs target ++ [w.asked operator left right]))
  | refused {target : ι} {operator : Operator} {left right : Operand} {e : Error}
      (misshapen : ¬ (w.asked operator left right).WellShaped) :
      Outcome w (.compute target operator left right) (.error e) w.programs

theorem draw_outcome (w : Workshop ι) (d : Draw ι) :
    Outcome w d (w.draw d).1 (w.draw d).2.programs := by
  cases d with
  | name => exact .named
  | compute target operator left right =>
    simp only [draw, Program.computeTemporary]
    cases computed : (w.programs target).compute w.supply.next.1 operator left right with
    | error e =>
      refine .refused fun shaped => ?_
      have checked : Instruction.compute w.supply.next.1 operator left right =
          .ok (w.asked operator left right) := Instruction.checked_eq_ok_iff.mpr ⟨shaped, rfl⟩
      rw [Program.compute, checked] at computed
      contradiction
    | ok p =>
      obtain ⟨shaped, rfl⟩ := Program.compute_ok computed
      exact .added shaped

theorem draw_supply (w : Workshop ι) (d : Draw ι) : (w.draw d).2.supply = w.supply.next.2 := by
  cases d with
  | name => rfl
  | compute target operator left right =>
    simp only [draw, Program.computeTemporary]
    cases (w.programs target).compute w.supply.next.1 operator left right <;> rfl

theorem draw_issued (w : Workshop ι) (d : Draw ι) (room : w.supply.issued.toNat + 1 < UInt64.size) :
    (w.draw d).2.supply.issued.toNat = w.supply.issued.toNat + 1 := by
  rw [draw_supply]
  exact Temporaries.issued_succ room

theorem drawAll_issued (w : Workshop ι) (ds : List (Draw ι))
    (room : w.supply.issued.toNat + ds.length < UInt64.size) :
    (w.drawAll ds).supply.issued.toNat = w.supply.issued.toNat + ds.length := by
  induction ds generalizing w with
  | nil => rfl
  | cons d rest ih =>
    rw [List.length_cons] at room ⊢
    have advanced := w.draw_issued d (by omega)
    have later := ih (w.draw d).2 (by omega)
    rw [advanced] at later
    exact later.trans (by omega)

theorem turns_names (w : Workshop ι) (ds : List (Draw ι))
    (room : w.supply.issued.toNat + ds.length < UInt64.size) :
    (w.turns ds).map Turn.name =
      (List.range' (w.supply.issued.toNat + 1) ds.length).map Temporaries.name := by
  induction ds generalizing w with
  | nil => rfl
  | cons d rest ih =>
    rw [List.length_cons] at room
    have advanced := w.draw_issued d (by omega)
    have first : w.supply.next.1 = Temporaries.name (w.supply.issued.toNat + 1) :=
      congrArg Temporaries.name (Temporaries.issued_succ (by omega))
    rw [turns, List.map_cons, ih _ (by omega), advanced, List.length_cons, List.range'_succ,
      List.map_cons, Turn.name, first]

theorem turns_outcome {w : Workshop ι} {ds : List (Draw ι)} {t : Turn ι} (member : t ∈ w.turns ds) :
    Outcome t.before t.request t.answer t.after.programs := by
  induction ds generalizing w with
  | nil => contradiction
  | cons d rest ih =>
    rcases List.mem_cons.mp member with rfl | member
    · exact w.draw_outcome d
    · exact ih member

def additions (w : Workshop ι) (ds : List (Draw ι)) : List (ι × Instruction) :=
  (w.turns ds).filterMap Turn.added?

theorem drawAll_programs (w : Workshop ι) (ds : List (Draw ι)) (target : ι) :
    (w.drawAll ds).programs target =
      w.programs target ++ ((w.additions ds).filter (·.1 = target)).map (·.2) := by
  induction ds generalizing w with
  | nil => simp [drawAll, additions, turns]
  | cons d rest ih =>
    have later := ih (w.draw d).2
    have outcome := w.draw_outcome d
    change ((w.draw d).2.drawAll rest).programs target = _
    rw [later]
    simp only [additions, turns, List.filterMap_cons, Turn.added?]
    generalize (w.draw d).1 = answer, (w.draw d).2.programs = programs at outcome ⊢
    cases outcome with
    | named => rfl
    | refused _ => rfl
    | @added at_target operator left right _ =>
      by_cases here : target = at_target
      · subst here
        simp [asked]
      · simp [here, Ne.symm here]

theorem additions_names (w : Workshop ι) (ds : List (Draw ι)) :
    List.Sublist ((w.additions ds).map (·.2.result)) ((w.turns ds).map Turn.name) := by
  induction ds generalizing w with
  | nil => exact .slnil
  | cons d rest ih =>
    have later := ih (w.draw d).2
    have outcome := w.draw_outcome d
    simp only [additions, turns, List.filterMap_cons, List.map_cons, Turn.added?, Turn.name]
    generalize (w.draw d).1 = answer, (w.draw d).2.programs = programs at outcome ⊢
    cases outcome with
    | named => exact later.cons _
    | refused _ => exact later.cons _
    | added _ => exact later.cons_cons _

theorem names_nodup (w : Workshop ι) (ds : List (Draw ι))
    (room : w.supply.issued.toNat + ds.length < UInt64.size) :
    ((w.turns ds).map Turn.name).Nodup := by
  rw [w.turns_names ds room, List.Nodup, List.pairwise_map]
  apply List.Pairwise.imp _ List.pairwise_lt_range'
  intro m n less same
  exact Nat.ne_of_lt less (Temporaries.name_injective same)

/-- Temporaries of one supply never clash, whatever is drawn for whichever program, as long as the
draws can be counted in 64 bits. The names are all different, they can stand in a listing and are no
literals; one is used up by every draw; and a draw adds one instruction with the name it answers, or
changes no program. So no two instructions that were added define the same name, and the programs
hold nothing else that is new. -/
theorem temporaries_never_clash (w : Workshop ι) (unused : w.supply = {}) (ds : List (Draw ι))
    (few : ds.length < UInt64.size) :
    ((w.turns ds).map Turn.name).Nodup ∧
    (∀ t ∈ w.turns ds, Listing.Spelled Listing.isNameChar t.name ∧
      ∀ policy : Literal.Policy, policy.accepts t.name = false) ∧
    (w.drawAll ds).supply.issued.toNat = ds.length ∧
    (∀ t ∈ w.turns ds, Outcome t.before t.request t.answer t.after.programs) ∧
    ((w.additions ds).map (·.2.result)).Nodup ∧
    (∀ target, (w.drawAll ds).programs target =
      w.programs target ++ ((w.additions ds).filter (·.1 = target)).map (·.2)) := by
  have none_issued : w.supply.issued.toNat = 0 := by rw [unused]; rfl
  have room : w.supply.issued.toNat + ds.length < UInt64.size := by omega
  have distinct := w.names_nodup ds room
  refine ⟨distinct, fun t _ => ?_, ?_, fun t member => turns_outcome member,
    distinct.sublist (w.additions_names ds), w.drawAll_programs ds⟩
  · exact ⟨Temporaries.spelled_name _, fun policy => Temporaries.refuses_name policy _⟩
  · rw [w.drawAll_issued ds room, none_issued, Nat.zero_add]

def pair : Workshop Bool :=
  { programs := fun first => if first then [{ left := "4", result := "a" }] else [] }

def alternating : List (Draw Bool) :=
  [.compute true .add "a" "b", .name, .compute false .div "x" "", .compute false .mul "t1" "2",
   .compute true .assign "a" "b"]

theorem temporaries_never_clash_alternating :
    pair.supply = {} ∧ alternating.length < UInt64.size ∧
      (pair.turns alternating).map Turn.name = ["t1", "t2", "t3", "t4", "t5"] ∧
      ((pair.turns alternating).map Turn.name).Nodup ∧
      (pair.drawAll alternating).supply.issued.toNat = 5 ∧
      ((pair.drawAll alternating).programs true).map Instruction.text = ["a = 4", "t1 = a + b"] ∧
      ((pair.drawAll alternating).programs false).map Instruction.text = ["t4 = t1 * 2"] ∧
      ((pair.additions alternating).map (·.2.result)).Nodup := by
  have few : alternating.length < UInt64.size := by decide
  obtain ⟨distinct, _, count, _, apart, _⟩ := temporaries_never_clash pair rfl alternating few
  exact ⟨rfl, few, by decide, distinct, count, by decide, by decide, apart⟩

end Workshop

end QuadFold
