import QuadFold.Storage
import QuadFold.Proofs.Files
import QuadFold.Proofs.Reaching
import QuadFold.Proofs.Refolding
import QuadFold.Proofs.RoundTrip

/-! Folded programs in files. What folding writes into an instruction is the text of a number, and
its characters may stand in every operand; so a folded program can be listed, saved and loaded
again. -/
namespace QuadFold

namespace Listing

theorem spelled_text (value : Int64) : Spelled isOperandChar (Literal.text value) := by
  have loose := Literal.isLoose_of_isStrict (Literal.isStrict_text value)
  simp only [Literal.isLoose, Bool.and_eq_true, List.all_eq_true] at loose
  refine ⟨Literal.text_ne_empty value, fun c hc => ?_⟩
  rcases Bool.or_eq_true_iff.mp (loose.2 c hc) with digit | minus
  · simp [isOperandChar, isNameChar_of_isDigit digit]
  · simp [isOperandChar, minus]

theorem spelled_written (values : String → Option Int64) {operand : Operand}
    (h : Spelled isOperandChar operand) :
    Spelled isOperandChar (Policies.written values operand) := by
  unfold Policies.written
  cases values operand with
  | none => exact h
  | some value => exact spelled_text value

theorem Representable.of_rewriting {values : String → Option Int64} {old new : Instruction}
    (h : Representable old) (becomes : Policies.Rewriting values old new) : Representable new := by
  cases becomes with
  | folded hr hx hy hv =>
    exact ⟨h.result, spelled_text _, by simp, by simp [Operator.isBinary]⟩
  | same => exact h
  | written =>
    refine ⟨h.result, spelled_written values h.left, fun right hr => ?_, by simpa using h.arity⟩
    obtain ⟨original, was, rfl⟩ := Option.map_eq_some_iff.mp hr
    exact spelled_written values (h.right original was)

theorem representable_of_fold {p : Policies} {program : Program} {r : Policies.Folded}
    (ok : p.fold program = .ok r) (h : ∀ i ∈ program, Representable i) :
    ∀ i ∈ r.program, Representable i := by
  intro new member
  obtain ⟨k, becomes⟩ := List.mem_iff_getElem?.mp member
  obtain ⟨old, was, rfl⟩ := Policies.fold_place ok (fun i hi => (h i hi).wellShaped) becomes
  exact (h old (List.mem_of_getElem? was)).of_rewriting (Policies.rewriting_rewritten p _ old)

end Listing

namespace FileTree

theorem loadProgram_eq_loadListing (t : FileTree) {path : String}
    (no_yaml : Files.extension? path ≠ some "yaml") (no_yml : Files.extension? path ≠ some "yml") :
    t.loadProgram path = t.loadListing path := by
  unfold loadProgram
  split
  · contradiction
  · contradiction
  · rfl

theorem loadListing_of_dump {t t' : FileTree} {path : String} {program : Program}
    (saved : t.dump path program = .ok t')
    (readable : Listing.parse program.listing = .ok program) :
    t'.loadListing path = .ok program := by
  have written : t.write path program.listing = .ok t' := Except.mapError_eq_ok_iff.mp saved
  simp only [loadListing, text?_of_write written, readable]
  rfl

end FileTree

namespace Policies

/-- Folded programs stay in the language of listings: the listing of one is read as the same
program, and so is a file that it was saved to. If no result is a literal, folding what was loaded
succeeds, changes nothing and records nothing. -/
theorem folded_program_reads_back (source : String) (program : Program)
    (read : Listing.parse source = .ok program) (p : Policies) (r : Folded)
    (ok : p.fold program = .ok r) :
    Listing.parse r.program.listing = .ok r.program ∧
    (∀ (t t' : FileTree) (path : String), Files.extension? path ≠ some "yaml" →
      Files.extension? path ≠ some "yml" → t.dump path r.program = .ok t' →
        t'.loadProgram path = .ok r.program) ∧
    ((∀ i ∈ program, ¬ Literal.WellFormed i.result) →
      p.fold r.program = .ok ⟨r.program, [], r.known⟩) := by
  have representable := Listing.representable_of_parse read
  have readable := Listing.parse_listing_of_representable
    (Listing.representable_of_fold ok representable)
  refine ⟨readable, fun t t' path no_yaml no_yml saved => ?_, fun names => ?_⟩
  · rw [t'.loadProgram_eq_loadListing no_yaml no_yml]
    exact FileTree.loadListing_of_dump saved readable
  · exact foldFrom_again ok (fun i hi => (representable i hi).wellShaped) names
      Constants.empty_named

def extreme : Program :=
  [{ left := "9223372036854775807", result := "a" },
   { operator := .add, left := "a", right := some "1", result := "b" },
   { operator := .mul, left := "b", right := some "--1", result := "c" },
   { operator := .div, left := "a", right := some "0", result := "d" }]

theorem folded_program_reads_back_extreme :
    Listing.parse "a = 9223372036854775807\nb = a + 1 // wraps\nc = b * --1\nd = a / 0" =
      .ok extreme ∧
    (∀ i ∈ extreme, ¬ Literal.WellFormed i.result) ∧
    ∃ r t', fold ⟨.permissive, .passThrough⟩ extreme = .ok r ∧
      r.program.map Instruction.text = ["a = 9223372036854775807", "b = -9223372036854775808",
        "c = -9223372036854775808 * --1", "d = a / 0"] ∧
      (FileTree.empty ["work"]).dump "new.tac" r.program = .ok t' ∧
      t'.loadProgram "new.tac" = .ok r.program ∧
      fold ⟨.permissive, .passThrough⟩ r.program = .ok ⟨r.program, [], r.known⟩ := by
  have read : Listing.parse "a = 9223372036854775807\nb = a + 1 // wraps\nc = b * --1\nd = a / 0" =
    .ok extreme := rfl
  have names : ∀ i ∈ extreme, ¬ Literal.WellFormed i.result := by decide
  have saved (program : Program) : (FileTree.empty ["work"]).dump "new.tac" program =
    .ok ((FileTree.empty ["work"]).set ["work", "new.tac"] (.file program.listing.toUTF8)) := rfl
  obtain ⟨_, reloads, refolds⟩ :=
    folded_program_reads_back _ extreme read ⟨.permissive, .passThrough⟩ _ rfl
  exact ⟨read, names, _, _, rfl, by decide, saved _,
    reloads _ _ "new.tac" (by decide) (by decide) (saved _), refolds names⟩

end Policies

end QuadFold
