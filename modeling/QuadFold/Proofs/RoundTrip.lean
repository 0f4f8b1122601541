import QuadFold.Proofs.Reading

/-! Printed programs and reading them back. A printed line is a layout with single blanks, and
neither the line splitter nor the comment cutter takes anything from it. -/
namespace QuadFold.Listing

theorem Run.count_eq_zero {p : Char → Bool} {c : Char} (h : p c = false) (g : Run p) :
    g.chars.count c = 0 := by
  rw [List.count_eq_zero]
  intro member
  rw [g.inside c member] at h
  contradiction

namespace Layout

/-- A character that no piece may hold stands on a line only as its operator. -/
theorem count_chars (l : Layout) {c : Char} (gap : isGap c = false)
    (operand : isOperandChar c = false) (equals : c ≠ '=') :
    l.chars.count c = l.instruction.operator.symbol.toList.count c := by
  have name : isNameChar c = false := (Bool.or_eq_false_iff.mp operand).1
  have tail_count : l.tailChars.count c = l.instruction.operator.symbol.toList.count c := by
    unfold tailChars instruction
    cases l.tail with
    | none => simp [Operator.symbol, equals.symm]
    | some t =>
      simp only [Tail.chars, List.count_append, Run.count_eq_zero gap, Run.count_eq_zero operand]
      simp
  simp only [chars, List.count_append, Run.count_eq_zero gap, Run.count_eq_zero operand,
    Run.count_eq_zero name, List.count_cons_of_ne equals.symm, tail_count, Nat.zero_add,
    Nat.add_zero]

theorem not_mem_chars (l : Layout) {c : Char} (gap : isGap c = false)
    (operand : isOperandChar c = false)
    (symbols : ∀ operator ∈ Operator.all, c ∉ operator.symbol.toList) : c ∉ l.chars := by
  have equals : c ≠ '=' := by simpa [Operator.symbol] using symbols .assign (by decide)
  have listed : l.instruction.operator ∈ Operator.all := by
    cases l.instruction.operator <;> decide
  rw [← List.count_eq_zero, l.count_chars gap operand equals, List.count_eq_zero]
  exact symbols _ listed

theorem code_chars (l : Layout) : code l.chars = l.chars := by
  apply code_of_uncommented
  apply uncommented_of_count
  rw [l.count_chars (by decide) (by decide) (by decide)]
  cases l.instruction.operator <;> decide

end Layout

def Spelled.word {p : Char → Bool} {text : String} (h : Spelled p text) : Word p :=
  ⟨⟨text.toList, h.2⟩, by simpa using h.1⟩

def blank : Word isGap := ⟨⟨[' '], by simp [isGap]⟩, by simp⟩

def spaced (result : Word isNameChar) (left : Word isOperandChar) (tail : Option Tail) : Layout :=
  ⟨⟨[], by simp⟩, result, blank.toRun, blank.toRun, left, tail, ⟨[], by simp⟩⟩

theorem Representable.exists_layout {i : Instruction} (h : Representable i) :
    ∃ l : Layout, l.chars = i.text.toList ∧ l.instruction = i := by
  obtain ⟨operator, left, right, result⟩ := i
  cases right with
  | none =>
    have plain : operator = .assign := by
      have arity := h.arity
      cases operator <;> simp [Operator.isBinary] at arity ⊢
    refine ⟨spaced h.result.word h.left.word none, ?_, ?_⟩
    · simp [spaced, Layout.chars, Layout.tailChars, Spelled.word, blank, Instruction.text]
    · simp [spaced, Layout.instruction, Spelled.word, plain]
  | some other =>
    let tail : Tail := ⟨blank, operator, h.arity.mp rfl, blank, (h.right other rfl).word⟩
    refine ⟨spaced h.result.word h.left.word (some tail), ?_, ?_⟩
    · simp [tail, spaced, Layout.chars, Layout.tailChars, Tail.chars, Spelled.word, blank,
        Instruction.text]
    · simp [tail, spaced, Layout.instruction, Spelled.word]

theorem denotes_listing {program : Program} (h : ∀ i ∈ program, Representable i) :
    Denotes (lines program.listing.toList) program := by
  induction program with
  | nil => exact .nil
  | cons i rest ih =>
    obtain ⟨l, chars, instruction⟩ := (h i (by simp)).exists_layout
    have printed : (Program.listing (i :: rest)).toList =
        l.chars ++ '\n' :: (Program.listing rest).toList := by
      simp [Program.listing, chars]
    have no_feed : '\n' ∉ l.chars := l.not_mem_chars (by decide) (by decide) (by decide)
    have no_return : '\r' ∉ l.chars := l.not_mem_chars (by decide) (by decide) (by decide)
    have bare : l.chars.getLast? ≠ some '\r' :=
      fun last => no_return (List.mem_of_getLast? last)
    rw [printed, lines_feed _ no_feed bare, ← instruction]
    exact .instruction l l.code_chars (ih fun j hj => h j (by simp [hj]))

theorem Denotes.representable {ls : List (List Char)} {program : Program}
    (h : Denotes ls program) : ∀ i ∈ program, Representable i := by
  induction h with
  | nil => simp
  | blank _ _ ih => exact ih
  | instruction l _ _ ih =>
    intro i hi
    rcases List.mem_cons.mp hi with rfl | hi
    · exact l.instruction_representable
    · exact ih i hi

theorem parse_listing_of_representable {program : Program}
    (h : ∀ i ∈ program, Representable i) : parse program.listing = .ok program :=
  (parseLines_ok_iff 1 _ program).mpr (denotes_listing h)

theorem representable_of_parse {source : String} {program : Program}
    (read : parse source = .ok program) : ∀ i ∈ program, Representable i :=
  ((parseLines_ok_iff 1 _ program).mp read).representable

/-- A program is read back from its listing exactly if a line can hold each of its instructions.
Programs that were read are of this kind, so what is read and printed is read again as the same. -/
theorem parse_listing_exact :
    (∀ program : Program,
      parse program.listing = .ok program ↔ ∀ i ∈ program, Representable i) ∧
    (∀ (source : String) (program : Program), parse source = .ok program →
      (∀ i ∈ program, Representable i) ∧ parse program.listing = .ok program) := by
  constructor
  · intro program
    exact ⟨representable_of_parse, parse_listing_of_representable⟩
  · intro source program read
    have representable := representable_of_parse read
    exact ⟨representable, parse_listing_of_representable representable⟩

def signs : Program :=
  [{ operator := .sub, left := "-", right := some "--", result := "x" },
   { operator := .div, left := "x", right := some "0", result := "1_" }]

theorem parse_listing_exact_signs :
    parse "x =\t- - --//-\r\n\n  1_ = x / 0 // 0\n" = .ok signs ∧
      signs.listing = "x = - - --\n1_ = x / 0\n" ∧
      (∀ i ∈ signs, Representable i) ∧ parse signs.listing = .ok signs := by
  have read : parse "x =\t- - --//-\r\n\n  1_ = x / 0 // 0\n" = .ok signs := rfl
  exact ⟨read, by decide, parse_listing_exact.2 _ _ read⟩

end QuadFold.Listing
