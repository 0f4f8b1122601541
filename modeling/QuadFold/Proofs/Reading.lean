import QuadFold.Proofs.Grammar

/-! Whole listings: which are read, as which program, and what is said about the others. -/
namespace QuadFold.Listing

def Spelled (p : Char → Bool) (text : String) : Prop :=
  text ≠ "" ∧ ∀ c ∈ text.toList, p c = true

theorem Word.spelled {p : Char → Bool} (w : Word p) : Spelled p (String.ofList w.chars) :=
  ⟨by simpa using w.nonempty, by simpa using w.inside⟩

/-- The instructions that a line can hold: a name and operands in their own characters, and the
second operand exactly with an operator that takes two. -/
structure Representable (i : Instruction) : Prop where
  result : Spelled isNameChar i.result
  left : Spelled isOperandChar i.left
  right : ∀ right, i.right = some right → Spelled isOperandChar right
  arity : i.right.isSome ↔ i.operator.isBinary

theorem Representable.wellShaped {i : Instruction} (h : Representable i) : i.WellShaped :=
  ⟨h.result.1, h.left.1, fun empty => (h.right "" empty).1 rfl, h.arity⟩

namespace Layout

theorem instruction_representable (l : Layout) : Representable l.instruction where
  result := l.result.spelled
  left := l.left.spelled
  right := by
    intro right h
    obtain ⟨t, _, rfl⟩ := Option.map_eq_some_iff.mp h
    exact t.right.spelled
  arity := by
    unfold instruction
    cases l.tail with
    | none => simp [Operator.isBinary]
    | some t => simp [t.binary]

theorem instruction_checked (l : Layout) : l.instruction.checked = .ok l.instruction := by
  have none_found := (Instruction.defect?_eq_none_iff _).mpr l.instruction_representable.wellShaped
  simp [Instruction.checked, none_found]

theorem chars_not_blank (l : Layout) : Text.allBlank l.chars = false := by
  rw [Text.allBlank, List.all_eq_false]
  exact ⟨'=', by simp [chars], by decide⟩

end Layout

/-- The two forms of a line without its comment. -/
def Readable (cs : List Char) : Prop := Text.allBlank cs = true ∨ ∃ l : Layout, cs = l.chars

/-- The program that lines stand for: an instruction for each line that is not blank. -/
inductive Denotes : List (List Char) → Program → Prop
  | nil : Denotes [] []
  | blank {line : List Char} {rest : List (List Char)} {program : Program}
      (h : Text.allBlank (code line) = true) (tail : Denotes rest program) :
      Denotes (line :: rest) program
  | instruction {line : List Char} {rest : List (List Char)} {program : Program} (l : Layout)
      (h : code line = l.chars) (tail : Denotes rest program) :
      Denotes (line :: rest) (l.instruction :: program)

/-- The first line that has neither form is named, by its number and its text without the blanks
around it. -/
def Refused (number : Nat) (ls : List (List Char)) (e : Error) : Prop :=
  ∃ before line after, ls = before ++ line :: after ∧ (∀ l ∈ before, Readable (code l)) ∧
    ¬ Readable (code line) ∧
    e = .unreadableLine (number + before.length) (String.ofList (Text.trim (code line)))

section
variable (number : Nat) {line : List Char} (rest : List (List Char))

theorem parseLines_cons_blank (h : Text.allBlank (code line) = true) :
    parseLines number (line :: rest) = parseLines (number + 1) rest := by
  simp only [parseLines, read, h, if_true, bind, Except.bind]
  cases parseLines (number + 1) rest <;> rfl

theorem parseLines_cons_layout {l : Layout} (h : code line = l.chars) :
    parseLines number (line :: rest) =
      (parseLines (number + 1) rest).map (l.instruction :: ·) := by
  simp only [parseLines, read, h, l.chars_not_blank, l.instruction?_chars, l.instruction_checked,
    bind, Except.bind]
  cases parseLines (number + 1) rest <;> rfl

theorem parseLines_cons_unreadable (h : ¬ Readable (code line)) :
    parseLines number (line :: rest) =
      .error (.unreadableLine number (String.ofList (Text.trim (code line)))) := by
  simp only [Readable, not_or] at h
  have no_instruction : instruction? (code line) = none := by
    apply Option.eq_none_iff_forall_ne_some.mpr
    intro i hi
    obtain ⟨l, hl, _⟩ := instruction?_split hi
    exact h.2 ⟨l, hl⟩
  simp [parseLines, read, h.1, no_instruction, bind, Except.bind]

variable {rest}

theorem refused_cons_of_readable (h : Readable (code line)) (e : Error) :
    Refused number (line :: rest) e ↔ Refused (number + 1) rest e := by
  constructor
  · rintro ⟨before, bad, after, split, readable, unreadable, rfl⟩
    cases before with
    | nil =>
      cases split
      contradiction
    | cons first before =>
      cases split
      refine ⟨before, bad, after, rfl, fun l hl => readable l (by simp [hl]), unreadable, ?_⟩
      simp only [List.length_cons, Nat.add_assoc, Nat.add_comm 1]
  · rintro ⟨before, bad, after, rfl, readable, unreadable, rfl⟩
    refine ⟨line :: before, bad, after, rfl, ?_, unreadable, ?_⟩
    · intro l hl
      rcases List.mem_cons.mp hl with rfl | hl
      · exact h
      · exact readable l hl
    · simp only [List.length_cons, Nat.add_assoc, Nat.add_comm 1]

theorem refused_cons_of_unreadable (h : ¬ Readable (code line)) (e : Error) :
    Refused number (line :: rest) e ↔
      e = .unreadableLine number (String.ofList (Text.trim (code line))) := by
  constructor
  · rintro ⟨before, bad, after, split, readable, _, rfl⟩
    cases before with
    | nil => cases split; rfl
    | cons first before =>
      cases split
      exact absurd (readable line (by simp)) h
  · rintro rfl
    exact ⟨[], line, rest, rfl, by simp, h, rfl⟩

end

theorem parseLines_ok_iff (number : Nat) (ls : List (List Char)) (program : Program) :
    parseLines number ls = .ok program ↔ Denotes ls program := by
  induction ls generalizing number program with
  | nil =>
    constructor
    · intro h; cases h; exact .nil
    · intro h; cases h; rfl
  | cons line rest ih =>
    constructor
    · intro h
      by_cases readable : Readable (code line)
      · rcases readable with blank | ⟨l, hl⟩
        · rw [parseLines_cons_blank number rest blank] at h
          exact .blank blank ((ih _ _).mp h)
        · rw [parseLines_cons_layout number rest hl] at h
          cases ht : parseLines (number + 1) rest with
          | error e => rw [ht] at h; contradiction
          | ok tail =>
            rw [ht] at h
            cases h
            exact .instruction l hl ((ih _ _).mp ht)
      · rw [parseLines_cons_unreadable number rest readable] at h
        contradiction
    · intro h
      cases h with
      | blank blank tail => rw [parseLines_cons_blank number rest blank, (ih _ _).mpr tail]
      | instruction l hl tail =>
        rw [parseLines_cons_layout number rest hl, (ih _ _).mpr tail]
        rfl

theorem parseLines_error_iff (number : Nat) (ls : List (List Char)) (e : Error) :
    parseLines number ls = .error e ↔ Refused number ls e := by
  induction ls generalizing number with
  | nil =>
    constructor
    · intro h; contradiction
    · rintro ⟨before, line, after, split, _⟩
      simp at split
  | cons line rest ih =>
    by_cases readable : Readable (code line)
    · rw [refused_cons_of_readable number readable, ← ih]
      rcases readable with blank | ⟨l, hl⟩
      · rw [parseLines_cons_blank number rest blank]
      · rw [parseLines_cons_layout number rest hl]
        cases parseLines (number + 1) rest <;> simp [Except.map]
    · rw [refused_cons_of_unreadable number readable,
        parseLines_cons_unreadable number rest readable, Except.error.injEq, eq_comm]

/-- Reading accepts exactly the grammar. The lines are those of the text, each up to its first
comment; a listing is read as the program that its lines denote, or it is refused for its first line
that has neither form, and for no other reason; and no line can be taken apart in two ways. -/
theorem parse_exact (source : String) :
    Split source.toList (lines source.toList) ∧
    (∀ line, Cut line (code line)) ∧
    (∀ program, parse source = .ok program ↔ Denotes (lines source.toList) program) ∧
    (∀ e, parse source = .error e ↔ Refused 1 (lines source.toList) e) ∧
    Function.Injective Layout.chars :=
  ⟨split_lines source.toList, cut_code, parseLines_ok_iff 1 (lines source.toList),
    parseLines_error_iff 1 (lines source.toList), fun _ _ => Layout.chars_injective⟩

/-- Letters and digits of any script make names, and minus signs may stand in operands. -/
example : parse "\tgröße_2 =x-1 *\t٣-- // x = 1" =
    .ok [{ operator := .mul, left := "x-1", right := some "٣--", result := "größe_2" }] := rfl

/-- A line is named without the blanks around it, also those that may not stand on a line. -/
example : parse "x = 1\r\n\t y = a -1 \u3000// z" = .error (.unreadableLine 2 "y = a -1") := rfl

end QuadFold.Listing
