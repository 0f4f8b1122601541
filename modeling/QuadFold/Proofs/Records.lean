import Mathlib.Data.List.Forall2
import QuadFold.Proofs.Building

/-! Programs written as records and read back. The reader knows more spellings than the writer has:
integers for their texts, an empty second operand for an absent one, and no operator for a plain
assignment. All of them are read as the same instruction, and its shape is checked last; so what
becomes of a record depends on the instruction only. -/
namespace QuadFold.Document

def Node.ofText (s : String) : Node := .scalar { text := s, plain := false }

def Node.ofWord (value : Int64) : Node := .scalar { text := Literal.text value }

namespace Record

def ofInstruction (i : Instruction) : Node :=
  .mapping (i.fields.map fun (name, text) => (.ofText name, .ofText text))

def ofProgram (p : Program) : Node := .sequence (p.map ofInstruction)

section
variable (anchors : Anchors)

def Spells (n : Node) (text : String) : Prop :=
  ∃ s, anchors.resolve n = .scalar s ∧ s.text = text

/-- A scalar that stands for the text of an operand, or for the integer that the text denotes. -/
inductive Gives (n : Node) : Operand → Prop
  | text {s : Scalar} {text : String} (here : anchors.resolve n = .scalar s)
      (value : s.value = .ok (.text text)) : Gives n text
  | integer {s : Scalar} {v : Int64} (here : anchors.resolve n = .scalar s)
      (value : s.value = .ok (.integer v.toInt)) : Gives n (Literal.text v)

def Null (n : Node) : Prop :=
  ∃ s, anchors.resolve n = .scalar s ∧ s.tag = none ∧ s.plain = true ∧
    (s.text = "~" ∨ s.text = "null")

inductive OperatorEntry : Operator → List (Node × Node) → Prop
  | named {operator : Operator} {key n : Node} {s : Scalar} (name : Spells anchors key "op")
      (here : anchors.resolve n = .scalar s) (untagged : s.tag = none)
      (text : s.text = operator.name) : OperatorEntry operator [(key, n)]
  | omitted : OperatorEntry .assign []

inductive RightEntry : Option Operand → List (Node × Node) → Prop
  | present {key n : Node} {operand : Operand} (name : Spells anchors key "arg2")
      (gives : Gives anchors n operand) : RightEntry (some operand) [(key, n)]
  | null {key n : Node} (name : Spells anchors key "arg2") (null : Null anchors n) :
      RightEntry none [(key, n)]
  | omitted : RightEntry none []

/-- The records that stand for an instruction, of whatever shape it is. -/
inductive Recorded (i : Instruction) (n : Node) : Prop
  | intro {operator right : List (Node × Node)} {leftKey left resultKey result : Node}
      (here : anchors.resolve n =
        .mapping (operator ++ (leftKey, left) :: (right ++ [(resultKey, result)])))
      (operatorEntry : OperatorEntry anchors i.operator operator)
      (leftName : Spells anchors leftKey "arg1") (leftGives : Gives anchors left i.left)
      (rightEntry : RightEntry anchors i.right right)
      (resultName : Spells anchors resultKey "result")
      (resultSpells : Spells anchors result i.result)

end

section
variable {anchors : Anchors}

theorem Spells.key {n : Node} {name : String} (spells : Spells anchors n name) (path : Path) :
    Decode.key anchors path n = .ok name := by
  obtain ⟨s, here, rfl⟩ := spells
  simp only [Decode.key, here]

theorem Spells.string {n : Node} {text : String} (spells : Spells anchors n text) (path : Path) :
    Decode.string anchors path n = .ok text := by
  obtain ⟨s, here, rfl⟩ := spells
  simp only [Decode.string, here]

theorem isWord_toInt (v : Int64) : Found.isWord v.toInt = true := by
  have below := v.toInt_lt
  have bound : (UInt64.size : Int) = 2 ^ 64 := by decide
  simp only [Found.isWord, v.minValue_le_toInt, decide_true, Bool.true_and, decide_eq_true_eq]
  omega

theorem inspect_scalar {n : Node} {s : Scalar} {f : Found} (here : anchors.resolve n = .scalar s)
    (value : s.value = .ok f) (depth : Nat) (path : Path) :
    Decode.inspect anchors depth path n = Decode.inspect.checkWord path f := by
  have found : Decode.found path (.scalar s) = .ok f := by simp only [Decode.found, value]
  cases depth <;> simp only [Decode.inspect, here, found, bind, Except.bind]

theorem Gives.operand {n : Node} {operand : Operand} (gives : Gives anchors n operand)
    (depth : Nat) (parent path : Path) :
    Decode.operand anchors depth parent path n = .ok operand := by
  cases gives with
  | text here value =>
    simp only [Decode.operand, inspect_scalar here value, Decode.inspect.checkWord, here,
      Decode.found, value, bind, Except.bind]
  | @integer s v here value =>
    simp only [Decode.operand, inspect_scalar here value, Decode.inspect.checkWord, isWord_toInt,
      if_true, here, Decode.found, value, Literal.ofInt?_toInt, bind, Except.bind]

theorem taggedValue_null {tag : Tag} {text : String} {f : Found}
    (null : tag.isStandard "null" = true) (value : Scalar.taggedValue tag text = .ok f) :
    f = .unit := by
  simp only [Tag.isStandard, Bool.and_eq_true, beq_iff_eq] at null
  simp only [Scalar.taggedValue, Tag.isStandard, null.1, null.2] at value
  by_cases named : text = "~" ∨ text = "null"
  · simpa [named, eq_comm] using value
  · simp [named] at value

theorem isNull_of_value {s : Scalar} {f : Found} (value : s.value = .ok f) (given : f ≠ .unit)
    (parent : Path) : Decode.isNull parent (.scalar s) = .ok false := by
  unfold Scalar.value at value
  cases tagged : s.tag with
  | none =>
    cases plain : s.plain with
    | false => simp [Decode.isNull, plain]
    | true =>
      simp only [tagged, plain, if_true, Except.ok.injEq] at value
      have unnamed : ¬ (s.text = "~" ∨ s.text = "null") := by
        intro named
        rw [Scalar.plainValue, if_pos named] at value
        exact given value.symm
      rw [not_or] at unnamed
      simp [Decode.isNull, plain, tagged, unnamed]
  | some tag =>
    have no_null : ¬ tag.isStandard "null" = true := by
      intro null
      rw [tagged] at value
      exact given (taggedValue_null null value)
    simp [Decode.isNull, tagged, no_null]

theorem Gives.operand? {n : Node} {operand : Operand} (gives : Gives anchors n operand)
    (depth : Nat) (parent path : Path) :
    Decode.operand? anchors depth parent path n = .ok (some operand) := by
  have given : Decode.isNull parent (anchors.resolve n) = .ok false := by
    cases gives with
    | text here value => exact here ▸ isNull_of_value value (by simp) parent
    | integer here value => exact here ▸ isNull_of_value value (by simp) parent
  simp only [Decode.operand?, given, gives.operand, bind, Except.bind]
  rfl

theorem Null.operand? {n : Node} (null : Null anchors n) (depth : Nat) (parent path : Path) :
    Decode.operand? anchors depth parent path n = .ok none := by
  obtain ⟨s, here, untagged, plain, named⟩ := null
  have is_null : Decode.isNull parent (anchors.resolve n) = .ok true := by
    rcases named with named | named <;> simp [here, Decode.isNull, untagged, plain, named]
  simp only [Decode.operand?, is_null, bind, Except.bind]
  rfl

theorem ofName?_name (operator : Operator) : Operator.ofName? operator.name = some operator := by
  cases operator <;> decide

theorem entries_cons {σ : Type} {fields : List (Slot σ)} {path : Path} {key n : Node}
    (field : Slot σ) {draft draft' : σ} (name : Spells anchors key field.name)
    (known : fields.find? (·.name == field.name) = some field) (unset : field.isSet draft = false)
    (read : field.read (Decode.entryPath path key) n draft = .ok draft')
    (rest : List (Node × Node)) :
    Decode.entries fields anchors path ((key, n) :: rest) draft =
      Decode.entries fields anchors path rest draft' := by
  simp only [Decode.entries, name.key, known, unset, read, bind, Except.bind]
  rfl

theorem OperatorEntry.entries {operator : Operator} {es : List (Node × Node)}
    (entry : OperatorEntry anchors operator es) (path : Path) (rest : List (Node × Node)) :
    ∃ o : Option Operator, o.getD .assign = operator ∧
      Decode.entries (Draft.slots anchors path) anchors path (es ++ rest) {} =
        Decode.entries (Draft.slots anchors path) anchors path rest { operator := o } := by
  cases entry with
  | omitted => exact ⟨none, rfl, rfl⟩
  | @named _ key n s name here untagged text =>
    refine ⟨some operator, rfl, entries_cons (operatorSlot anchors path) name rfl rfl ?_ rest⟩
    simp only [operatorSlot, Decode.choose, here, untagged, Decode.variant, operators, text,
      ofName?_name, bind, Except.bind]
    rfl

theorem RightEntry.entries {right : Option Operand} {es : List (Node × Node)}
    (entry : RightEntry anchors right es) (path : Path) (rest : List (Node × Node)) {d : Draft}
    (unset : d.right = none) :
    ∃ r : Option (Option Operand), r.getD none = right ∧
      Decode.entries (Draft.slots anchors path) anchors path (es ++ rest) d =
        Decode.entries (Draft.slots anchors path) anchors path rest { d with right := r } := by
  have unset' : (rightSlot anchors path).isSet d = false := by simp [rightSlot, unset]
  cases entry with
  | omitted => exact ⟨none, rfl, by rw [← unset]; rfl⟩
  | @present key n operand name gives =>
    refine ⟨some (some operand), rfl, entries_cons (rightSlot anchors path) name rfl unset' ?_ rest⟩
    simp only [rightSlot, gives.operand?, bind, Except.bind]
    rfl
  | @null key n name null =>
    refine ⟨some none, rfl, entries_cons (rightSlot anchors path) name rfl unset' ?_ rest⟩
    simp only [rightSlot, null.operand?, bind, Except.bind]
    rfl

theorem Recorded.instruction {i : Instruction} {n : Node} (recorded : Recorded anchors i n)
    (path : Path) : instruction anchors path n = i.checked.mapError .instruction := by
  obtain @⟨operator, right, leftKey, left, resultKey, result, here, operatorEntry, leftName,
    leftGives, rightEntry, resultName, resultSpells⟩ := recorded
  obtain ⟨o, operator_eq, first⟩ :=
    operatorEntry.entries path ((leftKey, left) :: (right ++ [(resultKey, result)]))
  have second : Decode.entries (Draft.slots anchors path) anchors path
      ((leftKey, left) :: (right ++ [(resultKey, result)])) { operator := o } =
      Decode.entries (Draft.slots anchors path) anchors path (right ++ [(resultKey, result)])
        { operator := o, left := some i.left } := by
    apply entries_cons (leftSlot anchors path) leftName rfl rfl
    simp only [leftSlot, leftGives.operand, bind, Except.bind]
    rfl
  let d : Draft := { operator := o, left := some i.left }
  obtain ⟨r, right_eq, third⟩ := rightEntry.entries path [(resultKey, result)] (d := d) rfl
  have fourth : Decode.entries (Draft.slots anchors path) anchors path [(resultKey, result)]
      { operator := o, left := some i.left, right := r } =
      .ok { operator := o, left := some i.left, right := r, result := some i.result } := by
    apply entries_cons (resultSlot anchors) resultName rfl rfl
    simp only [resultSlot, resultSpells.string, bind, Except.bind]
    rfl
  have drafted := first.trans (second.trans (third.trans fourth))
  simp only [Record.instruction, here, ofEntries, drafted, Draft.toInstruction, operator_eq,
    right_eq, bind, Except.bind]
  rfl

/-! The spellings of the writer, and integers in their decimal text. -/

theorem spells_ofText (text : String) : Spells anchors (.ofText text) text := ⟨_, rfl, rfl⟩

theorem gives_ofText (text : String) : Gives anchors (.ofText text) text := .text rfl rfl

theorem based?_eq_none {cs : List Char} (minus : ∀ c rest, cs ≠ '-' :: '0' :: c :: rest)
    (plus : ∀ rest, cs ≠ '+' :: rest) (unsigned : ∀ c rest, cs ≠ '0' :: c :: rest) :
    Scalar.based? cs = none := by
  unfold Scalar.based?
  split
  · exact absurd rfl (minus _ _)
  · exact absurd rfl (plus _)
  · exact absurd rfl (unsigned _ _)
  · rfl

theorem digit_head {n : Nat} {c : Char} {rest : List Char}
    (digits : Nat.toDigits 10 n = c :: rest) : c.isDigit = true :=
  Nat.isDigit_of_mem_toDigits (by decide) (by decide) (digits ▸ List.mem_cons_self)

theorem based?_ofInt (n : Int) : Scalar.based? (Text.ofInt n) = none := by
  have unpadded := Text.toDigits_ne_padded n.natAbs
  unfold Text.ofInt
  split
  · exact based?_eq_none (fun c rest same => unpadded c rest (List.cons.inj same).2)
      (by simp) (by simp)
  · refine based?_eq_none (fun c rest same => ?_) (fun rest same => ?_) unpadded
    · exact absurd (digit_head same) (by decide)
    · exact absurd (digit_head same) (by decide)

theorem isPadded_ofInt (n : Int) : Scalar.isPadded (Text.ofInt n) = false := by
  have dropped : (Text.ofInt n).dropWhile (fun c => c == '-' || c == '+') =
      Nat.toDigits 10 n.natAbs := by
    obtain ⟨c, rest, digits⟩ := List.exists_cons_of_ne_nil (@Nat.toDigits_ne_nil n.natAbs 10)
    have digit := digit_head digits
    have no_sign : (c == '-' || c == '+') = false := by
      rw [Bool.eq_false_iff]
      intro sign
      simp only [Bool.or_eq_true, beq_iff_eq] at sign
      rcases sign with rfl | rfl <;> contradiction
    unfold Text.ofInt
    split <;> simp [digits, no_sign]
  unfold Scalar.isPadded
  rw [dropped]
  split
  · rename_i c rest padded
    exact absurd padded (Text.toDigits_ne_padded _ _ _)
  · rfl

theorem integer?_word (v : Int64) : Scalar.integer? (Text.ofInt v.toInt) = some v.toInt := by
  have low := v.le_toInt
  have high := v.toInt_lt
  have wide : (2 : Int) ^ 63 ≤ (Nat.pow 2 127 : Nat) ∧ (2 : Int) ^ 63 ≤ (Nat.pow 2 128 : Nat) := by
    decide
  have fits : -((Nat.pow 2 127 : Nat) : Int) ≤ v.toInt ∧ v.toInt < (Nat.pow 2 128 : Nat) := by
    omega
  simp only [Scalar.integer?, Text.integer?_ofInt, bind, Option.bind, if_pos fits]

theorem plainValue_text (v : Int64) : Scalar.plainValue (Literal.text v) = .integer v.toInt := by
  have other (name : String) (loose : Literal.isStrict name = false) : Literal.text v ≠ name := by
    rintro rfl
    rw [Literal.isStrict_text] at loose
    contradiction
  have chars : (Literal.text v).toList = Text.ofInt v.toInt := String.toList_ofList
  simp [Scalar.plainValue, other "~" rfl, other "null" rfl, other "true" rfl, other "false" rfl,
    chars, based?_ofInt, isPadded_ofInt, integer?_word]

theorem gives_ofWord (v : Int64) : Gives anchors (.ofWord v) (Literal.text v) := by
  apply Gives.integer rfl
  simp only [Scalar.value, if_true, plainValue_text]

theorem recorded_ofInstruction (i : Instruction) : Recorded anchors i (ofInstruction i) := by
  have here : anchors.resolve (ofInstruction i) =
      .mapping ([(.ofText "op", .ofText i.operator.name)] ++ (.ofText "arg1", .ofText i.left) ::
        (i.right.toList.map (fun right => (.ofText "arg2", .ofText right)) ++
          [(.ofText "result", .ofText i.result)])) := by
    simp [ofInstruction, Instruction.fields, Anchors.resolve, Function.comp_def]
  refine .intro here (.named (spells_ofText _) rfl rfl rfl) (spells_ofText _) (gives_ofText _) ?_
    (spells_ofText _) (spells_ofText _)
  cases i.right with
  | none => exact .omitted
  | some right => exact .present (spells_ofText _) (gives_ofText right)

/-! Whole lists of records. -/

theorem mapM_recorded {p : Program} {items : List Node}
    (recorded : List.Forall₂ (Recorded anchors) p items) (k : Nat) :
    ((items.zipIdx k).mapM fun (item, i) => instruction anchors (.item .root i) item) =
      (p.mapM Instruction.checked).mapError .instruction := by
  induction recorded generalizing k with
  | nil => rfl
  | @cons i n p items first _ ih =>
    simp only [List.zipIdx_cons, List.mapM_cons, first.instruction, ih]
    cases i.checked with
    | error e => rfl
    | ok j => cases p.mapM Instruction.checked <;> rfl

theorem program_recorded {p : Program} {n : Node} {items : List Node}
    (here : anchors.resolve n = .sequence items)
    (recorded : List.Forall₂ (Recorded anchors) p items) :
    program anchors n = (p.mapM Instruction.checked).mapError .instruction := by
  simp only [program, here]
  exact mapM_recorded recorded 0

theorem program_ofProgram (p : Program) :
    program anchors (ofProgram p) = (p.mapM Instruction.checked).mapError .instruction := by
  apply program_recorded rfl
  rw [List.forall₂_map_right_iff, List.forall₂_same]
  exact fun i _ => recorded_ofInstruction i

theorem mapM_checked_ok_iff (p q : Program) :
    p.mapM Instruction.checked = .ok q ↔ (∀ i ∈ p, i.WellShaped) ∧ p = q := by
  induction p generalizing q with
  | nil => simp [pure, Except.pure]
  | cons i rest ih =>
    simp only [List.mapM_cons, Except.bind_eq_ok_iff, ih, Instruction.checked_eq_ok_iff, pure,
      Except.pure, Except.ok.injEq, List.forall_mem_cons]
    constructor
    · rintro ⟨_, ⟨shaped, rfl⟩, _, ⟨others, rfl⟩, rfl⟩
      exact ⟨⟨shaped, others⟩, rfl⟩
    · rintro ⟨⟨shaped, others⟩, rfl⟩
      exact ⟨i, ⟨shaped, rfl⟩, rest, ⟨others, rfl⟩, rfl⟩

theorem program_item {n : Node} {items : List Node} {q : Program}
    (here : anchors.resolve n = .sequence items) (ok : program anchors n = .ok q) {k : Nat}
    {item : Node} (member : items[k]? = some item) :
    ∃ i, instruction anchors (.item .root k) item = .ok i := by
  simp only [program, here] at ok
  exact mapM_ok ok (List.mk_mem_zipIdx_iff_getElem?.mpr member)

end

/-- Records and programs. What is written for a program is read back as the program if all its
instructions have the right shape, and it is refused otherwise; and the other spellings of the same
instructions change nothing about that. Whatever is read has the right shape throughout, and one
record that is refused is enough to refuse them all. -/
theorem program_records_exact (anchors : Anchors) (p : Program) :
    (program anchors (ofProgram p) = .ok p ↔ ∀ i ∈ p, i.WellShaped) ∧
    ((∃ fault, program anchors (ofProgram p) = .error fault) ↔ ∃ i ∈ p, ¬ i.WellShaped) ∧
    (∀ n items, anchors.resolve n = .sequence items → List.Forall₂ (Recorded anchors) p items →
      program anchors n = program anchors (ofProgram p)) ∧
    (∀ n q, program anchors n = .ok q → ∀ i ∈ q, i.WellShaped) ∧
    (∀ n items k item fault, anchors.resolve n = .sequence items → items[k]? = some item →
      instruction anchors (.item .root k) item = .error fault →
        ∃ fault', program anchors n = .error fault') := by
  have accepted (q : Program) :
      program anchors (ofProgram p) = .ok q ↔ (∀ i ∈ p, i.WellShaped) ∧ p = q := by
    rw [program_ofProgram, Except.mapError_eq_ok_iff, mapM_checked_ok_iff]
  refine ⟨by simp [accepted], ?_, ?_, fun n q => program_wellShaped, ?_⟩
  · simp [Except.exists_error_iff, accepted]
  · intro n items here recorded
    rw [program_recorded here recorded, program_ofProgram]
  · intro n items k item fault here member refused
    rw [Except.exists_error_iff]
    intro q ok
    obtain ⟨i, decoded⟩ := program_item here ok member
    rw [refused] at decoded
    contradiction

def summed : Program :=
  [{ operator := .add, left := "-3", right := some "x", result := "a" },
   { left := "a", result := "5" }]

def summedRecords : List Node :=
  [.mapping [(.ofText "op", .ofText "add"), (.ofText "arg1", .ofWord (-3)),
     (.ofText "arg2", .ofText "x"), (.ofText "result", .ofText "a")],
   .mapping [(.ofText "arg1", .ofText "a"), (.ofText "arg2", .absent),
     (.ofText "result", .ofWord 5)]]

def undivided : Instruction := { operator := .div, left := "a", result := "b" }

theorem program_records_exact_summed :
    List.Forall₂ (Recorded []) summed summedRecords ∧
      program [] (.sequence summedRecords) = .ok summed ∧
      (∀ i ∈ summed, i.WellShaped) ∧
      (∃ fault, program [] (ofProgram (summed ++ [undivided])) = .error fault) ∧
      (∃ fault, program [] (.sequence (ofInstruction undivided :: summedRecords)) =
        .error fault) := by
  have gives_word : Gives [] (.ofWord (-3)) "-3" := by
    have text : Literal.text (-3) = "-3" := by decide
    exact text ▸ gives_ofWord (-3)
  have spells_word : Spells [] (.ofWord 5) "5" := ⟨_, rfl, by decide⟩
  have first : Recorded [] { operator := .add, left := "-3", right := some "x", result := "a" }
      (.mapping [(.ofText "op", .ofText "add"), (.ofText "arg1", .ofWord (-3)),
        (.ofText "arg2", .ofText "x"), (.ofText "result", .ofText "a")]) :=
    @Recorded.intro _ _ _ [_] [_] _ _ _ _ rfl (.named (spells_ofText _) rfl rfl rfl)
      (spells_ofText _) gives_word (.present (spells_ofText _) (gives_ofText "x"))
      (spells_ofText _) (spells_ofText _)
  have second : Recorded [] { left := "a", result := "5" }
      (.mapping [(.ofText "arg1", .ofText "a"), (.ofText "arg2", .absent),
        (.ofText "result", .ofWord 5)]) :=
    @Recorded.intro _ _ _ [] [_] _ _ _ _ rfl .omitted (spells_ofText _) (gives_ofText "a")
      (.null (spells_ofText _) ⟨_, rfl, rfl, rfl, .inl rfl⟩) (spells_ofText _) spells_word
  have recorded : List.Forall₂ (Recorded []) summed summedRecords := .cons first (.cons second .nil)
  obtain ⟨written, _, spellings, shaped, refused⟩ := program_records_exact [] summed
  have read : program [] (.sequence summedRecords) = .ok summed :=
    (spellings _ _ rfl recorded).trans (written.mpr (by decide))
  refine ⟨recorded, read, shaped _ _ read, ?_, refused _ _ 0 _ _ rfl rfl rfl⟩
  exact (program_records_exact [] (summed ++ [undivided])).2.1.mpr ⟨undivided, by simp, by decide⟩

end Record

end QuadFold.Document
