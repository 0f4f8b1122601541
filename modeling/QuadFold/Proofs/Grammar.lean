import QuadFold.Proofs.Lines

/-! The grammar of listings, and that reading follows it exactly. A layout is a line taken apart into
all its pieces; the readers of the pieces are greedy, and none can take what the next one needs,
because the pieces that meet are of different classes. -/
namespace QuadFold.Listing

/-- Characters of one class, or none at all. -/
@[ext] structure Run (p : Char → Bool) where
  chars : List Char
  inside : ∀ c ∈ chars, p c = true

@[ext] structure Word (p : Char → Bool) extends Run p where
  nonempty : chars ≠ []

def Stops (p : Char → Bool) (rest : List Char) : Prop :=
  ∀ c, rest.head? = some c → p c = false

theorem stops_nil (p : Char → Bool) : Stops p [] := by
  intro c h
  simp at h

theorem stops_cons {p : Char → Bool} {c : Char} (h : p c = false) (rest : List Char) :
    Stops p (c :: rest) := by
  intro d hd
  cases hd
  exact h

section
variable {p q : Char → Bool} {rest : List Char}

theorem Word.stops (w : Word p) (apart : ∀ c, p c = true → q c = false) (rest : List Char) :
    Stops q (w.chars ++ rest) := by
  obtain ⟨c, tail, chars⟩ := List.exists_cons_of_ne_nil w.nonempty
  rw [chars]
  exact stops_cons (apart c (w.inside c (by simp [chars]))) (tail ++ rest)

theorem Run.stops (g : Run p) (apart : ∀ c, p c = true → q c = false) (h : Stops q rest) :
    Stops q (g.chars ++ rest) := by
  by_cases empty : g.chars = []
  · simpa [empty] using h
  · exact Word.stops ⟨g, empty⟩ apart rest

theorem Run.takeWhile_append (g : Run p) (h : Stops p rest) :
    (g.chars ++ rest).takeWhile p = g.chars := by
  rw [List.takeWhile_append_of_pos g.inside]
  cases rest with
  | nil => simp
  | cons c tail => simp [h c rfl]

theorem Run.dropWhile_append (g : Run p) (h : Stops p rest) :
    (g.chars ++ rest).dropWhile p = rest := by
  rw [List.dropWhile_append_of_pos g.inside]
  cases rest with
  | nil => rfl
  | cons c tail => simp [h c rfl]

theorem Run.append_inj {a b : Run p} {rest' : List Char} (ha : Stops p rest) (hb : Stops p rest')
    (same : a.chars ++ rest = b.chars ++ rest') : a = b ∧ rest = rest' := by
  have taken := congrArg (List.takeWhile p) same
  have dropped := congrArg (List.dropWhile p) same
  rw [a.takeWhile_append ha, b.takeWhile_append hb] at taken
  rw [a.dropWhile_append ha, b.dropWhile_append hb] at dropped
  exact ⟨Run.ext taken, dropped⟩

theorem Word.append_inj {a b : Word p} {rest' : List Char} (ha : Stops p rest) (hb : Stops p rest')
    (same : a.chars ++ rest = b.chars ++ rest') : a = b ∧ rest = rest' := by
  obtain ⟨runs, rests⟩ := Run.append_inj ha hb same
  exact ⟨Word.ext (congrArg Run.chars runs), rests⟩

end

theorem isOperandChar_of_isGap {c : Char} (h : isGap c = true) : isOperandChar c = false := by
  simp only [isGap, Bool.or_eq_true, beq_iff_eq] at h
  rcases h with rfl | rfl <;> decide

theorem isNameChar_of_isGap {c : Char} (h : isGap c = true) : isNameChar c = false :=
  (Bool.or_eq_false_iff.mp (isOperandChar_of_isGap h)).1

theorem isGap_of_isOperandChar {c : Char} (h : isOperandChar c = true) : isGap c = false := by
  rw [Bool.eq_false_iff]
  intro gap
  simp [isOperandChar_of_isGap gap] at h

theorem isGap_of_isNameChar {c : Char} (h : isNameChar c = true) : isGap c = false :=
  isGap_of_isOperandChar (by simp [isOperandChar, h])

theorem isNameChar_of_isDigit {c : Char} (digit : c.isDigit = true) : isNameChar c = true := by
  have small : c.toNat < 128 := by
    have bounds := digit
    simp only [Char.isDigit, Bool.and_eq_true, decide_eq_true_eq] at bounds
    exact Nat.lt_of_le_of_lt (UInt32.le_iff_toNat_le.mp bounds.2) (by decide)
  simp [isNameChar, Text.isAlphanumeric, small, Char.isAlphanum, digit]

@[ext] structure Tail where
  before : Word isGap
  operator : Operator
  binary : operator.isBinary = true
  after : Word isGap
  right : Word isOperandChar

def Tail.chars (t : Tail) : List Char :=
  t.before.chars ++ (t.operator.symbol.toList ++ (t.after.chars ++ t.right.chars))

/-- An instruction on a line, taken apart into all its pieces. -/
@[ext] structure Layout where
  indent : Run isGap
  result : Word isNameChar
  beforeEquals : Run isGap
  afterEquals : Run isGap
  left : Word isOperandChar
  tail : Option Tail
  trailing : Run isGap

namespace Layout

def tailChars (l : Layout) : List Char :=
  match l.tail with
  | some t => t.chars
  | none => []

def chars (l : Layout) : List Char :=
  l.indent.chars ++ (l.result.chars ++ (l.beforeEquals.chars ++ ('=' :: (l.afterEquals.chars ++
    (l.left.chars ++ (l.tailChars ++ l.trailing.chars))))))

def instruction (l : Layout) : Instruction :=
  { operator := (l.tail.map (·.operator)).getD .assign
    left := String.ofList l.left.chars
    right := l.tail.map fun t => String.ofList t.right.chars
    result := String.ofList l.result.chars }

end Layout

theorem ofSymbol?_eq_some_iff (c : Char) (operator : Operator) :
    Operator.ofSymbol? c = some operator ↔
      operator.isBinary = true ∧ operator.symbol.toList = [c] := by
  constructor
  · intro h
    unfold Operator.ofSymbol? at h
    split at h <;> cases h <;> decide
  · rintro ⟨binary, sign⟩
    cases operator <;> simp [Operator.isBinary, Operator.symbol] at binary sign <;> subst sign <;> rfl

theorem symbol_of_isBinary {operator : Operator} (binary : operator.isBinary = true) :
    ∃ c, operator.symbol.toList = [c] ∧ Operator.ofSymbol? c = some operator ∧ isGap c = false := by
  cases operator with
  | assign => contradiction
  | add => exact ⟨'+', by decide⟩
  | sub => exact ⟨'-', by decide⟩
  | mul => exact ⟨'*', by decide⟩
  | div => exact ⟨'/', by decide⟩

/-! Each reader on a text that starts with its piece, and what a reader that succeeds has found. -/

theorem skipGap_append (g : Run isGap) {rest : List Char} (h : Stops isGap rest) :
    skipGap (g.chars ++ rest) = rest := g.dropWhile_append h

theorem skipGap_split (cs : List Char) : ∃ g : Run isGap, cs = g.chars ++ skipGap cs :=
  ⟨⟨cs.takeWhile isGap, fun _ hc => List.all_eq_true.mp List.all_takeWhile _ hc⟩,
    List.takeWhile_append_dropWhile.symm⟩

theorem word?_append {p : Char → Bool} (w : Word p) {rest : List Char} (h : Stops p rest) :
    word? p (w.chars ++ rest) = some (String.ofList w.chars, rest) := by
  simp [word?, w.takeWhile_append h, w.dropWhile_append h, w.nonempty]

theorem word?_split {p : Char → Bool} {cs rest : List Char} {text : String}
    (h : word? p cs = some (text, rest)) :
    ∃ w : Word p, text = String.ofList w.chars ∧ cs = w.chars ++ rest := by
  unfold word? at h
  split at h
  · contradiction
  · rename_i nonempty
    cases h
    exact ⟨⟨⟨cs.takeWhile p, fun _ hc => List.all_eq_true.mp List.all_takeWhile _ hc⟩, nonempty⟩,
      rfl, List.takeWhile_append_dropWhile.symm⟩

theorem gap?_append (w : Word isGap) {rest : List Char} (h : Stops isGap rest) :
    gap? (w.chars ++ rest) = some rest := by
  obtain ⟨c, tail, chars⟩ := List.exists_cons_of_ne_nil w.nonempty
  have inside : ∀ d ∈ tail, isGap d = true := fun d hd => w.inside d (by simp [chars, hd])
  simp [chars, gap?, w.inside c (by simp [chars]), skipGap_append ⟨tail, inside⟩ h]

theorem gap?_split {cs rest : List Char} (h : gap? cs = some rest) :
    ∃ w : Word isGap, cs = w.chars ++ rest := by
  cases cs with
  | nil => contradiction
  | cons c tail =>
    simp only [gap?] at h
    split at h
    · rename_i gap
      obtain ⟨g, split⟩ := skipGap_split tail
      cases h
      refine ⟨⟨⟨c :: g.chars, ?_⟩, by simp⟩, by rw [List.cons_append, ← split]⟩
      intro d hd
      rcases List.mem_cons.mp hd with rfl | hd
      · exact gap
      · exact g.inside d hd
    · contradiction

theorem tail?_append (t : Tail) {rest : List Char} (h : Stops isOperandChar rest) :
    tail? (t.chars ++ rest) = some ((t.operator, String.ofList t.right.chars), rest) := by
  obtain ⟨c, sign, read, no_gap⟩ := symbol_of_isBinary t.binary
  have first : gap? (t.before.chars ++ (c :: (t.after.chars ++ (t.right.chars ++ rest)))) =
      some (c :: (t.after.chars ++ (t.right.chars ++ rest))) :=
    gap?_append t.before (stops_cons no_gap _)
  have second : gap? (t.after.chars ++ (t.right.chars ++ rest)) = some (t.right.chars ++ rest) :=
    gap?_append t.after (t.right.stops (fun _ => isGap_of_isOperandChar) rest)
  simp [tail?, Tail.chars, sign, first, symbol?, read, second, word?_append t.right h]

theorem tail?_split {cs rest : List Char} {operator : Operator} {right : Operand}
    (h : tail? cs = some ((operator, right), rest)) :
    ∃ t : Tail, t.operator = operator ∧ right = String.ofList t.right.chars ∧
      cs = t.chars ++ rest := by
  simp only [tail?, Option.bind_eq_bind, Option.bind_eq_some_iff, Prod.exists] at h
  obtain ⟨cs₁, h₁, op, cs₂, h₂, cs₃, h₃, text, cs₄, h₄, h⟩ := h
  cases Option.some.inj h
  obtain ⟨before, rfl⟩ := gap?_split h₁
  obtain ⟨after, rfl⟩ := gap?_split h₃
  obtain ⟨word, rfl, rfl⟩ := word?_split h₄
  cases cs₁ with
  | nil => contradiction
  | cons c cs =>
    simp only [symbol?, Option.map_eq_some_iff, Prod.mk.injEq] at h₂
    obtain ⟨op, read, rfl, rfl⟩ := h₂
    obtain ⟨binary, sign⟩ := (ofSymbol?_eq_some_iff c op).mp read
    exact ⟨⟨before, op, binary, after, word⟩, rfl, rfl, by simp [Tail.chars, sign]⟩

theorem tail?_gap (g : Run isGap) : tail? g.chars = none := by
  by_cases empty : g.chars = []
  · simp [tail?, empty, gap?]
  · have all_read := gap?_append ⟨g, empty⟩ (stops_nil isGap)
    rw [List.append_nil] at all_read
    simp [tail?, all_read, symbol?]

namespace Layout

theorem stops_trailing (l : Layout) : Stops isOperandChar l.trailing.chars := by
  have ends := l.trailing.stops (fun _ => isOperandChar_of_isGap) (stops_nil isOperandChar)
  simpa using ends

theorem stops_left (l : Layout) : Stops isOperandChar (l.tailChars ++ l.trailing.chars) := by
  unfold tailChars
  cases l.tail with
  | none => exact l.stops_trailing
  | some t =>
    simp only [Tail.chars, List.append_assoc]
    exact t.before.stops (fun _ => isOperandChar_of_isGap) _

theorem stops_result (l : Layout) (rest : List Char) :
    Stops isNameChar (l.beforeEquals.chars ++ ('=' :: rest)) :=
  l.beforeEquals.stops (fun _ => isNameChar_of_isGap) (stops_cons (by decide) rest)

/-- Every layout is read, and as the instruction that it denotes. -/
theorem instruction?_chars (l : Layout) : instruction? l.chars = some l.instruction := by
  have end_read : skipGap l.trailing.chars = [] := by
    simpa using skipGap_append l.trailing (stops_nil isGap)
  have tail_read : tail? (l.tailChars ++ l.trailing.chars) =
      l.tail.map fun t => ((t.operator, String.ofList t.right.chars), l.trailing.chars) := by
    unfold tailChars
    cases l.tail with
    | none => simpa using tail?_gap l.trailing
    | some t => simpa using tail?_append t l.stops_trailing
  unfold instruction? chars
  rw [skipGap_append l.indent (l.result.stops (fun _ => isGap_of_isNameChar) _),
    word?_append l.result (l.stops_result _)]
  simp only [Option.bind_eq_bind, Option.bind_some]
  rw [skipGap_append l.beforeEquals (stops_cons (by decide) _)]
  simp only [equals?, Option.bind_some]
  rw [skipGap_append l.afterEquals (l.left.stops (fun _ => isGap_of_isOperandChar) _),
    word?_append l.left l.stops_left]
  simp only [Option.bind_some]
  rw [tail_read]
  unfold instruction
  cases tail_eq : l.tail with
  | none => simp [tailChars, tail_eq, end_read]
  | some t => simp [end_read]

end Layout

theorem equals?_split {cs rest : List Char} (h : equals? cs = some rest) : cs = '=' :: rest := by
  unfold equals? at h
  split at h
  · cases h; rfl
  · contradiction

theorem instruction?_split {cs : List Char} {i : Instruction} (h : instruction? cs = some i) :
    ∃ l : Layout, cs = l.chars ∧ l.instruction = i := by
  simp only [instruction?, Option.bind_eq_bind, Option.bind_eq_some_iff, Prod.exists] at h
  obtain ⟨result, cs₁, h₁, cs₂, h₂, left, cs₃, h₃, h⟩ := h
  obtain ⟨indent, e₀⟩ := skipGap_split cs
  obtain ⟨name, rfl, e₁⟩ := word?_split h₁
  obtain ⟨beforeEquals, e₂⟩ := skipGap_split cs₁
  have e₃ := equals?_split h₂
  obtain ⟨afterEquals, e₄⟩ := skipGap_split cs₂
  obtain ⟨operand, rfl, e₅⟩ := word?_split h₃
  have opening : cs = indent.chars ++ (name.chars ++ (beforeEquals.chars ++ ('=' ::
      (afterEquals.chars ++ (operand.chars ++ cs₃))))) := by
    rw [← e₅, ← e₄, ← e₃, ← e₂, ← e₁, ← e₀]
  split at h
  · rename_i operator right cs₄ ht
    obtain ⟨t, rfl, rfl, e₆⟩ := tail?_split ht
    obtain ⟨trailing, e₇⟩ := skipGap_split cs₄
    split at h
    · rename_i ended
      cases h
      rw [ended, List.append_nil] at e₇
      refine ⟨⟨indent, name, beforeEquals, afterEquals, operand, some t, trailing⟩, ?_, rfl⟩
      rw [opening, e₆, e₇]
      rfl
    · contradiction
  · obtain ⟨trailing, e₇⟩ := skipGap_split cs₃
    split at h
    · rename_i ended
      cases h
      rw [ended, List.append_nil] at e₇
      refine ⟨⟨indent, name, beforeEquals, afterEquals, operand, none, trailing⟩, ?_, rfl⟩
      rw [opening, e₇]
      rfl
    · contradiction

theorem Tail.append_inj {a b : Tail} {rest rest' : List Char} (ha : Stops isOperandChar rest)
    (hb : Stops isOperandChar rest') (same : a.chars ++ rest = b.chars ++ rest') :
    a = b ∧ rest = rest' := by
  obtain ⟨c, sign_a, read_a, gap_a⟩ := symbol_of_isBinary a.binary
  obtain ⟨d, sign_b, read_b, gap_b⟩ := symbol_of_isBinary b.binary
  simp only [Tail.chars, sign_a, sign_b, List.append_assoc, List.cons_append,
    List.nil_append] at same
  obtain ⟨before, same⟩ := Word.append_inj (stops_cons gap_a _) (stops_cons gap_b _) same
  obtain ⟨signs, same⟩ := List.cons.inj same
  obtain ⟨after, same⟩ := Word.append_inj (a.right.stops (fun _ => isGap_of_isOperandChar) _)
    (b.right.stops (fun _ => isGap_of_isOperandChar) _) same
  obtain ⟨right, same⟩ := Word.append_inj ha hb same
  have operator : a.operator = b.operator := by
    rw [signs] at read_a
    exact Option.some.inj (read_a.symm.trans read_b)
  exact ⟨Tail.ext before operator after right, same⟩

theorem Tail.chars_append_ne (t : Tail) (rest : List Char) (g : Run isGap) :
    t.chars ++ rest ≠ g.chars := by
  intro same
  obtain ⟨c, sign, _, no_gap⟩ := symbol_of_isBinary t.binary
  have member : c ∈ g.chars := by simp [← same, Tail.chars, sign]
  rw [g.inside c member] at no_gap
  contradiction

/-- There is one way only to take a line apart. -/
theorem Layout.chars_injective {a b : Layout} (same : a.chars = b.chars) : a = b := by
  unfold chars at same
  obtain ⟨indent, same⟩ := Run.append_inj (a.result.stops (fun _ => isGap_of_isNameChar) _)
    (b.result.stops (fun _ => isGap_of_isNameChar) _) same
  obtain ⟨result, same⟩ := Word.append_inj (a.stops_result _) (b.stops_result _) same
  obtain ⟨beforeEquals, same⟩ :=
    Run.append_inj (stops_cons (by decide) _) (stops_cons (by decide) _) same
  obtain ⟨_, same⟩ := List.cons.inj same
  obtain ⟨afterEquals, same⟩ := Run.append_inj (a.left.stops (fun _ => isGap_of_isOperandChar) _)
    (b.left.stops (fun _ => isGap_of_isOperandChar) _) same
  obtain ⟨left, same⟩ := Word.append_inj a.stops_left b.stops_left same
  -- a tail cannot be taken for trailing blanks, since its operator is no blank
  have ends : a.tail = b.tail ∧ a.trailing.chars = b.trailing.chars := by
    unfold tailChars at same
    cases ha : a.tail with
    | none =>
      cases hb : b.tail with
      | none => simpa [ha, hb] using same
      | some t =>
        simp only [ha, hb, List.nil_append] at same
        exact absurd same.symm (t.chars_append_ne _ a.trailing)
    | some t =>
      cases hb : b.tail with
      | none =>
        simp only [ha, hb, List.nil_append] at same
        exact absurd same (t.chars_append_ne _ b.trailing)
      | some u =>
        simp only [ha, hb] at same
        obtain ⟨tails, trailing⟩ := Tail.append_inj a.stops_trailing b.stops_trailing same
        exact ⟨congrArg some tails, trailing⟩
  exact Layout.ext indent result beforeEquals afterEquals left ends.1 (Run.ext ends.2)

end QuadFold.Listing
