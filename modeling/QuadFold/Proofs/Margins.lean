import QuadFold.Proofs.Reading

/-! What stands around the code of a listing: line ends, blanks beside a line, comments, and lines
that hold nothing else. None of it has a part in what is read, also where a line cannot be read;
only the number of such a line counts the lines before it. -/
namespace QuadFold

def Error.shift (k : Nat) : Error → Error
  | unreadableLine n code => unreadableLine (n + k) code
  | e => e

/-- The error with its line number raised by the lines that were inserted before that line, given
how many were inserted right before each line. -/
def Error.renumber (counts : List Nat) : Error → Error
  | unreadableLine n code => unreadableLine (n + (counts.take n).foldr (· + ·) 0) code
  | e => e

namespace Listing

structure Line where
  chars : List Char
  noFeed : '\n' ∉ chars
  noReturn : '\r' ∉ chars

inductive Ending
  | feed | returnFeed

def Ending.chars : Ending → List Char
  | feed => ['\n']
  | returnFeed => ['\r', '\n']

/-- Lines with their ends, and possibly a last one without. -/
structure Sheet where
  ended : List (Line × Ending)
  last : Option Line

namespace Sheet

def lines (s : Sheet) : List Line := s.ended.map (·.1) ++ s.last.toList

def text (s : Sheet) : String :=
  String.ofList ((s.ended.flatMap fun (l, e) => l.chars ++ e.chars) ++
    s.last.toList.flatMap Line.chars)

end Sheet

/-- A line with spaces and tabs beside it and comments behind it. -/
inductive Dressed (line : List Char) : List Char → Prop
  | same : Dressed line line
  | before {new : List Char} {c : Char} (gap : isGap c = true) (inner : Dressed line new) :
      Dressed line (c :: new)
  | behind {new : List Char} {c : Char} (gap : isGap c = true) (inner : Dressed line new) :
      Dressed line (new ++ [c])
  | comment {new : List Char} (text : List Char) (inner : Dressed line new) :
      Dressed line (new ++ ' ' :: '/' :: '/' :: text)

inductive Vacant : List Char → Prop
  | blank {cs : List Char} (h : Text.allBlank cs = true) : Vacant cs
  | comment {cs : List Char} (h : Text.allBlank cs = true) (text : List Char) :
      Vacant (cs ++ '/' :: '/' :: text)

/-- The second lines are the first ones, each dressed, with vacant lines between them; and how many
lines were inserted right before each of the first ones. -/
inductive Relaid : List Line → List Line → List Nat → Prop
  | done {added : List Line} (vacant : ∀ l ∈ added, Vacant l.chars) : Relaid [] added []
  | line {added : List Line} {old new : Line} {olds news : List Line} {counts : List Nat}
      (vacant : ∀ l ∈ added, Vacant l.chars) (dressed : Dressed old.chars new.chars)
      (rest : Relaid olds news counts) :
      Relaid (old :: olds) (added ++ new :: news) (added.length :: counts)

theorem isBlank_of_isGap {c : Char} (gap : isGap c = true) : Text.isBlank c = true := by
  simp only [isGap, Bool.or_eq_true, beq_iff_eq] at gap
  rcases gap with rfl | rfl <;> decide

theorem ne_slash_of_isGap {c : Char} (gap : isGap c = true) : c ≠ '/' := by
  rintro rfl
  contradiction

/-! Blanks at the ends of the code on a line. -/

theorem trim_cons {c : Char} (blank : Text.isBlank c = true) (cs : List Char) :
    Text.trim (c :: cs) = Text.trim cs := by
  simp [Text.trim, blank]

theorem trim_concat {c : Char} (blank : Text.isBlank c = true) (cs : List Char) :
    Text.trim (cs ++ [c]) = Text.trim cs := by
  unfold Text.trim
  rw [List.dropWhile_append]
  split
  · rename_i empty
    simp [List.isEmpty_iff.mp empty, blank]
  · simp [Text.dropBlankEnd, blank]

theorem instruction?_cons {c : Char} (gap : isGap c = true) (cs : List Char) :
    instruction? (c :: cs) = instruction? cs := by
  have skipped : skipGap (c :: cs) = skipGap cs := by simp [skipGap, gap]
  simp only [instruction?, skipped]

theorem Word.exists_getLast? {p : Char → Bool} (w : Word p) :
    ∃ c, w.chars.getLast? = some c ∧ p c = true := by
  have last := List.getLast?_eq_some_getLast w.nonempty
  exact ⟨_, last, w.inside _ (List.mem_of_getLast? last)⟩

namespace Layout

theorem getLast?_chars {l : Layout} (ended : l.trailing.chars = []) :
    ∃ c, l.chars.getLast? = some c ∧ isOperandChar c = true := by
  unfold chars tailChars
  cases l.tail with
  | none =>
    obtain ⟨c, last, inside⟩ := l.left.exists_getLast?
    exact ⟨c, by simp [ended, List.getLast?_cons, last], inside⟩
  | some t =>
    obtain ⟨c, last, inside⟩ := t.right.exists_getLast?
    exact ⟨c, by simp [ended, Tail.chars, List.getLast?_cons, last], inside⟩

theorem exists_concat (l : Layout) {c : Char} (gap : isGap c = true) :
    ∃ l' : Layout, l'.chars = l.chars ++ [c] ∧ l'.instruction = l.instruction := by
  have inside : ∀ d ∈ l.trailing.chars ++ [c], isGap d = true := by
    intro d hd
    rcases List.mem_append.mp hd with hd | hd
    · exact l.trailing.inside d hd
    · rw [List.mem_singleton.mp hd]
      exact gap
  exact ⟨{ l with trailing := ⟨_, inside⟩ }, by simp [chars, tailChars], rfl⟩

theorem exists_of_concat {l : Layout} {cs : List Char} {c : Char} (gap : isGap c = true)
    (split : l.chars = cs ++ [c]) :
    ∃ l' : Layout, l'.chars = cs ∧ l'.instruction = l.instruction := by
  rcases List.eq_nil_or_concat l.trailing.chars with ended | ⟨fewer, d, more⟩
  · obtain ⟨d, last, inside⟩ := getLast?_chars ended
    rw [split, List.getLast?_concat, Option.some.injEq] at last
    rw [← last, isOperandChar_of_isGap gap] at inside
    contradiction
  · rw [List.concat_eq_append] at more
    let shorter : Layout :=
      { l with trailing := ⟨fewer, fun e he => l.trailing.inside e (by simp [more, he])⟩ }
    have longer : l.chars = shorter.chars ++ [d] := by
      simp [shorter, chars, tailChars, more]
    exact ⟨shorter, (List.append_inj' (longer.symm.trans split) rfl).1, rfl⟩

end Layout

theorem instruction?_concat {c : Char} (gap : isGap c = true) (cs : List Char) :
    instruction? (cs ++ [c]) = instruction? cs := by
  ext i
  constructor
  · intro read
    obtain ⟨l, split, rfl⟩ := instruction?_split read
    obtain ⟨l', rfl, same⟩ := Layout.exists_of_concat gap split.symm
    rw [l'.instruction?_chars, same]
  · intro read
    obtain ⟨l, rfl, rfl⟩ := instruction?_split read
    obtain ⟨l', chars, same⟩ := l.exists_concat gap
    rw [← chars, l'.instruction?_chars, same]

theorem read_cons {c : Char} (gap : isGap c = true) (number : Nat) (cs : List Char) :
    read number (c :: cs) = read number cs := by
  have blank := isBlank_of_isGap gap
  have all_blank : Text.allBlank (c :: cs) = Text.allBlank cs := by simp [Text.allBlank, blank]
  simp only [read, all_blank, instruction?_cons gap, trim_cons blank]

theorem read_concat {c : Char} (gap : isGap c = true) (number : Nat) (cs : List Char) :
    read number (cs ++ [c]) = read number cs := by
  have blank := isBlank_of_isGap gap
  have all_blank : Text.allBlank (cs ++ [c]) = Text.allBlank cs := by simp [Text.allBlank, blank]
  simp only [read, all_blank, instruction?_concat gap, trim_concat blank]

/-! The code on a line that is dressed, and on a vacant one. -/

theorem code_append {rest : List Char} (apart : rest.head? ≠ some '/') (line : List Char) :
    code (line ++ rest) = code line ∨ code (line ++ rest) = code line ++ code rest := by
  fun_induction code line with
  | case1 => exact .inr rfl
  | case2 comment => exact .inl rfl
  | case3 c tail no_comment ih =>
    have open_end : c = '/' → (tail ++ rest).head? ≠ some '/' := by
      intro slash
      cases tail with
      | nil => exact apart
      | cons d more =>
        intro head
        exact no_comment more slash (by rw [Option.some.inj head])
    rw [List.cons_append, code_cons open_end]
    rcases ih with same | longer
    · exact .inl (by rw [same])
    · exact .inr (by rw [longer, List.cons_append])

theorem Dressed.read {line new : List Char} (dressed : Dressed line new) (number : Nat) :
    read number (code new) = read number (code line) := by
  induction dressed with
  | same => rfl
  | before gap _ ih =>
    rw [code_cons (fun slash => absurd slash (ne_slash_of_isGap gap)), read_cons gap, ih]
  | @behind new c gap _ ih =>
    have no_slash := ne_slash_of_isGap gap
    have alone : code [c] = [c] := code_cons fun slash => absurd slash no_slash
    have apart : [c].head? ≠ some '/' := by simpa using no_slash
    rcases code_append apart new with same | longer
    · rw [same, ih]
    · rw [longer, alone, read_concat gap, ih]
  | @comment new text _ ih =>
    have cut : code (' ' :: '/' :: '/' :: text) = [' '] := rfl
    have apart : (' ' :: '/' :: '/' :: text).head? ≠ some '/' := by simp
    rcases code_append apart new with same | longer
    · rw [same, ih]
    · rw [longer, cut, read_concat rfl, ih]

theorem Vacant.code {line : List Char} (vacant : Vacant line) :
    Text.allBlank (code line) = true := by
  have cut {cs : List Char} (h : Text.allBlank cs = true) (rest : List Char) :
      Listing.code (cs ++ rest) = cs ++ Listing.code rest := by
    induction cs with
    | nil => rfl
    | cons c tail ih =>
      simp only [Text.allBlank, List.all_cons, Bool.and_eq_true] at h
      have no_slash : c ≠ '/' := by
        rintro rfl
        exact absurd h.1 (by decide)
      rw [List.cons_append, code_cons (fun slash => absurd slash no_slash), ih h.2,
        List.cons_append]
  cases vacant with
  | blank h =>
    have whole := cut h []
    rw [List.append_nil] at whole
    rw [whole]
    simpa [Listing.code] using h
  | comment h text =>
    rw [cut h]
    simpa [Listing.code] using h

theorem parseLines_vacant {added : List Line} (vacant : ∀ l ∈ added, Vacant l.chars)
    (number : Nat) (rest : List (List Char)) :
    parseLines number (added.map Line.chars ++ rest) = parseLines (number + added.length) rest := by
  induction added generalizing number with
  | nil => rfl
  | cons l more ih =>
    have blank := (vacant l (by simp)).code
    rw [List.map_cons, List.cons_append, parseLines_cons_blank _ _ blank,
      ih (fun m hm => vacant m (by simp [hm])), List.length_cons]
    congr 1
    omega

/-! The numbers of lines. -/

theorem read_shift (number k : Nat) (cs : List Char) :
    read (number + k) cs = (read number cs).mapError (Error.shift k) := by
  unfold read
  split
  · rfl
  · split
    · rfl
    · rename_i i _
      unfold Instruction.checked
      cases i.defect? <;> rfl

theorem parseLines_shift (number k : Nat) (ls : List (List Char)) :
    parseLines (number + k) ls = (parseLines number ls).mapError (Error.shift k) := by
  induction ls generalizing number with
  | nil => rfl
  | cons line rest ih =>
    have tail := ih (number + 1)
    rw [Nat.add_right_comm] at tail
    simp only [parseLines, read_shift, tail]
    cases read number (code line) with
    | error e => rfl
    | ok i => cases parseLines (number + 1) rest <;> rfl

theorem read_error {number : Nat} {cs : List Char} {e : Error}
    (failed : read number cs = .error e) :
    e = .unreadableLine number (String.ofList (Text.trim cs)) := by
  unfold read at failed
  split at failed
  · contradiction
  · split at failed
    · cases failed
      rfl
    · rename_i i found
      obtain ⟨l, _, rfl⟩ := instruction?_split found
      rw [l.instruction_checked] at failed
      contradiction

theorem Relaid.parseLines {olds news : List Line} {counts : List Nat}
    (relaid : Relaid olds news counts) :
    parseLines 1 (news.map Line.chars) =
      (parseLines 1 (olds.map Line.chars)).mapError (Error.renumber counts) := by
  induction relaid with
  | done vacant =>
    have all_vacant := parseLines_vacant vacant 1 []
    rw [List.append_nil] at all_vacant
    exact all_vacant
  | @line added old new olds news counts vacant dressed rest ih =>
    rw [List.map_append, List.map_cons, parseLines_vacant vacant, parseLines_shift]
    simp only [List.map_cons, Listing.parseLines, dressed.read, parseLines_shift 1 1, ih]
    cases first : read 1 (code old.chars) with
    | error e =>
      rw [read_error first]
      rfl
    | ok i =>
      cases Listing.parseLines 1 (olds.map Line.chars) with
      | ok program => rfl
      | error e =>
        cases e with
        | malformedLiteral text => rfl
        | invalidInstruction defect => rfl
        | unreadableLine n code =>
          have count : n + (counts.take n).foldr (· + ·) 0 + 1 + added.length =
              n + 1 + ((added.length :: counts).take (n + 1)).foldr (· + ·) 0 := by
            rw [List.take_succ_cons, List.foldr_cons]
            omega
          exact congrArg (fun m => Except.error (Error.unreadableLine m code)) count

theorem lines_last {line : List Char} (free : '\n' ∉ line) (nonempty : line ≠ []) :
    lines line = [line] := by
  induction line with
  | nil => contradiction
  | cons c tail ih =>
    simp only [List.mem_cons, not_or] at free
    have open_end : c = '\r' → tail.head? ≠ some '\n' := by
      intro _ head
      exact free.2 (List.mem_of_mem_head? head)
    rw [lines_cons (Ne.symm free.1) open_end]
    cases tail with
    | nil => rfl
    | cons d more =>
      rw [ih free.2 (by simp)]
      rfl

theorem parseLines_last (number : Nat) (l : Line) :
    parseLines number (lines l.chars) = parseLines number [l.chars] := by
  by_cases empty : l.chars = []
  · rw [empty]
    rfl
  · rw [lines_last l.noFeed empty]

theorem lines_ending (l : Line) (e : Ending) (cs : List Char) :
    lines (l.chars ++ e.chars ++ cs) = l.chars :: lines cs := by
  have bare : l.chars.getLast? ≠ some '\r' := fun last => l.noReturn (List.mem_of_getLast? last)
  rw [List.append_assoc]
  cases e with
  | feed => exact lines_feed cs l.noFeed bare
  | returnFeed => exact lines_append l.noFeed (fun last => absurd last bare) rfl

theorem Sheet.parse_text (s : Sheet) : parse s.text = parseLines 1 (s.lines.map Line.chars) := by
  obtain ⟨ended, last⟩ := s
  simp only [parse, text, lines, String.toList_ofList, List.map_append]
  generalize 1 = number
  induction ended generalizing number with
  | nil =>
    cases last with
    | none => rfl
    | some l => simpa using parseLines_last number l
  | cons first rest ih =>
    obtain ⟨l, e⟩ := first
    simp only [List.flatMap_cons, List.append_assoc, List.map_cons, List.cons_append]
    rw [← List.append_assoc, lines_ending]
    simp only [parseLines, ih]

/-- Layout has no part in the meaning of a listing. However its lines end, whatever blanks and
comments are added to them, and whatever lines of white space or comments are inserted: the same
program is read, or the same line is refused with the same message, and its number grows by the
lines that were inserted before it. -/
theorem parse_relaid (old new : Sheet) (counts : List Nat)
    (relaid : Relaid old.lines new.lines counts) :
    parse new.text = (parse old.text).mapError (Error.renumber counts) := by
  rw [old.parse_text, new.parse_text, relaid.parseLines]

def assigned : Line := ⟨"a = 1".toList, by decide, by decide⟩

def unfinished : Line := ⟨"b = a /".toList, by decide, by decide⟩

def heading : Line := ⟨"\u3000// c".toList, by decide, by decide⟩

def thinSpace : Line := ⟨"\u2009".toList, by decide, by decide⟩

def indented : Line := ⟨'\t' :: (assigned.chars ++ " // one".toList), by decide, by decide⟩

def remarked : Line := ⟨unfinished.chars ++ " //x/".toList ++ ['\t'], by decide, by decide⟩

def bareSheet : Sheet := ⟨[(assigned, .feed)], some unfinished⟩

def dressedSheet : Sheet :=
  ⟨[(heading, .returnFeed), (indented, .feed), (thinSpace, .returnFeed), (remarked, .feed)], none⟩

theorem parse_relaid_unfinished :
    Relaid bareSheet.lines dressedSheet.lines [1, 1] ∧
      bareSheet.text = "a = 1\nb = a /" ∧
      dressedSheet.text = "\u3000// c\r\n\ta = 1 // one\n\u2009\r\nb = a / //x/\t\n" ∧
      parse bareSheet.text = .error (.unreadableLine 2 "b = a /") ∧
      parse dressedSheet.text = .error (.unreadableLine 4 "b = a /") := by
  have first : ∀ l ∈ [heading], Vacant l.chars := by
    intro l hl
    rw [List.mem_singleton.mp hl]
    exact @Vacant.comment ['\u3000'] (by decide) " c".toList
  have second : ∀ l ∈ [thinSpace], Vacant l.chars := by
    intro l hl
    rw [List.mem_singleton.mp hl]
    exact .blank (by decide)
  have relaid : Relaid bareSheet.lines dressedSheet.lines [1, 1] :=
    .line first (.before rfl (.comment " one".toList .same))
      (.line second (.behind rfl (.comment "x/".toList .same)) (@Relaid.done [] (by simp)))
  have refused : parse bareSheet.text = .error (.unreadableLine 2 "b = a /") := rfl
  have moved := parse_relaid bareSheet dressedSheet [1, 1] relaid
  rw [refused] at moved
  exact ⟨relaid, by decide, by decide, refused, moved⟩

end Listing

end QuadFold
