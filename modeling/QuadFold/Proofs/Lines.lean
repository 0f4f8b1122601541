import QuadFold.Listing

/-! The lines of a text and the code on a line, said without the functions that find them. -/
namespace QuadFold.Listing

/-- How a text falls into lines: each ends with a line feed or with a carriage return and a line
feed, and the last one may have no end. Only the carriage return right before a line feed belongs
to the end of a line. -/
inductive Split : List Char → List (List Char) → Prop
  | nil : Split [] []
  | last {line : List Char} (nonempty : line ≠ []) (free : '\n' ∉ line) : Split line [line]
  | feed (line : List Char) {cs : List Char} {more : List (List Char)} (free : '\n' ∉ line)
      (bare : line.getLast? ≠ some '\r') (rest : Split cs more) :
      Split (line ++ '\n' :: cs) (line :: more)
  | returnFeed (line : List Char) {cs : List Char} {more : List (List Char)} (free : '\n' ∉ line)
      (rest : Split cs more) : Split (line ++ '\r' :: '\n' :: cs) (line :: more)

theorem lines_cons {c : Char} {cs : List Char} (inside : c ≠ '\n')
    (open_end : c = '\r' → cs.head? ≠ some '\n') :
    lines (c :: cs) = (c :: (lines cs).headD []) :: (lines cs).tail := by
  rw [lines.eq_4 c cs inside (fun rest hc hcs => open_end hc (by simp [hcs]))]
  cases lines cs <;> rfl

theorem lines_eq_nil_iff (cs : List Char) : lines cs = [] ↔ cs = [] := by
  unfold lines
  split
  · simp
  · simp
  · simp
  · split <;> simp

theorem Split.cons {c : Char} {cs : List Char} {line : List Char} {more : List (List Char)}
    (inside : c ≠ '\n') (open_end : c = '\r' → cs.head? ≠ some '\n')
    (rest : Split cs (line :: more)) : Split (c :: cs) ((c :: line) :: more) := by
  cases rest with
  | last nonempty free => exact .last (by simp) (by simp [Ne.symm inside, free])
  | feed _ free bare rest =>
    refine .feed (c :: line) (by simp [Ne.symm inside, free]) ?_ rest
    cases line with
    | nil => simpa using open_end
    | cons d tail => simpa using bare
  | returnFeed _ free rest =>
    exact .returnFeed (c :: line) (by simp [Ne.symm inside, free]) rest

theorem split_lines (cs : List Char) : Split cs (lines cs) := by
  fun_induction lines cs with
  | case1 => exact .nil
  | case2 rest ih => exact .feed [] (by simp) (by simp) ih
  | case3 rest ih => exact .returnFeed [] (by simp) ih
  | case4 c rest inside open_end empty ih =>
    rw [lines_eq_nil_iff] at empty
    subst empty
    exact .last (by simp) (by simpa using Ne.symm inside)
  | case5 c rest inside open_end line more first ih =>
    rw [first] at ih
    refine ih.cons inside fun hc head => ?_
    obtain ⟨tail, rfl⟩ := List.head?_eq_some_iff.mp head
    exact open_end tail hc rfl

theorem lines_append {line cs : List Char} {more : List (List Char)} (free : '\n' ∉ line)
    (bare : line.getLast? = some '\r' → cs.head? ≠ some '\n') (first : lines cs = [] :: more) :
    lines (line ++ cs) = line :: more := by
  induction line with
  | nil => simpa using first
  | cons c tail ih =>
    simp only [List.mem_cons, not_or] at free
    have tail_bare : tail.getLast? = some '\r' → cs.head? ≠ some '\n' := by
      intro h
      cases tail with
      | nil => simp at h
      | cons d rest => exact bare (by simpa using h)
    have open_end : c = '\r' → (tail ++ cs).head? ≠ some '\n' := by
      intro hc
      cases tail with
      | nil => exact bare (by simp [hc])
      | cons d rest =>
        intro h
        simp only [List.cons_append, List.head?_cons, Option.some.injEq] at h
        exact free.2 (by simp [h])
    rw [List.cons_append, lines_cons (Ne.symm free.1) open_end, ih free.2 tail_bare,
      List.headD_cons, List.tail_cons]

theorem lines_feed {line : List Char} (cs : List Char) (free : '\n' ∉ line)
    (bare : line.getLast? ≠ some '\r') : lines (line ++ '\n' :: cs) = line :: lines cs :=
  lines_append free (fun h => absurd h bare) rfl

def Uncommented (cs : List Char) : Prop := ¬ ['/', '/'] <:+: cs

/-- A line up to its first comment, or all of it if there is none. -/
def Cut (line cs : List Char) : Prop :=
  (line = cs ∧ Uncommented cs) ∨
    ∃ comment, line = cs ++ '/' :: '/' :: comment ∧ Uncommented (cs ++ ['/'])

theorem uncommented_of_count {cs : List Char} (h : cs.count '/' ≤ 1) : Uncommented cs := by
  intro comment
  have two := comment.sublist.count_le '/'
  simp only [List.count_cons_self, List.count_nil] at two
  omega

theorem uncommented_cons_iff (c : Char) (cs : List Char) :
    Uncommented (c :: cs) ↔ (c = '/' → cs.head? ≠ some '/') ∧ Uncommented cs := by
  simp only [Uncommented, List.infix_cons_iff, not_or]
  refine and_congr_left fun _ => ?_
  cases cs with
  | nil => simp
  | cons d tail => simp [eq_comm]

theorem code_cons {c : Char} {cs : List Char} (h : c = '/' → cs.head? ≠ some '/') :
    code (c :: cs) = c :: code cs := by
  rw [code.eq_3]
  intro comment hc hcs
  exact h hc (by simp [hcs])

theorem code_of_uncommented {cs : List Char} (h : Uncommented cs) : code cs = cs := by
  induction cs with
  | nil => rfl
  | cons c tail ih =>
    rw [uncommented_cons_iff] at h
    rw [code_cons h.1, ih h.2]

theorem cut_code (line : List Char) : Cut line (code line) := by
  fun_induction code line with
  | case1 => exact .inl ⟨rfl, uncommented_of_count (by simp)⟩
  | case2 comment => exact .inr ⟨comment, rfl, uncommented_of_count (by simp)⟩
  | case3 c rest no_comment ih =>
    have apart : c = '/' → rest.head? ≠ some '/' := by
      intro hc head
      obtain ⟨tail, rfl⟩ := List.head?_eq_some_iff.mp head
      exact no_comment tail hc rfl
    rcases ih with ⟨same, plain⟩ | ⟨comment, same, plain⟩
    · rw [← same] at plain ⊢
      exact .inl ⟨rfl, (uncommented_cons_iff c rest).mpr ⟨apart, plain⟩⟩
    · refine .inr ⟨comment, by rw [List.cons_append, ← same], ?_⟩
      refine (uncommented_cons_iff c _).mpr ⟨fun hc head => apart hc ?_, plain⟩
      rw [same]
      cases h : code rest with
      | nil => rfl
      | cons d tail => simpa [h] using head

end QuadFold.Listing
