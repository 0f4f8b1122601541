import QuadFold.Proofs.Locality
import QuadFold.Proofs.Log

/-! The order of neighbours that have nothing to do with each other. Each of the two steps has the
same outcome on either side of the other one, and both orders lead to the same constants. -/
namespace QuadFold

/-- The instructions define different names, and neither reads what the other one defines. -/
structure Instruction.Independent (x y : Instruction) : Prop where
  results : x.result ≠ y.result
  second : x.result ∉ y.operands
  first : y.result ∉ x.operands

theorem Instruction.Independent.symm {x y : Instruction} (apart : x.Independent y) :
    y.Independent x :=
  ⟨apart.results.symm, apart.first, apart.second⟩

namespace Policies

/-- The outcomes differ in nothing but the order of two neighbours and of their entries in the
log. -/
def Folded.Exchanged (x y : Instruction) (place : Nat) (r t : Folded) : Prop :=
  ∃ (before after : Program) (x' y' : Instruction) (earlier later : List Folding),
    before.length = place ∧
    r.program = before ++ [x', y'] ++ after ∧ t.program = before ++ [y', x'] ++ after ∧
    r.foldings =
      earlier ++ (Folding.entry? x x').toList ++ (Folding.entry? y y').toList ++ later ∧
    t.foldings =
      earlier ++ (Folding.entry? y y').toList ++ (Folding.entry? x x').toList ++ later

theorem steps_exchange {p : Policies} {known : Constants} {x y : Instruction} {s u : Step}
    (apart : x.Independent y) (hs : p.step known x = .ok s) (hu : p.step s.known y = .ok u) :
    ∃ u' s', p.step known y = .ok u' ∧ p.step u'.known x = .ok s' ∧
      s'.instruction = s.instruction ∧ s'.folding = s.folding ∧
      u'.instruction = u.instruction ∧ u'.folding = u.folding ∧
      ∀ name, u.known.get? name = s'.known.get? name := by
  -- the second step is taken back before the first one, then the first one on after it
  have unread : s.known.AgreeOn known y.operands := by
    intro o read
    apply step_get?_of_ne hs
    intro same
    exact apart.second (same ▸ read)
  have unread' : known.AgreeOn (u.over y.result known).known x.operands := by
    intro o read
    have other : y.result ≠ o := by
      intro same
      exact apart.first (same ▸ read)
    simp only [Step.over, Constants.get?_define, if_neg other]
  have second := step_over p unread
  have first := step_over p unread'
  rw [hu] at second
  rw [hs] at first
  refine ⟨_, _, second, first, rfl, rfl, rfl, rfl, fun name => ?_⟩
  simp only [Step.over, Constants.get?_define]
  by_cases by_x : x.result = name
  · have not_by_y : y.result ≠ name := by
      intro by_y
      exact apart.results (by_x.trans by_y.symm)
    rw [if_pos by_x, step_get?_of_ne hu not_by_y, by_x]
  · by_cases by_y : y.result = name
    · rw [if_neg by_x, if_pos by_y, by_y]
    · rw [if_neg by_x, if_neg by_y, step_get?_of_ne hu by_y, step_get?_of_ne hs by_x]

theorem Folded.Exchanged.after {x y : Instruction} {place : Nat} {r t : Folded}
    (swapped : r.Exchanged x y place t) (q : Folded) :
    (q.append r).Exchanged x y (q.program.length + place) (q.append t) := by
  obtain ⟨before, after, x', y', earlier, later, here, r_program, t_program, r_log, t_log⟩ :=
    swapped
  refine ⟨q.program ++ before, after, x', y', q.foldings ++ earlier, later, ?_, ?_, ?_, ?_, ?_⟩
  · simp [here]
  · simp [Folded.append, r_program]
  · simp [Folded.append, t_program]
  · simp [Folded.append, r_log]
  · simp [Folded.append, t_log]

theorem foldFrom_exchange {p : Policies} {known : Constants} {x y : Instruction} {rest : Program}
    {r : Folded} (apart : x.Independent y) (ok : p.foldFrom known (x :: y :: rest) = .ok r) :
    ∃ t, p.foldFrom known (y :: x :: rest) = .ok t ∧ r.Exchanged x y 0 t := by
  obtain ⟨s, w, hs, hw, rfl⟩ := foldFrom_cons_ok_iff.mp ok
  obtain ⟨u, v, hu, hv, rfl⟩ := foldFrom_cons_ok_iff.mp hw
  obtain ⟨u', s', hu', hs', s_instruction, s_folding, u_instruction, u_folding, same⟩ :=
    steps_exchange apart hs hu
  obtain ⟨v', hv', v_program, v_foldings⟩ := foldFrom_ok_congr hv fun o _ => same o
  have second : p.foldFrom u'.known (x :: rest) = .ok _ :=
    foldFrom_cons_ok_iff.mpr ⟨s', v', hs', hv', rfl⟩
  refine ⟨_, foldFrom_cons_ok_iff.mpr ⟨u', _, hu', second, rfl⟩, [], v.program, s.instruction,
    u.instruction, [], v.foldings, rfl, rfl, ?_, ?_, ?_⟩
  · simp [u_instruction, s_instruction, v_program]
  · simp [← step_entry? hs, ← step_entry? hu]
  · simp [← step_entry? hs, ← step_entry? hu, s_folding, u_folding, v_foldings]

theorem fold_ok_exchange {p : Policies} {x y : Instruction} (apart : x.Independent y)
    {before after : Program} {r : Folded} (ok : p.fold (before ++ [x, y] ++ after) = .ok r) :
    ∃ t, p.fold (before ++ [y, x] ++ after) = .ok t ∧ r.Exchanged x y before.length t := by
  rw [fold, List.append_assoc] at ok
  obtain ⟨q, w, hq, hw, rfl⟩ := foldFrom_append_ok_iff.mp ok
  obtain ⟨v, hv, swapped⟩ := foldFrom_exchange apart hw
  refine ⟨q.append v, ?_, ?_⟩
  · rw [fold, List.append_assoc]
    exact foldFrom_append_ok_iff.mpr ⟨q, v, hq, hv, rfl⟩
  · have place := foldFrom_length hq
    have shifted := swapped.after q
    rwa [place, Nat.add_zero] at shifted

/-- Two neighbours that are independent may change places: one order succeeds if the other one
does, and only these two instructions and their entries in the log change places. -/
theorem fold_exchange (p : Policies) (before after : Program) (x y : Instruction)
    (apart : x.Independent y) :
    ((∃ r, p.fold (before ++ [x, y] ++ after) = .ok r) ↔
      ∃ t, p.fold (before ++ [y, x] ++ after) = .ok t) ∧
    ∀ r t, p.fold (before ++ [x, y] ++ after) = .ok r →
      p.fold (before ++ [y, x] ++ after) = .ok t → r.Exchanged x y before.length t := by
  refine ⟨⟨?_, ?_⟩, ?_⟩
  · rintro ⟨r, ok⟩
    obtain ⟨t, ht, _⟩ := fold_ok_exchange apart ok
    exact ⟨t, ht⟩
  · rintro ⟨t, ok⟩
    obtain ⟨r, hr, _⟩ := fold_ok_exchange apart.symm ok
    exact ⟨r, hr⟩
  · intro r t hr ht
    obtain ⟨t', ht', swapped⟩ := fold_ok_exchange apart hr
    cases ht.symm.trans ht'
    exact swapped

def raised : Instruction := { operator := .add, left := "a", right := some "3", result := "a" }
def multiplied : Instruction := { operator := .mul, left := "4", right := some "5", result := "b" }

def raisedFrom : Program := [{ left := "2", result := "a" }]
def subtracted : Program := [{ operator := .sub, left := "a", right := some "b", result := "c" }]

theorem fold_exchange_raised :
    raised.Independent multiplied ∧
    ∃ r t, Policies.fold {} (raisedFrom ++ [raised, multiplied] ++ subtracted) = .ok r ∧
      Policies.fold {} (raisedFrom ++ [multiplied, raised] ++ subtracted) = .ok t ∧
      r.foldings.map Folding.text =
        ["Folded a + 3 -> 5", "Folded 4 * 5 -> 20", "Folded a - b -> -15"] ∧
      t.foldings.map Folding.text =
        ["Folded 4 * 5 -> 20", "Folded a + 3 -> 5", "Folded a - b -> -15"] ∧
      r.Exchanged raised multiplied 1 t := by
  have apart : raised.Independent multiplied := ⟨by decide, by decide, by decide⟩
  obtain ⟨_, swapped⟩ := fold_exchange {} raisedFrom subtracted raised multiplied apart
  exact ⟨apart, _, _, rfl, rfl, by decide, by decide, swapped _ _ rfl rfl⟩

end Policies

end QuadFold
