import Mathlib.Data.Finset.Card
import Mathlib.Data.Finset.Dedup
import Mathlib.Data.List.Induction
import QuadFold.Proofs.Numerals
import QuadFold.Constants

/-! Known constants as a finite map. Each name has one entry at most and the entries are in order,
so a collection is told by its look-ups, and these by the last update of each name. -/
namespace QuadFold

namespace Sorted

theorem names_nodup {entries : List (String × Int64)} (sorted : IsSorted entries) :
    (entries.map Prod.fst).Nodup := by
  rw [List.Nodup, List.pairwise_map]
  apply List.Pairwise.imp _ sorted
  intro e e' less same
  exact String.lt_irrefl _ (same ▸ less)

theorem mem_iff_get? {entries : List (String × Int64)} (sorted : IsSorted entries) (name : String)
    (value : Int64) : (name, value) ∈ entries ↔ get? name entries = some value := by
  induction entries with
  | nil => simp [get?]
  | cons head rest ih =>
    obtain ⟨above, tail⟩ := List.pairwise_cons.mp sorted
    rw [List.mem_cons, ih tail, get?]
    by_cases here : head.1 = name
    · have later : get? name rest ≠ some value := by
        intro found
        have less := above _ ((ih tail).mpr found)
        exact String.lt_irrefl _ (here ▸ less)
      simp [here, later, Prod.ext_iff, eq_comm]
    · simp [here, Prod.ext_iff, Ne.symm here]

theorem eq_of_get? {entries entries' : List (String × Int64)} (sorted : IsSorted entries)
    (sorted' : IsSorted entries') (same : ∀ name, get? name entries = get? name entries') :
    entries = entries' := by
  have members (e : String × Int64) : e ∈ entries ↔ e ∈ entries' := by
    rw [mem_iff_get? sorted, mem_iff_get? sorted', same]
  have permuted : entries.Perm entries' :=
    (List.perm_ext_iff_of_nodup (names_nodup sorted).of_map (names_nodup sorted').of_map).mpr
      members
  apply permuted.eq_of_pairwise _ sorted sorted'
  intro e e' _ _ less greater
  exact absurd greater (String.lt_asymm less)

end Sorted

namespace Constants

theorem ext_get? {known known' : Constants} (same : ∀ name, known.get? name = known'.get? name) :
    known = known' := by
  obtain ⟨entries, sorted⟩ := known
  obtain ⟨entries', sorted'⟩ := known'
  obtain rfl : entries = entries' := Sorted.eq_of_get? sorted sorted' same
  rfl

def names (known : Constants) : Finset String := (known.entries.map Prod.fst).toFinset

theorem mem_names (known : Constants) (name : String) :
    name ∈ known.names ↔ (known.get? name).isSome = true := by
  simp only [names, List.mem_toFinset, List.mem_map, Prod.exists, exists_and_right, exists_eq_right,
    Sorted.mem_iff_get? known.sorted, Option.isSome_iff_exists, get?]

theorem card_names (known : Constants) : known.names.card = known.size := by
  rw [names, List.toFinset_card_of_nodup (Sorted.names_nodup known.sorted), List.length_map, size]

theorem isEmpty_iff_names (known : Constants) : known.isEmpty = true ↔ known.names = ∅ := by
  simp [isEmpty, names]

inductive Update
  | bind (name : String) (value : Int64)
  | forget (name : String)

namespace Update

def name : Update → String
  | bind name _ => name
  | forget name => name

def value? : Update → Option Int64
  | bind _ value => some value
  | forget _ => none

def last? (updates : List Update) (name : String) : Option Update :=
  (updates.filter (·.name = name)).getLast?

/-- The names whose last update gives a value. -/
def boundNames (updates : List Update) : Finset String :=
  {name ∈ (updates.map Update.name).toFinset | ((last? updates name).bind value?).isSome = true}

theorem last?_concat (updates : List Update) (u : Update) (name : String) :
    last? (updates ++ [u]) name = if u.name = name then some u else last? updates name := by
  by_cases here : u.name = name <;> simp [last?, List.filter_append, here]

theorem mem_of_last? {updates : List Update} {name : String} {u : Update}
    (last : last? updates name = some u) : u ∈ updates ∧ u.name = name := by
  have member := List.mem_of_getLast? last
  simpa using member

theorem mem_boundNames (updates : List Update) (name : String) :
    name ∈ boundNames updates ↔ ((last? updates name).bind value?).isSome = true := by
  rw [boundNames, Finset.mem_filter, List.mem_toFinset, List.mem_map, and_iff_right_iff_imp]
  intro bound
  obtain ⟨value, given⟩ := Option.isSome_iff_exists.mp bound
  obtain ⟨u, last, _⟩ := Option.bind_eq_some_iff.mp given
  exact ⟨u, mem_of_last? last⟩

end Update

def update (known : Constants) : Update → Constants
  | .bind name value => known.bind name value
  | .forget name => known.forget name

def ofUpdates (updates : List Update) : Constants := updates.foldl update empty

theorem get?_update (known : Constants) (u : Update) (name : String) :
    (known.update u).get? name = if u.name = name then u.value? else known.get? name := by
  cases u with
  | bind other value => exact known.get?_bind other name value
  | forget other => exact known.get?_forget other name

theorem get?_ofUpdates (updates : List Update) (name : String) :
    (ofUpdates updates).get? name = (Update.last? updates name).bind Update.value? := by
  induction updates using List.reverseRecOn with
  | nil => rfl
  | append_singleton before u ih =>
    have stepped : ofUpdates (before ++ [u]) = (ofUpdates before).update u :=
      List.foldl_concat update empty u before
    rw [stepped, get?_update, Update.last?_concat, ih]
    split <;> rfl

theorem names_ofUpdates (updates : List Update) :
    (ofUpdates updates).names = Update.boundNames updates := by
  ext name
  rw [mem_names, get?_ofUpdates, Update.mem_boundNames]

theorem resolve_of_get? {known : Constants} {operand : Operand} {value : Int64}
    (bound : known.get? operand = some value) : known.resolve operand = Literal.text value := by
  rw [resolve, bound]

/-- The last update of each name is all that counts. What is looked up and counted follows from it
alone, and for an operand with a value stands the one decimal text of it without superfluous zeros
or sign; and collections are equal as soon as their look-ups are, whatever updates they came from
and in which order. -/
theorem constants_by_last_update (updates : List Update) :
    (∀ name, (ofUpdates updates).get? name = (Update.last? updates name).bind Update.value?) ∧
    (∀ name, (ofUpdates updates).isConstant name = true ↔
      ∃ value, (ofUpdates updates).get? name = some value) ∧
    (∀ operand, (ofUpdates updates).get? operand = none →
      (ofUpdates updates).resolve operand = operand) ∧
    (∀ operand value, (ofUpdates updates).get? operand = some value → ∀ t : Operand,
      Literal.Writes t.toList value.toInt ∧ Literal.isCanonical t.toList = true ↔
        t = (ofUpdates updates).resolve operand) ∧
    (ofUpdates updates).size = (Update.boundNames updates).card ∧
    ((ofUpdates updates).isEmpty = true ↔ Update.boundNames updates = ∅) ∧
    (∀ others, ofUpdates updates = ofUpdates others ↔
      ∀ name, (ofUpdates updates).get? name = (ofUpdates others).get? name) := by
  refine ⟨get?_ofUpdates updates, fun name => ?_, fun operand unknown => ?_,
    fun operand value bound t => ?_, ?_, ?_, fun others => ?_⟩
  · rw [isConstant, Option.isSome_iff_exists]
  · rw [resolve, unknown]
  · rw [resolve_of_get? bound]
    exact Literal.text_unique value t
  · rw [← names_ofUpdates, card_names]
  · rw [← names_ofUpdates, isEmpty_iff_names]
  · constructor
    · intro same name
      rw [same]
    · exact ext_get?

/-- A name that is bound twice, one that is forgotten and bound again, and one that stays
forgotten. -/
def rebinding : List Update :=
  [.bind "a" 7, .bind "c" (-3), .forget "b", .bind "b" 0, .forget "c", .bind "a" Int64.minValue]

theorem constants_by_last_update_rebinding :
    (ofUpdates rebinding).get? "a" = some Int64.minValue ∧
      (ofUpdates rebinding).resolve "a" = "-9223372036854775808" ∧
      (ofUpdates rebinding).get? "c" = none ∧ (ofUpdates rebinding).resolve "c" = "c" ∧
      (ofUpdates rebinding).isConstant "b" = true ∧ Update.boundNames rebinding = {"a", "b"} ∧
      (ofUpdates rebinding).size = 2 ∧ (ofUpdates rebinding).isEmpty = false ∧
      ofUpdates rebinding = ofUpdates [.bind "b" 0, .bind "a" Int64.minValue] := by
  obtain ⟨looked_up, known, stays, written, counted, nothing, same⟩ :=
    constants_by_last_update rebinding
  have lowest : (ofUpdates rebinding).get? "a" = some Int64.minValue := (looked_up "a").trans rfl
  have forgotten : (ofUpdates rebinding).get? "c" = none := (looked_up "c").trans rfl
  have writes : Literal.Writes "-9223372036854775808".toList Int64.minValue.toInt :=
    (Literal.denotation?_eq_some_iff _ _).mp (by decide +kernel)
  have bound : Update.boundNames rebinding = {"a", "b"} := by decide
  refine ⟨lowest, ((written "a" _ lowest _).mp ⟨writes, by decide⟩).symm, forgotten,
    stays "c" forgotten, (known "b").mpr ⟨0, looked_up "b"⟩, bound, ?_, ?_, (same _).mpr ?_⟩
  · rw [counted, bound]
    rfl
  · rw [Bool.eq_false_iff, ne_eq, nothing, bound]
    decide
  · intro name
    rw [looked_up, get?_ofUpdates]
    by_cases a : "a" = name
    · subst a
      rfl
    by_cases b : "b" = name
    · subst b
      rfl
    by_cases c : "c" = name <;> simp [rebinding, Update.last?, Update.name, Update.value?, a, b, c]

end Constants

end QuadFold
