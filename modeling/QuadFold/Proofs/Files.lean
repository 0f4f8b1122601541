import QuadFold.Files.Tree

/-! What was written to a file is found there again. A path leads through directories only, and a
file is never made where a directory is, so the way to it stays as it was. -/
namespace QuadFold.FileTree

theorem lookup?_set_self (t : FileTree) {place : List String} (n : FileNode) (below : place ≠ []) :
    (t.set place n).lookup? place = some n := by
  simp [lookup?, set, below]

theorem lookup?_set_of_ne (t : FileTree) {place other : List String} (n : FileNode)
    (apart : place ≠ other) : (t.set place n).lookup? other = t.lookup? other := by
  have same : (t.set place n).nodes.find? (·.1 == other) = t.nodes.find? (·.1 == other) := by
    rw [set, List.find?_cons_of_neg (by simpa using apart), List.find?_filter]
    congr 1
    funext x
    by_cases found : x.1 = other <;> simp [found, Ne.symm apart]
  simp only [lookup?, same]

theorem nodeAt_set_of_ne (t : FileTree) {place other : List String} (n : FileNode)
    (apart : place ≠ other) : (t.set place n).nodeAt other = t.nodeAt other := by
  simp only [nodeAt, lookup?_set_of_ne t n apart]

@[simp] theorem start_set (t : FileTree) (place : List String) (n : FileNode) (path : String) :
    (t.set place n).start path = t.start path := rfl

theorem walk_set {t : FileTree} {changed : List String} (n : FileNode)
    (no_directory : t.nodeAt changed ≠ .ok .directory) {here place names : List String}
    (leads : t.walk here names = .ok place) : (t.set changed n).walk here names = .ok place := by
  induction names generalizing here with
  | nil => exact leads
  | cons name rest ih =>
    simp only [walk] at leads ⊢
    cases passed : t.nodeAt here with
    | error e => simp [passed] at leads
    | ok node =>
      cases node with
      | file bytes => simp [passed] at leads
      | directory =>
        have apart : changed ≠ here := by
          rintro rfl
          exact no_directory passed
        rw [nodeAt_set_of_ne t n apart, passed]
        simp only [passed] at leads ⊢
        split at leads
        · rename_i dot
          rw [if_pos dot]
          exact ih leads
        · rename_i no_dot
          rw [if_neg no_dot]
          split at leads
          · rename_i dots
            rw [if_pos dots]
            exact ih leads
          · rename_i no_dots
            rw [if_neg no_dots]
            exact ih leads

/-- A place where a file can be made is reached by the path, and is a place for files: it is not the
root, no directory, and has a name that can be looked up. -/
theorem target_ok {t : FileTree} {path : String} {place : List String}
    (ok : t.target path = .ok place) :
    Files.admit path = .ok () ∧ Files.asksDirectory path = false ∧
    t.walk (t.start path) (Files.components path) = .ok place ∧
    t.nodeAt place ≠ .ok .directory ∧ place ≠ [] ∧ place.getLast?.any Files.isLongName = false := by
  cases admitted : Files.admit path with
  | error e => simp [target, admitted, bind, Except.bind] at ok
  | ok _ =>
    cases leads : t.walk (t.start path) (Files.components path) with
    | error e => simp [target, admitted, leads, bind, Except.bind] at ok
    | ok reached =>
      simp only [target, admitted, leads, bind, Except.bind] at ok
      split at ok
      · contradiction
      · rename_i no_slash
        split at ok
        · contradiction
        · contradiction
        · rename_i no_directory short
          cases ok
          refine ⟨rfl, by simpa using no_slash, rfl, no_directory, ?_, ?_⟩
          · rintro rfl
            exact no_directory rfl
          · rw [Bool.eq_false_iff]
            intro long
            exact short (by simp [nodeAt, long])

theorem write_ok_iff {t t' : FileTree} {path text : String} : t.write path text = .ok t' ↔
    ∃ place, t.target path = .ok place ∧ t' = t.set place (.file text.toUTF8) := by
  cases aimed : t.target path <;>
    simp [write, aimed, bind, Except.bind, pure, Except.pure, eq_comm]

theorem find_of_write {t t' : FileTree} {path text : String} (ok : t.write path text = .ok t') :
    t'.find path = .ok (.file text.toUTF8) := by
  obtain ⟨place, aimed, rfl⟩ := write_ok_iff.mp ok
  obtain ⟨admitted, no_slash, leads, no_directory, below, short⟩ := target_ok aimed
  have reached := walk_set (.file text.toUTF8) no_directory leads
  have there : (t.set place (.file text.toUTF8)).nodeAt place = .ok (.file text.toUTF8) := by
    simp [nodeAt, short, lookup?_set_self t _ below]
  simp only [find, admitted, no_slash, Bool.false_eq_true, if_false, List.append_nil, start_set,
    reached, there, bind, Except.bind]

theorem text?_of_write {t t' : FileTree} {path text : String} (ok : t.write path text = .ok t') :
    t'.text? path = some text := by
  simp only [text?, find_of_write ok]
  exact dif_pos text.isValidUTF8

end QuadFold.FileTree
