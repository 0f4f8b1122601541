import QuadFold.CommandLine.Run
import QuadFold.Proofs.Files
import QuadFold.Proofs.Steps

/-! What a run of the command line leaves behind. Everything that can fail comes before the only
change of a file, and what is printed does not decide about anything. -/
namespace QuadFold

theorem FileTree.dump_ok_iff {t t' : FileTree} {path : String} {p : Program} :
    t.dump path p = .ok t' ↔
      ∃ place, t.target path = .ok place ∧ t' = t.set place (.file p.listing.toUTF8) := by
  rw [dump, Except.mapError_eq_ok_iff, write_ok_iff]

namespace CommandLine

section
variable {α β : Type} {out done mid : String}

theorem run_bind {m : Narrated α} {a : α} (first : m.run.run out = (.ok a, mid))
    (f : α → Narrated β) : (m >>= f).run.run out = (f a).run.run mid := by
  rw [ExceptT.run_bind, StateT.run_bind, first]
  rfl

theorem bind_ok {m : Narrated α} {f : α → Narrated β} {b : β}
    (ok : (m >>= f).run.run out = (.ok b, done)) :
    ∃ a mid, m.run.run out = (.ok a, mid) ∧ (f a).run.run mid = (.ok b, done) := by
  cases first : m.run.run out with
  | mk answer mid =>
    cases answer with
    | error e =>
      rw [ExceptT.run_bind, StateT.run_bind, first] at ok
      cases ok
    | ok a =>
      rw [run_bind first] at ok
      exact ⟨a, mid, rfl, ok⟩

theorem run_say (text : String) : (say text).run.run out = (.ok (), out ++ text) := rfl

theorem run_attempt {x : Except Failure α} {a : α} (h : x = .ok a) :
    (attempt x).run.run out = (.ok a, out) := by
  rw [h]
  rfl

theorem attempt_ok {x : Except Failure α} {a : α}
    (ok : (attempt x).run.run out = (.ok a, done)) : x = .ok a := by
  cases x with
  | error e => cases ok
  | ok b => cases ok; rfl

end

/-- Where the settings come from: the file that is named, which must be there; else the one beside
the program, if it is there; else nowhere. -/
inductive Stored (tree : FileTree) (a : Arguments) : Settings → Prop
  | named {path : String} {s : Settings} (given : a.settings = some path)
      (there : tree.isFile path = true) (read : tree.loadSettings path = .ok s) : Stored tree a s
  | beside {s : Settings} (given : a.settings = none)
      (there : tree.isFile (Files.withExtension a.file "env.yaml") = true)
      (read : tree.loadSettings (Files.withExtension a.file "env.yaml") = .ok s) : Stored tree a s
  | default (given : a.settings = none)
      (missing : tree.isFile (Files.withExtension a.file "env.yaml") = false) : Stored tree a {}

/-- The program of the file is folded with the policies of the arguments, and where there are none
with the stored ones. -/
def Computes (tree : FileTree) (a : Arguments) (r : Policies.Folded) : Prop :=
  ∃ s program, Stored tree a s ∧ tree.loadProgram a.file = .ok program ∧
    Policies.fold ⟨a.literals.getD s.policies.literals, a.malformed.getD s.policies.malformed⟩
      program = .ok r

def closing (paint : Paint) (r : Policies.Folded) : String :=
  let count := String.ofList (Nat.toDigits 10 r.foldings.length)
  paint.apply [.bold, .dim] "[3/3]" ++ (" Optimized program (" ++ count ++ " folded):\n") ++
    paint.apply [.green] r.program.listing

variable {paint : Paint} {tree : FileTree} {a : Arguments} {out done : String}

theorem storedSettings_of_stored {s : Settings} (stored : Stored tree a s) :
    ∃ mid, (storedSettings paint tree a).run.run out = (.ok s, mid) := by
  unfold storedSettings
  cases stored with
  | named given there read =>
    simp only [given, there, if_true]
    exact ⟨_, run_attempt read⟩
  | beside given there read =>
    simp only [given, there, if_true]
    exact ⟨_, (run_bind (run_say _) _).trans (run_attempt read)⟩
  | default given missing =>
    simp only [given, missing]
    exact ⟨_, rfl⟩

theorem stored_of_storedSettings {s : Settings}
    (ok : (storedSettings paint tree a).run.run out = (.ok s, done)) : Stored tree a s := by
  unfold storedSettings at ok
  split at ok
  · rename_i path given
    split at ok
    · rename_i there
      exact .named given there (attempt_ok ok)
    · cases ok
  · rename_i given
    dsimp only at ok
    split at ok
    · rename_i there
      obtain ⟨_, _, _, ok⟩ := bind_ok ok
      exact .beside given there (attempt_ok ok)
    · rename_i missing
      cases ok
      exact .default given (by simpa using missing)

theorem fold_of_computes {r : Policies.Folded} (computes : Computes tree a r) :
    ∃ before, (fold paint tree a).run.run out = (.ok r, before ++ closing paint r) := by
  obtain ⟨s, program, stored, loaded, folded⟩ := computes
  obtain ⟨mid, read⟩ : ∃ mid, (storedSettings paint tree a).run.run out = (.ok s, mid) :=
    storedSettings_of_stored stored
  unfold fold
  rw [run_bind read]
  extract_lets settings rest
  have outcome : (settings.policies.fold program).mapError Failure.program = .ok r :=
    Except.mapError_eq_ok_iff.mpr folded
  have finish (out : String) :
      ∃ before, (rest ()).run.run out = (.ok r, before ++ closing paint r) := by
    dsimp only [rest, stage]
    rw [run_bind (run_say _), run_bind (run_attempt loaded), run_bind (run_say _),
      run_bind (run_say _), run_bind (run_attempt outcome), run_bind (run_say _),
      run_bind (run_say _), run_bind (run_say _)]
    simp only [closing, ← String.append_assoc]
    exact ⟨_, rfl⟩
  split
  · rw [run_bind (run_say _)]
    exact finish _
  · exact finish _

theorem computes_of_fold {r : Policies.Folded}
    (ok : (fold paint tree a).run.run out = (.ok r, done)) : Computes tree a r := by
  unfold fold at ok
  obtain ⟨s, _, read, ok⟩ := bind_ok ok
  have stored := stored_of_storedSettings read
  extract_lets settings rest at ok
  have finish {out : String} (ok : (rest ()).run.run out = (.ok r, done)) : Computes tree a r := by
    dsimp only [rest] at ok
    obtain ⟨_, _, _, ok⟩ := bind_ok ok
    obtain ⟨program, _, loaded, ok⟩ := bind_ok ok
    obtain ⟨_, _, _, ok⟩ := bind_ok ok
    obtain ⟨_, _, _, ok⟩ := bind_ok ok
    obtain ⟨outcome, _, folded, ok⟩ := bind_ok ok
    obtain ⟨_, _, _, ok⟩ := bind_ok ok
    obtain ⟨_, _, _, ok⟩ := bind_ok ok
    obtain ⟨_, _, _, ok⟩ := bind_ok ok
    cases ok
    exact ⟨s, program, stored, attempt_ok loaded,
      Except.mapError_eq_ok_iff.mp (attempt_ok folded)⟩
  split at ok
  · obtain ⟨_, _, _, ok⟩ := bind_ok ok
    exact finish ok
  · exact finish ok

/-- Nothing stands in the way of a run: there is something to print, and a place for the output file
if one is asked for. -/
def Finishes (tree : FileTree) (a : Arguments) : Prop :=
  (∃ r, Computes tree a r) ∧ ∀ path, a.output = some path → ∃ place, tree.target path = .ok place

inductive Ends (paint : Paint) (tree : FileTree) (a : Arguments) : Outcome → Prop
  | failed {output : String} (hindered : ¬ Finishes tree a) :
      Ends paint tree a ⟨255, output, tree⟩
  | printed {r : Policies.Folded} {before : String} (computes : Computes tree a r)
      (given : a.output = none) : Ends paint tree a ⟨0, before ++ closing paint r, tree⟩
  | saved {r : Policies.Folded} {before path : String} {place : List String}
      (computes : Computes tree a r) (given : a.output = some path)
      (aimed : tree.target path = .ok place) :
      Ends paint tree a
        ⟨0, before ++ closing paint r, tree.set place (.file r.program.listing.toUTF8)⟩

theorem execute_ends (paint : Paint) (tree : FileTree) (a : Arguments) :
    Ends paint tree a (execute paint tree a) := by
  unfold execute
  split
  · rename_i e output failed
    refine .failed fun ⟨⟨r, computes⟩, _⟩ => ?_
    obtain ⟨before, ok⟩ := fold_of_computes computes
    rw [failed] at ok
    cases ok
  · rename_i r output ok
    have computes := computes_of_fold ok
    obtain ⟨before, again⟩ := fold_of_computes computes
    obtain rfl : output = before ++ closing paint r := congrArg Prod.snd (ok.symm.trans again)
    split
    · rename_i given
      exact .printed computes given
    · rename_i path given
      split
      · rename_i changed saved
        obtain ⟨place, aimed, rfl⟩ := FileTree.dump_ok_iff.mp saved
        exact .saved computes given aimed
      · rename_i e failed
        refine .failed fun ⟨_, creatable⟩ => ?_
        obtain ⟨place, aimed⟩ := creatable path given
        have saved : tree.dump path r.program =
            .ok (tree.set place (.file r.program.listing.toUTF8)) :=
          FileTree.dump_ok_iff.mpr ⟨place, aimed, rfl⟩
        rw [failed] at saved
        cases saved

/-- A run that fails changes no file; it fails exactly if something stands in its way. A run that
does not fail ends its output with the new program, and changes at most the file that was asked for,
which then holds that program. -/
theorem execute_changes_only_output (paint : Paint) (tree : FileTree) (a : Arguments) (o : Outcome)
    (ended : execute paint tree a = o) :
    (o.exit = 0 ↔ Finishes tree a) ∧
    (o.exit ≠ 0 → o.files = tree) ∧
    (o.exit = 0 → ∃ r, Computes tree a r ∧ (∃ before, o.output = before ++ closing paint r) ∧
      (a.output = none → o.files = tree) ∧
      ∀ path, a.output = some path → ∃ place, tree.target path = .ok place ∧
        o.files.find path = .ok (.file r.program.listing.toUTF8) ∧
        ∀ other, other ≠ place → o.files.nodeAt other = tree.nodeAt other) := by
  have ends := execute_ends paint tree a
  rw [ended] at ends
  cases ends with
  | failed hindered => exact ⟨by simp [hindered], fun _ => rfl, by simp⟩
  | @printed r before computes given =>
    have finishes : Finishes tree a := ⟨⟨r, computes⟩, by simp [given]⟩
    refine ⟨by simp [finishes], by simp, fun _ => ?_⟩
    exact ⟨r, computes, ⟨before, rfl⟩, fun _ => rfl, by simp [given]⟩
  | @saved r before path place computes given aimed =>
    have finishes : Finishes tree a := ⟨⟨r, computes⟩, by simpa [given] using ⟨place, aimed⟩⟩
    refine ⟨by simp [finishes], by simp, fun _ => ?_⟩
    refine ⟨r, computes, ⟨before, rfl⟩, by simp [given], fun path' given' => ?_⟩
    cases given.symm.trans given'
    have written : tree.write path r.program.listing =
        .ok (tree.set place (.file r.program.listing.toUTF8)) :=
      FileTree.write_ok_iff.mpr ⟨place, aimed, rfl⟩
    exact ⟨place, aimed, FileTree.find_of_write written,
      fun other apart => tree.nodeAt_set_of_ne _ apart.symm⟩

/-- A program with a malformed literal, and settings beside it that let it pass. -/
def desk : FileTree :=
  ((FileTree.empty ["work"]).set ["work", "p.tac"]
    (.file "a = 2\nb = a * 3\nc = 1- + b\n".toUTF8)).set ["work", "p.env.yaml"]
    (.file "malformed_literals: pass_through".toUTF8)

def inPlace : Arguments := { file := "p.tac", output := some "./p.tac" }

theorem execute_changes_only_output_inPlace :
    ∃ o, execute {} desk inPlace = o ∧ o.exit = 0 ∧
      o.files.text? "p.tac" = some "a = 2\nb = 6\nc = 1- + 6\n" ∧
      (∃ r, Computes desk inPlace r ∧ (∃ before, o.output = before ++ closing {} r) ∧
        o.files.find "./p.tac" = .ok (.file r.program.listing.toUTF8)) ∧
      (execute {} desk { inPlace with malformed := some .reject }).exit = 255 ∧
      (execute {} desk { inPlace with malformed := some .reject }).files = desk := by
  have ok : (execute {} desk inPlace).exit = 0 := by decide +kernel
  have refused : (execute {} desk { inPlace with malformed := some .reject }).exit = 255 := by
    decide +kernel
  obtain ⟨_, _, finished⟩ := execute_changes_only_output {} desk inPlace _ rfl
  obtain ⟨_, unchanged, _⟩ :=
    execute_changes_only_output {} desk { inPlace with malformed := some .reject } _ rfl
  obtain ⟨r, computes, printed, _, saved⟩ := finished ok
  obtain ⟨_, _, content, _⟩ := saved "./p.tac" rfl
  exact ⟨_, rfl, ok, by decide +kernel, ⟨r, computes, printed, content⟩, refused,
    unchanged (by rw [refused]; decide)⟩

end CommandLine

end QuadFold
