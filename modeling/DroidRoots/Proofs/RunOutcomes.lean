import DroidRoots.Command
import DroidRoots.Proofs.HierarchyLoading
import DroidRoots.Proofs.JsonTexts
import DroidRoots.Proofs.SessionHistory

/-! How a run ends. A run makes all that it needs before it asks about any class, and discovery does
not depend on how its state came about. So the end of a run, and of the command around it, follows
from the files alone. -/

namespace DroidRoots

structure State.IsFresh (s : State) : Prop where
  closures : s.closures = []
  roles : s.roles = []

theorem State.IsFresh.faithful {s : State} (fresh : s.IsFresh) (h : Hierarchy) (c : Classifier) :
    s.Faithful h c where
  closures e member := by
    rw [fresh.closures] at member
    exact absurd member List.not_mem_nil
  roles e member := by
    rw [fresh.roles] at member
    exact absurd member List.not_mem_nil

def Prepares {α : Type} (x : Analysis α) (outcome : Except Fault α) : Prop :=
  ∀ s, s.IsFresh → (x.run.run s).1 = outcome ∧ (x.run.run s).2.IsFresh

def Ends {α : Type} (x : Analysis α) (outcome : Except Fault α) : Prop :=
  ∀ s, s.IsFresh → (x.run.run s).1 = outcome

variable {α β : Type} {x : Analysis α} {f : α → Analysis β} {outcome : Except Fault α}

theorem Prepares.ofExcept (outcome : Except Fault α) :
    Prepares (Analysis.ofExcept outcome) outcome := by
  intro s fresh
  cases outcome with
  | ok a => exact ⟨rfl, fresh⟩
  | error fault => exact ⟨rfl, fresh⟩

namespace Ends

theorem bind {next : α → Except Fault β} (first : Prepares x outcome)
    (rest : ∀ a, Ends (f a) (next a)) : Ends (x >>= f) (outcome >>= next) := by
  intro s fresh
  obtain ⟨value, still⟩ := first s fresh
  rw [ExceptT.run_bind, Analysis.state_bind_run, value]
  cases outcome with
  | ok a => exact rest a _ still
  | error fault => rfl

theorem lift_bind {y : StateM State α} {a : α} {last : Except Fault β}
    (value : ∀ s, s.IsFresh → (y.run s).1 = a ∧ (y.run s).2.IsFresh) (rest : Ends (f a) last) :
    Ends ((liftM y : Analysis α) >>= f) last := by
  intro s fresh
  obtain ⟨same, still⟩ := value s fresh
  have lifted : (liftM y : Analysis α).run.run s = (.ok (y.run s).1, (y.run s).2) := rfl
  rw [ExceptT.run_bind, Analysis.state_bind_run, lifted, same]
  exact rest _ still

theorem map {g : α → β} (whole : Ends x outcome) :
    Ends (x >>= fun a => pure (g a)) (outcome >>= fun a => .ok (g a)) := by
  intro s fresh
  rw [ExceptT.run_bind, Analysis.state_bind_run, whole s fresh]
  cases outcome <;> rfl

theorem inSpan {name : Text} {attributes : List (Text × Value)} (inner : Ends x outcome) :
    Ends (Analysis.inSpan name attributes x) outcome :=
  fun s fresh => inner { s with current := some name } ⟨fresh.closures, fresh.roles⟩

end Ends

def Hierarchy.loaded (files : FileTree) (name : Text) : Except Fault (Option Hierarchy) :=
  match (files.readJson (Path.ofText name)).bind Hierarchy.ofValue with
  | .ok h => .ok (some h)
  | .error fault => if isFatal fault then .error fault else .ok none

theorem Hierarchy.load_run (files : FileTree) (name : Text) (s : State) :
    ∃ notices, (load files name).run.run s = (loaded files name, { s with notices }) := by
  rw [loaded]
  cases read : (files.readJson (Path.ofText name)).bind ofValue with
  | ok h => exact ⟨s.notices, load_of_ok read⟩
  | error fault =>
    cases fatal : isFatal fault with
    | true => exact ⟨s.notices, by simpa [fatal] using load_of_fatal read fatal⟩
    | false => exact ⟨_, by simpa [fatal] using load_of_not_fatal read fatal⟩

theorem Hierarchy.load_prepares (files : FileTree) (name : Text) :
    Prepares (load files name) (loaded files name) := by
  intro s fresh
  obtain ⟨notices, ended⟩ := load_run files name s
  rw [ended]
  exact ⟨rfl, fresh.closures, fresh.roles⟩

def Classifier.ofHierarchy (hierarchy : Option Hierarchy) : Classifier :=
  .ofResolver (hierarchy.map .hierarchy) (hierarchy.getD .empty).resolve

namespace Run

theorem noteAll_run (notices : List Notice) (s : State) :
    (forIn notices PUnit.unit fun notice _ => do
      Analysis.note notice
      pure (ForInStep.yield PUnit.unit) : StateM State PUnit).run s =
        (PUnit.unit, { s with notices := s.notices ++ notices }) := by
  induction notices generalizing s with
  | nil =>
    rw [List.append_nil]
    rfl
  | cons notice rest ih =>
    have first : (Analysis.note notice).run s =
        ((), { s with notices := s.notices ++ [notice] }) := rfl
    rw [List.forIn_cons, bind_assoc, Analysis.state_bind_run, first]
    simpa using ih { s with notices := s.notices ++ [notice] }

theorem classifier_run (hierarchy : Option Hierarchy) (s : State) :
    (classifier hierarchy).run s = (.ofHierarchy hierarchy, { s with
      notices := s.notices ++ Classifier.omissions (hierarchy.getD .empty).resolve }) := by
  rw [classifier, Analysis.state_bind_run, noteAll_run]
  rfl

/-- How a run ends, by what its files hold and by the catalog that it gets. -/
def concluded (files : FileTree) (hierarchyFile graphFile : Text) (catalog : Except Fault Catalog) :
    Except Fault RunReport := do
  let hierarchy ← Hierarchy.loaded files hierarchyFile
  let catalog ← catalog
  let callGraph ← files.readJson (Path.ofText graphFile)
  let report ← Discovery.outcome (.ofHierarchy hierarchy) catalog callGraph none
  return {
    report
    available := hierarchy.isSome
    classCount := (hierarchy.map Hierarchy.size).getD 0
    catalogVersion := catalog.version }

theorem exists_of_concluded {files : FileTree} {hierarchyFile graphFile : Text}
    {catalog : Except Fault Catalog} {r : RunReport}
    (ended : concluded files hierarchyFile graphFile catalog = .ok r) :
    ∃ hierarchy k callGraph, Hierarchy.loaded files hierarchyFile = .ok hierarchy ∧
      catalog = .ok k ∧ files.readJson (Path.ofText graphFile) = .ok callGraph ∧
      Discovery.outcome (.ofHierarchy hierarchy) k callGraph none = .ok r.report ∧
      r.catalogVersion = k.version := by
  obtain ⟨hierarchy, loaded, ended⟩ := Outcome.bind_ok ended
  obtain ⟨k, made, ended⟩ := Outcome.bind_ok ended
  obtain ⟨callGraph, read, ended⟩ := Outcome.bind_ok ended
  obtain ⟨report, found, ended⟩ := Outcome.bind_ok ended
  obtain rfl := Except.ok.inj ended
  exact ⟨hierarchy, k, callGraph, loaded, made, read, found, rfl⟩

theorem isOver_ofHierarchy (hierarchy : Option Hierarchy) :
    (Classifier.ofHierarchy hierarchy).IsOver (hierarchy.getD .empty) := by
  intro other asked
  cases hierarchy with
  | none => cases asked
  | some h =>
    cases asked
    rfl

theorem report_ends (files : FileTree) (run : Text) (settings : Document)
    (hierarchyFile graphFile : Text) :
    Ends (report files run settings hierarchyFile graphFile)
      (concluded files hierarchyFile graphFile (Catalog.ofSettings files settings)) := by
  rw [report]
  dsimp only
  refine .lift_bind (a := ()) (fun s fresh => ⟨rfl, fresh.closures, fresh.roles⟩) (.inSpan ?_)
  refine .bind (Hierarchy.load_prepares files hierarchyFile) fun hierarchy => ?_
  refine .bind (.ofExcept _) fun k => ?_
  refine .lift_bind (a := .ofHierarchy hierarchy) (fun s fresh => ?_) ?_
  · rw [classifier_run]
    exact ⟨rfl, fresh.closures, fresh.roles⟩
  refine .bind (.ofExcept _) fun callGraph => .map fun s fresh => ?_
  have decided := Discovery.run_decides (isOver_ofHierarchy hierarchy) k callGraph none
  exact (decided s (fresh.faithful _ _)).1

end Run

namespace Command

theorem deliver_inside {out : Option Text} (inside : out.getD [] = []) (files : FileTree)
    (r : RunReport) : deliver files out r = .ok (render r ++ "\n", none) := by
  rcases out with _ | _ | _
  · rfl
  · rfl
  · cases inside

theorem isAscii_printed (r : RunReport) : Text.IsAscii (render r ++ "\n") :=
  (Json.isAscii_pretty _).append (Text.isAscii_of (by decide))

theorem told_inside (w : World) {out : Option Text} (inside : out.getD [] = []) (r : RunReport) :
    told w out (.ok r) = (.finished, render r ++ "\n", none) := by
  have delivered : Except.bind (.ok r) (deliver w.files out) = .ok (render r ++ "\n", none) :=
    deliver_inside inside w.files r
  rw [told, delivered]
  exact if_pos (w.console.takes_ascii _ (isAscii_printed r))

theorem execute_told (w : World) (o : Options) (p : Plan) :
    let ended := execute w o p
    (ended.ending, ended.output, ended.written) = told w o.out
      (Run.concluded w.files o.classHierarchy o.callGraph
        (Catalog.ofSettings w.files p.settings.document)) := by
  intro ended
  obtain ⟨result, state, ran⟩ : ∃ result state, (Run.report w.files w.run p.settings.document
      o.classHierarchy o.callGraph).run.run {} = (result, state) := ⟨_, _, rfl⟩
  have value := Run.report_ends w.files w.run p.settings.document o.classHierarchy o.callGraph {}
    ⟨rfl, rfl⟩
  rw [ran] at value
  simp only [ended, execute, ran, ← value]

end Command

end DroidRoots
