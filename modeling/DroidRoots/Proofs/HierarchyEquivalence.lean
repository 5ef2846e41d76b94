import DroidRoots.Proofs.HierarchyListings
import DroidRoots.Proofs.SessionHistory

/-! Hierarchies that cannot be told apart. What is listed beyond the direct supertypes of a class
adds nothing as long as chains of direct ones lead to it. Documents that differ in no more than
that and in the spelling of their entries are answered alike, whatever is requested. -/

namespace DroidRoots

namespace Hierarchy

/-- One hierarchy gives the same classes as another and lists what the other lists, and beyond
that only what the other computes. -/
structure Completes (g h : Hierarchy) : Prop where
  classes : ∀ name, name ∈ g.listed.map (·.1) ↔ name ∈ h.listed.map (·.1)
  more : ∀ name upper, h.Lists name upper → g.Lists name upper
  within : ∀ name upper, g.Lists name upper → upper ∈ h.supertypes name

namespace Completes
variable {g h : Hierarchy} {name upper : Text}

theorem below_iff (complete : g.Completes h) : g.Below name upper ↔ h.Below name upper := by
  constructor
  · intro chain
    induction chain with
    | single listed => exact (mem_supertypes.1 (complete.within _ _ listed)).2
    | tail _ listed ih => exact ih.trans (mem_supertypes.1 (complete.within _ _ listed)).2
  · exact Relation.TransGen.mono complete.more name upper

theorem supertypes_eq (complete : g.Completes h) : g.supertypes = h.supertypes := by
  funext name
  apply NameSet.ext_mem
  intro upper
  rw [mem_supertypes, mem_supertypes, complete.below_iff]

theorem stores_eq (complete : g.Completes h) : g.stores = h.stores := by
  funext child parent
  rw [stores, stores, complete.supertypes_eq]

end Completes

theorem knows_iff {h : Hierarchy} {name : Text} : h.knows name = true ↔
    name = Framework.rootType ∨ name ∈ h.listed.map (·.1) ∨ ∃ lower, h.Lists lower name := by
  simp only [knows, Lists, Bool.or_eq_true, decide_eq_true_iff, List.any_eq_true, List.mem_map]
  constructor
  · rintro (root | ⟨e, member, own | listed⟩)
    · exact .inl root
    · exact .inr (.inl ⟨e, member, own⟩)
    · exact .inr (.inr ⟨e.1, e.2, member, listed⟩)
  · rintro (root | ⟨e, member, own⟩ | ⟨lower, uppers, member, listed⟩)
    · exact .inl root
    · exact .inr ⟨e, member, .inl own⟩
    · exact .inr ⟨_, member, .inr listed⟩

namespace Completes
variable {g h : Hierarchy}

theorem knows_eq (complete : g.Completes h) : g.knows = h.knows := by
  funext name
  rw [Bool.eq_iff_iff, knows_iff, knows_iff, complete.classes]
  constructor
  · rintro (root | given | ⟨lower, listed⟩)
    · exact .inl root
    · exact .inr (.inl given)
    · exact knows_iff.1 (knows_of_mem_supertypes (complete.within _ _ listed))
  · rintro (root | given | ⟨lower, listed⟩)
    · exact .inl root
    · exact .inr (.inl given)
    · exact .inr (.inr ⟨lower, complete.more _ _ listed⟩)

theorem resolve_eq (complete : g.Completes h) : g.resolve = h.resolve := by
  funext name
  rw [resolve, resolve, complete.knows_eq]

theorem size_eq (complete : g.Completes h) (once : (g.listed.map (·.1)).Nodup)
    (single : (h.listed.map (·.1)).Nodup) : g.size = h.size := by
  have same : (g.listed.map (·.1)).Perm (h.listed.map (·.1)) :=
    (List.perm_ext_iff_of_nodup once single).2 complete.classes
  simpa [size] using same.length_eq

end Completes

end Hierarchy

section Congruence
variable {c d : Classifier}

theorem EntryPoint.holds_congr (same : c.roleIn = d.roleIn) (k : Catalog) :
    holds c k = holds d k := by
  funext m
  rw [holds, holds, same]

theorem EntryPoint.consider_congr (same : c.roleIn = d.roleIn) (k : Catalog) :
    consider c k = consider d k := by
  funext found signature
  rw [consider, consider]
  cases Method.parse signature with
  | error fault => rfl
  | ok m => simp only [holds_congr same k]

theorem EntryPoint.filtered_congr (same : c.roleIn = d.roleIn) (k : Catalog) :
    filtered c k = filtered d k := by
  funext value
  simp only [filtered, selected, consider_congr same k]

theorem Discovery.outcome_congr (same : c.roleIn = d.roleIn) (k : Catalog) :
    outcome c k = outcome d k := by
  funext callGraph given
  simp only [outcome, examined, EntryPoint.selected, EntryPoint.consider_congr same k, reportOn,
    same]

end Congruence

namespace Session
open Hierarchy
variable {g h : Hierarchy}

theorem roleIn_of_completes (complete : g.Completes h) (degraded : Bool) (k : Catalog) :
    (ofHierarchy g g.resolve degraded k).classifier.roleIn =
      (ofHierarchy h h.resolve degraded k).classifier.roleIn := by
  funext name
  rw [complete.resolve_eq]
  cases degraded with
  | true => rfl
  | false => simp [ofHierarchy, Classifier.ofResolver, Classifier.roleIn, Oracle.stores,
      complete.stores_eq]

theorem isApplicationIn_of_completes (complete : g.Completes h) (degraded : Bool) (k : Catalog) :
    (ofHierarchy g g.resolve degraded k).classifier.isApplicationIn =
      (ofHierarchy h h.resolve degraded k).classifier.isApplicationIn := by
  funext name
  rw [complete.resolve_eq]
  cases degraded with
  | true => rfl
  | false =>
    simp only [ofHierarchy, Classifier.ofResolver, Classifier.isApplicationIn]
    cases h.resolve Framework.applicationType with
    | none => rfl
    | some application => simp [Oracle.stores, complete.stores_eq]

theorem outcome_of_completes (complete : g.Completes h) (size : g.size = h.size) (degraded : Bool)
    (k : Catalog) :
    (ofHierarchy g g.resolve degraded k).outcome =
      (ofHierarchy h h.resolve degraded k).outcome := by
  funext request
  have roles := roleIn_of_completes complete degraded k
  have applications := isApplicationIn_of_completes complete degraded k
  cases request with
  | resolve name => simp [outcome, ofHierarchy, complete.resolve_eq]
  | knows name => simp [outcome, ofHierarchy, complete.knows_eq]
  | size => simp [outcome, ofHierarchy, size]
  | stores child parent => simp [outcome, ofHierarchy, complete.stores_eq]
  | supertypes name => simp [outcome, ofHierarchy, complete.supertypes_eq]
  | role name => simp only [outcome, roles]
  | isApplication name => simp only [outcome, applications]
  | classify names => simp only [outcome, roles]
  | keptRoles => rfl
  | degraded => cases degraded <;> rfl
  | queries => rfl
  | entrySignature signature =>
    simp only [outcome, EntryPoint.holds_congr roles]
    rfl
  | entryMethod method =>
    cases method with
    | none => rfl
    | some m =>
      simp only [outcome, EntryPoint.holds_congr roles]
      rfl
  | filter signatures =>
    simp only [outcome, EntryPoint.filtered_congr roles]
    rfl
  | discover callGraph given =>
    simp only [outcome, Discovery.outcome_congr roles]
    rfl
  | methodsFor role => rfl
  | contains role subsignature => rfl

/-- Two documents give the same classes, and the fuller one lists what the other lists and beyond
that only supertypes that the other hierarchy computes. Then the hierarchies compute the same,
whatever the spelling of the entries, and sessions over them give each class the same role and
each request the same answer, whatever was requested before. -/
theorem completed_interchangeable (direct full : Value) (h g : Hierarchy)
    (read : Hierarchy.ofValue direct = .ok h) (readFull : Hierarchy.ofValue full = .ok g)
    (classes : ∀ name, (entryOf? name full).isSome = (entryOf? name direct).isSome)
    (more : ∀ name upper, Names direct name upper → Names full name upper)
    (within : ∀ name upper, Names full name upper → upper ∈ h.supertypes name) :
    (∀ name, g.supertypes name = h.supertypes name) ∧
    (∀ child parent, g.stores child parent = h.stores child parent) ∧
    (∀ name, g.resolve name = h.resolve name) ∧ (∀ name, g.knows name = h.knows name) ∧
    g.size = h.size ∧
    ∀ (degraded : Bool) (k : Catalog) (earlier later : List Request),
      let s := ofHierarchy h h.resolve degraded k
      let t := ofHierarchy g g.resolve degraded k
      (∀ name, ((t.classifier.roleOf name).run (t.after later {})).1 =
        ((s.classifier.roleOf name).run (s.after earlier {})).1) ∧
      ∀ request, request.isMeter = false →
        ((t.answer request).run.run (t.after later {})).1 =
          ((s.answer request).run.run (s.after earlier {})).1 := by
  have complete : g.Completes h := by
    refine ⟨fun name => ?_, fun name upper => ?_, fun name upper => ?_⟩
    · rw [mem_map_listed readFull, mem_map_listed read, classes]
    · rw [lists_iff_names read, lists_iff_names readFull]
      exact more name upper
    · rw [lists_iff_names readFull]
      exact within name upper
  have size : g.size = h.size := complete.size_eq (nodup_listed readFull) (nodup_listed read)
  refine ⟨congrFun complete.supertypes_eq,
    fun child => congrFun (congrFun complete.stores_eq child),
    congrFun complete.resolve_eq, congrFun complete.knows_eq, size, ?_⟩
  intro degraded k earlier later s t
  have sound : s.classifier.IsOver h := isOver_ofHierarchy h h.resolve degraded k
  have soundFull : t.classifier.IsOver g := isOver_ofHierarchy g g.resolve degraded k
  constructor
  · intro name
    rw [roleOf_after (s := t) soundFull, roleOf_after (s := s) sound]
    exact congrFun (roleIn_of_completes complete degraded k) name
  · intro request plain
    have fuller := (answer_decides (s := t) soundFull plain _ (faithful_after soundFull later)).1
    have given := (answer_decides (s := s) sound plain _ (faithful_after sound earlier)).1
    rw [fuller, given]
    exact congrFun (outcome_of_completes complete size degraded k) request

theorem completed_interchangeable_cycle :
    let direct := Value.record [("classes", .record [
      ("a.B", .record [("superclass", .text "c.D"), ("interfaces", .null)]),
      ("c.D", .list [.text "a.B", .text "", .text "android.app.Service"])])]
    let full := Value.record [("classes", .record [
      ("c.D", .record [("supertypes", .list [.text "android.app.Service", .text "c.D"]),
        ("interfaces", .list [.text "a.B"])]),
      ("a.B", .list [.text "android.app.Service", .text "c.D"])])]
    let h : Hierarchy := ⟨[("a.B", .ofList ["c.D"]),
      ("c.D", .ofList ["a.B", "android.app.Service"])]⟩
    let g : Hierarchy := ⟨[("c.D", .ofList ["a.B", "android.app.Service"]),
      ("a.B", .ofList ["c.D", "android.app.Service"])]⟩
    let s := ofHierarchy h h.resolve false Catalog.builtin
    let t := ofHierarchy g g.resolve false Catalog.builtin
    Hierarchy.ofValue direct = .ok h ∧ Hierarchy.ofValue full = .ok g ∧
      ¬Names direct "a.B" "android.app.Service" ∧ Names full "a.B" "android.app.Service" ∧
      g.size = h.size ∧ ((t.classifier.roleOf "a.B").run (t.after [.role "c.D"] {})).1 = .service ∧
      ((s.classifier.roleOf "a.B").run (s.after [] {})).1 = .service := by
  intro direct full h g s t
  have read : Hierarchy.ofValue direct = .ok h := rfl
  have readFull : Hierarchy.ofValue full = .ok g := rfl
  have classes (name : Text) : (entryOf? name full).isSome = (entryOf? name direct).isSome := by
    rw [Bool.eq_iff_iff, ← mem_map_listed readFull, ← mem_map_listed read]
    simp [h, g, or_comm]
  have more (name upper : Text) (named : Names direct name upper) : Names full name upper := by
    have every : ∀ e ∈ h.listed, ∀ upper ∈ e.2.toList, g.Lists e.1 upper := by decide +kernel
    obtain ⟨e, given, rfl, member⟩ := lists_iff.1 ((lists_iff_names read).2 named)
    exact (lists_iff_names readFull).1 (every e given upper member)
  have within (name upper : Text) (named : Names full name upper) : upper ∈ h.supertypes name := by
    have every : ∀ e ∈ g.listed, ∀ upper ∈ e.2.toList, upper ∈ h.supertypes e.1 := by decide +kernel
    obtain ⟨e, given, rfl, member⟩ := lists_iff.1 ((lists_iff_names readFull).2 named)
    exact every e given upper member
  have same := completed_interchangeable direct full h g read readFull classes more within
  have role : ((s.classifier.roleOf "a.B").run (s.after [] {})).1 = .service := by decide +kernel
  have stated := (same.2.2.2.2.2 false Catalog.builtin [] [.role "c.D"]).1 "a.B"
  refine ⟨read, readFull, ?_, ?_, same.2.2.2.2.1, stated.trans role, role⟩
  · rw [← lists_iff_names read]
    decide +kernel
  · rw [← lists_iff_names readFull]
    decide +kernel

end Session

end DroidRoots
