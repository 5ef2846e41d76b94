import DroidRoots.Proofs.SessionHistory
import DroidRoots.Proofs.Subtyping
import Mathlib.Data.List.Find

/-! Roles by precedence. A class has the role of the first base type that can be resolved and
that the class can be stored as. Where a hierarchy resolves the base types itself, those that it
does not know make no difference, and no class comes later in the order than a supertype of it.
Applications come first, so the test for them, which asks about their base type alone, agrees
with the roles. -/

namespace DroidRoots

namespace Framework

def roleBy (applies : Text → Bool) : Role :=
  (baseTypes.find? fun entry => applies entry.2).elim .plain (·.1)

def rank? (applies : Text → Bool) : Option Nat :=
  baseTypes.findIdx? fun entry => applies entry.2

def roleAt (rank : Option Nat) : Role := (rank.bind (baseTypes[·]?)).elim .plain (·.1)

variable {p q : Text → Bool}

theorem roleBy_congr (same : ∀ entry ∈ baseTypes, p entry.2 = q entry.2) :
    roleBy p = roleBy q := by
  rw [roleBy, roleBy, List.find?_congr same]

theorem roleBy_eq_roleAt : roleBy p = roleAt (rank? p) := by
  rw [roleBy, roleAt]
  cases found : rank? p with
  | none =>
    have absent : ∀ entry ∈ baseTypes, p entry.2 = false := List.findIdx?_eq_none_iff.1 found
    have missing : baseTypes.find? (fun entry => p entry.2) = none :=
      List.find?_eq_none.2 fun entry member => by simp [absent entry member]
    rw [missing, Option.bind_none]
  | some i =>
    have place := (List.findIdx?_eq_some_iff_findIdx_eq.1 found).2
    rw [List.find?_eq_getElem?_findIdx, place, Option.bind_some]

theorem lt_length_of_rank? {i : Nat} (found : rank? p = some i) : i < baseTypes.length :=
  (List.findIdx?_eq_some_iff_findIdx_eq.1 found).1

theorem rank?_le (more : ∀ entry ∈ baseTypes, p entry.2 = true → q entry.2 = true) {i : Nat}
    (found : rank? p = some i) : ∃ j ≤ i, rank? q = some j := by
  obtain ⟨inside, place⟩ := List.findIdx?_eq_some_iff_findIdx_eq.1 found
  have earlier := List.findIdx_le_findIdx more
  rw [place] at earlier
  exact ⟨_, earlier, List.findIdx?_eq_some_iff_findIdx_eq.2 ⟨earlier.trans_lt inside, rfl⟩⟩

theorem roleAt_some : ∀ i < baseTypes.length,
    roleAt (some i) ≠ .plain ∧ (roleAt (some i) = .application ↔ i = 0) := by
  decide

theorem roleBy_ne_plain_iff : roleBy p ≠ .plain ↔ ∃ i, rank? p = some i := by
  rw [roleBy_eq_roleAt]
  cases found : rank? p with
  | none => simp [roleAt]
  | some i => simp [(roleAt_some i (lt_length_of_rank? found)).1]

theorem roleBy_eq_application_iff : roleBy p = .application ↔ rank? p = some 0 := by
  rw [roleBy_eq_roleAt]
  cases found : rank? p with
  | none => simp [roleAt]
  | some i => simp [(roleAt_some i (lt_length_of_rank? found)).2]

theorem rank?_eq_zero_iff : rank? p = some 0 ↔ p applicationType = true := by
  rw [rank?, baseTypes, List.findIdx?_cons]
  by_cases first : p applicationType = true <;> simp [first]

theorem ne_rootType_of_mem : ∀ entry ∈ baseTypes, entry.2 ≠ rootType := by decide

end Framework

namespace Classifier
open Framework

theorem roleIn_ofResolver (oracle : Oracle) (resolve : Text → Option Text) (name : Text) :
    (ofResolver (some oracle) resolve).roleIn name =
      roleBy fun base => (resolve base).any (oracle.stores name) := by
  simp only [roleIn, ofResolver, rulesOf, List.find?_filterMap, roleBy, Option.any_map]
  cases found : baseTypes.find? fun entry => (resolve entry.2).any (oracle.stores name) with
  | none => rfl
  | some entry =>
    have applies := List.find?_some found
    obtain ⟨handle, resolved, -⟩ := (Option.any_eq_true ..).1 applies
    simp [resolved]

theorem isApplicationIn_ofResolver (oracle : Option Oracle) (resolve : Text → Option Text)
    (name : Text) : (ofResolver oracle resolve).isApplicationIn name = true ↔
      (ofResolver oracle resolve).roleIn name = .application := by
  cases oracle with
  | none => simp [isApplicationIn, roleIn, ofResolver]
  | some oracle =>
    have direct : (ofResolver (some oracle) resolve).isApplicationIn name =
        (resolve applicationType).any (oracle.stores name) := by
      rw [isApplicationIn, ofResolver]
      cases resolve applicationType <;> rfl
    rw [direct, roleIn_ofResolver, roleBy_eq_application_iff, rank?_eq_zero_iff]

end Classifier

namespace Hierarchy
open Framework
variable {h : Hierarchy} {name : Text}

theorem any_resolve_eq_stores {base : Text} (other : base ≠ rootType)
    (known : base = name → h.knows name = true) :
    (h.resolve base).any (h.stores name) = h.stores name base := by
  by_cases resolved : h.knows base = true
  · rw [resolve, if_pos resolved, Option.any_some]
  · have apart : ¬h.stores name base = true := by
      intro stored
      rcases stores_iff.1 stored with rfl | root | above
      · exact resolved (known rfl)
      · exact other root
      · exact resolved (knows_of_mem_supertypes above)
    rw [resolve, if_neg resolved, Option.any_none]
    simpa using apart

theorem roleBy_resolve (known : ∀ entry ∈ baseTypes, entry.2 = name → h.knows name = true) :
    (roleBy fun base => (h.resolve base).any (h.stores name)) = roleBy (h.stores name) :=
  roleBy_congr fun entry member =>
    any_resolve_eq_stores (ne_rootType_of_mem entry member) (known entry member)

theorem rank?_le_of_mem_supertypes {upper : Text} (above : upper ∈ h.supertypes name) {i : Nat}
    (found : rank? (fun base => (h.resolve base).any (h.stores upper)) = some i) :
    ∃ j ≤ i, rank? (fun base => (h.resolve base).any (h.stores name)) = some j := by
  refine rank?_le (fun entry _ applies => ?_) found
  obtain ⟨handle, resolved, stored⟩ := (Option.any_eq_true ..).1 applies
  exact (Option.any_eq_true ..).2 ⟨handle, resolved, stores_of_mem_supertypes above stored⟩

end Hierarchy

namespace Session
open Framework

/-- After any requests a class has the role of the first base type, of all in the order of
precedence, that the hierarchy lets it be stored as, whether the base types can be resolved or
not, since whatever is above a class can be. With an oracle and a resolver of any kind it has the
role of the first base type that is resolved to something it can be stored as. -/
theorem role_first_match :
    (∀ (h : Hierarchy) (k : Catalog) (requests : List Request) (name : Text),
      (∀ entry ∈ baseTypes, entry.2 = name → h.knows name = true) →
      let s := ofHierarchy h h.resolve false k
      ((s.classifier.roleOf name).run (s.after requests {})).1 = roleBy (h.stores name)) ∧
    (∀ (h : Hierarchy) (name upper : Text),
      upper ∈ h.supertypes name → h.resolve upper = some upper) ∧
    ∀ (s : Session) (oracle : Oracle) (resolve : Text → Option Text),
      s.classifier = .ofResolver (some oracle) resolve → s.classifier.IsOver s.hierarchy →
      ∀ (requests : List Request) (name : Text),
        ((s.classifier.roleOf name).run (s.after requests {})).1 =
          roleBy fun base => (resolve base).any (oracle.stores name) := by
  refine ⟨fun h k requests name known => ?_,
    fun h name upper => Hierarchy.resolve_of_mem_supertypes,
    fun s oracle resolve made sound requests name => ?_⟩
  · intro s
    have sound : s.classifier.IsOver h := isOver_ofHierarchy h h.resolve false k
    have role := Classifier.roleIn_ofResolver (.hierarchy h) h.resolve name
    rw [roleOf_after (s := s) sound requests name, ← Hierarchy.roleBy_resolve known]
    exact role
  · rw [roleOf_after sound requests name, made, Classifier.roleIn_ofResolver]

theorem role_first_match_service :
    let h : Hierarchy := ⟨[("a.B", .ofList ["c.D"]),
      ("c.D", .ofList ["a.B", "android.app.Service", "android.content.ServiceConnection"])]⟩
    let s := ofHierarchy h h.resolve false Catalog.builtin
    let resolve (base : Text) : Option Text :=
      if base = "android.app.Fragment" then some [] else none
    let t : Session := ⟨h, .ofResolver (some (.relation fun _ _ => true)) resolve, Catalog.builtin⟩
    (∀ entry ∈ baseTypes, entry.2 = Text.of "a.B" → h.knows "a.B" = true) ∧
      ((s.classifier.roleOf "a.B").run (s.after [.role "c.D"] {})).1 = .service ∧
      h.resolve "android.app.Service" = some (Text.of "android.app.Service") ∧
      h.resolve "android.app.Activity" = none ∧
      ((t.classifier.roleOf "a.B").run (t.after [] {})).1 = .fragment := by
  intro h s resolve t
  have known : ∀ entry ∈ baseTypes, entry.2 = Text.of "a.B" → h.knows "a.B" = true := by decide
  have role := role_first_match.1 h Catalog.builtin [.role "c.D"] "a.B" known
  have above : Text.of "android.app.Service" ∈ h.supertypes "a.B" := by decide +kernel
  have sound : t.classifier.IsOver t.hierarchy := fun other asked => by cases asked
  have other := role_first_match.2.2 t _ resolve rfl sound [] "a.B"
  refine ⟨known, role.trans ?_, role_first_match.2.1 h _ _ above, by decide, other.trans ?_⟩
  · decide +kernel
  · decide +kernel

/-- A class comes no later in the order of precedence than each of its supertypes, also on a
cycle. So below a class that plays a part no class is plain, and below an application there are
applications only. -/
theorem role_inherited (h : Hierarchy) (k : Catalog) (name upper : Text)
    (above : upper ∈ h.supertypes name) (earlier later : List Request) :
    let s := ofHierarchy h h.resolve false k
    let rank (name : Text) := rank? fun base => (h.resolve base).any (h.stores name)
    let role (requests : List Request) (name : Text) :=
      ((s.classifier.roleOf name).run (s.after requests {})).1
    (∀ requests name, role requests name = roleAt (rank name)) ∧
    (∀ i, rank upper = some i → ∃ j ≤ i, rank name = some j) ∧
    (role earlier upper ≠ .plain → role later name ≠ .plain) ∧
    (role earlier upper = .application → role later name = .application) := by
  intro s rank role
  have sound : s.classifier.IsOver h := isOver_ofHierarchy h h.resolve false k
  have asked (requests : List Request) (name : Text) : role requests name =
      roleBy fun base => (h.resolve base).any (h.stores name) :=
    (roleOf_after (s := s) sound requests name).trans
      (Classifier.roleIn_ofResolver (.hierarchy h) h.resolve name)
  have first (i : Nat) : rank upper = some i → ∃ j ≤ i, rank name = some j :=
    Hierarchy.rank?_le_of_mem_supertypes above
  refine ⟨fun requests name => (asked requests name).trans roleBy_eq_roleAt, first, ?_, ?_⟩
  · intro part
    rw [asked, roleBy_ne_plain_iff] at part ⊢
    obtain ⟨i, found⟩ := part
    obtain ⟨j, -, earlier⟩ := first i found
    exact ⟨j, earlier⟩
  · intro part
    rw [asked, roleBy_eq_application_iff] at part ⊢
    obtain ⟨j, least, earlier⟩ := first 0 part
    rwa [Nat.le_zero.1 least] at earlier

theorem role_inherited_cycle :
    let h : Hierarchy := ⟨[("a.B", .ofList ["c.D", "android.app.Activity"]),
      ("c.D", .ofList ["a.B", "android.app.Application"])]⟩
    let s := ofHierarchy h h.resolve false Catalog.builtin
    Text.of "c.D" ∈ h.supertypes "a.B" ∧ Text.of "a.B" ∈ h.supertypes "c.D" ∧
      ((s.classifier.roleOf "c.D").run (s.after [] {})).1 = .application ∧
      ((s.classifier.roleOf "a.B").run (s.after [.role "c.D"] {})).1 = .application := by
  intro h s
  have above : Text.of "c.D" ∈ h.supertypes "a.B" := by decide +kernel
  have part : ((s.classifier.roleOf "c.D").run (s.after [] {})).1 = .application := by
    decide +kernel
  have inherited := role_inherited h Catalog.builtin "a.B" "c.D" above [] [.role "c.D"]
  exact ⟨above, by decide +kernel, part, inherited.2.2.2 part⟩

/-- After any requests, also failed ones, the test for applications says of a class what its role
says, be the base types resolved in part or not at all, and with or without an oracle. Whatever
is asked in between, the role and the test among it, both answers stay. -/
theorem application_agrees (s : Session) (oracle : Option Oracle) (resolve : Text → Option Text)
    (made : s.classifier = .ofResolver oracle resolve) (sound : s.classifier.IsOver s.hierarchy)
    (requests asked : List Request) (name : Text) :
    let holds (requests : List Request) :=
      ((s.classifier.isApplication name).run (s.after requests {})).1
    let role (requests : List Request) :=
      ((s.classifier.roleOf name).run (s.after requests {})).1
    (holds requests = true ↔ role requests = .application) ∧
      holds (requests ++ asked) = holds requests ∧ role (requests ++ asked) = role requests := by
  intro holds role
  have tested (requests : List Request) : holds requests = s.classifier.isApplicationIn name :=
    (Classifier.isApplication_settles sound name _ (faithful_after sound requests)).1
  have classified (requests : List Request) : role requests = s.classifier.roleIn name :=
    roleOf_after sound requests name
  refine ⟨?_, ?_, ?_⟩
  · rw [tested, classified, made]
    exact Classifier.isApplicationIn_ofResolver oracle resolve name
  · rw [tested, tested]
  · rw [classified, classified]

theorem application_agrees_handle :
    let oracle := Oracle.relation fun child parent => child = Text.of "a.B" || parent = Text.of "w"
    let resolve (base : Text) : Option Text :=
      if base = applicationType then some "v" else if base = "android.app.Activity" then some "w"
      else none
    let s : Session := ⟨⟨[]⟩, .ofResolver (some oracle) resolve, Catalog.builtin⟩
    let requests : List Request := [.entryMethod none, .isApplication "a.B", .role "c.D"]
    let asked : List Request := [.role "a.B", .isApplication "c.D", .classify ["a.B", "c.D"]]
    s.classifier.IsOver s.hierarchy ∧
      ((s.classifier.isApplication "a.B").run (s.after (requests ++ asked) {})).1 = true ∧
      ((s.classifier.roleOf "a.B").run (s.after (requests ++ asked) {})).1 = .application ∧
      ((s.classifier.isApplication "c.D").run (s.after (requests ++ asked) {})).1 = false ∧
      ((s.classifier.roleOf "c.D").run (s.after (requests ++ asked) {})).1 = .activity := by
  intro oracle resolve s requests asked
  have sound : s.classifier.IsOver s.hierarchy := Classifier.isOver_of_relation rfl _
  obtain ⟨agrees, held, kept⟩ :=
    application_agrees s (some oracle) resolve rfl sound requests asked "a.B"
  obtain ⟨-, refused, other⟩ :=
    application_agrees s (some oracle) resolve rfl sound requests asked "c.D"
  have tested : ((s.classifier.isApplication "a.B").run (s.after requests {})).1 = true := by
    decide +kernel
  refine ⟨sound, held.trans tested, kept.trans (agrees.1 tested), refused.trans ?_, other.trans ?_⟩
  · decide +kernel
  · decide +kernel

end Session

end DroidRoots
