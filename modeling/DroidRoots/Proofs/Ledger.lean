import DroidRoots.Proofs.AnalysisSteps
import Mathlib.Algebra.GroupWithZero.Nat

/-! What a classifier is asked, and what that comes to. A class is matched against the rules, and
noted if there is no oracle, when its role is asked for the first time; every further time costs
nothing. So the accounts follow from the classes alone, in the order in which they first came. -/

namespace DroidRoots

def freshNames (known names : List Text) : List Text := (names.filter (· ∉ known)).eraseDups

section Fresh
variable {known names : List Text} {name other : Text}

@[simp] theorem freshNames_nil (known : List Text) : freshNames known [] = [] := rfl

theorem freshNames_start (names : List Text) : freshNames [] names = names.eraseDups := by
  rw [freshNames, List.filter_eq_self.2 (by simp)]

theorem mem_freshNames : name ∈ freshNames known names ↔ name ∈ names ∧ name ∉ known := by
  simp [freshNames, List.mem_eraseDups]

theorem freshNames_cons_old (old : name ∈ known) :
    freshNames known (name :: names) = freshNames known names := by
  simp [freshNames, old]

theorem freshNames_cons_new (new : name ∉ known) :
    freshNames known (name :: names) = name :: freshNames (known ++ [name]) names := by
  have rest : (names.filter (· ∉ known)).filter (fun other => !other == name) =
      names.filter (· ∉ known ++ [name]) := by
    rw [List.filter_filter]
    apply List.filter_congr
    intro other _
    by_cases same : other = name <;> simp [same]
  rw [freshNames, List.filter_cons_of_pos (by simpa using new), List.eraseDups_cons, rest,
    freshNames]

theorem nodup_freshNames (known names : List Text) : (freshNames known names).Nodup := by
  induction names generalizing known with
  | nil => exact .nil
  | cons name rest ih =>
    by_cases old : name ∈ known
    · rw [freshNames_cons_old old]
      exact ih known
    · rw [freshNames_cons_new old]
      refine List.nodup_cons.2 ⟨fun again => ?_, ih _⟩
      exact (mem_freshNames.1 again).2 (List.mem_append_right _ (List.mem_singleton_self _))

theorem freshNames_append (known earlier later : List Text) :
    freshNames known (earlier ++ later) =
      freshNames known earlier ++ freshNames (known ++ freshNames known earlier) later := by
  induction earlier generalizing known with
  | nil => simp
  | cons name rest ih =>
    by_cases old : name ∈ known
    · rw [List.cons_append, freshNames_cons_old old, freshNames_cons_old old, ih]
    · rw [List.cons_append, freshNames_cons_new old, freshNames_cons_new old, ih,
        List.append_assoc]
      rfl

theorem freshNames_of_nodup (known : List Text) (distinct : names.Nodup) :
    freshNames known names = names.filter (· ∉ known) :=
  eraseDups_of_nodup (distinct.filter _)

end Fresh

inductive Inquiry
  | role (name : Text)
  | application (name : Text)
  deriving DecidableEq

namespace Inquiry

def classified? : Inquiry → Option Text
  | role name => some name
  | application _ => none

end Inquiry

theorem classified_roles (names : List Text) :
    (names.map .role).filterMap Inquiry.classified? = names := by
  rw [List.filterMap_map]
  exact List.filterMap_some

def classesOf (inquiries : List Inquiry) : List Text :=
  (inquiries.filterMap Inquiry.classified?).eraseDups

theorem nodup_classesOf (inquiries : List Inquiry) : (classesOf inquiries).Nodup := by
  rw [classesOf, ← freshNames_start]
  exact nodup_freshNames [] _

theorem mem_classesOf {inquiries : List Inquiry} {name : Text} :
    name ∈ classesOf inquiries ↔ .role name ∈ inquiries := by
  rw [classesOf, List.mem_eraseDups, List.mem_filterMap]
  constructor
  · rintro ⟨inquiry, member, same⟩
    cases inquiry with
    | role other =>
      obtain rfl := Option.some.inj same
      exact member
    | application other => cases same
  · intro member
    exact ⟨.role name, member, rfl⟩

def applicationsAmong (inquiries : List Inquiry) : Nat :=
  inquiries.countP fun inquiry => inquiry.classified?.isNone

theorem applicationsAmong_roles (names : List Text) :
    applicationsAmong (names.map .role) = 0 := by
  simp [applicationsAmong, Inquiry.classified?]

def Classifier.toll (c : Classifier) : Nat :=
  match c.oracle, c.application with
  | some _, some _ => 1
  | _, _ => 0

/-- The accounts of an analysis: the classes in the order in which they got their roles, the
questions to the oracle, and the warnings. -/
structure Ledger where
  classes : List Text
  queries : Nat
  warnings : List Notice

def State.ledger (s : State) : Ledger where
  classes := (s.roles.map (·.1)).reverse
  queries := s.queries
  warnings := s.notices.filter Notice.isWarning

namespace Ledger
variable {c : Classifier} {l : Ledger}

def enter (c : Classifier) (l : Ledger) : Inquiry → Ledger
  | .role name =>
    if name ∈ l.classes then l
    else
      { classes := l.classes ++ [name]
        queries := l.queries + c.questions name
        warnings := l.warnings ++ c.doubts name }
  | .application _ => { l with queries := l.queries + c.toll }

def enterAll (c : Classifier) (l : Ledger) (inquiries : List Inquiry) : Ledger :=
  inquiries.foldl (enter c) l

@[simp] theorem enterAll_nil (c : Classifier) (l : Ledger) : l.enterAll c [] = l := rfl

theorem enterAll_append (c : Classifier) (l : Ledger) (earlier later : List Inquiry) :
    l.enterAll c (earlier ++ later) = (l.enterAll c earlier).enterAll c later :=
  List.foldl_append

theorem enterAll_eq (c : Classifier) (l : Ledger) (inquiries : List Inquiry) :
    let new := freshNames l.classes (inquiries.filterMap Inquiry.classified?)
    l.enterAll c inquiries =
      { classes := l.classes ++ new
        queries := l.queries + (new.map c.questions).sum + applicationsAmong inquiries * c.toll
        warnings := l.warnings ++ new.flatMap c.doubts } := by
  induction inquiries generalizing l with
  | nil => simp [applicationsAmong]
  | cons inquiry rest ih =>
    have first : l.enterAll c (inquiry :: rest) = (l.enter c inquiry).enterAll c rest := rfl
    rw [first, ih]
    cases inquiry with
    | application name =>
      simp only [enter, applicationsAmong, List.filterMap_cons, List.countP_cons,
        Inquiry.classified?, Option.isNone_none, if_true, Nat.add_mul]
      congr 1
      omega
    | role name =>
      by_cases old : name ∈ l.classes
      · simp [enter, applicationsAmong, Inquiry.classified?, old, freshNames_cons_old old]
      · simp [enter, applicationsAmong, Inquiry.classified?, old, freshNames_cons_new old,
          Nat.add_assoc]

end Ledger

end DroidRoots
