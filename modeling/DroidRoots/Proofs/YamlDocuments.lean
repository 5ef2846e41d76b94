import DroidRoots.Proofs.Outcomes
import DroidRoots.Yaml.Document

/-! What reading a YAML text gives. No two entries of a mapping have the same key, however the
mapping was written or merged, and also where it leads back to itself. Filling the collections of a
graph keeps to this, and so does putting them in their places. -/

namespace DroidRoots

namespace Value

inductive IsKeyed : Value → Prop
  | scalar (s : Scalar) : IsKeyed (.scalar s)
  | list {items : List Value} (all : ∀ v ∈ items, IsKeyed v) : IsKeyed (.list items)
  | object {entries : List (Scalar × Value)}
      (once : entries.Pairwise fun a b => a.1.same b.1 = false) (all : ∀ e ∈ entries, IsKeyed e.2) :
      IsKeyed (.object entries)
  | set (members : List Scalar) : IsKeyed (.set members)
  | pair {first second : Value} (left : IsKeyed first) (right : IsKeyed second) :
      IsKeyed (.pair first second)
  | knot (number : Nat) : IsKeyed (.knot number)

theorem IsKeyed.once {entries : List (Scalar × Value)} (keyed : (Value.object entries).IsKeyed) :
    entries.Pairwise fun a b => a.1.same b.1 = false := by
  cases keyed with
  | object once all => exact once

theorem IsKeyed.entry {entries : List (Scalar × Value)} (keyed : (Value.object entries).IsKeyed)
    {e : Scalar × Value} (member : e ∈ entries) : e.2.IsKeyed := by
  cases keyed with
  | object once all => exact all e member

end Value

namespace Document

structure IsKeyed (d : Document) : Prop where
  root : d.root.IsKeyed
  knots : ∀ e ∈ d.knots, e.2.IsKeyed

theorem IsKeyed.untie {d : Document} (keyed : d.IsKeyed) {v : Value} (own : v.IsKeyed) :
    (d.knots.untie v).IsKeyed := by
  cases v with
  | knot number =>
    rw [Knots.untie]
    cases found : d.knots.lookup number with
    | none => exact .scalar .null
    | some held =>
      obtain ⟨before, after, split, -⟩ := List.lookup_eq_some_iff.1 found
      exact keyed.knots (number, held) (by rw [split]; simp)
  | _ => exact own

end Document

namespace Yaml

namespace Key

/-- Numbers that are none are told apart by their nodes; as keys they are never the same. -/
theorem same_scalar {a b : Key} (other : a.same b = false) : a.scalar.same b.scalar = false := by
  unfold same at other
  split at other
  · rename_i left right
    rw [left, right]
    rfl
  · exact other

theorem mem_put {key : Key} {part : Part} {entries : List (Key × Part)} {e : Key × Part}
    (member : e ∈ put key part entries) : e.1 = key ∨ ∃ own ∈ entries, own.1 = e.1 := by
  induction entries with
  | nil =>
    rw [List.mem_singleton.1 member]
    exact .inl rfl
  | cons first rest ih =>
    rw [put] at member
    split at member
    · rcases List.mem_cons.1 member with rfl | later
      · exact .inr ⟨first, List.mem_cons_self .., rfl⟩
      · exact .inr ⟨e, List.mem_cons_of_mem _ later, rfl⟩
    · rcases List.mem_cons.1 member with rfl | later
      · exact .inr ⟨first, List.mem_cons_self .., rfl⟩
      · rcases ih later with same | ⟨own, old, same⟩
        · exact .inl same
        · exact .inr ⟨own, List.mem_cons_of_mem _ old, same⟩

theorem pairwise_put (key : Key) (part : Part) {entries : List (Key × Part)}
    (once : entries.Pairwise fun a b => a.1.same b.1 = false) :
    (put key part entries).Pairwise fun a b => a.1.same b.1 = false := by
  induction entries with
  | nil => exact List.pairwise_singleton ..
  | cons first rest ih =>
    obtain ⟨other, later⟩ := List.pairwise_cons.1 once
    rw [put]
    split
    · exact List.pairwise_cons.2 ⟨other, later⟩
    · rename_i different
      refine List.pairwise_cons.2 ⟨fun e member => ?_, ih later⟩
      rcases mem_put member with same | ⟨own, old, same⟩
      · rw [same]
        simpa using different
      · rw [← same]
        exact other own old

end Key

namespace Content

def IsKeyed : Content → Prop
  | .object entries => entries.Pairwise fun a b => a.1.same b.1 = false
  | _ => True

def Making.IsKeyed (m : Making) : Prop := ∀ content, some content ∈ m.made → content.IsKeyed

def Keeps {α : Type} (x : Maker α) (P : α → Prop) : Prop :=
  ∀ m a after, m.IsKeyed → x.run m = .ok (a, after) → after.IsKeyed ∧ P a

namespace Keeps
variable {α β : Type} {x : Maker α} {f : α → Maker β} {P : α → Prop} {Q : β → Prop}

protected theorem pure {a : α} (holds : P a) : Keeps (pure a) P := by
  intro m b after keyed ended
  cases ended
  exact ⟨keyed, holds⟩

theorem value (a : α) : Keeps (Pure.pure a) fun _ => True := .pure trivial

protected theorem bind (first : Keeps x P) (next : ∀ a, P a → Keeps (f a) Q) :
    Keeps (x >>= f) Q := by
  intro m b after keyed ended
  rw [StateT.run_bind] at ended
  obtain ⟨⟨a, between⟩, found, ended⟩ := Outcome.bind_ok ended
  obtain ⟨kept, holds⟩ := first m a between keyed found
  exact next a holds between b after kept ended

theorem throw {fault : Fault} : Keeps (throw fault : Maker α) P := by
  intro m a after keyed ended
  cases ended

theorem ofExcept (outcome : Except Fault α) :
    Keeps (liftM outcome : Maker α) fun _ => True := by
  intro m a after keyed ended
  cases outcome with
  | ok b =>
    cases ended
    exact ⟨keyed, trivial⟩
  | error fault => cases ended

protected theorem get : Keeps (get : Maker Making) fun _ => True := by
  intro m a after keyed ended
  cases ended
  exact ⟨keyed, trivial⟩

theorem modify {change : Making → Making} (kept : ∀ m, m.IsKeyed → (change m).IsKeyed) :
    Keeps (modify change : Maker PUnit) fun _ => True := by
  intro m a after keyed ended
  cases ended
  exact ⟨kept m keyed, trivial⟩

theorem mapM (each : ∀ a, Keeps (f a) Q) (xs : List α) : Keeps (xs.mapM f) fun _ => True := by
  induction xs with
  | nil => exact .value _
  | cons a rest ih =>
    rw [List.mapM_cons]
    exact (each a).bind fun _ _ => ih.bind fun _ _ => .value _

theorem foldlM {f : β → α → Maker β} (each : ∀ b a, Q b → Keeps (f b a) Q) (xs : List α) {b : β}
    (start : Q b) : Keeps (xs.foldlM f b) Q := by
  induction xs generalizing b with
  | nil => exact .pure start
  | cons a rest ih =>
    rw [List.foldlM_cons]
    exact (each b a start).bind fun _ holds => ih holds

theorem forIn {f : α → β → Maker (ForInStep β)} (each : ∀ a b, Keeps (f a b) fun _ => True)
    (xs : List α) (b : β) : Keeps (forIn xs b f) fun _ => True := by
  induction xs generalizing b with
  | nil => exact .value _
  | cons a rest ih =>
    rw [List.forIn_cons]
    refine (each a b).bind fun step _ => ?_
    cases step with
    | done b => exact .value _
    | yield b => exact ih b

end Keeps

theorem keeps_graph : Keeps graph fun _ => True := Keeps.get.bind fun _ _ => .value _

theorem keeps_change (f : Graph → Graph) : Keeps (change f) fun _ => True :=
  .modify fun _ keyed => keyed

theorem keeps_note (place : Nat) : Keeps (note place) fun _ => True := by
  refine .modify fun m keyed => ?_
  split <;> exact keyed

theorem keeps_scalarText (room place : Nat) : Keeps (scalarText room place) fun _ => True := by
  induction room generalizing place with
  | zero => exact .throw
  | succ room ih =>
    rw [scalarText]
    refine keeps_graph.bind fun g _ => ?_
    split
    · exact .value _
    · exact .throw
    · split
      · exact ih _
      · exact .throw

theorem keeps_part (place : Nat) : Keeps (part place) fun _ => True := by
  refine keeps_graph.bind fun g _ => ?_
  dsimp only
  split
  · exact (keeps_note place).bind fun _ _ => .value _
  · split
    · exact .throw
    · refine (keeps_scalarText deepest place).bind fun text _ => keeps_graph.bind fun g' _ => ?_
      split
      · exact .bind .throw fun (_ : PUnit) (_ : True) =>
          (Keeps.ofExcept _).bind fun _ _ => .value _
      · exact (Keeps.ofExcept _).bind fun _ _ => .value _

theorem keeps_key (place : Nat) : Keeps (key place) fun _ => True := by
  refine (keeps_part place).bind fun made _ => ?_
  split
  · exact .value _
  · exact .throw

theorem keeps_flatten (fuel place : Nat) (merged : List (Nat × Nat)) :
    Keeps (flatten fuel place merged) fun _ => True := by
  induction fuel generalizing place merged with
  | zero => exact .throw
  | succ fuel ih =>
    rw [flatten]
    refine keeps_graph.bind fun g _ => keeps_graph.bind fun g' _ => ?_
    split
    · refine (keeps_change _).bind fun _ _ => ?_
      split
      · exact keeps_change _
      · exact .value _
    · refine (keeps_change _).bind fun _ _ => ?_
      dsimp only
      split
      · refine (ih _ _).bind fun _ _ => keeps_graph.bind fun _ _ => ?_
        exact (Keeps.value _).bind fun _ _ => ih _ _
      · have group (item : Nat) : Keeps (do
            if !(← graph).isMap item then fail
            flatten fuel item []
            return (← graph).entries item) fun _ => True := by
          refine keeps_graph.bind fun g _ => ?_
          split
          · refine .bind (P := fun _ => True) .throw fun _ _ => ?_
            exact (ih _ _).bind fun _ _ => keeps_graph.bind fun _ _ => .value _
          · exact (ih _ _).bind fun _ _ => keeps_graph.bind fun _ _ => .value _
        exact (Keeps.mapM group _).bind fun _ _ => (Keeps.value _).bind fun _ _ => ih _ _
      · exact Keeps.bind .throw fun (_ : List (Nat × Nat)) (_ : True) => ih _ _

theorem keeps_objectEntries (place : Nat) : Keeps (objectEntries place) fun entries =>
    entries.Pairwise fun a b => a.1.same b.1 = false := by
  have filled : Keeps (do
      flatten (2 * (← graph).size + 2) place []
      ((← graph).entries place).foldlM (fun done entry => do
        let key ← key entry.1
        let part ← part entry.2
        return Key.put key part done) []) fun entries =>
      entries.Pairwise fun a b => a.1.same b.1 = false := by
    refine keeps_graph.bind fun g _ => (keeps_flatten _ _ _).bind fun _ _ => ?_
    refine keeps_graph.bind fun g' _ => .foldlM (fun done entry once => ?_) _ .nil
    refine (keeps_key _).bind fun key _ => (keeps_part _).bind fun part _ => ?_
    exact .pure (Key.pairwise_put key part once)
  refine keeps_graph.bind fun g _ => ?_
  split
  · exact .bind (P := fun _ => True) .throw fun _ _ => filled
  · exact filled

theorem keeps_pair (place : Nat) : Keeps (pair place) fun _ => True := by
  refine keeps_graph.bind fun g _ => ?_
  split
  · exact (keeps_part _).bind fun _ _ => (keeps_part _).bind fun _ _ => .value _
  · exact .throw

theorem keeps_fill (place : Nat) : Keeps (fill place) IsKeyed := by
  refine keeps_graph.bind fun g _ => ?_
  dsimp only
  split
  · exact (Keeps.mapM keeps_part _).bind fun _ _ => .pure trivial
  · exact (keeps_objectEntries place).bind fun entries once => .pure once
  · exact (keeps_objectEntries place).bind fun entries _ => .pure trivial
  · exact (Keeps.mapM keeps_pair _).bind fun _ _ => .pure trivial
  · exact .throw

theorem keeps_filled {content : Content} (keyed : content.IsKeyed) (place : Nat) :
    Keeps (modify fun m => { m with made := m.made.setIfInBounds place (some content) })
      fun _ => True := by
  refine .modify fun m made other member => ?_
  rcases Array.mem_or_eq_of_mem_setIfInBounds member with old | same
  · exact made other old
  · rw [Option.some.inj same]
    exact keyed

theorem keeps_fillAll (fuel : Nat) : Keeps (fillAll fuel) fun _ => True := by
  induction fuel with
  | zero => exact .value _
  | succ fuel ih =>
    rw [fillAll]
    refine Keeps.get.bind fun m _ => ?_
    dsimp only
    split
    · have emptied : Keeps (modify fun m => { m with waiting := [] }) fun _ => True :=
        .modify fun _ keyed => keyed
      refine emptied.bind fun _ _ => (Keeps.forIn (fun place _ => ?_) _ _).bind fun _ _ => ih
      exact (keeps_fill place).bind fun content keyed =>
        (keeps_filled keyed place).bind fun _ _ => .value _
    · exact .value _

theorem isKeyed_of_ofGraph {graph : Graph} {root : Nat} {made : Part × Array (Option Content)}
    (h : ofGraph graph root = .ok made) : ∀ content, some content ∈ made.2 → content.IsKeyed := by
  rw [ofGraph] at h
  obtain ⟨⟨part, making⟩, ended, same⟩ := Outcome.bind_ok h
  obtain rfl := Except.ok.inj same
  have whole : Keeps (do
      let made ← Content.part root
      fillAll graph.size
      return made) fun _ => True :=
    (keeps_part root).bind fun _ _ => (keeps_fillAll graph.size).bind fun _ _ => .value _
  refine (whole _ part making (fun content member => ?_) ended).1
  simp at member

end Content

structure Looking.IsKeyed (l : Looking) : Prop where
  contents : ∀ content, some content ∈ l.contents → content.IsKeyed
  standings : ∀ v, some (Standing.whole v) ∈ l.standings → v.IsKeyed
  knots : ∀ e ∈ l.knots, e.2.IsKeyed

namespace Looker

def Keeps {α : Type} (x : StateT Bool Looker α) (P : α → Prop) : Prop :=
  ∀ round l, l.IsKeyed → ((x.run round).run l).2.IsKeyed ∧ P ((x.run round).run l).1.1

namespace Keeps
variable {α β : Type} {x : StateT Bool Looker α} {f : α → StateT Bool Looker β} {P : α → Prop}
  {Q : β → Prop}

protected theorem pure {a : α} (holds : P a) : Keeps (pure a) P := fun _ _ keyed => ⟨keyed, holds⟩

protected theorem bind (first : Keeps x P) (next : ∀ a, P a → Keeps (f a) Q) :
    Keeps (x >>= f) Q := by
  intro round l keyed
  obtain ⟨kept, holds⟩ := first round l keyed
  exact next _ holds ((x.run round).run l).1.2 ((x.run round).run l).2 kept

theorem imp {R : α → Prop} (kept : Keeps x P) (weaker : ∀ a, P a → R a) : Keeps x R :=
  fun round l keyed => ⟨(kept round l keyed).1, weaker _ (kept round l keyed).2⟩

protected theorem get : Keeps (getThe Looking : StateT Bool Looker Looking) Looking.IsKeyed :=
  fun _ _ keyed => ⟨keyed, keyed⟩

theorem getRound : Keeps (getThe Bool : StateT Bool Looker Bool) fun _ => True :=
  fun _ _ keyed => ⟨keyed, trivial⟩

theorem setRound (round : Bool) : Keeps (set round : StateT Bool Looker PUnit) fun _ => True :=
  fun _ _ keyed => ⟨keyed, trivial⟩

theorem modify {change : Looking → Looking} (kept : ∀ l, l.IsKeyed → (change l).IsKeyed) :
    Keeps (modifyThe Looking change : StateT Bool Looker PUnit) fun _ => True :=
  fun _ l keyed => ⟨kept l keyed, trivial⟩

theorem mapM_named {γ : Type} {name : α → γ} {made : β → γ}
    (each : ∀ a, Keeps (f a) fun b => made b = name a ∧ Q b) (xs : List α) :
    Keeps (xs.mapM f) fun ys => ys.map made = xs.map name ∧ ∀ y ∈ ys, Q y := by
  induction xs with
  | nil => exact .pure ⟨rfl, fun y member => absurd member List.not_mem_nil⟩
  | cons a rest ih =>
    rw [List.mapM_cons]
    refine (each a).bind fun b own => ih.bind fun others all => .pure ⟨?_, ?_⟩
    · rw [List.map_cons, List.map_cons, own.1, all.1]
    · exact List.forall_mem_cons.2 ⟨own.2, all.2⟩

theorem mapM (each : ∀ a, Keeps (f a) Q) (xs : List α) :
    Keeps (xs.mapM f) fun ys => ∀ y ∈ ys, Q y := by
  have unnamed : Keeps (xs.mapM f) fun ys =>
      ys.map (fun _ => ()) = xs.map (fun _ => ()) ∧ ∀ y ∈ ys, Q y :=
    mapM_named (fun a => (each a).imp fun _ own => ⟨rfl, own⟩) xs
  exact unnamed.imp fun _ both => both.2

end Keeps

theorem mem_of_getD {α : Type} {entries : Array (Option α)} {place : Nat} {a : α}
    (found : entries.getD place none = some a) : some a ∈ entries := by
  rw [Array.getD_eq_getD_getElem?] at found
  cases held : entries[place]? with
  | none =>
    rw [held] at found
    cases found
  | some entry =>
    rw [held] at found
    obtain rfl : entry = some a := found
    exact Array.mem_of_getElem? held

theorem keeps_stand {standing : Standing} (keyed : ∀ v, standing = .whole v → v.IsKeyed)
    (place : Nat) :
    Keeps (liftM (stand place standing) : StateT Bool Looker PUnit) fun _ => True := by
  refine .modify fun l kept => { kept with standings := fun v member => ?_ }
  rcases Array.mem_or_eq_of_mem_setIfInBounds member with old | same
  · exact kept.standings v old
  · exact keyed v (Option.some.inj same).symm

theorem keeps_assembled {value : Part → StateT Bool Looker Value}
    (each : ∀ part, Keeps (value part) Value.IsKeyed) {content : Content}
    (keyed : content.IsKeyed) :
    Keeps (assembled value content) Value.IsKeyed := by
  cases content with
  | list parts => exact (Keeps.mapM each parts).bind fun _ all => .pure (.list all)
  | object entries =>
    have entry (e : Key × Part) : Keeps (do return (e.1.scalar, ← value e.2))
        fun made => made.1 = e.1.scalar ∧ made.2.IsKeyed :=
      (each e.2).bind fun _ own => .pure ⟨rfl, own⟩
    refine (Keeps.mapM_named entry entries).bind fun made all => .pure (.object ?_ all.2)
    have once : (entries.map (·.1.scalar)).Pairwise fun a b => a.same b = false :=
      List.pairwise_map.2 (List.Pairwise.imp Key.same_scalar keyed)
    rw [← all.1] at once
    exact List.pairwise_map.1 once
  | set keys => exact .pure (.set _)
  | pairs entries =>
    have pair (e : Part × Part) : Keeps (do return Value.pair (← value e.1) (← value e.2))
        Value.IsKeyed :=
      (each e.1).bind fun _ left => (each e.2).bind fun _ right => .pure (.pair left right)
    exact (Keeps.mapM pair entries).bind fun _ all => .pure (.list all)

theorem keeps_value (fuel : Nat) (part : Part) : Keeps (value fuel part) Value.IsKeyed := by
  induction fuel generalizing part with
  | zero =>
    cases part with
    | scalar s owner => exact .pure (.scalar s)
    | collection place => exact .pure (.knot place)
  | succ fuel ih =>
    cases part with
    | scalar s owner => exact .pure (.scalar s)
    | collection place =>
      rw [value]
      refine Keeps.get.bind fun l keyed => ?_
      split
      · rename_i v standing
        exact .pure (keyed.standings v (mem_of_getD standing))
      · exact (Keeps.setRound false).bind fun _ _ => .pure (.knot place)
      · exact .pure (.scalar .null)
      · rename_i content _ found
        have own : content.IsKeyed := keyed.contents content (mem_of_getD found)
        refine Keeps.getRound.bind fun outer _ => ?_
        refine (keeps_stand (fun v same => by cases same) place).bind fun _ _ => ?_
        refine (Keeps.setRound true).bind fun _ _ => (keeps_assembled ih own).bind fun v made => ?_
        refine Keeps.getRound.bind fun round _ => ?_
        split
        · refine (keeps_stand (fun other same => ?_) place).bind fun _ _ => ?_
          · cases same
            exact made
          · exact (Keeps.setRound outer).bind fun _ _ => .pure made
        · refine (keeps_stand (fun v same => by cases same) place).bind fun _ _ => ?_
          refine .bind (.modify fun l kept => { kept with knots := ?_ }) fun _ _ =>
            .pure (.knot place)
          exact List.forall_mem_cons.2 ⟨made, kept.knots⟩

end Looker

theorem isKeyed_document {root : Part} {contents : Array (Option Content)}
    (keyed : ∀ content, some content ∈ contents → content.IsKeyed) :
    (Content.document root contents).IsKeyed := by
  have start : Looking.IsKeyed
      { contents, standings := Array.replicate contents.size none } :=
    { contents := keyed
      standings := fun v member => by simp at member
      knots := fun e member => absurd member List.not_mem_nil }
  obtain ⟨kept, whole⟩ := Looker.keeps_value (contents.size + 1) root true _ start
  exact ⟨whole, kept.knots⟩

theorem isKeyed_of_read {source : Source} {d : Document} (h : read source = .ok d) :
    d.IsKeyed := by
  rw [read] at h
  obtain ⟨⟨graph, root⟩, -, h⟩ := Outcome.bind_ok h
  cases root with
  | none =>
    obtain rfl := Except.ok.inj h
    exact ⟨.scalar .null, fun e member => absurd member List.not_mem_nil⟩
  | some root =>
    obtain ⟨⟨part, contents⟩, made, h⟩ := Outcome.bind_ok h
    obtain rfl := Except.ok.inj h
    exact isKeyed_document (Content.isKeyed_of_ofGraph made)

end Yaml

end DroidRoots
