import DroidRoots.Signature
import DroidRoots.Proofs.DescriptorGrammar

/-! The grammar of prototypes. Parameters are read exactly if they are types one after another,
and only one list of types makes a given text, so a prototype is read exactly if it is made of
such types between parentheses and of a returned type; any other text is the fault. -/

namespace DroidRoots.Descriptor
open Text

theorem isType_of_firstType? {cs type after : Text} (h : firstType? cs = some (type, after)) :
    IsType type ∧ cs = type ++ after := by
  induction cs generalizing type after with
  | nil => cases h
  | cons c rest ih =>
    rw [firstType?] at h
    by_cases mark : c = '['
    · rw [if_pos mark] at h
      obtain ⟨⟨element, left⟩, found, same⟩ := Option.map_eq_some_iff.1 h
      obtain ⟨rfl, rfl⟩ := Prod.mk.inj same
      obtain ⟨isType, whole⟩ := ih found
      rw [mark, whole]
      exact ⟨.array isType, rfl⟩
    · rw [if_neg mark] at h
      by_cases opener : c = 'L'
      · rw [if_pos opener] at h
        have closed : rest.dropWhile (· ≠ .char ';') ≠ [] := by
          intro none
          rw [none] at h
          cases h
        obtain ⟨name, left, apart, rfl⟩ := exists_cut closed
        obtain ⟨taken, cut⟩ := span_before apart left
        rw [taken, cut] at h
        obtain ⟨rfl, rfl⟩ := Prod.mk.inj (Option.some.inj h)
        rw [opener]
        exact ⟨.named apart, by simp⟩
      · rw [if_neg opener] at h
        obtain ⟨rfl, rfl⟩ := Prod.mk.inj (Option.some.inj h)
        exact ⟨.letter mark opener, rfl⟩

theorem types?_eq_some_iff {cs : Text} {types : List Text} :
    types? cs = some types ↔ (∀ t ∈ types, IsType t) ∧ types.flatten = cs := by
  constructor
  · intro h
    -- on what is left to be read, which each type shortens
    induction cs using types?.induct generalizing types with
    | case1 cs empty =>
      rw [types?, if_pos empty] at h
      cases h
      exact ⟨by simp, (List.isEmpty_iff.1 empty).symm⟩
    | case2 cs present missing =>
      rw [types?_of_none present missing] at h
      cases h
    | case3 cs present type after first shorter ih =>
      rw [types?_of_firstType? first] at h
      obtain ⟨later, read, rfl⟩ := Option.map_eq_some_iff.1 h
      obtain ⟨isTypes, whole⟩ := ih read
      obtain ⟨isType, rfl⟩ := isType_of_firstType? first
      refine ⟨?_, by rw [List.flatten_cons, whole]⟩
      intro t member
      rcases List.mem_cons.1 member with rfl | member
      · exact isType
      · exact isTypes t member
  · rintro ⟨isTypes, rfl⟩
    exact types?_flatten isTypes

theorem types_unique {types others : List Text} (h : ∀ t ∈ types, IsType t)
    (g : ∀ t ∈ others, IsType t) (same : types.flatten = others.flatten) : types = others := by
  have read := types?_flatten h
  rw [same, types?_flatten g] at read
  exact (Option.some.inj read).symm

structure IsPrototype (types : List Text) (returned cs : Text) : Prop where
  isTypes : ∀ t ∈ types, IsType t
  closing : (')' : CodePoint) ∉ types.flatten
  returned_ne_nil : returned ≠ []
  text : cs = .char '(' :: (types.flatten ++ .char ')' :: returned)

namespace IsPrototype
variable {types others : List Text} {returned result cs : Text}

theorem method?_eq (h : IsPrototype types returned cs) :
    method? cs = some (types.map javaName, javaName returned) := by
  rw [h.text]
  exact method?_prototype h.isTypes
    (fun t member found => h.closing (List.mem_flatten.2 ⟨t, member, found⟩)) h.returned_ne_nil

theorem unique (h : IsPrototype types returned cs) (g : IsPrototype others result cs) :
    types = others ∧ returned = result := by
  have same := List.tail_eq_of_cons_eq (h.text.symm.trans g.text)
  -- neither run of types holds the mark that ends it, so both texts are cut at the same place
  have inside := span_before h.closing returned
  rw [same, (span_before g.closing result).1, (span_before g.closing result).2] at inside
  exact ⟨types_unique h.isTypes g.isTypes inside.1.symm, (List.tail_eq_of_cons_eq inside.2).symm⟩

end IsPrototype

theorem isPrototype_of_method? {cs : Text} {params : List Text} {result : Text}
    (h : method? cs = some (params, result)) : ∃ types returned,
      IsPrototype types returned cs ∧ types.map javaName = params ∧ javaName returned = result := by
  cases cs with
  | nil => cases h
  | cons c rest =>
    rw [method?] at h
    by_cases opening : c = '('
    · rw [if_neg (not_not_intro opening)] at h
      have closed : rest.dropWhile (· ≠ .char ')') ≠ [] := by
        intro none
        rw [none] at h
        cases h
      obtain ⟨inside, returned, apart, rfl⟩ := exists_cut closed
      obtain ⟨taken, cut⟩ := span_before apart returned
      rw [taken, cut] at h
      by_cases empty : returned.isEmpty
      · simp [empty] at h
      · simp only [empty, Bool.false_eq_true, if_false] at h
        obtain ⟨types, read, same⟩ := Option.map_eq_some_iff.1 h
        obtain ⟨rfl, rfl⟩ := Prod.mk.inj same
        obtain ⟨isTypes, rfl⟩ := types?_eq_some_iff.1 read
        refine ⟨types, returned, ?_, rfl, rfl⟩
        exact {
          isTypes := isTypes
          closing := apart
          returned_ne_nil := fun none => empty (List.isEmpty_iff.2 none)
          text := by rw [opening] }
    · rw [if_pos opening] at h
      cases h

theorem method?_eq_some_iff {cs : Text} {params : List Text} {result : Text} :
    method? cs = some (params, result) ↔ ∃ types returned,
      IsPrototype types returned cs ∧ types.map javaName = params ∧ javaName returned = result := by
  constructor
  · exact isPrototype_of_method?
  · rintro ⟨types, returned, isPrototype, rfl, rfl⟩
    exact isPrototype.method?_eq

theorem method?_eq_none_iff {cs : Text} :
    method? cs = none ↔ ∀ types returned, ¬IsPrototype types returned cs := by
  constructor
  · intro missing types returned isPrototype
    rw [isPrototype.method?_eq] at missing
    cases missing
  · intro other
    rw [Option.eq_none_iff_forall_ne_some]
    rintro ⟨params, result⟩ read
    obtain ⟨types, returned, isPrototype, -⟩ := isPrototype_of_method? read
    exact other types returned isPrototype

end DroidRoots.Descriptor

namespace DroidRoots.Signature
open Descriptor

/-- The names of a prototype are those of its types, of which there is one list only, and a text
that is no prototype is the fault, which shows the text. The parameters are gone through type by
type: each is the front of what is left, and less is left after it. -/
theorem prototype_grammar (cs : Text) :
    (∀ params result, typeNames cs = .ok (params, result) ↔ ∃ types returned,
      IsPrototype types returned cs ∧ params = types.map javaName ∧ result = javaName returned) ∧
    (∀ types returned others result, IsPrototype types returned cs →
      IsPrototype others result cs → types = others ∧ returned = result) ∧
    (typeNames cs = .error (.invalidDescriptor cs) ↔
      ∀ types returned, ¬IsPrototype types returned cs) ∧
    (Fault.invalidDescriptor cs).message = "Invalid descriptor: " ++ cs ∧
    ∀ left type after : Text, firstType? left = some (type, after) →
      left = type ++ after ∧ after.length < left.length := by
  refine ⟨fun params result => ?_, fun _ _ _ _ h g => h.unique g, ?_, rfl, fun left type after h =>
    ⟨(isType_of_firstType? h).2, length_of_firstType? h⟩⟩
  · have read : typeNames cs = .ok (params, result) ↔ method? cs = some (params, result) := by
      rw [typeNames]
      cases method? cs <;> simp
    rw [read, method?_eq_some_iff]
    simp only [eq_comm]
  · have fault : typeNames cs = .error (.invalidDescriptor cs) ↔ method? cs = none := by
      rw [typeNames]
      cases method? cs <;> simp
    rw [fault, method?_eq_none_iff]

theorem prototype_grammar_marks :
    IsPrototype ["[[La/B;", "I", "[J"] "[V" "([[La/B;I[J)[V" ∧
      typeNames "([[La/B;I[J)[V" = .ok (["a.B[][]", "int", "long[]"], "void[]") ∧
      typeNames "(I[[)V" = .error (.invalidDescriptor "(I[[)V") ∧
      ∀ types returned, ¬IsPrototype types returned "(I[[)V" := by
  have isPrototype : IsPrototype ["[[La/B;", "I", "[J"] "[V" "([[La/B;I[J)[V" := {
    isTypes := by
      intro t member
      simp only [List.mem_cons, List.not_mem_nil, or_false] at member
      rcases member with rfl | rfl | rfl
      · exact .array (.array (@IsType.named "a/B" (by decide)))
      · exact .letter (by decide) (by decide)
      · exact .array (.letter (by decide) (by decide))
    closing := by decide
    returned_ne_nil := by decide
    text := rfl }
  have fault : typeNames "(I[[)V" = .error (.invalidDescriptor "(I[[)V") := by cbv
  exact ⟨isPrototype, ((prototype_grammar _).1 _ _).2 ⟨_, _, isPrototype, rfl, rfl⟩, fault,
    (prototype_grammar _).2.2.1.1 fault⟩

end DroidRoots.Signature
