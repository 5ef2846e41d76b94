import DroidRoots.Descriptor
import DroidRoots.Proofs.TrimmedText

/-! Type descriptors and the types that they stand for. No descriptor is the beginning of
another one, so types that are written one after another are read back one by one, and the
Java name of a descriptor is the name of its type. -/

namespace DroidRoots.Descriptor
open Text

/-- One type in a run of parameters: array marks, then a class between an L and a semicolon or
any other character. -/
inductive IsType : Text → Prop
  | letter {c : CodePoint} (mark : c ≠ '[') (opener : c ≠ 'L') : IsType [c]
  | named {name : Text} (apart : (';' : CodePoint) ∉ name) :
      IsType (.char 'L' :: (name ++ [.char ';']))
  | array {type : Text} (element : IsType type) : IsType (.char '[' :: type)

namespace IsType
variable {type : Text}

theorem ne_nil (h : IsType type) : type ≠ [] := by
  cases h <;> exact List.cons_ne_nil _ _

theorem firstType?_append (h : IsType type) (rest : Text) :
    firstType? (type ++ rest) = some (type, rest) := by
  induction h with
  | letter mark opener => simp [firstType?, mark, opener]
  | named apart =>
    have cut := span_before apart rest
    rw [List.cons_append, List.append_assoc, List.singleton_append, firstType?,
      if_neg (by decide), if_pos rfl, cut.1, cut.2]
    rfl
  | array element ih => simp [firstType?, ih]

end IsType

theorem types?_of_firstType? {cs type after : Text} (h : firstType? cs = some (type, after)) :
    types? cs = (types? after).map (type :: ·) := by
  have present : ¬cs.isEmpty := by
    intro empty
    rw [List.isEmpty_iff.1 empty] at h
    cases h
  rw [types?, if_neg present]
  split
  · rename_i missing
    rw [h] at missing
    cases missing
  · rename_i found
    rw [h] at found
    cases found
    rfl

theorem types?_of_none {cs : Text} (present : ¬cs.isEmpty) (h : firstType? cs = none) :
    types? cs = none := by
  rw [types?, if_neg present]
  split
  · rfl
  · rename_i found
    rw [h] at found
    cases found

theorem types?_flatten {types : List Text} (h : ∀ t ∈ types, IsType t) :
    types? types.flatten = some types := by
  induction types with
  | nil => simp [types?]
  | cons type rest ih =>
    have own := h type (List.mem_cons_self ..)
    have later := ih fun t member => h t (List.mem_cons_of_mem _ member)
    rw [List.flatten_cons, types?_of_firstType? (own.firstType?_append _), later]
    rfl

theorem method?_prototype {types : List Text} {returned : Text} (h : ∀ t ∈ types, IsType t)
    (apart : ∀ t ∈ types, (')' : CodePoint) ∉ t) (present : returned ≠ []) :
    method? (.char '(' :: (types.flatten ++ .char ')' :: returned)) =
      some (types.map javaName, javaName returned) := by
  have outside : (')' : CodePoint) ∉ types.flatten := by
    intro found
    obtain ⟨type, member, inside⟩ := List.mem_flatten.1 found
    exact apart type member inside
  have cut := span_before outside returned
  rw [method?, if_neg (by decide), cut.1, cut.2, types?_flatten h]
  simp [present]

def isTypeChar (c : CodePoint) : Bool := !isBlank c && c ≠ ',' && c ≠ ')'

section
variable {c : CodePoint} (h : isTypeChar c = true)
include h

theorem unblank_of_isTypeChar : isBlank c = false := by
  simp_all [isTypeChar]

theorem ne_comma_of_isTypeChar : c ≠ .char ',' := by
  rintro rfl
  exact absurd h (by decide)

theorem ne_closing_of_isTypeChar : c ≠ .char ')' := by
  rintro rfl
  exact absurd h (by decide)

theorem ne_line_of_isTypeChar : c ≠ .char '\n' := by
  rintro rfl
  exact absurd h (by decide)

end

end DroidRoots.Descriptor

namespace DroidRoots
open Descriptor

inductive Primitive
  | void
  | boolean
  | byte
  | short
  | char
  | int
  | long
  | float
  | double
  deriving DecidableEq, Repr

namespace Primitive

def letter : Primitive → Char
  | void => 'V'
  | boolean => 'Z'
  | byte => 'B'
  | short => 'S'
  | char => 'C'
  | int => 'I'
  | long => 'J'
  | float => 'F'
  | double => 'D'

def name : Primitive → Text
  | void => "void"
  | boolean => "boolean"
  | byte => "byte"
  | short => "short"
  | char => "char"
  | int => "int"
  | long => "long"
  | float => "float"
  | double => "double"

theorem name_ne_nil (p : Primitive) : p.name ≠ [] := by cases p <;> decide

theorem isTypeChar_letter (p : Primitive) : isTypeChar (.char p.letter) = true := by
  cases p <;> decide

theorem isTypeChar_of_mem_name (p : Primitive) : ∀ c ∈ p.name, isTypeChar c = true := by
  cases p <;> decide

end Primitive

/-- The name of a class by its path, which has slashes where the name has dots. -/
structure ClassName where
  path : Text
  path_ne_nil : path ≠ []
  unblank : ∀ c ∈ path, Text.isBlank c = false
  unreserved : ∀ c ∈ path, c ∉ [(';' : CodePoint), ':', '(', ')', ',']

namespace ClassName

def descriptor (n : ClassName) : Text := .char 'L' :: (n.path ++ [.char ';'])

def name (n : ClassName) : Text := dotted n.path

variable (n : ClassName)

theorem semicolon : (';' : CodePoint) ∉ n.path := fun found => by
  simpa using n.unreserved _ found

theorem isType_descriptor : IsType n.descriptor := .named n.semicolon

theorem name_ne_nil : n.name ≠ [] := by
  simpa [name, dotted] using n.path_ne_nil

theorem mem_path_of_mem_name {c : CodePoint} (h : c ∈ n.name) : c = '.' ∨ c ∈ n.path := by
  obtain ⟨d, member, rfl⟩ := List.mem_map.1 h
  by_cases slash : d = '/'
  · exact .inl (if_pos slash)
  · exact .inr (by rwa [if_neg slash])

theorem isTypeChar_of_mem_path {c : CodePoint} (h : c ∈ n.path) : isTypeChar c = true := by
  have free := n.unreserved c h
  simp only [List.mem_cons, not_or] at free
  simp [isTypeChar, n.unblank c h, free]

theorem isTypeChar_of_mem_name {c : CodePoint} (h : c ∈ n.name) : isTypeChar c = true := by
  rcases n.mem_path_of_mem_name h with rfl | inside
  · decide
  · exact n.isTypeChar_of_mem_path inside

theorem colon : (':' : CodePoint) ∉ n.name := by
  intro found
  rcases n.mem_path_of_mem_name found with point | inside
  · exact absurd point (by decide)
  · simpa using n.unreserved _ inside

theorem javaName_descriptor : javaName n.descriptor = n.name := by
  rw [descriptor, javaName, if_neg (by decide), elementName]
  · simp [name]
  · intro word single
    exact absurd single (by simp)

end ClassName

inductive JavaType
  | primitive (p : Primitive)
  | reference (n : ClassName)
  | array (element : JavaType)

namespace JavaType

def descriptor : JavaType → Text
  | primitive p => [.char p.letter]
  | reference n => n.descriptor
  | array element => .char '[' :: element.descriptor

def name : JavaType → Text
  | primitive p => p.name
  | reference n => n.name
  | array element => element.name ++ "[]"

theorem isType_descriptor (t : JavaType) : IsType t.descriptor := by
  induction t with
  | primitive p => cases p <;> exact .letter (by decide) (by decide)
  | reference n => exact n.isType_descriptor
  | array element ih => exact .array ih

theorem javaName_descriptor (t : JavaType) : javaName t.descriptor = t.name := by
  induction t with
  | primitive p => cases p <;> rfl
  | reference n => exact n.javaName_descriptor
  | array element ih =>
    rw [descriptor, javaName, if_pos rfl, ih]
    rfl

theorem isTypeChar_of_mem_descriptor (t : JavaType) :
    ∀ c ∈ t.descriptor, isTypeChar c = true := by
  induction t with
  | primitive p => simpa [descriptor] using p.isTypeChar_letter
  | reference n =>
    intro c member
    simp only [descriptor, ClassName.descriptor, List.mem_cons, List.mem_append,
      List.not_mem_nil, or_false] at member
    rcases member with rfl | inside | rfl
    · decide
    · exact n.isTypeChar_of_mem_path inside
    · decide
  | array element ih =>
    intro c member
    rcases List.mem_cons.1 member with rfl | inside
    · decide
    · exact ih c inside

theorem isTypeChar_of_mem_name (t : JavaType) : ∀ c ∈ t.name, isTypeChar c = true := by
  induction t with
  | primitive p => exact p.isTypeChar_of_mem_name
  | reference n => exact fun c => n.isTypeChar_of_mem_name
  | array element ih =>
    have brackets : ∀ c ∈ Text.of "[]", isTypeChar c = true := by decide
    intro c member
    rcases List.mem_append.1 member with inside | bracket
    · exact ih c inside
    · exact brackets c bracket

theorem name_ne_nil (t : JavaType) : t.name ≠ [] := by
  cases t with
  | primitive p => exact p.name_ne_nil
  | reference n => exact n.name_ne_nil
  | array element => simp [name, Text.of, Text.ofChars]

theorem isItem_name (t : JavaType) : Text.IsItem t.name where
  ne_nil := t.name_ne_nil
  comma found := ne_comma_of_isTypeChar (t.isTypeChar_of_mem_name _ found) rfl
  line found := ne_line_of_isTypeChar (t.isTypeChar_of_mem_name _ found) rfl
  trimmed := Text.isTrimmed_of_unblank fun c member =>
    unblank_of_isTypeChar (t.isTypeChar_of_mem_name c member)

end JavaType

end DroidRoots
