import DroidRoots.Proofs.DescriptorGrammar
import DroidRoots.Proofs.SessionHistory
import DroidRoots.Proofs.SignatureRoundTrip

/-! Two spellings of one method. What dex files declare, a class, a name and types, is read
from its dex spelling as the same method as from its angled spelling, so whether it is an entry
point does not depend on the spelling. -/

namespace DroidRoots

structure DexMethod where
  declaring : ClassName
  name : Text
  params : List JavaType
  returned : JavaType
  name_ne_nil : name ≠ []
  name_chars : ∀ c ∈ name, Subsignature.isNameChar c = true

namespace DexMethod
open Text

def prototype (d : DexMethod) : Text :=
  .char '(' :: ((d.params.map JavaType.descriptor).flatten ++ .char ')' :: d.returned.descriptor)

/-- An example is `Lpkg/Cls;->name([ILpkg/Arg;)V`. -/
def spelling (d : DexMethod) : Text :=
  d.declaring.descriptor ++ "->" ++ d.name ++ d.prototype

/-- An example is `<pkg.Cls: void name(int[],pkg.Arg)>`. -/
def angled (d : DexMethod) : Text :=
  "<" ++ d.declaring.name ++ ": " ++ d.returned.name ++ " " ++ d.name ++ "(" ++
    join "," (d.params.map JavaType.name) ++ ")>"

def method (d : DexMethod) : Method where
  declaring := d.declaring.name
  name := d.name
  params := d.params.map JavaType.name
  returned := d.returned.name

variable (d : DexMethod)

theorem wellFormed_method : d.method.WellFormed where
  declaring_ne_nil := d.declaring.name_ne_nil
  colon := d.declaring.colon
  declaring_trimmed := isTrimmed_of_unblank fun c member =>
    Descriptor.unblank_of_isTypeChar (d.declaring.isTypeChar_of_mem_name member)
  member := {
    returned_ne_nil := d.returned.name_ne_nil
    returned_unblank := fun c member =>
      Descriptor.unblank_of_isTypeChar (d.returned.isTypeChar_of_mem_name c member)
    name_ne_nil := d.name_ne_nil
    name_unblank := fun c member => Subsignature.isBlank_of_isNameChar (d.name_chars c member)
    parenthesis := fun found => Subsignature.ne_parenthesis_of_isNameChar (d.name_chars _ found) rfl
    params := fun p member => by
      obtain ⟨t, -, rfl⟩ := List.mem_map.1 member
      exact t.isItem_name }

theorem angled_eq : d.angled = d.method.signature := by
  rw [← d.wellFormed_method.pieces_text]
  simp [angled, method, Method.pieces, Signature.Pieces.text, Signature.Pieces.member, Text.of,
    Text.ofChars]

theorem method?_prototype :
    Descriptor.method? d.prototype = some (d.params.map JavaType.name, d.returned.name) := by
  have types : ∀ t ∈ d.params.map JavaType.descriptor, Descriptor.IsType t := by
    simpa using fun t _ => t.isType_descriptor
  have closing : ∀ t ∈ d.params.map JavaType.descriptor, (')' : CodePoint) ∉ t := by
    simpa using fun t _ found =>
      Descriptor.ne_closing_of_isTypeChar (t.isTypeChar_of_mem_descriptor _ found) rfl
  have named : (d.params.map JavaType.descriptor).map Descriptor.javaName =
      d.params.map JavaType.name := by
    simp [JavaType.javaName_descriptor]
  rw [prototype, Descriptor.method?_prototype types closing d.returned.isType_descriptor.ne_nil,
    named, d.returned.javaName_descriptor]

theorem line_prototype : ('\n' : CodePoint) ∉ d.prototype := by
  have line (t : JavaType) : ('\n' : CodePoint) ∉ t.descriptor := fun found =>
    Descriptor.ne_line_of_isTypeChar (t.isTypeChar_of_mem_descriptor _ found) rfl
  simp [prototype, line]

theorem dexParts?_spelling :
    Signature.dexParts? d.spelling = some (d.declaring.descriptor, d.name, d.prototype) := by
  have semicolon : (';' : CodePoint) ∉ .char 'L' :: d.declaring.path := by
    simp [d.declaring.semicolon]
  have parenthesis : ('(' : CodePoint) ∉ d.name := fun found =>
    Subsignature.ne_parenthesis_of_isNameChar (d.name_chars _ found) rfl
  have closing : (')' : CodePoint) ∈ d.prototype := by simp [prototype]
  have fits : ¬((CodePoint.char 'L' :: d.declaring.path).length < 2 ∨ d.name = [] ∨
      .char ')' ∉ d.prototype ∨ .char '\n' ∈ d.prototype) := by
    rintro (short | unnamed | unclosed | broken)
    · have long := List.length_pos_iff.2 d.declaring.path_ne_nil
      simp only [List.length_cons] at short
      omega
    · exact d.name_ne_nil unnamed
    · exact unclosed closing
    · exact d.line_prototype broken
  have declared (after : Text) :
      (CodePoint.char 'L' :: (d.declaring.path ++ .char ';' :: after)).takeWhile (· ≠ .char ';') =
        .char 'L' :: d.declaring.path ∧
      (CodePoint.char 'L' :: (d.declaring.path ++ .char ';' :: after)).dropWhile (· ≠ .char ';') =
        .char ';' :: after := span_before semicolon after
  have named : (d.name ++ d.prototype).takeWhile (· ≠ .char '(') = d.name ∧
      (d.name ++ d.prototype).dropWhile (· ≠ .char '(') = d.prototype := span_before parenthesis _
  have whole : d.spelling = .char 'L' :: (d.declaring.path ++
      .char ';' :: .char '-' :: .char '>' :: (d.name ++ d.prototype)) := by
    simp [spelling, ClassName.descriptor, Text.of, Text.ofChars]
  rw [whole]
  simp only [Signature.dexParts?, declared, named]
  rw [if_neg fits]
  rfl

theorem isTrimmed_spelling : IsTrimmed d.spelling where
  first c first := by
    cases first
    decide
  last c last := by
    have present := d.returned.isType_descriptor.ne_nil
    have result : d.spelling.getLast? = d.returned.descriptor.getLast? := by
      rw [spelling, prototype, ← List.cons_append, ← List.append_assoc,
        List.getLast?_append_of_ne_nil _ (List.cons_ne_nil _ _),
        List.getLast?_cons_of_ne_nil present]
    rw [result] at last
    exact Descriptor.unblank_of_isTypeChar
      (d.returned.isTypeChar_of_mem_descriptor c (List.mem_of_mem_getLast? last))

theorem angled_spelling {before after : Text} (blankBefore : ∀ c ∈ before, isBlank c = true)
    (blankAfter : ∀ c ∈ after, isBlank c = true) :
    Signature.angled (before ++ d.spelling ++ after) = .ok d.angled := by
  have present : d.spelling ≠ [] := List.cons_ne_nil _ _
  have other : Signature.isAngled d.spelling = false := rfl
  have written : Signature.ofDex d.declaring.descriptor d.name d.prototype = .ok d.angled := by
    rw [Signature.ofDex, Signature.typeNames, d.method?_prototype,
      d.declaring.javaName_descriptor, d.angled_eq]
    rfl
  simp only [Signature.angled, d.dexParts?_spelling, written, other, Bool.false_eq_true, if_false,
    trim_between d.isTrimmed_spelling present blankBefore blankAfter]

theorem parse_angled : Method.parse d.angled = .ok d.method := by
  rw [d.angled_eq]
  exact d.wellFormed_method.parse_signature

theorem parse_spelling {before after : Text} (blankBefore : ∀ c ∈ before, isBlank c = true)
    (blankAfter : ∀ c ∈ after, isBlank c = true) :
    Method.parse (before ++ d.spelling ++ after) = .ok d.method := by
  obtain ⟨text, spelled, read⟩ := Method.parse_eq_ok_iff.1 d.parse_angled
  have own : Signature.angled d.angled = .ok d.angled := by
    rw [d.angled_eq]
    exact Method.angled_angle _ _
  rw [own] at spelled
  cases spelled
  exact Method.parse_eq_ok_iff.2 ⟨d.angled, d.angled_spelling blankBefore blankAfter, read⟩

/-- Both spellings of a method are read as the method with the Java names of its types,
whatever blanks are around the first. So no classifier tells them apart, and a session answers
both alike, whatever was requested before. -/
theorem spellings_agree (d : DexMethod) (before after : Text)
    (blankBefore : ∀ c ∈ before, isBlank c = true) (blankAfter : ∀ c ∈ after, isBlank c = true) :
    let spelled := before ++ d.spelling ++ after
    Method.parse spelled = .ok d.method ∧ Method.parse d.angled = .ok d.method ∧
    (∀ (c : Classifier) (k : Catalog),
      EntryPoint.isEntrySignature c k spelled = EntryPoint.isEntrySignature c k d.angled) ∧
    ∀ (h : Hierarchy) (resolve : Text → Option Text) (degraded : Bool) (k : Catalog)
      (earlier later : List Session.Request),
      let s := Session.ofHierarchy h resolve degraded k
      ((s.answer (.entrySignature spelled)).run.run (s.after earlier {})).1 =
        ((s.answer (.entrySignature d.angled)).run.run (s.after later {})).1 := by
  intro spelled
  have read : Method.parse spelled = .ok d.method := d.parse_spelling blankBefore blankAfter
  have alike (c : Classifier) (k : Catalog) :
      EntryPoint.isEntrySignature c k spelled = EntryPoint.isEntrySignature c k d.angled := by
    rw [EntryPoint.isEntrySignature, EntryPoint.isEntrySignature, read, d.parse_angled]
  refine ⟨read, d.parse_angled, alike, fun h resolve degraded k earlier later => ?_⟩
  intro s
  have same : s.answer (.entrySignature spelled) = s.answer (.entrySignature d.angled) := by
    rw [Session.answer, Session.answer, alike]
  have sound : s.classifier.IsOver h := Session.isOver_ofHierarchy h resolve degraded k
  rw [same]
  exact Session.answer_after (s := s) sound rfl earlier later

theorem spellings_agree_arrays :
    let d : DexMethod := {
      declaring := ⟨"a/B$c", by decide, by decide, by decide⟩
      name := "<init>"
      params := [.array (.array (.primitive .int)),
        .reference ⟨"d.e/[F", by decide, by decide, by decide⟩, .primitive .long]
      returned := .array (.reference ⟨"I", by decide, by decide, by decide⟩)
      name_ne_nil := by decide
      name_chars := by decide }
    (∀ c ∈ Text.of "\t ", isBlank c = true) ∧ (∀ c ∈ Text.of "\n", isBlank c = true) ∧
      d.spelling = Text.of "La/B$c;-><init>([[ILd.e/[F;J)[LI;" ∧
      d.angled = Text.of "<a.B$c: I[] <init>(int[][],d.e.[F,long)>" ∧
      Method.parse ("\t " ++ d.spelling ++ "\n") = .ok d.method := by
  intro d
  exact ⟨by decide, by decide, rfl, rfl, (spellings_agree d "\t " "\n" (by decide) (by decide)).1⟩

end DexMethod

end DroidRoots
