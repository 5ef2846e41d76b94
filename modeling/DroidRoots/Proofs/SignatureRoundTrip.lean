import DroidRoots.Proofs.SignatureGrammar

/-! Printing and reading of signatures. A method is well formed if its parts can stand in
an angled signature. Such a method is what its printed signature is read as, and every
method that is read and has a class is well formed, so canonical signatures are fixed. -/

namespace DroidRoots.Subsignature
open Text

/-- The parts of a subsignature, each of which can be told from its neighbours. -/
structure WellFormed (name : Text) (params : List Text) (returned : Text) : Prop where
  returned_ne_nil : returned ≠ []
  returned_unblank : ∀ c ∈ returned, isBlank c = false
  name_ne_nil : name ≠ []
  name_unblank : ∀ c ∈ name, isBlank c = false
  parenthesis : ('(' : CodePoint) ∉ name
  params : ∀ p ∈ params, IsItem p

instance (name : Text) (params : List Text) (returned : Text) :
    Decidable (WellFormed name params returned) :=
  decidable_of_iff (returned ≠ [] ∧ (∀ c ∈ returned, isBlank c = false) ∧ name ≠ [] ∧
      (∀ c ∈ name, isBlank c = false) ∧ ('(' : CodePoint) ∉ name ∧ ∀ p ∈ params, IsItem p)
    ⟨fun ⟨word, solid, named, unblank, apart, items⟩ => ⟨word, solid, named, unblank, apart, items⟩,
      fun h => ⟨h.returned_ne_nil, h.returned_unblank, h.name_ne_nil, h.name_unblank,
        h.parenthesis, h.params⟩⟩

def printed (name : Text) (params : List Text) (returned : Text) : Pieces where
  before := []
  returned := returned
  gap := [.char ' ']
  name := name
  opening := []
  inside := join [.char ','] params
  after := []

namespace WellFormed
variable {name returned : Text} {params : List Text}

theorem isHeading (h : WellFormed name params returned) : IsHeading returned [.char ' '] name where
  returned_ne_nil := h.returned_ne_nil
  returned_unblank := h.returned_unblank
  gap_ne_nil := List.cons_ne_nil _ _
  gap_blank c hc := by
    rw [List.mem_singleton.1 hc]
    decide
  name_ne_nil := h.name_ne_nil
  name_chars c hc := by
    have other : c ≠ .char '(' := fun same => h.parenthesis (same ▸ hc)
    simp [isNameChar, other, h.name_unblank c hc]

theorem of_isHeading {gap inside : Text} (h : IsHeading returned gap name)
    (line : ('\n' : CodePoint) ∉ inside) : WellFormed name (items inside) returned where
  returned_ne_nil := h.returned_ne_nil
  returned_unblank := h.returned_unblank
  name_ne_nil := h.name_ne_nil
  name_unblank c hc := isBlank_of_isNameChar (h.name_chars c hc)
  parenthesis hc := ne_parenthesis_of_isNameChar (h.name_chars _ hc) rfl
  params _ hp := isItem_of_mem_items line hp

theorem render_eq (h : WellFormed name params returned) :
    render name params returned = returned ++ ([.char ' '] ++ (name ++
      .char '(' :: (join [.char ','] params ++ [.char ')']))) := by
  rw [render, (isTrimmed_of_unblank h.returned_unblank).trim_eq,
    (isTrimmed_of_unblank h.name_unblank).trim_eq, map_trim_of_isItem h.params]
  simp

theorem printed_valid (h : WellFormed name params returned) :
    (printed name params returned).Valid where
  before_blank := by simp [printed]
  heading := h.isHeading
  opening_blank := by simp [printed]
  line := line_join h.params
  after_blank := by simp [printed]

theorem printed_text (h : WellFormed name params returned) :
    (printed name params returned).text = render name params returned := by
  rw [h.render_eq]
  simp [printed, Pieces.text, Pieces.core]

theorem canonical_render (h : WellFormed name params returned) :
    canonical (render name params returned) = render name params returned := by
  have read := h.printed_valid.canonical_text
  rwa [h.printed_text, printed, items_join h.params] at read

end WellFormed

theorem canonical_eq_trim_or_render (cs : Text) : canonical cs = trim cs ∨
    ∃ name params returned, WellFormed name params returned ∧
      canonical cs = render name params returned := by
  cases found : heading? (trim cs) with
  | none =>
    left
    simp only [canonical, found]
  | some parts =>
    obtain ⟨returned, name, rest⟩ := parts
    cases enclosed : enclosed? [.char ')'] (rest.dropWhile isBlank) with
    | none =>
      left
      simp only [canonical, found, enclosed]
    | some inside =>
      right
      obtain ⟨gap, heading, -⟩ := isHeading_of_heading? found
      have line := (enclosed?_eq_some_iff.1 enclosed).2
      refine ⟨name, items inside, returned, .of_isHeading heading line, ?_⟩
      simp only [canonical, found, enclosed]

theorem canonical_trim (cs : Text) : canonical (trim cs) = canonical cs := by
  rw [canonical, canonical, (isTrimmed_trim cs).trim_eq]

theorem canonical_canonical (cs : Text) : canonical (canonical cs) = canonical cs := by
  rcases canonical_eq_trim_or_render cs with same | ⟨name, params, returned, formed, written⟩
  · rw [same, canonical_trim, same]
  · rw [written, formed.canonical_render]

end DroidRoots.Subsignature

namespace DroidRoots.Method
open Text

structure WellFormed (m : Method) : Prop where
  declaring_ne_nil : m.declaring ≠ []
  colon : (':' : CodePoint) ∉ m.declaring
  declaring_trimmed : IsTrimmed m.declaring
  member : Subsignature.WellFormed m.name m.params m.returned

instance (m : Method) : Decidable m.WellFormed :=
  decidable_of_iff (m.declaring ≠ [] ∧ (':' : CodePoint) ∉ m.declaring ∧ IsTrimmed m.declaring ∧
      Subsignature.WellFormed m.name m.params m.returned)
    ⟨fun ⟨declared, apart, trimmed, member⟩ => ⟨declared, apart, trimmed, member⟩,
      fun h => ⟨h.declaring_ne_nil, h.colon, h.declaring_trimmed, h.member⟩⟩

def pieces (m : Method) : Signature.Pieces where
  declaring := m.declaring
  before := [.char ' ']
  returned := m.returned
  gap := [.char ' ']
  name := m.name
  inside := join [.char ','] m.params

namespace WellFormed
variable {m : Method}

theorem pieces_valid (h : m.WellFormed) : m.pieces.Valid where
  declaring_ne_nil := h.declaring_ne_nil
  colon := h.colon
  before_ne_nil := List.cons_ne_nil _ _
  before_blank := h.member.isHeading.gap_blank
  heading := h.member.isHeading
  line := line_join h.member.params

theorem pieces_method (h : m.WellFormed) : m.pieces.method = m := by
  rw [Signature.Pieces.method, pieces, h.declaring_trimmed.trim_eq, items_join h.member.params]

theorem pieces_text (h : m.WellFormed) : m.pieces.text = m.signature := by
  rw [signature, subsignature, h.member.render_eq]
  simp [Signature.Pieces.text, Signature.Pieces.member, Signature.angle, pieces]

end WellFormed

theorem angled_angle (declaring subsignature : Text) :
    Signature.angled (Signature.angle declaring subsignature) =
      .ok (Signature.angle declaring subsignature) := by
  have last : (Signature.angle declaring subsignature).getLast? = some (.char '>') := by
    rw [Signature.angle, List.getLast?_concat]
  have trimmed : IsTrimmed (Signature.angle declaring subsignature) := {
    first := fun c hc => by
      cases hc
      decide
    last := fun c hc => by
      rw [last] at hc
      cases hc
      decide }
  rw [Signature.angled, trimmed.trim_eq, if_pos]
  rw [Signature.isAngled, last]
  rfl

theorem WellFormed.parse_signature {m : Method} (h : m.WellFormed) :
    parse m.signature = .ok m := by
  have read : ofAngled? m.signature = some m := by
    rw [← h.pieces_text, Signature.Pieces.ofAngled?_text h.pieces_valid, h.pieces_method]
  rw [signature] at read
  rw [parse, parse?, signature, angled_angle, Except.map, read]

theorem parse_eq_ok_iff {signature : Text} {m : Method} :
    parse signature = .ok m ↔
      ∃ text, Signature.angled signature = .ok text ∧ ofAngled? text = some m := by
  rw [parse, parse?]
  cases spelled : Signature.angled signature with
  | error fault => simp [Except.map]
  | ok text => cases read : ofAngled? text <;> simp [Except.map, read]

/-- Whatever is read has well-formed parts, except that the class may be blank. -/
theorem member_of_parse {signature : Text} {m : Method} (h : parse signature = .ok m) :
    Subsignature.WellFormed m.name m.params m.returned := by
  obtain ⟨text, -, read⟩ := parse_eq_ok_iff.1 h
  obtain ⟨p, valid, -, rfl⟩ := Signature.Pieces.ofAngled?_eq_some_iff.1 read
  exact .of_isHeading valid.heading valid.line

theorem wellFormed_of_parse {signature : Text} {m : Method} (h : parse signature = .ok m)
    (declared : m.declaring ≠ []) : m.WellFormed := by
  obtain ⟨text, -, read⟩ := parse_eq_ok_iff.1 h
  obtain ⟨p, valid, -, rfl⟩ := Signature.Pieces.ofAngled?_eq_some_iff.1 read
  exact {
    declaring_ne_nil := declared
    colon := fun found => valid.colon (mem_of_mem_trim found)
    declaring_trimmed := isTrimmed_trim _
    member := member_of_parse h }

theorem parse_signature_of_parse {signature : Text} {m : Method} (h : parse signature = .ok m)
    (declared : m.declaring ≠ []) : parse m.signature = .ok m :=
  (wellFormed_of_parse h declared).parse_signature

theorem declaring_ne_nil_of_parse {m n : Method} (h : parse m.signature = .ok n) :
    m.declaring ≠ [] := by
  intro blank
  obtain ⟨text, spelled, read⟩ := parse_eq_ok_iff.1 h
  rw [signature, angled_angle] at spelled
  cases spelled
  rw [blank, ofAngled?.eq_def] at read
  cases read

/-- Well-formed methods are read back from their signatures and so told apart by them.
A method that was read and has a class is well formed, and its signature is canonical. -/
theorem signature_round_trip :
    (∀ m : Method, m.WellFormed → parse m.signature = .ok m) ∧
    (∀ m n : Method, m.WellFormed → n.WellFormed → m.signature = n.signature → m = n) ∧
    ∀ (spelling : Text) (m : Method), parse spelling = .ok m → m.declaring ≠ [] →
      m.WellFormed ∧ parse m.signature = .ok m ∧
        (parse m.signature).map Method.signature = .ok m.signature := by
  refine ⟨fun m h => h.parse_signature, fun m n hm hn same => ?_, fun spelling m h declared => ?_⟩
  · have read := hm.parse_signature
    rw [same, hn.parse_signature] at read
    cases read
    rfl
  · have again := parse_signature_of_parse h declared
    exact ⟨wellFormed_of_parse h declared, again, by rw [again]; rfl⟩

theorem signature_round_trip_spaced :
    parse (Method.signature ⟨"a.B<c>", "<init>", ["int[]", "d (e"], "void"⟩) =
        .ok ⟨"a.B<c>", "<init>", ["int[]", "d (e"], "void"⟩ ∧
      Method.signature ⟨"a", "f", ["b", "c"], "d"⟩ ≠ Method.signature ⟨"a", "f", ["b c"], "d"⟩ ∧
      parse " < a.B :\tvoid  f( int, ,d (e )>" = .ok ⟨"a.B", "f", ["int", "d (e"], "void"⟩ ∧
      (Method.mk "a.B" "f" ["int", "d (e"] "void").WellFormed :=
  ⟨signature_round_trip.1 _ (by decide),
    fun same => absurd (signature_round_trip.2.1 _ _ (by decide) (by decide) same) (by decide),
    rfl,
    (signature_round_trip.2.2 " < a.B :\tvoid  f( int, ,d (e )>" _ rfl (by decide)).1⟩

end DroidRoots.Method
