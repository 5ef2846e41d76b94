import DroidRoots.Method
import DroidRoots.Proofs.TrimmedText

/-! The grammar of signatures. A returned type and a name are found exactly where blanks
separate them. A subsignature that is made of such pieces, whatever the blanks between them, has
the canonical form of its pieces. A method is read from an angled text exactly if the text is made
of six pieces, which it is in one way only: a class without colons, blanks, a returned type,
blanks, a name, and one line between parentheses. -/

namespace DroidRoots.Subsignature
open Text

structure IsHeading (returned gap name : Text) : Prop where
  returned_ne_nil : returned ≠ []
  returned_unblank : ∀ c ∈ returned, isBlank c = false
  gap_ne_nil : gap ≠ []
  gap_blank : ∀ c ∈ gap, isBlank c = true
  name_ne_nil : name ≠ []
  name_chars : ∀ c ∈ name, isNameChar c = true

theorem isBlank_of_isNameChar {c : CodePoint} (h : isNameChar c = true) : isBlank c = false := by
  simp only [isNameChar, Bool.and_eq_true, Bool.not_eq_true'] at h
  exact h.2

theorem ne_parenthesis_of_isNameChar {c : CodePoint} (h : isNameChar c = true) :
    c ≠ .char '(' := by
  simp only [isNameChar, Bool.and_eq_true, decide_eq_true_eq] at h
  exact h.1

theorem isNameChar_opening (rest : Text) :
    ∀ c ∈ (CodePoint.char '(' :: rest).head?, isNameChar c = false := by
  intro c first
  cases first
  decide

theorem IsHeading.head?_unblank {returned gap name : Text} (h : IsHeading returned gap name)
    (rest : Text) : ∀ c ∈ (returned ++ rest).head?, isBlank c = false := by
  intro c first
  rw [List.head?_append_of_ne_nil _ h.returned_ne_nil] at first
  exact h.returned_unblank c (List.mem_of_mem_head? first)

theorem heading?_of_isHeading {returned gap name rest : Text} (h : IsHeading returned gap name)
    (stop : ∀ c ∈ rest.head?, isNameChar c = false) :
    heading? (returned ++ (gap ++ (name ++ rest))) = some (returned, name, rest) := by
  have gapFirst : ∀ c ∈ (gap ++ (name ++ rest)).head?, (!isBlank c) = false := by
    intro c first
    rw [List.head?_append_of_ne_nil _ h.gap_ne_nil] at first
    simpa using h.gap_blank c (List.mem_of_mem_head? first)
  have nameFirst : ∀ c ∈ (name ++ rest).head?, isBlank c = false := by
    intro c first
    rw [List.head?_append_of_ne_nil _ h.name_ne_nil] at first
    exact isBlank_of_isNameChar (h.name_chars c (List.mem_of_mem_head? first))
  have word := span_run (fun c hc => by simpa using h.returned_unblank c hc) gapFirst
  have blanks := (span_run h.gap_blank nameFirst).2
  have called := span_run h.name_chars stop
  simp [heading?, word.1, word.2, blanks, called.1, called.2, h.returned_ne_nil, h.name_ne_nil]

theorem isHeading_of_heading? {cs returned name rest : Text}
    (h : heading? cs = some (returned, name, rest)) :
    ∃ gap, IsHeading returned gap name ∧ cs = returned ++ (gap ++ (name ++ rest)) := by
  simp only [heading?] at h
  split at h
  · cases h
  · rename_i present
    cases h
    obtain ⟨word, called⟩ := not_or.1 present
    let left := cs.dropWhile fun c => !isBlank c
    have whole : cs = cs.takeWhile (fun c => !isBlank c) ++ left :=
      List.takeWhile_append_dropWhile.symm
    have blanks : left = left.takeWhile isBlank ++ left.dropWhile isBlank :=
      List.takeWhile_append_dropWhile.symm
    have tail : left.dropWhile isBlank = (left.dropWhile isBlank).takeWhile isNameChar ++
        (left.dropWhile isBlank).dropWhile isNameChar := List.takeWhile_append_dropWhile.symm
    refine ⟨left.takeWhile isBlank, ?_, by rw [← tail, ← blanks, ← whole]⟩
    exact {
      returned_ne_nil := word
      returned_unblank := fun c hc => by simpa using List.mem_takeWhile_imp hc
      gap_ne_nil := takeWhile_ne_nil fun none => called (by rw [none]; rfl)
      gap_blank := fun c hc => List.mem_takeWhile_imp hc
      name_ne_nil := called
      name_chars := fun c hc => List.mem_takeWhile_imp hc }

theorem IsHeading.unique {returned gap name rest result space title tail : Text}
    (h : IsHeading returned gap name) (stop : ∀ c ∈ rest.head?, isNameChar c = false)
    (g : IsHeading result space title) (halt : ∀ c ∈ tail.head?, isNameChar c = false)
    (same : returned ++ (gap ++ (name ++ rest)) = result ++ (space ++ (title ++ tail))) :
    returned = result ∧ gap = space ∧ name = title ∧ rest = tail := by
  have read := heading?_of_isHeading h stop
  rw [same, heading?_of_isHeading g halt] at read
  cases read
  exact ⟨rfl, List.append_cancel_right (List.append_cancel_left same), rfl, rfl⟩

structure Pieces where
  before : Text
  returned : Text
  gap : Text
  name : Text
  opening : Text
  inside : Text
  after : Text

namespace Pieces

def core (p : Pieces) : Text :=
  p.returned ++ (p.gap ++ (p.name ++ (p.opening ++ .char '(' :: (p.inside ++ [.char ')']))))

def text (p : Pieces) : Text := p.before ++ p.core ++ p.after

structure Valid (p : Pieces) : Prop where
  before_blank : ∀ c ∈ p.before, isBlank c = true
  heading : IsHeading p.returned p.gap p.name
  opening_blank : ∀ c ∈ p.opening, isBlank c = true
  line : ('\n' : CodePoint) ∉ p.inside
  after_blank : ∀ c ∈ p.after, isBlank c = true

variable {p : Pieces}

theorem Valid.trim_text (valid : p.Valid) : trim p.text = p.core := by
  have present : p.core ≠ [] := List.append_ne_nil_of_left_ne_nil valid.heading.returned_ne_nil _
  apply trim_between _ present valid.before_blank valid.after_blank
  exact {
    first := valid.heading.head?_unblank _
    last := fun c last => by
      have closed : p.core = p.returned ++ (p.gap ++ (p.name ++ (p.opening ++
          .char '(' :: p.inside))) ++ [.char ')'] := by simp [core]
      rw [closed, List.getLast?_concat] at last
      cases last
      decide }

theorem Valid.canonical_text (valid : p.Valid) :
    canonical p.text = render p.name (items p.inside) p.returned := by
  let tail : Text := .char '(' :: (p.inside ++ [.char ')'])
  have stop : ∀ c ∈ (p.opening ++ tail).head?, isNameChar c = false := by
    by_cases none : p.opening = []
    · rw [none]
      exact isNameChar_opening _
    · intro c first
      rw [List.head?_append_of_ne_nil _ none] at first
      have blank := valid.opening_blank c (List.mem_of_mem_head? first)
      simp [isNameChar, blank]
  have opened : (p.opening ++ tail).dropWhile isBlank = tail := by
    apply (span_run valid.opening_blank _).2
    intro c first
    cases first
    decide
  have enclosed : enclosed? [.char ')'] tail = some p.inside :=
    enclosed?_eq_some_iff.2 ⟨rfl, valid.line⟩
  simp only [canonical, valid.trim_text, core, heading?_of_isHeading valid.heading stop, opened,
    enclosed, tail]

end Pieces

end DroidRoots.Subsignature

namespace DroidRoots.Signature
open Text Subsignature

structure Pieces where
  declaring : Text
  before : Text
  returned : Text
  gap : Text
  name : Text
  inside : Text

namespace Pieces

def member (p : Pieces) : Text :=
  p.returned ++ (p.gap ++ (p.name ++ .char '(' :: (p.inside ++ [.char ')', .char '>'])))

def text (p : Pieces) : Text :=
  .char '<' :: (p.declaring ++ .char ':' :: (p.before ++ p.member))

structure Valid (p : Pieces) : Prop where
  declaring_ne_nil : p.declaring ≠ []
  colon : (':' : CodePoint) ∉ p.declaring
  before_ne_nil : p.before ≠ []
  before_blank : ∀ c ∈ p.before, isBlank c = true
  heading : IsHeading p.returned p.gap p.name
  line : ('\n' : CodePoint) ∉ p.inside

def method (p : Pieces) : Method where
  declaring := trim p.declaring
  name := p.name
  params := items p.inside
  returned := p.returned

theorem Valid.head?_member {p : Pieces} (valid : p.Valid) :
    ∀ c ∈ p.member.head?, isBlank c = false := valid.heading.head?_unblank _

theorem Valid.heading?_member {p : Pieces} (valid : p.Valid) :
    heading? p.member =
      some (p.returned, p.name, .char '(' :: (p.inside ++ [.char ')', .char '>'])) :=
  heading?_of_isHeading valid.heading (isNameChar_opening _)

theorem ofAngled?_text {p : Pieces} (valid : p.Valid) :
    Method.ofAngled? p.text = some p.method := by
  have declared := span_before valid.colon (p.before ++ p.member)
  have blanks := (span_run valid.before_blank valid.head?_member).2
  have blank : (p.before ++ p.member).head?.any isBlank = true := by
    obtain ⟨b, rest, start⟩ := List.exists_cons_of_ne_nil valid.before_ne_nil
    have own := valid.before_blank b (by rw [start]; exact List.mem_cons_self ..)
    rw [start, List.cons_append, List.head?_cons, Option.any_some, own]
  have enclosed : enclosed? [.char ')', .char '>']
      (.char '(' :: (p.inside ++ [.char ')', .char '>'])) = some p.inside :=
    enclosed?_eq_some_iff.2 ⟨rfl, valid.line⟩
  simp only [text, Method.ofAngled?, declared.1, declared.2, List.drop_succ_cons, List.drop_zero,
    blank, blanks, valid.heading?_member, enclosed]
  rw [if_neg (by simp [valid.declaring_ne_nil])]
  rfl

theorem exists_of_ofAngled? {cs : Text} {m : Method} (h : Method.ofAngled? cs = some m) :
    ∃ p : Pieces, p.Valid ∧ p.text = cs ∧ p.method = m := by
  cases cs with
  | nil => cases h
  | cons c rest =>
    simp only [Method.ofAngled?] at h
    split at h
    · cases h
    · rename_i present
      obtain ⟨angle, present⟩ := not_or.1 present
      obtain ⟨declared, blank⟩ := not_or.1 present
      have colon : rest.dropWhile (· ≠ .char ':') ≠ [] := by
        intro none
        rw [none] at blank
        exact blank rfl
      obtain ⟨declaring, after, apart, rfl⟩ := exists_cut colon
      obtain ⟨taken, left⟩ := span_before apart after
      rw [taken] at declared h
      rw [left, List.drop_succ_cons, List.drop_zero] at blank h
      split at h
      · cases h
      · rename_i returned name tail found
        obtain ⟨inside, enclosed, rfl⟩ := Option.map_eq_some_iff.1 h
        obtain ⟨gap, heading, member⟩ := isHeading_of_heading? found
        obtain ⟨rfl, line⟩ := enclosed?_eq_some_iff.1 enclosed
        have whole : after = after.takeWhile isBlank ++ after.dropWhile isBlank :=
          List.takeWhile_append_dropWhile.symm
        refine ⟨⟨declaring, after.takeWhile isBlank, returned, gap, name, inside⟩, ?_, ?_, rfl⟩
        · exact {
            declaring_ne_nil := declared
            colon := apart
            before_ne_nil := by
              cases after with
              | nil => exact absurd rfl blank
              | cons b bs =>
                have own : isBlank b = true := by simpa using blank
                rw [List.takeWhile_cons_of_pos own]
                exact List.cons_ne_nil _ _
            before_blank := fun c hc => List.mem_takeWhile_imp hc
            heading := heading
            line := line }
        · rw [text, Pieces.member, ← member, ← whole, Decidable.not_not.1 angle]

theorem Valid.unique {p q : Pieces} (h : p.Valid) (g : q.Valid) (same : p.text = q.text) :
    p = q := by
  have whole := List.tail_eq_of_cons_eq same
  have declared := span_before h.colon (p.before ++ p.member)
  rw [whole, (span_before g.colon _).1, (span_before g.colon _).2] at declared
  have members := List.tail_eq_of_cons_eq declared.2
  have blanks := span_run h.before_blank h.head?_member
  rw [← members, (span_run g.before_blank g.head?_member).1,
    (span_run g.before_blank g.head?_member).2] at blanks
  obtain ⟨returned, gap, name, rest⟩ :=
    h.heading.unique (isNameChar_opening _) g.heading (isNameChar_opening _) blanks.2.symm
  have inside := List.append_cancel_right (List.tail_eq_of_cons_eq rest)
  cases p
  cases q
  simp only [Pieces.mk.injEq]
  exact ⟨declared.1.symm, blanks.1.symm, returned, gap, name, inside⟩

theorem ofAngled?_eq_some_iff {cs : Text} {m : Method} :
    Method.ofAngled? cs = some m ↔ ∃ p : Pieces, p.Valid ∧ p.text = cs ∧ p.method = m := by
  constructor
  · exact exists_of_ofAngled?
  · rintro ⟨p, valid, rfl, rfl⟩
    exact ofAngled?_text valid

end Pieces

theorem parse?_of_isAngled {signature : Text} (h : isAngled (trim signature) = true) :
    Method.parse? signature = .ok (Method.ofAngled? (trim signature)) := by
  rw [Method.parse?, angled, if_pos h, Except.map]

/-- A text that is angled once its ends are trimmed is read as a method exactly if it is made of
the pieces of one, between which it is cut in one way only: the parameters are what is not blank
between commas, trimmed. If it is not made of such pieces, no method is read and that is no
fault. -/
theorem angled_grammar (signature : Text) (first : (trim signature).head? = some (.char '<'))
    (last : (trim signature).getLast? = some (.char '>')) :
    (∀ m : Method, Method.parse? signature = .ok (some m) ↔
      ∃ p : Pieces, p.Valid ∧ p.text = trim signature ∧ m.declaring = trim p.declaring ∧
        m.returned = p.returned ∧ m.name = p.name ∧
        m.params = ((p.inside.splitOn (.char ',')).filter fun piece =>
          piece.any fun c => !isBlank c).map trim) ∧
    (∀ p q : Pieces, p.Valid → q.Valid → p.text = trim signature → q.text = trim signature →
      p = q) ∧
    (Method.parse? signature = .ok none ↔ ¬∃ p : Pieces, p.Valid ∧ p.text = trim signature) := by
  have angled : isAngled (trim signature) = true := by rw [isAngled, first, last]; rfl
  have read (m : Option Method) :
      Method.parse? signature = .ok m ↔ Method.ofAngled? (trim signature) = m := by
    rw [parse?_of_isAngled angled, Except.ok.injEq]
  refine ⟨fun m => ?_, fun p q hp hq own other => hp.unique hq (own.trans other.symm), ?_⟩
  · rw [read, Pieces.ofAngled?_eq_some_iff]
    constructor
    · rintro ⟨p, valid, written, rfl⟩
      exact ⟨p, valid, written, rfl, rfl, rfl, items_eq p.inside⟩
    · rintro ⟨p, valid, written, declaring, returned, name, params⟩
      refine ⟨p, valid, written, ?_⟩
      rw [Pieces.method, items_eq, ← declaring, ← returned, ← name, ← params]
  · rw [read, Option.eq_none_iff_forall_ne_some]
    constructor
    · rintro other ⟨p, valid, written⟩
      exact other p.method (Pieces.ofAngled?_eq_some_iff.2 ⟨p, valid, written, rfl⟩)
    · intro other m found
      obtain ⟨p, valid, written, -⟩ := Pieces.ofAngled?_eq_some_iff.1 found
      exact other ⟨p, valid, written⟩

theorem angled_grammar_brackets :
    let signature := Text.of "\n<a.B<c> :\tint>  on(x, ,(y):>)> "
    let p : Pieces := ⟨"a.B<c> ", "\t", "int>", "  ", "on", "x, ,(y):>"⟩
    (trim signature).head? = some (.char '<') ∧ (trim signature).getLast? = some (.char '>') ∧
      p.Valid ∧ p.text = trim signature ∧
      Method.parse? signature = .ok (some ⟨"a.B<c>", "on", ["x", "(y):>"], "int>"⟩) ∧
      ¬∃ q : Pieces, q.Valid ∧ q.text = trim (Text.of "<a.B:int on()>") := by
  intro signature p
  have valid : p.Valid := {
    declaring_ne_nil := by decide
    colon := by decide
    before_ne_nil := by decide
    before_blank := by decide
    heading := ⟨by decide, by decide, by decide, by decide, by decide, by decide⟩
    line := by decide }
  exact ⟨rfl, rfl, valid, rfl,
    ((angled_grammar signature rfl rfl).1 _).2 ⟨p, valid, rfl, rfl, rfl, rfl, by decide⟩,
    (angled_grammar "<a.B:int on()>" rfl rfl).2.2.1 rfl⟩

end DroidRoots.Signature
