import DroidRoots.Proofs.SignatureRoundTrip

/-! The canonical form of subsignatures. However the parts of a subsignature are spread over a
text, its canonical form is the one in which they are printed, and it tells the parts: two texts
have one form exactly if they are made of the same parts. Canonical forms stay as they are. -/

namespace DroidRoots.Subsignature
open Text

/-- Parameters between commas, with runs of blanks around each of them. Without parameters there
are blanks only. -/
inductive Listed : List Text → Text → Prop
  | none {blanks : Text} (blank : ∀ c ∈ blanks, isBlank c = true) : Listed [] blanks
  | last {before param after : Text} (blankBefore : ∀ c ∈ before, isBlank c = true)
      (blankAfter : ∀ c ∈ after, isBlank c = true) : Listed [param] (before ++ param ++ after)
  | more {before param after next text : Text} {params : List Text}
      (blankBefore : ∀ c ∈ before, isBlank c = true) (blankAfter : ∀ c ∈ after, isBlank c = true)
      (rest : Listed (next :: params) text) :
      Listed (param :: next :: params) (before ++ param ++ after ++ .char ',' :: text)

theorem Listed.items_eq {params : List Text} {text : Text} (h : Listed params text)
    (each : ∀ t ∈ params, IsItem t) : items text = params := by
  induction h with
  | none blank => exact items_of_blank blank
  | last blankBefore blankAfter =>
    exact items_between (each _ (List.mem_cons_self ..)) blankBefore blankAfter
  | more blankBefore blankAfter rest ih =>
    have own := items_between (each _ (List.mem_cons_self ..)) blankBefore blankAfter
    have others := ih fun t member => each t (List.mem_cons_of_mem _ member)
    rw [items_append_comma, own, others, List.singleton_append]

structure Pieces.Spells (p : Pieces) (params : List Text) : Prop where
  valid : p.Valid
  each : ∀ t ∈ params, IsItem t
  listed : Listed params p.inside

namespace Pieces.Spells
variable {p : Pieces} {params : List Text}

theorem wellFormed (h : p.Spells params) : WellFormed p.name params p.returned := by
  rw [← h.listed.items_eq h.each]
  exact .of_isHeading h.valid.heading h.valid.line

theorem canonical_text (h : p.Spells params) :
    canonical p.text = render p.name params p.returned := by
  rw [h.valid.canonical_text, h.listed.items_eq h.each]

end Pieces.Spells

theorem WellFormed.of_render_eq {name title returned result : Text} {params others : List Text}
    (h : WellFormed name params returned) (g : WellFormed title others result)
    (same : render name params returned = render title others result) :
    returned = result ∧ name = title ∧ params = others := by
  rw [h.render_eq, g.render_eq] at same
  obtain ⟨returns, -, named, rest⟩ :=
    h.isHeading.unique (isNameChar_opening _) g.isHeading (isNameChar_opening _) same
  have inside := List.append_cancel_right (List.tail_eq_of_cons_eq rest)
  refine ⟨returns, named, ?_⟩
  rw [← items_join h.params, inside, items_join g.params]

/-- Canonical forms are fixed. A subsignature that is spelled with whatever blanks between its
pieces has the canonical form with one space after the returned type and no other blank, so two
spellings have one form exactly if the returned type, the name and the parameters are the same. -/
theorem canonical_form :
    (∀ cs, canonical (canonical cs) = canonical cs) ∧
    (∀ (p : Pieces) (params : List Text), p.Spells params →
      canonical p.text = p.returned ++ " " ++ p.name ++ "(" ++ join "," params ++ ")") ∧
    ∀ (p q : Pieces) (params others : List Text), p.Spells params → q.Spells others →
      (canonical p.text = canonical q.text ↔
        p.returned = q.returned ∧ p.name = q.name ∧ params = others) := by
  refine ⟨canonical_canonical, fun p params h => ?_, fun p q params others h g => ?_⟩
  · rw [h.canonical_text, h.wellFormed.render_eq]
    simp [Text.of, Text.ofChars]
  · rw [h.canonical_text, g.canonical_text]
    constructor
    · exact h.wellFormed.of_render_eq g.wellFormed
    · rintro ⟨returned, name, rfl⟩
      rw [returned, name]

theorem canonical_form_spread :
    let p : Pieces := ⟨"\n ", "int[]", "\t\n", "on", "\u2028\n", " a.B ,\tc (d\u3000", "\r\n"⟩
    p.Spells ["a.B", "c (d"] ∧ p.text = Text.of "\n int[]\t\non\u2028\n( a.B ,\tc (d\u3000)\r\n" ∧
      canonical p.text = Text.of "int[] on(a.B,c (d)" ∧
      ∀ (q : Pieces) (others : List Text), q.Spells others → canonical q.text = canonical p.text →
        others = ["a.B", "c (d"] := by
  intro p
  have spells : p.Spells ["a.B", "c (d"] := {
    valid := {
      before_blank := by decide
      heading := ⟨by decide, by decide, by decide, by decide, by decide, by decide⟩
      opening_blank := by decide
      line := by decide
      after_blank := by decide }
    each := by decide
    listed := @Listed.more " " "a.B" " " "c (d" "\tc (d\u3000" [] (by decide) (by decide)
      (@Listed.last "\t" "c (d" "\u3000" (by decide) (by decide)) }
  exact ⟨spells, rfl, canonical_form.2.1 p _ spells, fun q others g same =>
    ((canonical_form.2.2 q p others _ g spells).1 same).2.2⟩

end DroidRoots.Subsignature
