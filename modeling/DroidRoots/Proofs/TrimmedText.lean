import DroidRoots.Text.Blank
import Mathlib.Data.List.DropRight
import Mathlib.Data.List.TakeWhile

/-! Trimmed texts and the items of a list. Trimming gives a text without blanks at its
ends and leaves such a text as it is. The items of joined items are those items, and
every item is trimmed, not empty and free of commas. -/

namespace DroidRoots.Text

theorem dropWhile_of_stop {α : Type} {p : α → Bool} {cs : List α}
    (stop : ∀ c ∈ cs.head?, p c = false) : cs.dropWhile p = cs := by
  cases cs with
  | nil => rfl
  | cons c cs => simp [stop c rfl]

theorem span_run {α : Type} {p : α → Bool} {run rest : List α}
    (inside : ∀ c ∈ run, p c = true) (stop : ∀ c ∈ rest.head?, p c = false) :
    (run ++ rest).takeWhile p = run ∧ (run ++ rest).dropWhile p = rest := by
  induction run with
  | nil =>
    rw [List.nil_append, dropWhile_of_stop stop]
    cases rest with
    | nil => exact ⟨rfl, rfl⟩
    | cons c rest => simp [stop c rfl]
  | cons c run ih =>
    have own := inside c (List.mem_cons_self ..)
    obtain ⟨taken, left⟩ := ih fun x hx => inside x (List.mem_cons_of_mem _ hx)
    simp [own, taken, left]

theorem span_before {separator : CodePoint} {run : Text} (apart : separator ∉ run) (rest : Text) :
    (run ++ separator :: rest).takeWhile (· ≠ separator) = run ∧
      (run ++ separator :: rest).dropWhile (· ≠ separator) = separator :: rest := by
  apply span_run
  · intro c hc
    have other : c ≠ separator := fun same => apart (same ▸ hc)
    simpa using other
  · intro c first
    cases first
    simp

theorem head?_dropWhile {α : Type} (p : α → Bool) (cs : List α) :
    ∀ c ∈ (cs.dropWhile p).head?, p c = false := by
  intro c first
  have stop := List.head?_dropWhile_not p cs
  rw [Option.mem_def] at first
  rw [first] at stop
  exact stop

theorem exists_cut {separator : CodePoint} {cs : Text} (h : cs.dropWhile (· ≠ separator) ≠ []) :
    ∃ run rest, separator ∉ run ∧ cs = run ++ separator :: rest := by
  obtain ⟨c, rest, left⟩ := List.exists_cons_of_ne_nil h
  have stopped := head?_dropWhile (· ≠ separator) cs c (by rw [left]; rfl)
  obtain rfl : c = separator := by simpa using stopped
  refine ⟨cs.takeWhile (· ≠ c), rest, fun found => ?_, ?_⟩
  · simpa using List.mem_takeWhile_imp found
  · rw [← left, List.takeWhile_append_dropWhile]

theorem takeWhile_ne_nil {α : Type} {p : α → Bool} {cs : List α}
    (h : cs.dropWhile (fun c => !p c) ≠ []) :
    (cs.dropWhile fun c => !p c).takeWhile p ≠ [] := by
  obtain ⟨c, rest, cut⟩ := List.exists_cons_of_ne_nil h
  have stopped := head?_dropWhile (fun c => !p c) cs c (by rw [cut]; rfl)
  rw [cut, List.takeWhile_cons_of_pos (by simpa using stopped)]
  exact List.cons_ne_nil _ _

structure IsTrimmed (text : Text) : Prop where
  first : ∀ c ∈ text.head?, isBlank c = false
  last : ∀ c ∈ text.getLast?, isBlank c = false

instance (text : Text) : Decidable (IsTrimmed text) :=
  decidable_of_iff ((∀ c ∈ text.head?, isBlank c = false) ∧ ∀ c ∈ text.getLast?, isBlank c = false)
    ⟨fun h => ⟨h.1, h.2⟩, fun h => ⟨h.first, h.last⟩⟩

theorem isTrimmed_of_unblank {text : Text} (h : ∀ c ∈ text, isBlank c = false) :
    IsTrimmed text where
  first c hc := h c (List.mem_of_mem_head? hc)
  last c hc := h c (List.mem_of_mem_getLast? hc)

theorem IsTrimmed.trim_eq {text : Text} (h : IsTrimmed text) : trim text = text := by
  have front : trimStart text = text := dropWhile_of_stop h.first
  have back : text.reverse.dropWhile isBlank = text.reverse := by
    apply dropWhile_of_stop
    rw [List.head?_reverse]
    exact h.last
  rw [trim, front, trimEnd, back, List.reverse_reverse]

theorem trimEnd_eq_rdropWhile (text : Text) : trimEnd text = text.rdropWhile isBlank := rfl

theorem isTrimmed_trim (text : Text) : IsTrimmed (trim text) where
  first c hc := by
    obtain ⟨back, whole⟩ := List.rdropWhile_prefix isBlank (trimStart text)
    rw [trim, trimEnd_eq_rdropWhile] at hc
    apply head?_dropWhile isBlank text c
    rw [← trimStart, ← whole, List.head?_append, Option.mem_def, hc, Option.some_or]
  last c hc := by
    rw [trim, trimEnd, List.getLast?_reverse] at hc
    exact head?_dropWhile isBlank _ c hc

theorem trim_between {before text after : Text} (h : IsTrimmed text) (present : text ≠ [])
    (blankBefore : ∀ c ∈ before, isBlank c = true) (blankAfter : ∀ c ∈ after, isBlank c = true) :
    trim (before ++ text ++ after) = text := by
  have front : trimStart (before ++ text ++ after) = text ++ after := by
    have stop : ∀ c ∈ (text ++ after).head?, isBlank c = false := by
      rw [List.head?_append_of_ne_nil _ present]
      exact h.first
    rw [trimStart, List.append_assoc, (span_run blankBefore stop).2]
  have stop : ∀ c ∈ text.reverse.head?, isBlank c = false := by
    rw [List.head?_reverse]
    exact h.last
  have blanks : ∀ c ∈ after.reverse, isBlank c = true := fun c member =>
    blankAfter c (List.mem_reverse.1 member)
  rw [trim, front, trimEnd, List.reverse_append, (span_run blanks stop).2, List.reverse_reverse]

theorem mem_of_mem_trim {text : Text} {c : CodePoint} (h : c ∈ trim text) : c ∈ text := by
  rw [trim, trimEnd_eq_rdropWhile] at h
  exact (List.dropWhile_suffix isBlank).subset ((List.rdropWhile_prefix isBlank _).subset h)

theorem trim_eq_nil_iff {text : Text} : trim text = [] ↔ ∀ c ∈ text, isBlank c = true := by
  rw [trim, trimEnd_eq_rdropWhile, List.rdropWhile_eq_nil_iff]
  constructor
  · intro left c member
    by_contra other
    have kept : trimStart text ≠ [] := by
      intro none
      exact other (List.dropWhile_eq_nil_iff.1 none c member)
    obtain ⟨first, rest, start⟩ := List.exists_cons_of_ne_nil kept
    have blank := left first (by rw [start]; exact List.mem_cons_self ..)
    have stop := head?_dropWhile isBlank text first (by rw [← trimStart, start]; rfl)
    rw [stop] at blank
    cases blank
  · intro blank c member
    exact blank c ((List.dropWhile_suffix isBlank).subset member)

theorem pieces_eq_splitOn {α : Type} [DecidableEq α] (separator : α) (cs : List α) :
    pieces separator cs = cs.splitOn separator := by
  induction cs with
  | nil => rfl
  | cons c cs ih =>
    rw [pieces, List.splitOn_cons_eq_if_modifyHead, ← ih]
    by_cases same : c = separator
    · simp [same]
    · rw [if_neg same, if_neg (by simpa using same)]
      cases cut : pieces separator cs with
      | nil => exact absurd cut (pieces_ne_nil separator cs)
      | cons piece rest => rfl

theorem mem_piece {α : Type} [DecidableEq α] {separator : α} {cs piece : List α}
    (h : piece ∈ pieces separator cs) : separator ∉ piece ∧ ∀ c ∈ piece, c ∈ cs := by
  induction cs generalizing piece with
  | nil => simp_all [pieces]
  | cons c cs ih =>
    rw [pieces] at h
    by_cases same : c = separator
    · rw [if_pos same] at h
      rcases List.mem_cons.1 h with rfl | h
      · simp
      · exact ⟨(ih h).1, fun x hx => List.mem_cons_of_mem _ ((ih h).2 x hx)⟩
    · rw [if_neg same] at h
      cases cut : pieces separator cs with
      | nil => exact absurd cut (pieces_ne_nil separator cs)
      | cons first rest =>
        rw [cut] at h ih
        rcases List.mem_cons.1 h with rfl | h
        · obtain ⟨apart, inside⟩ := ih (List.mem_cons_self ..)
          refine ⟨fun found => ?_, fun x hx => ?_⟩
          · rcases List.mem_cons.1 found with rfl | found
            · exact same rfl
            · exact apart found
          · rcases List.mem_cons.1 hx with rfl | hx
            · exact List.mem_cons_self ..
            · exact List.mem_cons_of_mem _ (inside x hx)
        · obtain ⟨apart, inside⟩ := ih (List.mem_cons_of_mem _ h)
          exact ⟨apart, fun x hx => List.mem_cons_of_mem _ (inside x hx)⟩

theorem items_append_comma (front back : Text) :
    items (front ++ .char ',' :: back) = items front ++ items back := by
  have cut : (front ++ CodePoint.char ',' :: back).splitOn (.char ',') =
      front.splitOn (.char ',') ++ back.splitOn (.char ',') :=
    List.splitOnP_append_cons front back (beq_self_eq_true _)
  simp only [items, pieces_eq_splitOn, cut, List.map_append, List.filter_append]

theorem items_of_comma {text : Text} (apart : (',' : CodePoint) ∉ text) :
    items text = [trim text].filter (· ≠ []) := by
  rw [items, pieces_eq_splitOn, List.splitOn_eq_singleton apart, List.map_singleton]

theorem comma_of_blank {text : Text} (blank : ∀ c ∈ text, isBlank c = true) :
    (',' : CodePoint) ∉ text := fun found => absurd (blank _ found) (by decide)

theorem items_of_blank {text : Text} (blank : ∀ c ∈ text, isBlank c = true) :
    items text = [] := by
  rw [items_of_comma (comma_of_blank blank), trim_eq_nil_iff.2 blank]
  rfl

theorem items_eq (text : Text) : items text =
    ((text.splitOn (.char ',')).filter fun piece => piece.any fun c => !isBlank c).map trim := by
  have kept (piece : Text) :
      decide (trim piece ≠ []) = piece.any fun c => !isBlank c := by
    rw [Bool.eq_iff_iff, decide_eq_true_eq, Ne, trim_eq_nil_iff]
    simp
  simp only [items, pieces_eq_splitOn, List.filter_map, Function.comp_def, kept]

/-- A text that can stand between commas: trimmed, not empty, on one line and without a comma. -/
structure IsItem (text : Text) : Prop where
  ne_nil : text ≠ []
  comma : (',' : CodePoint) ∉ text
  line : ('\n' : CodePoint) ∉ text
  trimmed : IsTrimmed text

instance (text : Text) : Decidable (IsItem text) :=
  decidable_of_iff (text ≠ [] ∧ (',' : CodePoint) ∉ text ∧ ('\n' : CodePoint) ∉ text ∧
      IsTrimmed text)
    ⟨fun h => ⟨h.1, h.2.1, h.2.2.1, h.2.2.2⟩, fun h => ⟨h.ne_nil, h.comma, h.line, h.trimmed⟩⟩

theorem isItem_of_mem_items {text item : Text} (line : ('\n' : CodePoint) ∉ text)
    (h : item ∈ items text) : IsItem item := by
  obtain ⟨member, present⟩ := List.mem_filter.1 h
  obtain ⟨piece, cut, rfl⟩ := List.mem_map.1 member
  obtain ⟨apart, inside⟩ := mem_piece cut
  exact {
    ne_nil := by simpa using present
    comma := fun found => apart (mem_of_mem_trim found)
    line := fun found => line (inside _ (mem_of_mem_trim found))
    trimmed := isTrimmed_trim piece }

theorem map_trim_of_isItem {texts : List Text} (h : ∀ t ∈ texts, IsItem t) :
    texts.map trim = texts := by
  rw [List.map_congr_left fun t ht => (h t ht).trimmed.trim_eq, List.map_id']

theorem items_join {texts : List Text} (h : ∀ t ∈ texts, IsItem t) :
    items (join [.char ','] texts) = texts := by
  by_cases none : texts = []
  · subst none
    rfl
  · have cut := List.splitOn_intercalate _ (fun t ht => (h t ht).comma) none
    rw [items, pieces_eq_splitOn, join, cut, map_trim_of_isItem h]
    exact List.filter_eq_self.2 fun t ht => by simpa using (h t ht).ne_nil

theorem items_between {before item after : Text} (h : IsItem item)
    (blankBefore : ∀ c ∈ before, isBlank c = true) (blankAfter : ∀ c ∈ after, isBlank c = true) :
    items (before ++ item ++ after) = [item] := by
  have apart : (',' : CodePoint) ∉ before ++ item ++ after := by
    simp [comma_of_blank blankBefore, h.comma, comma_of_blank blankAfter]
  rw [items_of_comma apart, trim_between h.trimmed h.ne_nil blankBefore blankAfter]
  simp [h.ne_nil]

theorem line_join {texts : List Text} (h : ∀ t ∈ texts, IsItem t) :
    ('\n' : CodePoint) ∉ join [.char ','] texts := by
  intro found
  induction texts with
  | nil => simp [join] at found
  | cons t rest ih =>
    cases rest with
    | nil => exact (h t (List.mem_cons_self ..)).line (by simpa [join] using found)
    | cons next rest =>
      rw [join, List.intercalate_cons_cons, List.append_assoc, List.mem_append] at found
      rcases found with found | found
      · exact (h t (List.mem_cons_self ..)).line found
      · rcases List.mem_cons.1 found with comma | found
        · exact absurd comma (by decide)
        · exact ih (fun t ht => h t (List.mem_cons_of_mem _ ht)) found

end DroidRoots.Text
