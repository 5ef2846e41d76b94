import DroidRoots.Json.Printer

/-! JSON texts are ASCII. Whatever else stands in a value is escaped, surrogates too, so that every
output takes what is printed. -/

namespace DroidRoots

namespace Text

theorem isAscii_nil : IsAscii [] := fun _ member => absurd member List.not_mem_nil

namespace IsAscii

theorem append {a b : Text} (first : a.IsAscii) (second : b.IsAscii) : IsAscii (a ++ b) :=
  List.forall_mem_append.2 ⟨first, second⟩

theorem cons {c : CodePoint} {rest : Text} (first : c.toNat < 0x80) (later : rest.IsAscii) :
    IsAscii (c :: rest) :=
  List.forall_mem_cons.2 ⟨first, later⟩

theorem flatMap {f : CodePoint → Text} (each : ∀ c, (f c).IsAscii) (text : Text) :
    IsAscii (text.flatMap f) := by
  intro c member
  obtain ⟨d, -, inside⟩ := List.mem_flatMap.1 member
  exact each d c inside

theorem join {separator : Text} {texts : List Text} (between : separator.IsAscii)
    (each : ∀ t ∈ texts, t.IsAscii) : IsAscii (join separator texts) := by
  induction texts with
  | nil => exact isAscii_nil
  | cons t rest ih =>
    have first := each t (List.mem_cons_self ..)
    have later := ih fun u member => each u (List.mem_cons_of_mem _ member)
    cases rest with
    | nil => simpa [Text.join] using first
    | cons next rest =>
      rw [Text.join, List.intercalate_cons_cons]
      exact (first.append between).append later

end IsAscii

theorem isAscii_ofChars {cs : List Char} (each : ∀ c ∈ cs, c.toNat < 0x80) :
    IsAscii (ofChars cs) := by
  intro c member
  obtain ⟨d, inside, rfl⟩ := List.mem_map.1 member
  exact each d inside

/-- Of a text that is spelled out, ASCII is checked character by character. -/
theorem isAscii_of {s : String} (all : s.toList.all (·.toNat < 0x80) = true) : IsAscii (of s) :=
  isAscii_ofChars fun c member => of_decide_eq_true (List.all_eq_true.1 all c member)

theorem ascii_digitChar (n : Nat) : n.digitChar.toNat < 0x80 := by
  fun_cases Nat.digitChar n <;> decide

theorem ascii_of_mem_toDigits {base n : Nat} {c : Char} (member : c ∈ Nat.toDigits base n) :
    c.toNat < 0x80 := by
  have digits (fuel n : Nat) (later : List Char) (ascii : ∀ c ∈ later, c.toNat < 0x80) :
      ∀ c ∈ Nat.toDigitsCore base fuel n later, c.toNat < 0x80 := by
    fun_induction Nat.toDigitsCore base fuel n later with
    | case1 => exact ascii
    | case2 => exact List.forall_mem_cons.2 ⟨ascii_digitChar _, ascii⟩
    | case3 _ _ _ _ _ _ ih => exact ih (List.forall_mem_cons.2 ⟨ascii_digitChar _, ascii⟩)
  exact digits _ _ [] (by simp) c member

theorem isAscii_ofNat (n : Nat) : IsAscii (ofNat n) := by
  refine isAscii_ofChars fun c member => ?_
  rw [show toString n = String.ofList (Nat.toDigits 10 n) from rfl, String.toList_ofList] at member
  exact ascii_of_mem_toDigits member

theorem of_append (a b : String) : of (a ++ b) = of a ++ of b := by
  simp [of, ofChars, String.toList_append]

theorem isAscii_ofInt (i : Int) : IsAscii (ofInt i) := by
  cases i with
  | ofNat n => exact isAscii_ofNat n
  | negSucc n =>
    have signed : ofInt (.negSucc n) = of "-" ++ ofNat (n + 1) := of_append "-" _
    rw [signed]
    exact IsAscii.append (isAscii_of (by decide)) (isAscii_ofNat _)

theorem isAscii_hexPadded (width n : Nat) : IsAscii (hexPadded width n) := by
  refine IsAscii.append (fun c member => ?_) (isAscii_ofChars fun c => ascii_of_mem_toDigits)
  rw [List.eq_of_mem_replicate member]
  decide

end Text

namespace Layout
variable {layout : Layout} {digits : String}

structure IsPlain (layout : Layout) : Prop where
  wholeTail : (Text.of layout.wholeTail).IsAscii
  mark : (Text.of layout.mark).IsAscii
  nan : (Text.of layout.nan).IsAscii
  infinity : (Text.of layout.infinity).IsAscii

theorem isPlain_json : json.IsPlain := by
  constructor <;> exact Text.isAscii_of (by decide)

theorem isAscii_zeros (n : Nat) : (Text.of (zeros n)).IsAscii := by
  refine Text.isAscii_ofChars fun c member => ?_
  rw [zeros, String.toList_ofList] at member
  rw [List.eq_of_mem_replicate member]
  decide

theorem isAscii_sublist {cs : List Char} (part : cs.Sublist digits.toList)
    (ascii : (Text.of digits).IsAscii) : (Text.of (String.ofList cs)).IsAscii := by
  refine Text.isAscii_ofChars fun c member => ?_
  rw [String.toList_ofList] at member
  exact ascii (.char c) (List.mem_map_of_mem (part.subset member))

theorem isAscii_positional (plain : layout.IsPlain) (ascii : (Text.of digits).IsAscii)
    (point : Int) : (Text.of (layout.positional digits point)).IsAscii := by
  have start : (Text.of "0.").IsAscii := Text.isAscii_of (by decide)
  have dot : (Text.of ".").IsAscii := Text.isAscii_of (by decide)
  rw [positional]
  split
  · simp only [Text.of_append]
    exact (start.append (isAscii_zeros _)).append ascii
  · split
    · simp only [Text.of_append]
      exact (ascii.append (isAscii_zeros _)).append plain.wholeTail
    · simp only [Text.of_append]
      exact ((isAscii_sublist (List.take_sublist ..) ascii).append dot).append
        (isAscii_sublist (List.drop_sublist ..) ascii)

theorem isAscii_scientific (plain : layout.IsPlain) (ascii : (Text.of digits).IsAscii)
    (exponent : Int) : (Text.of (layout.scientific digits exponent)).IsAscii := by
  have dot : (Text.of ".").IsAscii := Text.isAscii_of (by decide)
  have sign : (Text.of (if exponent < 0 then "-" else "+")).IsAscii := by
    split <;> exact Text.isAscii_of (by decide)
  have fraction : (Text.of (if String.ofList (digits.toList.drop 1) = "" then "" else
      "." ++ String.ofList (digits.toList.drop 1))).IsAscii := by
    split
    · exact Text.isAscii_of (by decide)
    · rw [Text.of_append]
      exact dot.append (isAscii_sublist (List.drop_sublist ..) ascii)
  rw [scientific]
  simp only [Text.of_append]
  exact (((((isAscii_sublist (List.take_sublist ..) ascii).append fraction).append
    plain.mark).append sign).append (isAscii_zeros _)).append (Text.isAscii_ofNat _)

theorem isAscii_significant (n : Nat) : (Text.of (significant n)).IsAscii := by
  refine isAscii_sublist ?_ (Text.isAscii_ofNat n)
  simpa using (List.dropWhile_sublist (· = '0') (l := (toString n).toList.reverse)).reverse

theorem isAscii_text (plain : layout.IsPlain) (x : Binary64) :
    (Text.of (layout.text x)).IsAscii := by
  have minus (negative : Bool) : (Text.of (if negative then "-" else "")).IsAscii := by
    cases negative <;> exact Text.isAscii_of (by decide)
  cases x with
  | nan => exact plain.nan
  | infinite negative =>
    rw [text, Text.of_append]
    exact (minus negative).append plain.infinity
  | finite negative mantissa exponent =>
    rw [text, Text.of_append]
    refine (minus negative).append ?_
    rw [unsigned]
    split
    · rw [Text.of_append]
      exact Text.IsAscii.append (Text.isAscii_of (by decide)) plain.wholeTail
    · dsimp only
      split
      · exact isAscii_positional plain (isAscii_significant _) _
      · exact isAscii_scientific plain (isAscii_significant _) _

end Layout

namespace Json

theorem isAscii_escapeUnit (n : Nat) : (escapeUnit n).IsAscii :=
  .cons (by decide) (.cons (by decide) (Text.isAscii_hexPadded 4 n))

theorem isAscii_escape (c : CodePoint) : (escape c).IsAscii := by
  have pair (a b : Char) (small : (a.toNat < 0x80 && b.toNat < 0x80) = true) :
      Text.IsAscii [.char a, .char b] := by
    simp only [Bool.and_eq_true, decide_eq_true_eq] at small
    exact .cons small.1 (.cons small.2 Text.isAscii_nil)
  unfold escape
  dsimp only
  repeat' split
  any_goals exact pair _ _ rfl
  · rename_i shown
    exact .cons (by omega) Text.isAscii_nil
  · exact isAscii_escapeUnit _
  · exact (isAscii_escapeUnit _).append (isAscii_escapeUnit _)

theorem isAscii_quoted (text : Text) : (quoted text).IsAscii :=
  .cons (by decide) ((Text.IsAscii.flatMap isAscii_escape text).append
    (.cons (by decide) Text.isAscii_nil))

theorem isAscii_scalar (s : Scalar) : (scalar s).IsAscii := by
  cases s with
  | text s => exact isAscii_quoted s
  | moment m => exact isAscii_quoted _
  | bytes b => exact isAscii_quoted _
  | bool b => cases b <;> exact Text.isAscii_of (by decide)
  | null => exact Text.isAscii_of (by decide)
  | int i => exact Text.isAscii_ofInt i
  | float x => exact Layout.isAscii_text Layout.isPlain_json x

theorem isAscii_newLine (depth : Nat) : (newLine depth).IsAscii := by
  refine .cons (by decide) fun c member => ?_
  rw [List.eq_of_mem_replicate member]
  decide

theorem isAscii_enclose {depth : Nat} {opening closing : Text} {parts : List Text}
    (first : opening.IsAscii) (last : closing.IsAscii) (each : ∀ t ∈ parts, t.IsAscii) :
    (enclose depth opening closing parts).IsAscii := by
  have comma : Text.IsAscii "," := Text.isAscii_of (by decide)
  have between := comma.append (isAscii_newLine (depth + 1))
  rw [enclose]
  split
  · exact first.append last
  · exact (((first.append (isAscii_newLine _)).append (between.join each)).append
      (isAscii_newLine _)).append last

theorem isAscii_listed {depth : Nat} {parts : List Text} (each : ∀ t ∈ parts, t.IsAscii) :
    (enclose depth "[" "]" parts).IsAscii :=
  isAscii_enclose (Text.isAscii_of (by decide)) (Text.isAscii_of (by decide)) each

mutual

theorem isAscii_indented (depth : Nat) : (v : Value) → (indented depth v).IsAscii
  | .scalar s => isAscii_scalar s
  | .list items => isAscii_listed (isAscii_indentedItems _ items)
  | .object entries => by
    refine isAscii_enclose (Text.isAscii_of (by decide)) (Text.isAscii_of (by decide))
      fun t member => ?_
    obtain ⟨e, sorted, rfl⟩ := List.mem_map.1 member
    exact isAscii_indentedEntries _ entries e (List.mem_mergeSort.1 sorted)
  | .set members => by
    refine isAscii_listed fun t member => ?_
    obtain ⟨s, -, rfl⟩ := List.mem_map.1 member
    exact isAscii_scalar s
  | .pair first second => by
    refine isAscii_listed fun t member => ?_
    rcases List.mem_cons.1 member with rfl | member
    · exact isAscii_indented _ first
    · rw [List.mem_singleton.1 member]
      exact isAscii_indented _ second
  | .knot _ => isAscii_quoted _

theorem isAscii_indentedItems (depth : Nat) :
    (items : List Value) → ∀ t ∈ indentedItems depth items, t.IsAscii
  | [] => fun _ member => absurd member List.not_mem_nil
  | v :: rest => fun t member => by
    rcases List.mem_cons.1 member with rfl | later
    · exact isAscii_indented depth v
    · exact isAscii_indentedItems depth rest t later

theorem isAscii_indentedEntries (depth : Nat) :
    (entries : List (Scalar × Value)) → ∀ e ∈ indentedEntries depth entries, e.2.IsAscii
  | [] => fun _ member => absurd member List.not_mem_nil
  | (k, v) :: rest => fun e member => by
    rcases List.mem_cons.1 member with rfl | later
    · have colon : Text.IsAscii ": " := Text.isAscii_of (by decide)
      exact ((isAscii_quoted _).append colon).append (isAscii_indented depth v)
    · exact isAscii_indentedEntries depth rest e later

end

theorem isAscii_pretty (v : Value) : (pretty v).IsAscii := isAscii_indented 0 v

end Json

end DroidRoots
