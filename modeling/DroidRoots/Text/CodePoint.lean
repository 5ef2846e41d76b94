/-! Texts. A code point is a character, or a surrogate that stands alone, which documents
can give by its number. A text is a list of code points; texts are ordered by code point. -/

namespace DroidRoots

inductive CodePoint
  | char (c : Char)
  /-- Surrogates are counted from the first one. -/
  | surrogate (offset : Fin 2048)
  deriving DecidableEq, Repr

namespace CodePoint

instance : Coe Char CodePoint := ⟨char⟩

def toNat : CodePoint → Nat
  | char c => c.toNat
  | surrogate offset => 0xD800 + offset

/-- The code point of a number; a number that is too large gives the least one. -/
def ofNat (n : Nat) : CodePoint :=
  if h : 0xD800 ≤ n ∧ n < 0xE000 then surrogate ⟨n - 0xD800, by omega⟩ else char (Char.ofNat n)

theorem toNat_inj {a b : CodePoint} : a.toNat = b.toNat ↔ a = b := by
  have apart (c : Char) (offset : Fin 2048) : c.toNat ≠ 0xD800 + offset := by
    have valid := c.valid
    simp only [UInt32.isValidChar, Nat.isValidChar, Char.toNat] at valid ⊢
    omega
  constructor
  · intro same
    cases a with
    | char c =>
      cases b with
      | char d => exact congrArg char (Char.toNat_inj.1 same)
      | surrogate offset => exact absurd same (apart c offset)
    | surrogate offset =>
      cases b with
      | char d => exact absurd same.symm (apart d offset)
      | surrogate other => exact congrArg surrogate (Fin.ext (Nat.add_left_cancel same))
  · rintro rfl
    rfl

instance : LT CodePoint := ⟨fun a b => a.toNat < b.toNat⟩

instance (a b : CodePoint) : Decidable (a < b) := inferInstanceAs (Decidable (a.toNat < b.toNat))

instance : Trans (fun a b : CodePoint => a < b) (fun a b => a < b) (fun a b => a < b) :=
  ⟨fun h g => Nat.lt_trans h g⟩

instance : Std.Irrefl (fun a b : CodePoint => a < b) := ⟨fun _ => Nat.lt_irrefl _⟩

instance : Std.Asymm (fun a b : CodePoint => a < b) := ⟨fun _ _ h g => Nat.lt_asymm h g⟩

instance : Std.Trichotomous (fun a b : CodePoint => a < b) :=
  ⟨fun _ _ h g => toNat_inj.1 (Nat.le_antisymm (Nat.not_lt.1 g) (Nat.not_lt.1 h))⟩

end CodePoint

abbrev Text := List CodePoint

namespace Text

instance : LawfulBEq Text := inferInstanceAs (LawfulBEq (List CodePoint))

def ofChars (cs : List Char) : Text := cs.map .char

def of (s : String) : Text := ofChars s.toList

instance : Coe String Text := ⟨of⟩

def chars? : Text → Option (List Char)
  | [] => some []
  | .char c :: rest => (chars? rest).map (c :: ·)
  | .surrogate _ :: _ => none

@[simp] theorem chars?_ofChars (cs : List Char) : chars? (ofChars cs) = some cs := by
  induction cs with
  | nil => rfl
  | cons c rest ih => simpa [ofChars, chars?] using ih

def IsAscii (text : Text) : Prop := ∀ c ∈ text, c.toNat < 0x80

theorem IsAscii.exists_chars {text : Text} (ascii : text.IsAscii) : ∃ cs, text = ofChars cs := by
  induction text with
  | nil => exact ⟨[], rfl⟩
  | cons c rest ih =>
    have first := ascii c (List.mem_cons_self ..)
    obtain ⟨cs, rfl⟩ := ih fun d member => ascii d (List.mem_cons_of_mem _ member)
    cases c with
    | char c => exact ⟨c :: cs, rfl⟩
    | surrogate offset =>
      simp only [CodePoint.toNat] at first
      omega

def display (text : Text) : String :=
  String.ofList (text.map fun
    | .char c => c
    | .surrogate _ => '\ufffd')

def ofNat (n : Nat) : Text := of (toString n)

def ofInt (i : Int) : Text := of (toString i)

def join (separator : Text) (texts : List Text) : Text := List.intercalate separator texts

protected theorem lt_irrefl (a : Text) : ¬a < a := List.lt_irrefl a

protected theorem lt_trans {a b c : Text} (h : a < b) (g : b < c) : a < c := List.lt_trans h g

protected theorem lt_asymm {a b : Text} (h : a < b) : ¬b < a := List.lt_asymm h

protected theorem eq_of_not_lt {a b : Text} (h : ¬a < b) (g : ¬b < a) : a = b :=
  List.le_antisymm (List.not_lt.1 g) (List.not_lt.1 h)

end Text

end DroidRoots
