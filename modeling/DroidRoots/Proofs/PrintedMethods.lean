import DroidRoots.Proofs.SessionHistory
import DroidRoots.Proofs.SignatureRoundTrip

/-! Methods and the signatures that they are printed as. Whatever the parts of a method are, if
its signature can be read then the method that is read has the class and the subsignature of the
printed one, the latter in canonical form, though not always its parts. So an entry point is told
from the signature as from the method itself. -/

namespace DroidRoots.Signature.Pieces
open Text

def subsignature (p : Pieces) : Subsignature.Pieces where
  before := p.before
  returned := p.returned
  gap := p.gap
  name := p.name
  opening := []
  inside := p.inside
  after := []

theorem before_append_member (p : Pieces) :
    p.before ++ p.member = p.subsignature.text ++ [.char '>'] := by
  simp [member, subsignature, Subsignature.Pieces.text, Subsignature.Pieces.core]

theorem Valid.subsignature {p : Pieces} (valid : p.Valid) : p.subsignature.Valid where
  before_blank := valid.before_blank
  heading := valid.heading
  opening_blank := by simp [Pieces.subsignature]
  line := valid.line
  after_blank := by simp [Pieces.subsignature]

end DroidRoots.Signature.Pieces

namespace DroidRoots.Method
open Text

/-- The pieces of a printed signature are the class and those of the subsignature, which the colon
tells apart. The returned type may be blank, and then the blanks after the colon go on. -/
theorem pieces_of_text_eq_signature {m : Method} {p : Signature.Pieces} (valid : p.Valid)
    (colon : (':' : CodePoint) ∉ m.declaring) (printed : p.text = m.signature) :
    p.declaring = m.declaring ∧ p.subsignature.text = .char ' ' :: m.subsignature := by
  have spelled : m.signature = .char '<' :: (m.declaring ++
      .char ':' :: (.char ' ' :: m.subsignature ++ [.char '>'])) := by
    simp [signature, Signature.angle]
  rw [spelled, Signature.Pieces.text, p.before_append_member] at printed
  have cut := span_before valid.colon (p.subsignature.text ++ [.char '>'])
  rw [List.tail_eq_of_cons_eq printed, (span_before colon _).1, (span_before colon _).2] at cut
  exact ⟨cut.1.symm, (List.append_cancel_right (List.tail_eq_of_cons_eq cut.2)).symm⟩

theorem subsignature_of_parse_signature {m n : Method} (colon : (':' : CodePoint) ∉ m.declaring)
    (read : parse m.signature = .ok n) :
    n.declaring = trim m.declaring ∧ n.subsignature = Subsignature.canonical m.subsignature := by
  obtain ⟨text, spelled, found⟩ := parse_eq_ok_iff.1 read
  rw [signature, angled_angle] at spelled
  cases spelled
  obtain ⟨p, valid, printed, rfl⟩ := Signature.Pieces.ofAngled?_eq_some_iff.1 found
  obtain ⟨declaring, written⟩ := pieces_of_text_eq_signature valid colon printed
  have canonical := valid.subsignature.canonical_text
  -- the printed space joins the blanks that the subsignature starts with, and all of them go
  have trimmed : trim (.char ' ' :: m.subsignature) = trim m.subsignature := rfl
  rw [written, ← Subsignature.canonical_trim, trimmed, Subsignature.canonical_trim] at canonical
  exact ⟨congrArg trim declaring, canonical.symm⟩

end DroidRoots.Method

namespace DroidRoots.EntryPoint
open Text

theorem contains_canonical (k : Catalog) (role : Role) (subsignature : Text) :
    k.contains role (Subsignature.canonical subsignature) = k.contains role subsignature := by
  rw [Catalog.contains, Catalog.contains, Subsignature.canonical_canonical]

theorem isEntryPoint_congr {m n : Method} (declaring : n.declaring = m.declaring)
    (subsignature : n.subsignature = Subsignature.canonical m.subsignature) (c : Classifier)
    (k : Catalog) : isEntryPoint c k n = isEntryPoint c k m := by
  rw [isEntryPoint, isEntryPoint, declaring, subsignature]
  simp only [contains_canonical]

/-- If the signature that a method is printed as can be read, then it is an entry point exactly if
the method is: every classifier and catalog take the same steps for both, and a session answers
both alike, whatever was requested before. Nothing is asked of the method's name, parameters and
returned type; the class, which no signature can be read without, has no colon and no blank at
its ends. -/
theorem printed_agrees (m n : Method) (colon : (':' : CodePoint) ∉ m.declaring)
    (trimmed : IsTrimmed m.declaring) (read : Method.parse m.signature = .ok n) :
    (∀ (c : Classifier) (k : Catalog),
      isEntrySignature c k m.signature = isEntryMethod c k (some m)) ∧
    ∀ (s : Session), s.classifier.IsOver s.hierarchy → ∀ earlier later : List Session.Request,
      ((s.answer (.entrySignature m.signature)).run.run (s.after earlier {})).1 =
        ((s.answer (.entryMethod (some m))).run.run (s.after later {})).1 := by
  obtain ⟨declaring, subsignature⟩ := Method.subsignature_of_parse_signature colon read
  rw [trimmed.trim_eq] at declaring
  have alike (c : Classifier) (k : Catalog) :
      isEntrySignature c k m.signature = isEntryMethod c k (some m) := by
    rw [isEntrySignature, isEntryMethod, read, ← isEntryPoint_congr declaring subsignature]
    rfl
  refine ⟨alike, fun s sound earlier later => ?_⟩
  have same : s.answer (.entrySignature m.signature) = s.answer (.entryMethod (some m)) := by
    rw [Session.answer, Session.answer, alike]
  rw [same]
  exact Session.answer_after sound rfl earlier later

theorem printed_agrees_shifted :
    let m : Method := ⟨"a.B", " void\t onServiceConnected",
      ["android.content.ComponentName , android.os.IBinder"], "\n"⟩
    let n : Method := ⟨"a.B", "onServiceConnected",
      ["android.content.ComponentName", "android.os.IBinder"], "void"⟩
    let c : Classifier := {
      oracle := some (.relation fun child _ => child = Text.of "a.B")
      rules := [(.serviceConnection, "android.content.ServiceConnection")]
      application := none }
    (':' : CodePoint) ∉ m.declaring ∧ IsTrimmed m.declaring ∧
      Method.parse m.signature = .ok n ∧ n ≠ m ∧
      isEntrySignature c .builtin m.signature = isEntryMethod c .builtin (some m) ∧
      ((isEntryMethod c .builtin (some m)).run.run {}).1 = .ok true := by
  intro m n c
  have read : Method.parse m.signature = .ok n := rfl
  have holds : ((isEntryMethod c .builtin (some m)).run.run {}).1.toOption = some true := by
    decide +kernel
  exact ⟨by decide, by decide, read, by decide,
    (printed_agrees m n (by decide) (by decide) read).1 c .builtin,
    Outcome.eq_ok_of_toOption holds⟩

end DroidRoots.EntryPoint
