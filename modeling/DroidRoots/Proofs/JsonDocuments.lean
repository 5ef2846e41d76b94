import DroidRoots.Json.Reader
import DroidRoots.Proofs.Lookups
import DroidRoots.Proofs.Outcomes
import DroidRoots.Value.Show
import Mathlib.Data.Nat.Digits.Defs

/-! What reading a JSON text gives. Every value that is read has texts for keys, no object in it
has a key twice, and no integer in it is too long to be written; whatever cannot be read is at one
of three faults. The stack machine keeps all this from token to token. -/

namespace DroidRoots

namespace Numeral

theorem value_lt_tenTo {digits : Text} {limit : Nat} (short : digits.length ≤ limit) :
    value 10 digits < tenTo limit := by
  have reversed : value 10 digits = Nat.ofDigits 10 (digits.filterMap (digit? 10)).reverse := by
    simp only [value, Nat.ofDigits_eq_foldr, List.foldr_reverse, Nat.cast_id, Nat.add_comm]
  have small : ∀ d ∈ (digits.filterMap (digit? 10)).reverse, d < 10 := by
    intro d member
    obtain ⟨c, -, read⟩ := List.mem_filterMap.1 (List.mem_reverse.1 member)
    obtain ⟨-, below⟩ := Option.filter_eq_some_iff.1 read
    simpa using below
  have fewer : (digits.filterMap (digit? 10)).reverse.length ≤ limit := by
    rw [List.length_reverse]
    exact (List.length_filterMap_le ..).trans short
  rw [reversed]
  exact (Nat.ofDigits_lt_base_pow_length (by decide) small).trans_le
    (Nat.pow_le_pow_right (by decide) fewer)

theorem isWritable_of_ofDigits {negative : Bool} {digits : Text} {i : Int}
    (read : ofDigits negative digits = .ok i) : isWritable i = true := by
  unfold ofDigits at read
  split at read
  · cases read
  · rename_i short
    obtain rfl := Except.ok.inj read
    have size : (ofSign negative (value 10 digits)).natAbs = value 10 digits := by
      cases negative <;> simp [ofSign]
    rw [isWritable, size, decide_eq_true_iff]
    exact value_lt_tenTo (Nat.le_of_not_lt short)

end Numeral

def Scalar.IsJson : Scalar → Prop
  | .moment _ | .bytes _ => False
  | .int i => Numeral.isWritable i = true
  | _ => True

namespace Value

inductive IsJson : Value → Prop
  | scalar {s : Scalar} (plain : s.IsJson) : IsJson (.scalar s)
  | list {items : List Value} (all : ∀ v ∈ items, IsJson v) : IsJson (.list items)
  | object {entries : List (Scalar × Value)} (keys : ∀ e ∈ entries, ∃ s, e.1 = .text s)
      (once : (entries.map (·.1)).Nodup) (all : ∀ e ∈ entries, IsJson e.2) :
      IsJson (.object entries)

theorem IsJson.entries {entries : List (Scalar × Value)} (json : (Value.object entries).IsJson) :
    (∀ e ∈ entries, ∃ s, e.1 = .text s) ∧ (entries.map (·.1)).Nodup ∧
      ∀ e ∈ entries, e.2.IsJson := by
  cases json with
  | object keys once all => exact ⟨keys, once, all⟩

theorem areWritable_of_all {knot : Nat → Bool} {items : List Value}
    (all : ∀ v ∈ items, isWritable knot v = true) : areWritable knot items = true := by
  induction items with
  | nil => rfl
  | cons v rest ih =>
    obtain ⟨own, later⟩ := List.forall_mem_cons.1 all
    rw [areWritable, own, ih later, Bool.and_self]

theorem areEntriesWritable_of_all {knot : Nat → Bool} {entries : List (Scalar × Value)}
    (all : ∀ e ∈ entries, e.1.isWritable = true ∧ isWritable knot e.2 = true) :
    areEntriesWritable knot entries = true := by
  induction entries with
  | nil => rfl
  | cons e rest ih =>
    obtain ⟨⟨key, value⟩, later⟩ := List.forall_mem_cons.1 all
    rw [areEntriesWritable, key, value, ih later, Bool.and_self, Bool.and_self]

theorem IsJson.isWritable {v : Value} (json : v.IsJson) (knot : Nat → Bool) :
    v.isWritable knot = true := by
  induction json with
  | @scalar s plain =>
    rw [Value.isWritable]
    cases s with
    | int i => exact plain
    | _ => rfl
  | list _ ih => exact areWritable_of_all ih
  | object keys _ _ ih =>
    refine areEntriesWritable_of_all fun e member => ⟨?_, ih e member⟩
    obtain ⟨s, text⟩ := keys e member
    rw [text]
    rfl

theorem IsJson.written {v : Value} (json : v.IsJson) : Value.written [] v = .ok v.shown := by
  have whole : Knots.readAll [] Value.isWritable (fun _ => true) v = true := json.isWritable _
  rw [Value.written, whole, if_pos rfl]
  rfl

theorem IsJson.untie {v : Value} (json : v.IsJson) (knots : Knots) : knots.untie v = v := by
  cases json <;> rfl

theorem IsJson.field? {fields : List (Scalar × Value)} (json : (Value.object fields).IsJson)
    {name : Text} {v : Value} (found : Value.field? name fields = some v) : v.IsJson := by
  obtain ⟨e, member, rfl⟩ := mem_of_lookup? found
  exact json.entries.2.2 e member

theorem IsJson.fieldD {fields : List (Scalar × Value)} (json : (Value.object fields).IsJson)
    (name : Text) : (Value.fieldD name fields .null).IsJson := by
  rw [Value.fieldD]
  cases found : Value.field? name fields with
  | none => exact .scalar trivial
  | some v => exact json.field? found

def IsEntry (e : Scalar × Value) : Prop := (∃ s, e.1 = .text s) ∧ e.2.IsJson

theorem isJson_ofEntries {entries : List (Scalar × Value)} (read : ∀ e ∈ entries, IsEntry e) :
    (ofEntries entries).IsJson := by
  have kept (done : List (Scalar × Value)) (right : ∀ e ∈ done, IsEntry e)
      (once : (done.map (·.1)).Nodup) :
      (Value.object (entries.foldl (fun done e => put e.1 e.2 done) done)).IsJson := by
    induction entries generalizing done with
    | nil =>
      exact .object (fun e member => (right e member).1) once fun e member => (right e member).2
    | cons e rest ih =>
      have own := read e (List.mem_cons_self ..)
      obtain ⟨s, key⟩ := own.1
      rw [List.foldl_cons, key, put_text]
      refine ih (fun e member => read e (List.mem_cons_of_mem _ member)) _ (fun f member => ?_)
        (Assoc.nodup_put _ once)
      rcases Assoc.mem_of_mem_put member with rfl | old
      · exact ⟨⟨s, rfl⟩, own.2⟩
      · exact right f old
  exact kept [] (fun e member => absurd member List.not_mem_nil) List.nodup_nil

end Value

namespace Json

def IsFault : Fault → Prop
  | .malformedJson | .tooDeep | .overlongInteger _ => True
  | _ => False

def Reads {α : Type} (P : α → Prop) : Except Fault α → Prop
  | .ok a => P a
  | .error fault => IsFault fault

def Token.IsJson : Token → Prop
  | .scalar s => s.IsJson
  | _ => True

def Frame.IsJson : Frame → Prop
  | .list done => ∀ v ∈ done, v.IsJson
  | .object done name => (∀ e ∈ done, Value.IsEntry e) ∧ ∃ s, name = .text s

def State.IsJson : State → Prop
  | .value stack | .firstItem stack | .firstKey stack => ∀ f ∈ stack, f.IsJson
  | .key done stack => (∀ e ∈ done, Value.IsEntry e) ∧ ∀ f ∈ stack, f.IsJson
  | .colon done name stack => (Frame.object done name).IsJson ∧ ∀ f ∈ stack, f.IsJson
  | .after v stack => v.IsJson ∧ ∀ f ∈ stack, f.IsJson

theorem isJson_ofParts (negative : Bool) (whole decimals after : List Char) :
    (ofParts negative whole decimals after).1.IsJson := by
  unfold ofParts
  split
  · trivial
  · split <;> trivial

theorem isJson_of_magnitude? {negative : Bool} {cs after : List Char} {token : Token}
    (h : magnitude? negative cs = some (token, after)) : token.IsJson := by
  unfold magnitude? at h
  split at h
  · cases h
  · rename_i whole rest found
    have parts := isJson_ofParts negative whole (fraction rest).1 (fraction rest).2
    rw [Option.some.inj h] at parts
    exact parts

theorem isJson_of_first? {cs after : List Char} {token : Token}
    (h : first? cs = some (token, after)) : token.IsJson := by
  unfold first? at h
  split at h
  case h_13 rest =>
    obtain ⟨⟨units, left⟩, -, same⟩ := Option.map_eq_some_iff.1 h
    cases same
    trivial
  case h_14 => exact isJson_of_magnitude? h
  case h_15 => exact isJson_of_magnitude? h
  all_goals
    cases h
    trivial

variable {stack : List Frame} {state : State} {token : Token}

theorem enter_reads (right : state.IsJson) : Reads State.IsJson (enter stack state) := by
  unfold enter
  split
  · exact right
  · trivial

theorem start_reads (right : ∀ f ∈ stack, f.IsJson) (plain : token.IsJson) :
    Reads State.IsJson (start stack token) := by
  cases token with
  | scalar s => exact ⟨.scalar plain, right⟩
  | int negative digits =>
    rw [start]
    cases read : Numeral.ofDigits negative (Text.ofChars digits) with
    | ok i => exact ⟨.scalar (Numeral.isWritable_of_ofDigits read), right⟩
    | error fault =>
      unfold Numeral.ofDigits at read
      split at read <;> cases read
      trivial
  | openList => exact enter_reads right
  | openObject => exact enter_reads right
  | closeList | closeObject | comma | colon => trivial

theorem step_reads (right : state.IsJson) (plain : token.IsJson) :
    Reads State.IsJson (step state token) := by
  fun_cases step state token with
  | case1 => exact start_reads right plain
  | case2 => exact ⟨.list fun v member => absurd member List.not_mem_nil, right⟩
  | case3 =>
    have empty : (Frame.list []).IsJson := fun v member => absurd member List.not_mem_nil
    exact start_reads (List.forall_mem_cons.2 ⟨empty, right⟩) plain
  | case4 => exact ⟨Value.isJson_ofEntries fun e member => absurd member List.not_mem_nil, right⟩
  | case5 stack s =>
    have first : (Frame.object [] (.text s)).IsJson :=
      ⟨fun e member => absurd member List.not_mem_nil, s, rfl⟩
    exact ⟨first, right⟩
  | case6 done stack s =>
    have next : (Frame.object done (.text s)).IsJson := ⟨right.1, s, rfl⟩
    exact ⟨next, right.2⟩
  | case7 => exact List.forall_mem_cons.2 right
  | case8 =>
    obtain ⟨own, frames⟩ := right
    obtain ⟨done, outer⟩ := List.forall_mem_cons.1 frames
    have more : (Frame.list (_ :: _)).IsJson := List.forall_mem_cons.2 ⟨own, done⟩
    exact List.forall_mem_cons.2 ⟨more, outer⟩
  | case9 =>
    obtain ⟨own, frames⟩ := right
    obtain ⟨done, outer⟩ := List.forall_mem_cons.1 frames
    refine ⟨.list fun v member => ?_, outer⟩
    exact List.forall_mem_cons.2 ⟨own, done⟩ v (List.mem_reverse.1 member)
  | case10 =>
    obtain ⟨own, frames⟩ := right
    obtain ⟨⟨done, name⟩, outer⟩ := List.forall_mem_cons.1 frames
    exact ⟨List.forall_mem_cons.2 ⟨⟨name, own⟩, done⟩, outer⟩
  | case11 =>
    obtain ⟨own, frames⟩ := right
    obtain ⟨⟨done, name⟩, outer⟩ := List.forall_mem_cons.1 frames
    refine ⟨Value.isJson_ofEntries fun e member => ?_, outer⟩
    exact List.forall_mem_cons.2 ⟨⟨name, own⟩, done⟩ e (List.mem_reverse.1 member)
  | case12 => trivial

theorem run_token {c : Char} {rest after : List Char} (solid : ¬isSpace c = true)
    (first : first? (c :: rest) = some (token, after)) :
    run state (c :: rest) = (step state token).bind (run · after) := by
  rw [run, if_neg solid]
  split
  · rename_i missing
    rw [first] at missing
    cases missing
  · rename_i found
    rw [first] at found
    cases found
    cases step state token <;> rfl

/-- The machine keeps to what a JSON text can hold until the text ends or is at fault. -/
theorem run_reads (right : state.IsJson) (cs : List Char) :
    Reads State.IsJson (run state cs) := by
  induction state, cs using run.induct with
  | case1 state =>
    rw [run]
    exact right
  | case2 state c rest space ih =>
    rw [run, if_pos space]
    exact ih right
  | case3 state c rest solid missing =>
    rw [run, if_neg solid]
    split
    · trivial
    · rename_i found
      rw [missing] at found
      cases found
  | case4 state c rest solid token after first shorter fault failed =>
    have stepped := step_reads right (isJson_of_first? first)
    rw [failed] at stepped
    rw [run_token solid first, failed]
    exact stepped
  | case5 state c rest solid token after first shorter next stepped ih =>
    have kept := step_reads right (isJson_of_first? first)
    rw [stepped] at kept
    rw [run_token solid first, stepped]
    exact ih kept

theorem read_reads (cs : List Char) : Reads Value.IsJson (read cs) := by
  have start : (State.value []).IsJson := fun f member => absurd member List.not_mem_nil
  have ended := run_reads start cs
  unfold read
  split
  · rename_i failed
    rw [failed] at ended
    exact ended
  · rename_i finished
    rw [finished] at ended
    exact ended.1
  · trivial

end Json

end DroidRoots
