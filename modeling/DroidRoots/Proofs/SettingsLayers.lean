import DroidRoots.Proofs.Lookups
import DroidRoots.Proofs.YamlDocuments
import DroidRoots.Settings
import Mathlib.Data.List.Induction

/-! Settings as layers. A settings file goes over the defaults, entry by entry and one level deep,
and the environment and the command line then name the catalog. In the end each entry but the path
of the catalog is that of the file, or else the default. -/

namespace DroidRoots

namespace Value

/-- Entries that are put one after another over others. What is put may depend on what stands
under its key by then. -/
def layered (merge : Option Value → Value → Value) (old new : List (Scalar × Value)) :
    List (Scalar × Value) :=
  new.foldl (fun done e => put e.1 (merge (lookup? e.1 done) e.2) done) old

variable {merge : Option Value → Value → Value} {old new : List (Scalar × Value)}

theorem layered_append (init : List (Scalar × Value)) (n : Scalar × Value) :
    layered merge old (init ++ [n]) =
      put n.1 (merge (lookup? n.1 (layered merge old init)) n.2) (layered merge old init) :=
  List.foldl_append

theorem mem_layered {e : Scalar × Value} (member : e ∈ layered merge old new) :
    (∃ own ∈ old, own.1 = e.1) ∨ ∃ own ∈ new, own.1 = e.1 := by
  induction new using List.reverseRecOn generalizing e with
  | nil => exact .inl ⟨e, member, rfl⟩
  | append_singleton init n ih =>
    rw [layered_append] at member
    rcases mem_put member with same | ⟨f, before, same⟩
    · exact .inr ⟨n, by simp, same.symm⟩
    · rw [← same]
      rcases ih before with under | ⟨own, earlier, first⟩
      · exact .inl under
      · exact .inr ⟨own, List.mem_append_left _ earlier, first⟩

theorem lookup?_layered (texts : ∀ e ∈ old, ∃ s, e.1 = .text s)
    (once : new.Pairwise fun a b => a.1.same b.1 = false) (key : Scalar) :
    lookup? key (layered merge old new) = (lookup? key new).elim (lookup? key old) fun v =>
      some (merge (lookup? key old) v) := by
  induction new using List.reverseRecOn generalizing key with
  | nil => rfl
  | append_singleton init n ih =>
    obtain ⟨earlier, -, apart⟩ := List.pairwise_append.1 once
    have apart : ∀ e ∈ init, e.1.same n.1 = false := fun e member =>
      apart e member n (List.mem_singleton_self n)
    have held : lookup? n.1 (layered merge old init) = lookup? n.1 old := by
      rw [ih earlier, lookup?_eq_none apart]
      rfl
    have last : lookup? key [n] = if n.1.same key then some n.2 else none := rfl
    rw [layered_append, held, lookup?_append, last]
    by_cases named : ∃ s, n.1 = .text s
    · obtain ⟨s, name⟩ := named
      rw [name, lookup?_put, ih earlier, Scalar.same_text_left]
      by_cases same : key = .text s
      · rw [same, ← name, lookup?_eq_none apart]
        simp
      · simp [same]
    · -- a key that is no text is the same as none before, so its entry comes last
      have unlike (s : Text) : n.1.same (.text s) = false := by
        rw [Scalar.same_text_right, decide_eq_false_iff_not]
        exact fun own => named ⟨s, own⟩
      have new : ∀ e ∈ layered merge old init, e.1.same n.1 = false := by
        intro e member
        rcases mem_layered member with ⟨own, under, same⟩ | ⟨own, before, same⟩
        · obtain ⟨s, text⟩ := texts own under
          rw [← same, text, Scalar.same_text_left, decide_eq_false_iff_not]
          exact fun own => named ⟨s, own⟩
        · rw [← same]
          exact apart own before
      rw [put_of_new _ new, lookup?_append, ih earlier]
      have added : lookup? key [(n.1, merge (lookup? n.1 old) n.2)] =
          if n.1.same key then some (merge (lookup? n.1 old) n.2) else none := rfl
      rw [added]
      cases lookup? key init with
      | some u => rfl
      | none =>
        by_cases same : n.1.same key = true
        · have bare : lookup? key old = none := by
            refine lookup?_of_texts texts ?_
            rintro ⟨s, rfl⟩
            rw [unlike] at same
            cases same
          simp [same, bare, lookup?_of_texts texts named]
        · simp [same]

end Value

namespace Settings

def merged (knots : Knots) (default : Option Value) (given : Value) : Value :=
  match knots.untie given, default with
  | .object new, some (.object old) => .object (Value.layered (fun _ v => v) old new)
  | _, _ => given

theorem overlayEntry_eq (knots : Knots) (sections : List (Scalar × Value)) (key : Scalar)
    (value : Value) : overlayEntry knots sections key value =
      Value.put key (merged knots (Value.lookup? key sections) value) sections := by
  unfold overlayEntry merged
  cases knots.untie value with
  | object new =>
    cases Value.lookup? key sections with
    | none => rfl
    | some default => cases default <;> rfl
  | _ => rfl

theorem overlay_sections (sections : List (Scalar × Value)) (file : Settings) :
    (overlay sections file).sections =
      Value.layered (merged file.knots) sections file.sections := by
  simp only [overlay, Value.layered, overlayEntry_eq]

/-- A mapping of the file over a mapping of the defaults goes entry by entry, and anything else that
the file has replaces the default. What the file does not have stays. -/
def Layered (knots : Knots) (default given result : Option Value) : Prop :=
  match given with
  | none => result = default
  | some value =>
    match knots.untie value, default with
    | .object new, some (.object old) => ∃ own, result = some (.object own) ∧
        ∀ key, Value.lookup? key own = (Value.lookup? key new).or (Value.lookup? key old)
    | _, _ => result = some value

theorem texts_of_defaults {key : Scalar} {old : List (Scalar × Value)}
    (found : Value.lookup? key defaults.sections = some (.object old)) :
    ∀ e ∈ old, ∃ s, e.1 = .text s := by
  have sections : ∀ e ∈ defaults.sections, ∀ old, e.2 = .object old →
      ∀ e ∈ old, ∃ s, e.1 = .text s := by
    simp [defaults, Value.record]
  obtain ⟨e, member, same⟩ := Value.mem_of_lookup? found
  exact sections e member old same

theorem layered_overlay {file : Settings} (keyed : file.document.IsKeyed) (key : Scalar) :
    Layered file.knots (Value.lookup? key defaults.sections) (Value.lookup? key file.sections)
      (Value.lookup? key (overlay defaults.sections file).sections) := by
  rw [overlay_sections, Value.lookup?_layered (by simp [defaults]) keyed.root.once]
  cases found : Value.lookup? key file.sections with
  | none => rfl
  | some value =>
    obtain ⟨e, member, same⟩ := Value.mem_of_lookup? found
    have own : (file.knots.untie value).IsKeyed := keyed.untie (same ▸ keyed.root.entry member)
    simp only [Option.elim, Layered, merged]
    cases untied : file.knots.untie value with
    | object new =>
      rw [untied] at own
      cases default : Value.lookup? key defaults.sections with
      | none => rfl
      | some old =>
        cases old with
        | object old =>
          refine ⟨_, rfl, fun inner => ?_⟩
          rw [Value.lookup?_layered (texts_of_defaults default) own.once]
          cases Value.lookup? inner new <;> rfl
        | _ => rfl
    | _ => rfl

/-- Settings hold the entries of a file over the defaults. Only the path of the catalog, in the
section for it, may be another one. -/
structure Extends (file settings : Settings) : Prop where
  knots : settings.knots = file.knots
  sections : ∀ key, key ≠ .text "lifecycle" →
    Layered file.knots (Value.lookup? key defaults.sections) (Value.lookup? key file.sections)
      (Value.lookup? key settings.sections)
  lifecycle : ∃ whole own,
    Layered file.knots (Value.field? "lifecycle" defaults.sections)
      (Value.field? "lifecycle" file.sections) (some (.object whole)) ∧
    Value.field? "lifecycle" settings.sections = some (.object own) ∧
    ∀ key, key ≠ .text "catalog_path" → Value.lookup? key own = Value.lookup? key whole

def Names (settings : Settings) (path : Option Text) : Prop :=
  catalogPath settings.document = .ok ((path.map .text).getD .null)

section Named
variable {file settings : Settings} {path : Option Text}

theorem names_of_lifecycle {value : Value} {own : List (Scalar × Value)}
    (found : Value.field? "lifecycle" settings.sections = some value)
    (untied : settings.knots.untie value = .object own) :
    settings.Names path ↔
      Value.fieldD "catalog_path" own .null = (path.map Value.text).getD .null := by
  have read : catalogPath settings.document = .ok (Value.fieldD "catalog_path" own .null) := by
    simp only [catalogPath, fieldOf, document, Knots.untie_object, Value.fieldD, found, bind,
      Except.bind, Option.getD_some, untied]
  rw [Names, read, Except.ok.injEq]

theorem lifecycle_of_names (names : settings.Names path) :
    Value.field? "lifecycle" settings.sections = none ∧ path = none ∨
      ∃ value own, Value.field? "lifecycle" settings.sections = some value ∧
        settings.knots.untie value = .object own := by
  simp only [Names, catalogPath, fieldOf, document, Knots.untie_object, Value.fieldD, bind,
    Except.bind] at names
  cases found : Value.field? "lifecycle" settings.sections with
  | none =>
    rw [found] at names
    refine .inl ⟨rfl, ?_⟩
    cases path with
    | none => rfl
    | some name => cases names
  | some value =>
    rw [found] at names
    cases untied : settings.knots.untie value with
    | object own => exact .inr ⟨value, own, rfl, untied⟩
    | _ =>
      rw [Option.getD_some, untied] at names
      cases names

theorem exists_lifecycle_overlay (keyed : file.document.IsKeyed) (names : file.Names path) :
    ∃ own, Value.field? "lifecycle" (overlay defaults.sections file).sections =
        some (.object own) ∧
      Value.fieldD "catalog_path" own .null = (path.map Value.text).getD .null := by
  have lifecycle := layered_overlay keyed (.text "lifecycle")
  have default : Value.lookup? (.text "lifecycle") defaults.sections =
      some (.object [(.text "catalog_path", .null)]) := rfl
  rw [default, Layered.eq_def] at lifecycle
  rcases lifecycle_of_names names with ⟨absent, rfl⟩ | ⟨value, new, found, untied⟩
  · rw [Value.field?] at absent
    rw [absent] at lifecycle
    exact ⟨_, lifecycle, rfl⟩
  · have named := (names_of_lifecycle found untied).1 names
    rw [Value.field?] at found
    simp only [found, untied] at lifecycle
    obtain ⟨own, placed, all⟩ := lifecycle
    refine ⟨own, placed, ?_⟩
    rw [← named, Value.fieldD, Value.fieldD, Value.field?, Value.field?, all]
    cases Value.lookup? (.text "catalog_path") new <;> rfl

theorem extends_overlay (keyed : file.document.IsKeyed) (names : file.Names path) :
    Extends file (overlay defaults.sections file) ∧
      (overlay defaults.sections file).Names path := by
  obtain ⟨own, placed, named⟩ := exists_lifecycle_overlay keyed names
  have lifecycle := layered_overlay keyed (.text "lifecycle")
  rw [← Value.field?, ← Value.field?, ← Value.field?, placed] at lifecycle
  exact ⟨⟨rfl, fun key _ => layered_overlay keyed key, own, own, lifecycle, placed,
    fun _ _ => rfl⟩, (names_of_lifecycle placed rfl).2 named⟩

theorem extends_withCatalog (extended : Extends file settings) (path : Text) :
    ∃ after, settings.withCatalog path = .ok after ∧ Extends file after ∧
      after.Names (some path) := by
  obtain ⟨whole, own, layered, found, same⟩ := extended.lifecycle
  let named : List (Scalar × Value) := Value.put (.text "catalog_path") (.text path) own
  let after : Settings := { settings with
    sections := Value.put (.text "lifecycle") (.object named) settings.sections }
  have placed : Value.field? "lifecycle" after.sections = some (.object named) :=
    Value.lookup?_put_text ..
  refine ⟨after, ?_, ⟨extended.knots, fun key other => ?_, whole, named, layered, placed,
    fun key other => ?_⟩, ?_⟩
  · simp only [withCatalog, Value.fieldD, found, Option.getD_some, Knots.untie_object]
    rfl
  · rw [Value.lookup?_put, if_neg other]
    exact extended.sections key other
  · rw [Value.lookup?_put, if_neg other]
    exact same key other
  · rw [names_of_lifecycle placed rfl, Value.fieldD, Value.field?, Value.lookup?_put_text]
    rfl

def proper (path : Option Text) : Option Text := path.filter (· ≠ [])

theorem extends_withCatalog? (extended : Extends file settings) (names : settings.Names path)
    (named : Option Text) :
    ∃ after, settings.withCatalog? named = .ok after ∧ Extends file after ∧
      after.Names ((proper named).or path) := by
  cases named with
  | none => exact ⟨settings, rfl, extended, names⟩
  | some name =>
    cases name with
    | nil => exact ⟨settings, rfl, extended, names⟩
    | cons c rest => exact extends_withCatalog extended (c :: rest)

end Named

def said (files : FileTree) (name : Text) : Except Fault Settings :=
  if name = [] then .ok { sections := [] }
  else do
    let path := Path.ofText name
    if ← files.exists path then ofDocument path.text (← files.readYaml path)
    else return { sections := [] }

theorem ofFile_eq (files : FileTree) (name : Text) :
    ofFile files (some name) = (said files name).map (overlay defaults.sections) := by
  cases name with
  | nil => rfl
  | cons c rest =>
    rw [ofFile, said, if_neg (by simp)]
    dsimp only
    cases files.exists (Path.ofText (c :: rest)) with
    | error fault => rfl
    | ok there =>
      cases there with
      | false => rfl
      | true =>
        cases files.readYaml (Path.ofText (c :: rest)) with
        | error fault => rfl
        | ok d =>
          cases ofDocument (Path.ofText (c :: rest)).text d <;> rfl
    · simp

theorem isKeyed_nothing : (document { sections := [] }).IsKeyed where
  root := .object .nil fun _ member => absurd member List.not_mem_nil
  knots _ member := absurd member List.not_mem_nil

theorem isKeyed_of_ofDocument {path : Text} {d : Document} {file : Settings} (keyed : d.IsKeyed)
    (read : ofDocument path d = .ok file) : file.document.IsKeyed := by
  rw [ofDocument] at read
  split at read
  · obtain rfl := Except.ok.inj read
    exact isKeyed_nothing
  · split at read
    · rename_i sections top
      obtain rfl := Except.ok.inj read
      have root := keyed.untie keyed.root
      rw [← Document.top, top] at root
      exact ⟨root, keyed.knots⟩
    · cases read

theorem isKeyed_of_said {files : FileTree} {name : Text} {file : Settings}
    (read : said files name = .ok file) : file.document.IsKeyed := by
  rw [said] at read
  split at read
  · obtain rfl := Except.ok.inj read
    exact isKeyed_nothing
  · obtain ⟨there, -, read⟩ := Outcome.bind_ok read
    split at read
    · obtain ⟨d, held, read⟩ := Outcome.bind_ok read
      obtain ⟨content, -, held⟩ := Outcome.bind_ok held
      exact isKeyed_of_ofDocument (Yaml.isKeyed_of_read held) read
    · obtain rfl := Except.ok.inj read
      exact isKeyed_nothing

theorem exists_settled {files : FileTree} {name : Text} {file : Settings} {path : Option Text}
    (read : said files name = .ok file) (names : file.Names path)
    (environment command : Option Text) :
    ∃ settings, (load files environment (some name)).bind (·.withCatalog? command) = .ok settings ∧
      Extends file settings ∧
      settings.Names ((proper command).or ((proper environment).or path)) := by
  obtain ⟨extended, named⟩ := extends_overlay (isKeyed_of_said read) names
  obtain ⟨outside, loaded, extended, named⟩ := extends_withCatalog? extended named environment
  obtain ⟨settings, settled, extended, named⟩ := extends_withCatalog? extended named command
  refine ⟨settings, ?_, extended, named⟩
  rw [load, ofFile_eq, read]
  simp only [Except.map, bind, Except.bind, loaded, settled]

end Settings

end DroidRoots
