import DroidRoots.Proofs.SettingsLayers

/-! The catalog that the environment names, put into settings that load without it. Where the file
leaves a mapping in the section for the catalog, nothing but the path of the catalog changes.
Where it has put another value there, also the null of a section that says nothing, the path has
no place to go to, and the settings do not load. -/

namespace DroidRoots

namespace Value

def Replaced (name : Text) (old new : Value) (entries others : List (Scalar × Value)) : Prop :=
  ∃ before after, (∀ e ∈ before, e.1 ≠ .text name) ∧
    entries = before ++ (.text name, old) :: after ∧
    others = before ++ (.text name, new) :: after

theorem replaced_put {name : Text} {old : Value} {entries : List (Scalar × Value)}
    (found : field? name entries = some old) (new : Value) :
    Replaced name old new entries (put (.text name) new entries) := by
  induction entries with
  | nil => cases found
  | cons e rest ih =>
    obtain ⟨key, value⟩ := e
    rw [field?, lookup?] at found
    rw [put]
    split at found
    · rename_i same
      rw [Scalar.same_text_right, decide_eq_true_iff] at same
      subst same
      obtain rfl := Option.some.inj found
      rw [if_pos (by simp)]
      exact ⟨[], rest, fun e member => absurd member List.not_mem_nil, rfl, rfl⟩
    · rename_i other
      rw [if_neg other]
      rw [Scalar.same_text_right, decide_eq_true_iff] at other
      obtain ⟨before, after, first, was, is⟩ := ih found
      refine ⟨(key, value) :: before, after, List.forall_mem_cons.2 ⟨other, first⟩, ?_, ?_⟩
      · rw [was, List.cons_append]
      · rw [is, List.cons_append]

end Value

namespace Settings
variable {file settings plain : Settings} {path : Text}

def KeepsLifecycle (file : Settings) : Prop :=
  ∀ value, Value.field? "lifecycle" file.sections = some value →
    ∃ own, file.knots.untie value = .object own

structure Repathed (path : Text) (plain settings : Settings) : Prop where
  knots : settings.knots = plain.knots
  sections : ∃ own old new, Value.Replaced "catalog_path" old (.text path) own new ∧
    Value.Replaced "lifecycle" (.object own) (.object new) plain.sections settings.sections

theorem exists_lifecycle_of_keeps (keyed : file.document.IsKeyed) (keeps : file.KeepsLifecycle) :
    ∃ own old, Value.field? "lifecycle" (overlay defaults.sections file).sections =
        some (.object own) ∧ Value.field? "catalog_path" own = some old := by
  have layered := layered_overlay keyed (.text "lifecycle")
  have default : Value.lookup? (.text "lifecycle") defaults.sections =
      some (.object [(.text "catalog_path", .null)]) := rfl
  rw [default, Layered.eq_def] at layered
  cases given : Value.lookup? (.text "lifecycle") file.sections with
  | none =>
    rw [given] at layered
    exact ⟨_, .null, layered, rfl⟩
  | some value =>
    obtain ⟨new, untied⟩ := keeps value given
    simp only [given, untied] at layered
    obtain ⟨own, placed, all⟩ := layered
    have path : Value.lookup? (.text "catalog_path") own =
        (Value.lookup? (.text "catalog_path") new).or (some .null) := all (.text "catalog_path")
    cases renamed : Value.lookup? (.text "catalog_path") new with
    | none => exact ⟨own, .null, placed, path.trans (by rw [renamed]; rfl)⟩
    | some old => exact ⟨own, old, placed, path.trans (by rw [renamed]; rfl)⟩

theorem exists_lifecycle_of_not_keeps (keyed : file.document.IsKeyed)
    (lost : ¬file.KeepsLifecycle) :
    ∃ value, Value.field? "lifecycle" (overlay defaults.sections file).sections = some value ∧
      ∀ own, file.knots.untie value ≠ .object own := by
  obtain ⟨value, lost⟩ := not_forall.1 lost
  obtain ⟨given, other⟩ := Classical.not_imp.1 lost
  rw [not_exists] at other
  have layered := layered_overlay keyed (.text "lifecycle")
  rw [Value.field?] at given
  rw [Layered.eq_def, given] at layered
  refine ⟨value, ?_, other⟩
  cases untied : file.knots.untie value with
  | object own => exact absurd untied (other own)
  | _ => simpa only [Value.field?, untied] using layered

theorem repathed_withCatalog {own : List (Scalar × Value)} {old : Value}
    (found : Value.field? "lifecycle" plain.sections = some (.object own))
    (named : Value.field? "catalog_path" own = some old) :
    ∃ settings, plain.withCatalog path = .ok settings ∧ Repathed path plain settings := by
  let new : List (Scalar × Value) := Value.put (.text "catalog_path") (.text path) own
  refine ⟨{ plain with sections := Value.put (.text "lifecycle") (.object new) plain.sections },
    ?_, rfl, own, old, new, Value.replaced_put named _, Value.replaced_put found _⟩
  simp only [withCatalog, Value.fieldD, found, Option.getD_some, Knots.untie_object]
  rfl

theorem withCatalog_of_other {value : Value}
    (found : Value.field? "lifecycle" plain.sections = some value)
    (other : ∀ own, plain.knots.untie value ≠ .object own) :
    plain.withCatalog path = .error .expectedMapping := by
  rw [withCatalog, Value.fieldD, found, Option.getD_some]
  split
  · rename_i own untied
    exact absurd untied (other own)
  · rfl

theorem exists_said_of_load {files : FileTree} {name : Option Text}
    (loaded : load files none name = .ok plain) :
    ∃ file, said files (name.getD []) = .ok file ∧ plain = overlay defaults.sections file := by
  obtain ⟨given, read, same⟩ := Outcome.bind_ok loaded
  obtain rfl : given = plain := Except.ok.inj same
  have whole : ofFile files name = (said files (name.getD [])).map (overlay defaults.sections) := by
    cases name with
    | none => rfl
    | some name => exact ofFile_eq files name
  obtain ⟨file, found, placed⟩ := Outcome.map_ok (whole.symm.trans read)
  exact ⟨file, found, placed.symm⟩

theorem load_some {files : FileTree} {name : Option Text}
    (loaded : load files none name = .ok plain) (proper : path ≠ []) :
    load files (some path) name = plain.withCatalog path := by
  obtain ⟨given, read, same⟩ := Outcome.bind_ok loaded
  obtain rfl : given = plain := Except.ok.inj same
  rw [load, read]
  cases path with
  | nil => exact absurd rfl proper
  | cons c rest => rfl

/-- Settings that load without the environment load with it as well, with no other difference than
the path that it gives, exactly if the file has a mapping for the section of the catalog or nothing.
With another value there, such as null, the settings fail to load once the environment names a
catalog. -/
theorem override_ends (files : FileTree) (name : Option Text) (plain : Settings)
    (loaded : load files none name = .ok plain) (path : Text) (proper : path ≠ []) :
    ∃ file, said files (name.getD []) = .ok file ∧
      (file.KeepsLifecycle → ∃ settings, load files (some path) name = .ok settings ∧
        Repathed path plain settings) ∧
      (¬file.KeepsLifecycle → load files (some path) name = .error .expectedMapping) := by
  obtain ⟨file, read, rfl⟩ := exists_said_of_load loaded
  have keyed := isKeyed_of_said read
  rw [load_some loaded proper]
  refine ⟨file, read, fun keeps => ?_, fun lost => ?_⟩
  · obtain ⟨own, old, found, named⟩ := exists_lifecycle_of_keeps keyed keeps
    exact repathed_withCatalog found named
  · obtain ⟨value, found, other⟩ := exists_lifecycle_of_not_keeps keyed lost
    exact withCatalog_of_other found other

theorem override_ends_entries :
    let files : FileTree := ⟨[
      (⟨.above 0, ["s.yaml"]⟩,
        .file "f: &f [*f]\nlifecycle:\n  7: a\n  catalog_path: c.json\n  g: *f\n".toUTF8),
      (⟨.above 0, ["t.yaml"]⟩, .file "~: b\ntelemetry:\nlifecycle: \x7b\x7d\n".toUTF8)]⟩
    ∀ name ∈ [Text.of "s.yaml", Text.of "t.yaml"], ∃ plain settings,
      load files none (some name) = .ok plain ∧
      load files (some "d.json") (some name) = .ok settings ∧
      Repathed "d.json" plain settings := by
  intro files name member
  have computed : ∀ name ∈ [Text.of "s.yaml", Text.of "t.yaml"],
      (load files none (some name)).toOption.isSome = true ∧
        (load files (some "d.json") (some name)).toOption.isSome = true := by
    decide +kernel
  obtain ⟨without, within⟩ := computed name member
  obtain ⟨plain, loaded⟩ := Option.isSome_iff_exists.1 without
  have loaded := Outcome.eq_ok_of_toOption loaded
  obtain ⟨file, -, kept, lost⟩ := override_ends files (some name) plain loaded "d.json" (by decide)
  by_cases keeps : file.KeepsLifecycle
  · obtain ⟨settings, named, repathed⟩ := kept keeps
    exact ⟨plain, settings, loaded, named, repathed⟩
  · rw [lost keeps] at within
    cases within

theorem override_null_section :
    let files : FileTree := ⟨[(⟨.above 0, ["s.yaml"]⟩,
      .file "lifecycle:\n  # catalog_path: c.json\n".toUTF8)]⟩
    (load files none (some "s.yaml")).toOption.isSome = true ∧
      (load files (some "c.json") (some "s.yaml")).map (fun _ => ()) =
        .error .expectedMapping := by
  decide +kernel

end Settings

end DroidRoots
