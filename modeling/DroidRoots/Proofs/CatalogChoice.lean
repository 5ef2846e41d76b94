import DroidRoots.Proofs.CallGraphEntries
import DroidRoots.Proofs.RunOutcomes
import DroidRoots.Proofs.SettingsLayers

/-! Which catalog a command uses. The first path that is not empty decides: that of the command
line, of the environment, or of the settings file. Without any there is the framework's own catalog.
Whatever becomes of the file at that path, no other is tried. -/

namespace DroidRoots

namespace Settings

@[simp] theorem proper_proper_or (upper lower : Option Text) :
    proper ((proper upper).or lower) = (proper upper).or (proper lower) := by
  cases upper with
  | none => rfl
  | some name => cases name <;> rfl

end Settings

namespace Catalog

def named (files : FileTree) : Option Text → Except Fault Catalog
  | none => .ok .builtin
  | some name => load files name

theorem ofSettings_of_names {settings : Settings} {path : Option Text}
    (names : settings.Names path) (files : FileTree) :
    ofSettings files settings.document = named files (Settings.proper path) := by
  rw [Settings.Names] at names
  rw [ofSettings, names]
  cases path with
  | none => rfl
  | some name => cases name <;> rfl

end Catalog

namespace Command
variable {w : World} {o : Options} {p : Plan}

theorem run_of_plan {args : List Text} (parsed : Options.parse args = .ok o)
    (planned : plan w o = .ok p) : run w args = execute w o p := by
  rw [run, parsed]
  simp only [planned]

theorem settings_of_plan (planned : plan w o = .ok p) :
    (Settings.load w.files w.catalog (some o.settings)).bind (·.withCatalog? o.catalog) =
      .ok p.settings := by
  rw [plan] at planned
  obtain ⟨weight, -, planned⟩ := Outcome.bind_ok planned
  obtain ⟨outside, loaded, planned⟩ := Outcome.bind_ok planned
  obtain ⟨settings, settled, planned⟩ := Outcome.bind_ok planned
  obtain ⟨exporter, -, planned⟩ := Outcome.bind_ok planned
  obtain rfl := Except.ok.inj planned
  rw [loaded]
  exact settled

/-- With a settings file that is missing, or that is a mapping which names a catalog or none, the
settings are those of the file over the defaults, and a command that gets to its run uses the
catalog at the first path that is not empty. If that cannot be loaded, this is how the command ends;
else the report tells the version of that catalog. -/
theorem catalog_choice (w : World) (args : List Text) (o : Options)
    (parsed : Options.parse args = .ok o) (file : Settings)
    (read : Settings.said w.files o.settings = .ok file) (path : Option Text)
    (names : file.Names path) :
    let catalog := Catalog.named w.files ([o.catalog, w.catalog, path].findSome? Settings.proper)
    let result := Run.concluded w.files o.classHierarchy o.callGraph catalog
    let ended := run w args
    ∃ settings,
      (Settings.load w.files w.catalog (some o.settings)).bind (·.withCatalog? o.catalog) =
        .ok settings ∧
      Settings.Extends file settings ∧
      Catalog.ofSettings w.files settings.document = catalog ∧
      ∀ p, plan w o = .ok p → p.settings = settings ∧
        (ended.ending, ended.output, ended.written) = told w o.out result ∧
        ∀ hierarchy, Hierarchy.loaded w.files o.classHierarchy = .ok hierarchy →
          (∀ fault, catalog = .error fault →
            ended.ending = .failed fault ∧ ended.output = [] ∧ ended.written = none) ∧
          ∀ k, catalog = .ok k → ∀ r, result = .ok r → ∃ callGraph fields own,
            w.files.readJson (Path.ofText o.callGraph) = .ok callGraph ∧
            Discovery.outcome (.ofHierarchy hierarchy) k callGraph none = .ok r.report ∧
            r.toValue = .object fields ∧
            Value.field? "hierarchy" fields = some (.object own) ∧
            Value.field? "catalog_version" own = some (.text k.version) := by
  intro catalog result ended
  obtain ⟨settings, settled, extended, named⟩ :=
    Settings.exists_settled read names w.catalog o.catalog
  have first : Settings.proper
      ((Settings.proper o.catalog).or ((Settings.proper w.catalog).or path)) =
      [o.catalog, w.catalog, path].findSome? Settings.proper := by
    simp only [Settings.proper_proper_or, List.findSome?]
    cases Settings.proper o.catalog <;> cases Settings.proper w.catalog <;>
      cases Settings.proper path <;> rfl
  have chosen : Catalog.ofSettings w.files settings.document = catalog := by
    rw [Catalog.ofSettings_of_names named, first]
  refine ⟨settings, settled, extended, chosen, fun p planned => ?_⟩
  have same : p.settings = settings :=
    Except.ok.inj ((settings_of_plan planned).symm.trans settled)
  have shown : (ended.ending, ended.output, ended.written) = told w o.out result := by
    simp only [ended, run_of_plan parsed planned, execute_told, same, chosen, result]
  refine ⟨same, shown, fun hierarchy loaded => ⟨fun fault failed => ?_, fun k made r whole => ?_⟩⟩
  · have lost : result = .error fault := by
      simp only [result, Run.concluded, loaded, failed, bind, Except.bind]
    rw [lost] at shown
    simpa [told, Except.bind] using shown
  · obtain ⟨other, own, callGraph, again, held, given, found, version⟩ :=
      Run.exists_of_concluded whole
    obtain rfl := Except.ok.inj (loaded.symm.trans again)
    obtain rfl := Except.ok.inj (made.symm.trans held)
    rw [← version]
    exact ⟨callGraph, _, _, given, found, rfl, rfl, rfl⟩

theorem catalog_choice_environment :
    let files : FileTree := ⟨[
      (⟨.above 0, ["s.yaml"]⟩, .file "lifecycle:\n  catalog_path: c.json\n  7: a\nf: 8\n".toUTF8),
      (⟨.above 0, ["d.json"]⟩, .file ("\x7b\"version\": 2, " ++
        "\"roles\": \x7b\"Activity\": [\"void onStart()\"]\x7d\x7d").toUTF8),
      (⟨.above 0, ["h.json"]⟩, .file
        "\x7b\"classes\": \x7b\"a.B\": [\"android.app.Activity\"]\x7d\x7d".toUTF8),
      (⟨.above 0, ["g.json"]⟩, .file
        "\x7b\"nodes\": [\x7b\"method\": \"<a.B: void onStart()>\"\x7d]\x7d".toUTF8)]⟩
    let w : World := { files, catalog := some "d.json", run := "r" }
    let args : List Text := ["--class-hierarchy", "h.json", "--callgraph", "g.json",
      "--settings", "s.yaml", "--catalog", ""]
    let o : Options := {
      classHierarchy := "h.json", callGraph := "g.json", settings := "s.yaml", catalog := some [] }
    ∃ file p r, Options.parse args = .ok o ∧ Settings.said files "s.yaml" = .ok file ∧
      file.Names (some "c.json") ∧ plan w o = .ok p ∧ Settings.Extends file p.settings ∧
      Run.concluded files "h.json" "g.json" (Catalog.load files "d.json") = .ok r ∧
      r.catalogVersion = Text.of "2" ∧
      ((run w args).ending, (run w args).output, (run w args).written) =
        (.finished, render r ++ "\n", none) := by
  intro files w args o
  have parsed : Options.parse args = .ok o := by decide +kernel
  have named : ((Settings.said files "s.yaml").toOption.bind fun file =>
      (Settings.catalogPath file.document).toOption.map Mention.ofValue) =
        some (.text "c.json") := by decide +kernel
  have planned : (plan w o).toOption.isSome = true := by decide +kernel
  have versioned : (Run.concluded files "h.json" "g.json"
      (Catalog.load files "d.json")).toOption.map (·.catalogVersion) = some (Text.of "2") := by
    decide +kernel
  obtain ⟨file, read, named⟩ := Option.bind_eq_some_iff.1 named
  obtain ⟨value, found, named⟩ := Option.map_eq_some_iff.1 named
  obtain ⟨p, planned⟩ := Option.isSome_iff_exists.1 planned
  obtain ⟨r, concluded, version⟩ := Option.map_eq_some_iff.1 versioned
  have names : file.Names (some "c.json") := by
    rw [Settings.Names, Outcome.eq_ok_of_toOption found, Mention.ofValue_eq_text.1 named]
    rfl
  have planned := Outcome.eq_ok_of_toOption planned
  have concluded := Outcome.eq_ok_of_toOption concluded
  have read := Outcome.eq_ok_of_toOption read
  obtain ⟨settings, -, extended, -, rest⟩ := catalog_choice w args o parsed file read _ names
  obtain ⟨rfl, shown, -⟩ := rest p planned
  have first : [o.catalog, w.catalog, some "c.json"].findSome? Settings.proper =
      some (Text.of "d.json") := by decide
  refine ⟨file, p, r, parsed, read, names, planned, extended, concluded, version, shown.trans ?_⟩
  rw [first, Catalog.named, concluded]
  exact told_inside w rfl r

end Command

end DroidRoots
