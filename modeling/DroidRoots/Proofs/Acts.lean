import DroidRoots.Command
import DroidRoots.Proofs.FileChanges

/-! Acts that change files and print, one after another. An act that ends the command takes back
nothing of what was done before it, so directories may be left over where a file could not be
opened. -/

namespace DroidRoots

def FileTree.makeDirectory (t : FileTree) (start : Location) (parts : List Text) :
    Except Fault FileTree :=
  let name := Text.join "/" parts
  match t.walk start parts with
  | .found _ .directory => .ok t
  | .found _ (.file _) => .error (.fileExists name)
  | .vacant l => .ok (t.put l .directory)
  | .noDirectory => .error (.missingFile name)
  | .throughFile => .error (.notDirectory name)
  | .longName => .error .longName

structure Place where
  files : FileTree
  output : Text := []

abbrev Act := ExceptT Ending (StateM Place)

namespace Act

def ofExcept {α : Type} (outcome : Except Fault α) : Act α :=
  ExceptT.mk (pure (outcome.mapError .failed))

def change (f : FileTree → Except Fault FileTree) : Act Unit := do
  let files ← ofExcept (f (← get).files)
  modify fun place => { place with files }

/-- Makes a directory and, if those that it stands in turn out to be missing, these first. The
parts of the path are given last first. -/
def makeDirectories (start : Location) : List Text → Act Unit
  | [] => pure ()
  | last :: earlier =>
    let make := change fun t => t.makeDirectory start (last :: earlier).reverse
    tryCatch make fun
      | .failed (.missingFile _) => do
        makeDirectories start earlier
        make
      | ending => throw ending

def prepare (path : Path) : Act Unit :=
  match path.parent.objection? with
  | some fault => throw (.failed fault)
  | none => makeDirectories path.start path.parent.parts.reverse

def openFile (path : Path) : Act Location := do
  let l ← ofExcept ((← get).files.target path)
  modify fun place => { place with files := place.files.put l (.file .empty) }
  return l

def write (path : Path) (text : Text) : Act Unit := do
  let l ← openFile path
  match text.chars? with
  | none => throw (.failed .malformedEncoding)
  | some cs =>
    modify fun place => { place with files := place.files.put l (.file (String.ofList cs).toUTF8) }

def print (console : Console) (text : Text) : Act Unit :=
  if console.takes text then modify fun place => { place with output := place.output ++ text }
  else throw .unprinted

end Act

namespace FileTree
variable {t u : FileTree} {start : Location}

theorem makeDirectory_furnished {parts : List Text} (made : t.makeDirectory start parts = .ok u) :
    Furnished t u := by
  rw [makeDirectory] at made
  split at made <;> cases made
  · exact .refl t
  · rename_i l arrived
    exact furnished_put (find?_of_walk_vacant arrived)

theorem makeDirectories_cons (last : Text) (earlier : List Text) :
    t.makeDirectories start (last :: earlier) =
      match t.makeDirectory start (last :: earlier).reverse with
      | .error (.missingFile _) => do
        let t ← t.makeDirectories start earlier
        t.makeDirectory start (last :: earlier).reverse
      | outcome => outcome := by
  rw [makeDirectories, makeDirectory]
  cases t.walk start (last :: earlier).reverse with
  | found l what => cases what <;> rfl
  | _ => rfl

end FileTree

namespace Act
variable {α β : Type}

theorem state_bind_run {x : StateM Place α} {f : α → StateM Place β} {place : Place} :
    (x >>= f).run place = (f (x.run place).1).run (x.run place).2 := rfl

theorem get_bind_run {f : Place → Act β} {place : Place} :
    ((get : Act Place) >>= f).run.run place = (f place).run.run place := rfl

theorem ofExcept_run {given outcome : Except Fault α} (same : given = outcome) (place : Place) :
    (ofExcept given).run.run place = (outcome.mapError .failed, place) := by
  rw [same]
  rfl

theorem bind_run_ok {x : Act α} {f : α → Act β} {place after : Place} {a : α}
    (ran : x.run.run place = (.ok a, after)) : (x >>= f).run.run place = (f a).run.run after := by
  rw [ExceptT.run_bind, state_bind_run, ran]

theorem bind_run_error {x : Act α} {f : α → Act β} {place after : Place} {ending : Ending}
    (ran : x.run.run place = (.error ending, after)) :
    (x >>= f).run.run place = (.error ending, after) := by
  rw [ExceptT.run_bind, state_bind_run, ran]
  rfl

theorem tryCatch_run_ok {x : Act α} {handle : Ending → Act α} {place after : Place} {a : α}
    (ran : x.run.run place = (.ok a, after)) :
    (tryCatch x handle).run.run place = (.ok a, after) := by
  rw [ExceptT.run_tryCatch, state_bind_run, ran]
  rfl

theorem tryCatch_run_error {x : Act α} {handle : Ending → Act α} {place after : Place}
    {ending : Ending} (ran : x.run.run place = (.error ending, after)) :
    (tryCatch x handle).run.run place = (handle ending).run.run after := by
  rw [ExceptT.run_tryCatch, state_bind_run, ran]

theorem change_run {f : FileTree → Except Fault FileTree} {place : Place} {files : FileTree}
    (made : f place.files = .ok files) :
    (change f).run.run place = (.ok (), { place with files }) := by
  rw [change, get_bind_run, bind_run_ok (ofExcept_run made place)]
  rfl

theorem change_run_error {f : FileTree → Except Fault FileTree} {place : Place} {fault : Fault}
    (failed : f place.files = .error fault) :
    (change f).run.run place = (.error (.failed fault), place) := by
  rw [change, get_bind_run, bind_run_error (ofExcept_run failed place)]

/-- An act leaves the files behind that its outcome says. If there are none, directories are all
that it may have made. -/
def Furnishes (x : Act Unit) (place : Place) (outcome : Except Fault FileTree) : Prop :=
  ∃ files, place.files.Furnished files ∧
    x.run.run place = ((outcome.map fun _ => ()).mapError .failed, { place with files }) ∧
    ∀ t, outcome = .ok t → t = files

namespace Furnishes
variable {x y : Act Unit} {place : Place} {outcome : Except Fault FileTree}

theorem of_ok {files : FileTree} (furnished : place.files.Furnished files)
    (ran : x.run.run place = (.ok (), { place with files })) : Furnishes x place (.ok files) :=
  ⟨files, furnished, ran, fun _ same => (Except.ok.inj same).symm⟩

theorem of_error {fault : Fault} (ran : x.run.run place = (.error (.failed fault), place)) :
    Furnishes x place (.error fault) :=
  ⟨place.files, .refl _, ran, fun _ made => nomatch made⟩

protected theorem change {f : FileTree → Except Fault FileTree}
    (furnished : ∀ u, f place.files = .ok u → place.files.Furnished u) :
    Furnishes (change f) place (f place.files) := by
  cases made : f place.files with
  | ok files => exact of_ok (furnished files made) (change_run made)
  | error fault => exact of_error (change_run_error made)

theorem andThen {g : FileTree → Except Fault FileTree} (first : Furnishes x place outcome)
    (next : ∀ t, Furnishes y { place with files := t } (g t)) :
    Furnishes (x >>= fun _ => y) place (outcome >>= g) := by
  obtain ⟨files, furnished, ran, only⟩ := first
  cases outcome with
  | error fault => exact ⟨files, furnished, bind_run_error ran, fun t made => nomatch made⟩
  | ok t =>
    obtain rfl := only t rfl
    obtain ⟨last, further, ended, same⟩ := next t
    exact ⟨last, furnished.trans further, (bind_run_ok ran).trans ended, same⟩

theorem makeDirectories (start : Location) (parts : List Text) (place : Place) :
    Furnishes (makeDirectories start parts) place (place.files.makeDirectories start parts) := by
  induction parts with
  | nil => exact of_ok (.refl _) rfl
  | cons last earlier ih =>
    let make (t : FileTree) := t.makeDirectory start (last :: earlier).reverse
    have once (t : FileTree) : Furnishes (Act.change make) { place with files := t } (make t) :=
      .change fun u made => FileTree.makeDirectory_furnished made
    rw [Act.makeDirectories, FileTree.makeDirectories_cons]
    cases made : place.files.makeDirectory start (last :: earlier).reverse with
    | ok files =>
      exact of_ok (FileTree.makeDirectory_furnished made) (tryCatch_run_ok (change_run made))
    | error fault =>
      rw [Furnishes, tryCatch_run_error (change_run_error made)]
      cases fault with
      | missingFile name => exact ih.andThen once
      | _ => exact of_error rfl

theorem prepare (path : Path) (place : Place) :
    Furnishes (prepare path) place (place.files.prepare path) := by
  rw [Act.prepare, FileTree.prepare]
  cases path.parent.objection? with
  | some fault => exact of_error rfl
  | none => exact makeDirectories path.start path.parent.parts.reverse place

end Furnishes

variable {path : Path} {place : Place}

end Act

end DroidRoots
