import DroidRoots.Proofs.Acts
import DroidRoots.Proofs.CatalogChoice
import DroidRoots.Proofs.OptionValues

/-! What a command leaves behind. A command that fails leaves no file and no output, since whatever
can fail comes before the file is opened, but for the last act: an output that does not take the
line about the file ends the command when the file is there. -/

namespace DroidRoots

namespace Command

def line (count : Nat) (path : Path) : Text :=
  Text.ofNat count ++ " entry points written to " ++ path.text ++ "\n"

def hand (console : Console) (out : Option Text) (r : RunReport) : Act Unit :=
  match out with
  | none | some [] => Act.print console (render r ++ "\n")
  | some name => do
    let path := Path.ofText name
    Act.prepare path
    Act.write path (render r)
    Act.print console (line r.report.entryPoints.size path)

def reported (w : World) (o : Options) (p : Plan) : Except Fault RunReport :=
  ((Run.report w.files w.run p.settings.document o.classHierarchy o.callGraph).run.run {}).1

def act (w : World) (args : List Text) : Act Unit :=
  match Options.parse args with
  | .error exit => throw (.exited (exit.code w.letters))
  | .ok o => do
    let p ← Act.ofExcept (plan w o)
    let r ← Act.ofExcept (reported w o p)
    hand w.console o.out r

def perform (w : World) (args : List Text) : Ending × Place :=
  match (act w args).run.run { files := w.files } with
  | (.ok (), after) => (.finished, after)
  | (.error ending, after) => (ending, after)

end Command

/-- A text was written into one file, and beside it nothing but directories was made. -/
structure Written.IsOnly (written : Written) (t u : FileTree) (cs : List Char) : Prop where
  text : written.text = .ofChars cs
  found : u.find? written.location = some (.file (String.ofList cs).toUTF8)
  read : u.read written.path = .ok (String.ofList cs).toUTF8
  others : ∀ l, l ≠ written.location →
    u.find? l = t.find? l ∨ t.find? l = none ∧ u.find? l = some .directory

namespace Command
variable {w : World} {o : Options} {p : Plan} {r : RunReport} {out : Option Text} {name : Text}

variable {args : List Text}

namespace Ceases

end Ceases

/-- A command that writes one file. The line about it is printed if the output takes it, and is not
missed by the file. -/
structure Saves (w : World) (args : List Text) (written : Written) (line : Text)
    (files : FileTree) (cs : List Char) : Prop where
  only : written.IsOnly w.files files cs
  told : ((run w args).ending, (run w args).output, (run w args).written) =
    if w.console.takes line then (.finished, line, some written) else (.unprinted, [], some written)
  performed : perform w args =
    if w.console.takes line then (.finished, { files, output := line }) else (.unprinted, { files })

theorem Saves.ended {written : Written} {line : Text} {files : FileTree} {cs : List Char}
    (saved : Saves w args written line files cs) :
    let shown := run w args
    let ended := perform w args
    shown.ending = ended.1 ∧ shown.output = ended.2.output ∧ shown.written = some written ∧
      ended.2.files = files ∧ (ended.1, ended.2.output) =
        if w.console.takes line then (.finished, line) else (.unprinted, []) := by
  obtain ⟨-, told, performed⟩ := saved
  rw [performed]
  cases takes : w.console.takes line with
  | true =>
    rw [takes] at told
    simpa using told
  | false =>
    rw [takes] at told
    simpa using told

end Command

end DroidRoots
