import DroidRoots.Files.Tree
import DroidRoots.Json.Reader
import DroidRoots.Text.Utf8
import DroidRoots.Yaml.Document

/-! Files as texts and as the values that they hold. A text is UTF-8; whatever ends its
lines, they end with a line feed when it is read. JSON is read when the whole text is known,
YAML while the text comes in. -/

namespace DroidRoots

namespace FileContent

def withLineFeeds : List Char → List Char
  | [] => []
  | '\x0d' :: '\n' :: rest => '\n' :: withLineFeeds rest
  | '\x0d' :: rest => '\n' :: withLineFeeds rest
  | c :: rest => c :: withLineFeeds rest

def text (content : ByteArray) : Except Fault (List Char) :=
  match String.fromUTF8? content with
  | some text => .ok (withLineFeeds text.toList)
  | none => .error .malformedEncoding

/-- A file comes in as runs of so many bytes. -/
def run : Nat := 8192

/-- The characters of the bytes before a place, but for an unfinished one. -/
def charsBefore (content : ByteArray) (place : Nat) : List Char :=
  let text := [0, 1, 2, 3].findSome? fun cut => String.fromUTF8? (content.extract 0 (place - cut))
  ((text.map String.toList).getD [])

def known (content : ByteArray) : List Char :=
  match Text.utf8Break? {} 0 content.data.toList with
  | none => charsBefore content content.size
  | some place =>
    charsBefore content (if place = content.size then place else place / run * run)

def source (content : ByteArray) : Yaml.Source :=
  match String.fromUTF8? content with
  | some text => .ofChars (withLineFeeds text.toList) none
  | none =>
    let known := withLineFeeds (known content)
    .ofChars (known.take (Yaml.Source.portionStart known.length)) (some .malformedEncoding)

end FileContent

namespace FileTree

def readJson (t : FileTree) (p : Path) : Except Fault Value := do
  Json.read (← FileContent.text (← t.read p))

def readYaml (t : FileTree) (p : Path) : Except Fault Document := do
  Yaml.read (FileContent.source (← t.read p))

end FileTree

end DroidRoots
