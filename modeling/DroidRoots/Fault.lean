import DroidRoots.Role

/-! Every way in which an operation can fail, with its wording. -/

namespace DroidRoots

inductive Fault
  | invalidDescriptor (descriptor : Text)
  | unparseableSignature (signature : Text)
  | unknownRole (name : Text)
  | noMethod
  | hierarchyWithoutClasses
  | catalogNotMapping (path : Text)
  | catalogWithoutVersion
  | catalogWithoutRoles
  | roleWithoutList (name : Text)
  | roleWithoutTable (role : Role)
  | settingsNotMapping (path : Text)
  | unknownLevel (quoted : Text)
  /-- A document gives a value that does not exist, such as a thirteenth month. -/
  | nonexistent (reason : Text)
  /-- An integer with too many digits to be read, of which there are so many. -/
  | overlongInteger (digits : Nat)
  | unwritableInteger
  | outOfRange
  /-- A number is tagged where nothing is written. -/
  | emptyNumber
  | unknownTruth
  | unreadableMoment
  | momentInMapping
  | tooDeep
  | nulInPath
  | unencodablePath
  | longName
  | expectedCollection
  | expectedMapping
  | expectedPath
  | expectedObject
  | expectedText
  /-- An attribute of a span has the name that the span's own name is given under. -/
  | reservedAttribute
  | malformedJson
  | malformedYaml
  | malformedEncoding
  | missingFile (path : Text)
  | isDirectory (path : Text)
  | notDirectory (path : Text)
  | fileExists (path : Text)
  deriving DecidableEq, Repr

namespace Fault

def message : Fault → Text
  | invalidDescriptor descriptor => "Invalid descriptor: " ++ descriptor
  | unparseableSignature signature => "Unparseable method signature: " ++ signature
  | unknownRole name => "Unknown component role: " ++ name
  | noMethod => "Given method is None"
  | hierarchyWithoutClasses => "Class hierarchy missing classes"
  | catalogNotMapping path => "Lifecycle catalog " ++ path ++ " must be a mapping"
  | catalogWithoutVersion => "Lifecycle catalog missing version"
  | catalogWithoutRoles => "Lifecycle catalog missing roles"
  | roleWithoutList name => "Role " ++ name ++ " must list subsignatures"
  | roleWithoutTable role => "Role " ++ role.title ++ " has no lifecycle table"
  | settingsNotMapping path => "Settings file " ++ path ++ " must contain a mapping"
  | unknownLevel quoted => "Unknown level: " ++ quoted
  | nonexistent reason => reason
  | overlongInteger digits =>
    "Exceeds the limit (4300 digits) for integer string conversion: value has " ++
      Text.ofNat digits ++ " digits; use sys.set_int_max_str_digits() to increase the limit"
  | unwritableInteger =>
    "Exceeds the limit (4300 digits) for integer string conversion; " ++
      "use sys.set_int_max_str_digits() to increase the limit"
  | outOfRange => "a number is out of range"
  | emptyNumber => "a number is expected"
  | unknownTruth => "a truth value is expected"
  | unreadableMoment => "a moment is expected"
  | momentInMapping => "the text of a moment is expected"
  | tooDeep => "collections are too deep"
  | nulInPath => "embedded null byte"
  | unencodablePath => "a path cannot be encoded"
  | longName => "a name is too long"
  | expectedCollection => "a collection is expected"
  | expectedMapping => "a mapping is expected"
  | expectedPath => "a path is expected"
  | expectedObject => "an object is expected"
  | expectedText => "a text is expected"
  | reservedAttribute => "an attribute is reserved"
  | malformedJson => "malformed JSON"
  | malformedYaml => "malformed YAML"
  | malformedEncoding => "malformed UTF-8"
  | missingFile path => "no such file: " ++ path
  | isDirectory path => "is a directory: " ++ path
  | notDirectory path => "not a directory: " ++ path
  | fileExists path => "file exists: " ++ path

end Fault

end DroidRoots
