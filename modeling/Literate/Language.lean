import Literate.Text.Case

/-! The languages of source files: their names, grammars, comment marks and file suffixes. -/

namespace Literate

/-- how a language marks its comments -/
inductive CommentStyle where
  /-- two slashes to the end of the line, or slash and star around -/
  | slashes
  /-- a number sign to the end of the line -/
  | hash
  /-- two dashes to the end of the line, or curly braces and dashes around -/
  | dashes
  deriving DecidableEq, Repr

namespace Language

/-- the names of a language, with its grammar and its comments -/
def all : List (String × String × CommentStyle) :=
  [("go", "go", .slashes), ("golang", "go", .slashes), ("java", "java", .slashes),
    ("js", "javascript", .slashes), ("javascript", "javascript", .slashes),
    ("ts", "typescript", .slashes), ("typescript", "typescript", .slashes),
    ("rust", "rust", .slashes), ("c", "c", .slashes), ("cpp", "cpp", .slashes),
    ("c++", "cpp", .slashes), ("csharp", "csharp", .slashes), ("c#", "csharp", .slashes),
    ("cs", "csharp", .slashes), ("php", "php", .slashes), ("dart", "dart", .slashes),
    ("ruby", "ruby", .hash), ("python", "python", .hash), ("py", "python", .hash),
    ("haskell", "haskell", .dashes)]

def names : List String := all.map (·.1)

/-- the case of a name is of no account -/
def grammar? (language : String) : Option String := (all.lookup (Text.fold language)).map (·.1)

def commentStyle? (language : String) : Option CommentStyle :=
  (all.lookup (Text.fold language)).map (·.2)

/-- has a grammar, and with it comments -/
def known (language : String) : Bool := (grammar? language).isSome

/-- the name of a language that has a grammar -/
abbrev Known := { l : String // known l = true }

def known? (language : String) : Option Known :=
  if h : known language = true then some ⟨language, h⟩ else none

/-- Python has lexemes of its own and needs no grammar. -/
def isPython (language : String) : Bool := ["python", "py"].contains (Text.fold language)

def suffixes : List (String × String) :=
  [(".py", "python"), (".pyi", "python"), (".rb", "ruby"), (".go", "go"), (".rs", "rust"),
    (".c", "c"), (".h", "c"), (".cc", "cpp"), (".cpp", "cpp"), (".hpp", "cpp"), (".java", "java"),
    (".js", "javascript"), (".ts", "typescript"), (".cs", "csharp"), (".php", "php"),
    (".dart", "dart"), (".hs", "haskell")]

/-- the language of files with a suffix, dot included -/
def ofSuffix? (suffix : String) : Option String := suffixes.lookup (Text.fold suffix)

def pythonSuffix (suffix : String) : Bool := [".py", ".pyi"].contains (Text.fold suffix)

end Language
end Literate
