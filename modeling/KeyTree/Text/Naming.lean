import KeyTree.Text.Letter

/-!
# `KeyTree.Text.Naming`: names split into words and joined again

A name is split into lower-case words at everything that is no letter or
digit and at changes of case: `postId` is `post id`, `HTTPServer` is
`http server`. Joined with underscores the words make the name of a method
(`snakeCase`), joined with capitals the name of a type (`pascalCase`).

A joined name that would start with a digit gets an underscore in front,
one that is a word of the language an underscore behind.
-/

set_option autoImplicit false

namespace KeyTree

/-- The words that Rust keeps for itself, now or for later. -/
def rustKeywords : List String :=
  [ "abstract", "as", "async", "await", "become", "box", "break", "const", "continue",
    "crate", "do", "dyn", "else", "enum", "extern", "false", "final", "fn", "for", "gen",
    "if", "impl", "in", "let", "loop", "macro", "match", "mod", "move", "mut", "override",
    "priv", "pub", "ref", "return", "self", "Self", "static", "struct", "super", "trait",
    "true", "try", "type", "typeof", "unsafe", "unsized", "use", "virtual", "where",
    "while", "yield" ]

namespace LetterRules

variable (rules : LetterRules)

/-- Whether a word ends between two neighbouring letters or digits, of
which the second is followed by `next`: before a capital that follows a
small letter or a digit, and before the last capital of several if a small
letter follows it. -/
def cutsBetween (before c : Char) (next : Option Char) : Bool :=
  rules.uppercase c &&
    (rules.lowercase before || rules.numeric before ||
      (rules.uppercase before && next.any rules.lowercase))

/-- The words of a text that follows on the open word `current`, whose last
character was `before`. -/
def wordsFrom (current : List Char) (before : Option Char) : List Char → List (List Char)
  | [] => if current.isEmpty then [] else [current]
  | c :: rest =>
    if ! rules.alphanumeric c then
      (if current.isEmpty then [] else [current]) ++ wordsFrom [] (some c) rest
    else
      let cut := ! current.isEmpty && before.any (rules.cutsBetween · c rest.head?)
      if cut then current :: wordsFrom (rules.toLower c) (some c) rest
      else wordsFrom (current ++ rules.toLower c) (some c) rest

/-- The words of a name, in lower case. -/
def words (name : String) : List (List Char) := rules.wordsFrom [] none name.toList

/-- A joined name as an identifier. -/
def finished (name : List Char) : String :=
  let name := if name.head?.any rules.numeric then '_' :: name else name
  let text := String.ofList name
  if text ∈ rustKeywords then text ++ "_" else text

/-- A word with its first character in upper case. -/
def capitalized : List Char → List Char
  | [] => []
  | c :: rest => rules.toUpper c ++ rest

/-- The name of a method or a parameter; a name without letters and digits
has none. -/
def snakeCase (name : String) : Option String :=
  match rules.words name with
  | [] => none
  | words => some (rules.finished (['_'].intercalate words))

/-- The name of a type; a name without letters and digits has none. -/
def pascalCase (name : String) : Option String :=
  match rules.words name with
  | [] => none
  | words => some (rules.finished (words.flatMap rules.capitalized))

end LetterRules

end KeyTree
