import KeyTree.Codegen.Builders
import KeyTree.Text.Escape
import KeyTree.Event

/-!
# `KeyTree.Codegen.Source`: builders as Rust source

Source is written as a list of lines. It starts with the same lines for
every schema but for the separator, and goes on with one block for each
struct. The separator shows in its own constant and in the comments of the
methods that make keys, and nowhere else. Texts enter only as string
literals and escaped comments, so each of them stays on its line.
-/

set_option autoImplicit false

namespace KeyTree

/-! ### Lines -/

/-- A line moved in by one step; empty lines stay empty. -/
def indented (line : String) : String := if line = "" then "" else "    " ++ line

/-- A block of lines in braces behind a head. -/
def braced (head : String) (body : List String) : List String :=
  (head ++ " \x7b") :: body.map indented ++ ["\x7d"]

/-- Lines as a text that ends each of them. -/
def linesText (lines : List String) : String := String.join (lines.map (· ++ "\n"))

/-! ### What every module starts with -/

/-- A method that turns the number itself into text by one expression. -/
def segmentMethod (expression : String) : List String :=
  braced "fn segment(self) -> String" [expression]

/-- The trait of numbers that methods take, and its instances. -/
def numberLines : List String :=
  "/// Numbers accepted by generated key methods." ::
  braced "pub trait NumberArg" ["fn segment(self) -> String;"] ++
  "" :: braced "macro_rules! impl_integer_arg"
    ("($($ty:ty),*) => \x7b" ::
      ("$(" :: (braced "impl NumberArg for $ty" (segmentMethod "self.to_string()")).map indented
        ++ [")*"]).map indented
      ++ ["\x7d;"]) ++
  "" :: "impl_integer_arg!(i8, i16, i32, i64, isize, u8, u16, u32, u64, usize);" ::
  "" :: braced "impl NumberArg for f64" (segmentMethod "self::number_segment(self)") ++
  "" :: braced "impl NumberArg for f32"
    (segmentMethod
      "self::number_segment(self.to_string().parse().unwrap_or(f64::from(self)))")

/-- The functions that methods call. -/
def functionLines : List String :=
  "#[allow(dead_code)]" ::
  braced "fn number_segment(n: f64) -> String"
    [ "if n.is_nan() \x7b",
      "    \"NaN\".to_string()",
      "\x7d else if n.is_infinite() \x7b",
      "    if n > 0.0 \x7b \"Infinity\" \x7d else \x7b \"-Infinity\" \x7d.to_string()",
      "\x7d else if n == 0.0 \x7b",
      "    \"0\".to_string()",
      "\x7d else \x7b",
      "    n.to_string()",
      "\x7d" ] ++
  "" :: "#[allow(dead_code)]" ::
  braced "fn join_key(prefix: &[String], parts: &[String]) -> String"
    [ "let mut segments: Vec<&str> = prefix.iter().map(String::as_str).collect();",
      "segments.extend(parts.iter().map(String::as_str));",
      "segments.join(SEPARATOR)" ] ++
  "" :: "#[allow(dead_code)]" ::
  braced "fn extend_prefix(prefix: &[String], parts: &[String]) -> Vec<String>"
    ["prefix.iter().chain(parts).cloned().collect()"]

/-- The line that holds the separator. -/
def separatorLine (separator : String) (print : PrintRules := .unicode) : String :=
  "pub const SEPARATOR: &str = " ++ rustLiteral separator print ++ ";"

/-- The lines in front of the structs. -/
def headerLines (separator : String) (print : PrintRules := .unicode) : List String :=
  "// Generated by keyschema-codegen. Do not edit." :: "" ::
  "/// Separator joining key segments." :: separatorLine separator print ::
  "" :: numberLines ++ "" :: functionLines

/-! ### Structs -/

/-- The type of a parameter. -/
def SlotKind.rustType : SlotKind → String
  | .text => "&str"
  | .number => "impl self::NumberArg"
  | .boolean => "bool"

/-- A parameter, behind the receiver. -/
def Parameter.source (parameter : Parameter) : String :=
  ", " ++ parameter.name ++ ": " ++ parameter.kind.rustType

/-- The expression for a segment. -/
def SegmentExpr.source (segment : SegmentExpr) (print : PrintRules := .unicode) : String :=
  match segment with
  | .literal text => rustLiteral text print ++ ".to_string()"
  | .parameter ⟨name, .number⟩ => "self::NumberArg::segment(" ++ name ++ ")"
  | .parameter ⟨name, _⟩ => name ++ ".to_string()"

/-- The call that puts segments behind the prefix. -/
def segmentsCall (function : String) (segments : List SegmentExpr)
    (print : PrintRules := .unicode) : String :=
  "self::" ++ function ++ "(&self.prefix, &["
    ++ ", ".intercalate (segments.map (SegmentExpr.source · print)) ++ "])"

/-- A method; the method of a key says in a comment what the key is. -/
def Method.lines (separator : String) (method : Method) (print : PrintRules := .unicode) :
    List String :=
  let head (answer : String) : String :=
    "pub fn " ++ method.name ++ "(&self" ++ String.join (method.parameters.map Parameter.source)
      ++ ") -> " ++ answer
  match method.answer with
  | .key pieces =>
    ("/// `" ++ rustEscaped (renderPieces separator pieces) print ++ "`") ::
      braced (head "String") [segmentsCall "join_key" method.segments print]
  | .level structName =>
    braced (head structName)
      (braced structName
        ["prefix: " ++ segmentsCall "extend_prefix" method.segments print ++ ","])

/-- The comment above a struct. -/
def BuilderStruct.comment (builder : BuilderStruct) (print : PrintRules := .unicode) : String :=
  if builder.path.isEmpty then "Root of the key tree."
  else "Keys under `" ++ rustEscaped (dotted builder.path) print ++ "`."

/-- A struct and its methods. -/
def BuilderStruct.lines (separator : String) (builder : BuilderStruct)
    (print : PrintRules := .unicode) : List String :=
  let constructor : List String :=
    if builder.path.isEmpty then
      braced "pub const fn new() -> Self" ["Self \x7b prefix: Vec::new() \x7d"]
    else []
  ("/// " ++ builder.comment print) :: "#[derive(Debug, Clone, PartialEq, Eq)]" ::
    braced ("pub struct " ++ builder.name) ["prefix: Vec<String>,"] ++
    "" :: braced ("impl " ++ builder.name)
      (constructor ++ builder.methods.flatMap fun method => "" :: method.lines separator print)

/-- A module with the given structs. -/
def moduleLines (separator : String) (builders : List BuilderStruct)
    (print : PrintRules := .unicode) : List String :=
  headerLines separator print
    ++ builders.flatMap fun builder => "" :: builder.lines separator print

/-- The source of the builders of a schema; how many structs it has is
reported. -/
def Schema.source (schema : Schema) (rules : LetterRules) (rootName separator : String)
    (print : PrintRules := .unicode) : Logged (Except CodegenError String) :=
  match schema.builders rules rootName with
  | .error error => pure (.error error)
  | .ok builders => do
    Logged.note (.generatedBuilders ((builders.head?.map (·.name)).getD "") builders.length)
    pure (.ok (linesText (moduleLines separator builders print)))

end KeyTree
