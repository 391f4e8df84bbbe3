import HookLint.Language.Script

/-!
JavaScript with embedded markup.
-/
namespace HookLint.Language.JavaScript

open HookLint.Grammar HookLint.Language

def reserved : List String :=
  ["break", "case", "catch", "class", "const", "continue", "debugger", "default", "delete", "do",
    "else", "export", "extends", "false", "finally", "for", "function", "if", "import", "in",
    "instanceof", "new", "null", "return", "super", "switch", "this", "throw", "true", "try",
    "typeof", "var", "void", "while", "with"]

def usingKind : R := field "kind" (alts [lit "using", seqs [lit "await", lit "using"]])

def changes : List Definition := [
  define "_module_export_name" (alts [nt "identifier", nt "string", lit "default"]),
  define "declaration" (alts [ruleOf Script.definitions "declaration", nt "using_declaration"]),
  define "import_specifier" (alts [field "name" (nt "identifier"),
    seqs [field "name" (nt "_module_export_name"), lit "as", field "alias" (nt "identifier")]]),
  define "member_expression" (prec "member" (seqs [
    field "object" (alts [nt "expression", nt "primary_expression", nt "import"]),
    alts [lit ".", field "optional_chain" (nt "optional_chain")],
    field "property" (alts [nt "private_property_identifier",
      .anyWord (shownAs "property_identifier" (nt "identifier"))])])),
  define "_property_name" (.anyWord (ruleOf Script.definitions "_property_name")),
  define "_reserved_identifier"
    (oneOfTexts ["get", "set", "async", "await", "static", "export", "let"]),
  define "using_declaration" (seqs [usingKind, commaSep1 (nt "variable_declarator"), nt "_semicolon"])]

/-- A word `await` in front of an expression waits for it. -/
def orderings : List (List Rank) :=
  Script.orderings ++ [[.strength "unary_void", .rule "primary_expression"]]

def grammar : Ruleset := {
  name := "javascript"
  definitions := extend Script.definitions changes
  blanks := Script.blanks
  extras := Script.extras
  layout := Script.layout
  inlined := Script.inlined
  supertypes := Script.supertypes
  orderings := orderings
  word := "identifier"
  reserved := reserved
  onlyInPlace := Script.onlyInPlace }

end HookLint.Language.JavaScript
