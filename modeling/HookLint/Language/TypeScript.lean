import HookLint.Language.Script

/-!
TypeScript, in two dialects: with type assertions, or with embedded markup in their place.
-/
namespace HookLint.Language.TypeScript

open HookLint.Text HookLint.Grammar HookLint.Language

inductive Markup where
  | assertions
  | elements
deriving DecidableEq

def callSignatureFields : R := seqs [
  field "type_parameters" (opt (nt "type_parameters")),
  field "parameters" (nt "formal_parameters")]

def optField (name target : String) : R := field name (opt (nt target))

def typeArguments : R := optField "type_arguments" "type_arguments"

def accessor : R := opt (oneOfTexts ["get", "set", "*"])

def propertyName : R := field "name" (nt "_property_name")

def privateOrProperty : R := alts [nt "private_property_identifier",
  shownAs "property_identifier" (nt "identifier")]

/-- Expressions allowed behind `typeof` as a type. -/
def queried (first : List R) : R := alts (first ++ [
  shownAs "subscript_expression" (nt "_type_query_subscript_expression"),
  shownAs "member_expression" (nt "_type_query_member_expression"),
  shownAs "call_expression" (nt "_type_query_call_expression")])

def queriedFunction : R := alts [nt "import", nt "identifier",
  shownAs "member_expression" (nt "_type_query_member_expression"),
  shownAs "subscript_expression" (nt "_type_query_subscript_expression")]

def importedMember : R :=
  shownAs "member_expression" (nt "_type_query_member_expression_in_type_annotation")

def importedCall : R :=
  shownAs "call_expression" (nt "_type_query_call_expression_in_type_annotation")

def classHead : List R := [
  field "name" (nt "_type_identifier"), optField "type_parameters" "type_parameters",
  opt (nt "class_heritage"), field "body" (nt "class_body")]

/-- The operators of `expression`, without markup or without type assertions. -/
def expressions (m : Markup) : R :=
  let added := [nt "as_expression", nt "satisfies_expression", nt "instantiation_expression",
    nt "internal_module"]
  let common := [nt "assignment_expression", nt "augmented_assignment_expression",
    nt "await_expression", nt "unary_expression", nt "binary_expression", nt "ternary_expression",
    nt "update_expression", nt "new_expression", nt "yield_expression"]
  match m with
  | .assertions => alts (added ++ [nt "type_assertion", nt "primary_expression"] ++ common)
  | .elements => alts (added ++ [nt "primary_expression", nt "_jsx_element"] ++ common)

def importWords : R := opt (oneOfTexts ["type", "typeof"])

def startOfElement : R := seqs [lit "<",
  opt (seqs [
    alts [
      field "name" (alts [nt "_jsx_identifier", nt "jsx_namespace_name"]),
      seqs [
        field "name" (alts [nt "identifier", shownAs "member_expression" (nt "nested_identifier")]),
        typeArguments]],
    many (field "attribute" (nt "_jsx_attribute"))])]

def old (name : String) : R := ruleOf Script.definitions name

def changes (m : Markup) : List Definition := [
  define "public_field_definition" (seqs [
    many (field "decorator" (nt "decorator")),
    opt (alts [seqs [lit "declare", opt (nt "accessibility_modifier")],
      seqs [nt "accessibility_modifier", opt (lit "declare")]]),
    alts [
      seqs [opt (lit "static"), opt (nt "override_modifier"), opt (lit "readonly")],
      seqs [opt (lit "abstract"), opt (lit "readonly")],
      seqs [opt (lit "readonly"), opt (lit "abstract")],
      opt (lit "accessor")],
    propertyName, opt (oneOfTexts ["?", "!"]), optField "type" "type_annotation",
    opt (nt "_initializer")]),
  define "catch_clause" (seqs [lit "catch",
    opt (seqs [lit "(", field "parameter" Script.bindingName,
      opt (field "type" (nt "type_annotation")), lit ")"]),
    field "body" (nt "statement_block")]),
  define "call_expression" (alts [
    prec "call" (seqs [field "function" (alts [nt "expression", nt "import"]), typeArguments,
      field "arguments" (nt "arguments")]),
    prec "template_call" (seqs [field "function" (alts [nt "primary_expression", nt "new_expression"]),
      field "arguments" (nt "template_string")]),
    prec "member" (seqs [field "function" (nt "primary_expression"), lit "?.", typeArguments,
      field "arguments" (nt "arguments")])]),
  define "new_expression" (precRight "new" (seqs [lit "new",
    field "constructor" (nt "primary_expression"), typeArguments, optField "arguments" "arguments"])),
  define "assignment_expression" (precRight "assign" (seqs [opt (lit "using"),
    field "left" (alts [nt "parenthesized_expression", nt "_lhs_expression"]), lit "=",
    field "right" (nt "expression")])),
  define "_augmented_assignment_lhs" (alts [old "_augmented_assignment_lhs", nt "non_null_expression"]),
  define "_lhs_expression" (alts [old "_lhs_expression", nt "non_null_expression"]),
  define "primary_expression" (alts [old "primary_expression", nt "non_null_expression"]),
  define "expression" (expressions m),
  define "_jsx_start_opening_element" startOfElement,
  define "jsx_opening_element" (weigh (-1) (seqs [nt "_jsx_start_opening_element", lit ">"])),
  define "jsx_self_closing_element" (weigh (-1) (seqs [nt "_jsx_start_opening_element", lit "/>"])),
  define "export_specifier" (seqs [importWords, old "export_specifier"]),
  define "_import_identifier" (alts [nt "identifier", shownAs "identifier" (lit "type")]),
  define "import_specifier" (seqs [importWords,
    alts [field "name" (nt "_import_identifier"),
      seqs [field "name" (alts [nt "_module_export_name", shownAs "identifier" (lit "type")]),
        lit "as", field "alias" (nt "_import_identifier")]]]),
  define "import_clause" (alts [nt "namespace_import", nt "named_imports",
    seqs [nt "_import_identifier",
      opt (seqs [lit ",", alts [nt "namespace_import", nt "named_imports"]])]]),
  define "import_statement" (seqs [lit "import", importWords,
    alts [seqs [nt "import_clause", nt "_from_clause"], nt "import_require_clause",
      field "source" (nt "string")],
    opt (nt "import_attribute"), nt "_semicolon"]),
  define "export_statement" (alts [old "export_statement",
    seqs [lit "export", lit "type", nt "export_clause", opt (nt "_from_clause"), nt "_semicolon"],
    seqs [lit "export", lit "import", nt "import_alias"],
    seqs [lit "export", lit "=", nt "expression", nt "_semicolon"],
    seqs [lit "export", lit "as", lit "namespace", nt "identifier", nt "_semicolon"]]),
  define "non_null_expression" (precLeft "unary" (seqs [nt "expression", lit "!"])),
  define "variable_declarator" (alts [
    seqs [field "name" Script.bindingName, optField "type" "type_annotation", opt (nt "_initializer")],
    prec "declare" (seqs [field "name" (nt "identifier"), lit "!",
      field "type" (nt "type_annotation")])]),
  define "method_signature" (seqs [opt (nt "accessibility_modifier"), opt (lit "static"),
    opt (nt "override_modifier"), opt (lit "readonly"), opt (lit "async"), accessor, propertyName,
    opt (lit "?"), nt "_call_signature"]),
  define "abstract_method_signature" (seqs [opt (nt "accessibility_modifier"), lit "abstract",
    opt (nt "override_modifier"), accessor, propertyName, opt (lit "?"), nt "_call_signature"]),
  define "parenthesized_expression" (seqs [lit "(",
    alts [seqs [nt "expression", optField "type" "type_annotation"], nt "sequence_expression"],
    lit ")"]),
  define "_formal_parameter" (alts [nt "required_parameter", nt "optional_parameter"]),
  define "function_signature" (seqs [opt (lit "async"), lit "function", field "name" (nt "identifier"),
    nt "_call_signature", alts [nt "_semicolon", nt "_function_signature_automatic_semicolon"]]),
  define "decorator" (seqs [lit "@", alts [nt "identifier",
    shownAs "member_expression" (nt "decorator_member_expression"),
    shownAs "call_expression" (nt "decorator_call_expression"),
    shownAs "parenthesized_expression" (nt "decorator_parenthesized_expression")]]),
  define "decorator_call_expression" (prec "call" (seqs [
    field "function" (alts [nt "identifier",
      shownAs "member_expression" (nt "decorator_member_expression")]),
    opt (field "type_arguments" (nt "type_arguments")), field "arguments" (nt "arguments")])),
  define "decorator_parenthesized_expression" (seqs [lit "(",
    alts [nt "identifier", shownAs "member_expression" (nt "decorator_member_expression"),
      shownAs "call_expression" (nt "decorator_call_expression")],
    lit ")"]),
  define "class_body" (seqs [lit "\x7b",
    many (alts [
      seqs [many (field "decorator" (nt "decorator")), nt "method_definition", opt (nt "_semicolon")],
      seqs [nt "method_signature", alts [nt "_function_signature_automatic_semicolon", lit ","]],
      nt "class_static_block",
      seqs [alts [nt "abstract_method_signature", nt "index_signature", nt "method_signature",
          nt "public_field_definition"],
        alts [nt "_semicolon", lit ","]],
      lit ";"]),
    lit "\x7d"]),
  define "method_definition" (leftAssoc (seqs [opt (nt "accessibility_modifier"), opt (lit "static"),
    opt (nt "override_modifier"), opt (lit "readonly"), opt (lit "async"), accessor, propertyName,
    opt (lit "?"), nt "_call_signature", field "body" (nt "statement_block")])),
  define "declaration" (alts [old "declaration", nt "function_signature",
    nt "abstract_class_declaration", nt "module", prec "declare" (nt "internal_module"),
    nt "type_alias_declaration", nt "enum_declaration", nt "interface_declaration", nt "import_alias",
    nt "ambient_declaration"]),
  define "type_assertion" (precLeft "unary" (seqs [nt "type_arguments", nt "expression"])),
  define "as_expression" (precLeft "binary" (seqs [nt "expression", lit "as",
    alts [lit "const", nt "type"]])),
  define "satisfies_expression" (precLeft "binary" (seqs [nt "expression", lit "satisfies", nt "type"])),
  define "instantiation_expression" (prec "instantiation" (seqs [nt "expression",
    field "type_arguments" (nt "type_arguments")])),
  define "class_heritage" (alts [seqs [nt "extends_clause", opt (nt "implements_clause")],
    nt "implements_clause"]),
  define "import_require_clause" (seqs [nt "identifier", lit "=", lit "require", lit "(",
    field "source" (nt "string"), lit ")"]),
  define "extends_clause" (seqs [lit "extends", commaSep1 (nt "_extends_clause_single")]),
  define "_extends_clause_single" (prec "extends" (seqs [field "value" (nt "expression"),
    typeArguments])),
  define "implements_clause" (seqs [lit "implements", commaSep1 (nt "type")]),
  define "ambient_declaration" (seqs [lit "declare",
    alts [nt "declaration", seqs [lit "global", nt "statement_block"],
      seqs [lit "module", lit ".", shownAs "property_identifier" (nt "identifier"), lit ":",
        nt "type", nt "_semicolon"]]]),
  define "class" (prec "literal" (seqs [many (field "decorator" (nt "decorator")), lit "class",
    field "name" (opt (nt "_type_identifier")), optField "type_parameters" "type_parameters",
    opt (nt "class_heritage"), field "body" (nt "class_body")])),
  define "abstract_class_declaration" (prec "declare" (seqs (
    [many (field "decorator" (nt "decorator")), lit "abstract", lit "class"] ++ classHead))),
  define "class_declaration" (precLeft "declare" (seqs (
    [many (field "decorator" (nt "decorator")), lit "class"] ++ classHead
      ++ [opt (nt "_automatic_semicolon")]))),
  define "module" (seqs [lit "module", nt "_module"]),
  define "internal_module" (seqs [lit "namespace", nt "_module"]),
  define "_module" (rightAssoc (seqs [
    field "name" (alts [nt "string", nt "identifier", nt "nested_identifier"]),
    field "body" (opt (nt "statement_block"))])),
  define "import_alias" (seqs [lit "import", nt "identifier", lit "=",
    alts [nt "identifier", nt "nested_identifier"], nt "_semicolon"]),
  define "nested_type_identifier" (prec "member" (seqs [
    field "module" (alts [nt "identifier", nt "nested_identifier"]), lit ".",
    field "name" (nt "_type_identifier")])),
  define "interface_declaration" (seqs [lit "interface", field "name" (nt "_type_identifier"),
    optField "type_parameters" "type_parameters", opt (nt "extends_type_clause"),
    field "body" (shownAs "interface_body" (nt "object_type"))]),
  define "extends_type_clause" (seqs [lit "extends", commaSep1 (field "type"
    (alts [nt "_type_identifier", nt "nested_type_identifier", nt "generic_type"]))]),
  define "enum_declaration" (seqs [opt (lit "const"), lit "enum", field "name" (nt "identifier"),
    field "body" (nt "enum_body")]),
  define "enum_body" (seqs [lit "\x7b",
    opt (seqs [commaSep1 (alts [propertyName, nt "enum_assignment"]), opt (lit ",")]), lit "\x7d"]),
  define "enum_assignment" (seqs [propertyName, nt "_initializer"]),
  define "type_alias_declaration" (seqs [lit "type", field "name" (nt "_type_identifier"),
    optField "type_parameters" "type_parameters", lit "=", field "value" (nt "type"),
    nt "_semicolon"]),
  define "accessibility_modifier" (oneOfTexts ["public", "private", "protected"]),
  define "override_modifier" (lit "override"),
  define "required_parameter" (seqs [nt "_parameter_name", optField "type" "type_annotation",
    opt (nt "_initializer")]),
  define "optional_parameter" (seqs [nt "_parameter_name", lit "?", optField "type" "type_annotation",
    opt (nt "_initializer")]),
  define "_parameter_name" (seqs [many (field "decorator" (nt "decorator")),
    opt (nt "accessibility_modifier"), opt (nt "override_modifier"), opt (lit "readonly"),
    field "pattern" (alts [nt "pattern", nt "this"])]),
  define "omitting_type_annotation" (seqs [lit "-?:", nt "type"]),
  define "adding_type_annotation" (seqs [lit "+?:", nt "type"]),
  define "opting_type_annotation" (seqs [lit "?:", nt "type"]),
  define "type_annotation" (seqs [lit ":", alts [nt "type", importedMember, importedCall]]),
  define "_type_query_member_expression_in_type_annotation" (seqs [
    field "object" (alts [nt "import", importedMember, importedCall]), lit ".",
    field "property" privateOrProperty]),
  define "_type_query_call_expression_in_type_annotation" (seqs [
    field "function" (alts [nt "import", importedMember]), field "arguments" (nt "arguments")]),
  define "asserts" (seqs [lit "asserts", alts [nt "type_predicate", nt "identifier", nt "this"]]),
  define "asserts_annotation" (seqs [lit ":", nt "asserts"]),
  define "type" (alts [nt "primary_type", nt "function_type", nt "readonly_type",
    nt "constructor_type", nt "infer_type", precLevel (-1) importedMember,
    precLevel (-1) importedCall]),
  define "tuple_parameter" (seqs [field "name" (alts [nt "identifier", nt "rest_pattern"]),
    field "type" (nt "type_annotation")]),
  define "optional_tuple_parameter" (seqs [field "name" (nt "identifier"), lit "?",
    field "type" (nt "type_annotation")]),
  define "optional_type" (seqs [nt "type", lit "?"]),
  define "rest_type" (seqs [lit "...", nt "type"]),
  define "_tuple_type_member" (alts [shownAs "required_parameter" (nt "tuple_parameter"),
    shownAs "optional_parameter" (nt "optional_tuple_parameter"), nt "optional_type",
    nt "rest_type", nt "type"]),
  define "constructor_type" (leftAssoc (seqs [opt (lit "abstract"), lit "new", callSignatureFields,
    lit "=>", field "type" (nt "type")])),
  define "primary_type" (alts [nt "parenthesized_type", nt "predefined_type", nt "_type_identifier",
    nt "nested_type_identifier", nt "generic_type", nt "object_type", nt "array_type",
    nt "tuple_type", nt "flow_maybe_type", nt "type_query", nt "index_type_query",
    shownAs "this_type" (nt "this"), nt "existential_type", nt "literal_type", nt "lookup_type",
    nt "conditional_type", nt "template_literal_type", nt "intersection_type", nt "union_type"]),
  define "template_type" (seqs [lit "$\x7b", alts [nt "primary_type", nt "infer_type"], lit "\x7d"]),
  define "template_literal_type" (seqs [lit "`",
    many (alts [shownAs "string_fragment" (nt "_template_chars"), nt "template_type"]), lit "`"]),
  define "infer_type" (rightAssoc (seqs [lit "infer", nt "_type_identifier",
    opt (seqs [lit "extends", nt "type"])])),
  define "conditional_type" (rightAssoc (seqs [field "left" (nt "type"), lit "extends",
    field "right" (nt "type"), lit "?", field "consequence" (nt "type"), lit ":",
    field "alternative" (nt "type")])),
  define "generic_type" (prec "call" (seqs [
    field "name" (alts [nt "_type_identifier", nt "nested_type_identifier"]),
    field "type_arguments" (nt "type_arguments")])),
  define "type_predicate" (seqs [
    field "name" (alts [nt "identifier", nt "this", shownAs "identifier" (nt "predefined_type")]),
    lit "is", field "type" (nt "type")]),
  define "type_predicate_annotation" (seqs [lit ":", nt "type_predicate"]),
  define "_type_query_member_expression" (seqs [
    field "object" (queried [nt "identifier", nt "this"]), oneOfTexts [".", "?."],
    field "property" privateOrProperty]),
  define "_type_query_subscript_expression" (seqs [
    field "object" (queried [nt "identifier", nt "this"]), opt (lit "?."), lit "[",
    field "index" (alts [nt "predefined_type", nt "string", nt "number"]), lit "]"]),
  define "_type_query_call_expression" (seqs [field "function" queriedFunction,
    field "arguments" (nt "arguments")]),
  define "_type_query_instantiation_expression" (seqs [field "function" queriedFunction,
    field "type_arguments" (nt "type_arguments")]),
  define "type_query" (rightAssoc (seqs [lit "typeof", alts [
    shownAs "subscript_expression" (nt "_type_query_subscript_expression"),
    shownAs "member_expression" (nt "_type_query_member_expression"),
    shownAs "call_expression" (nt "_type_query_call_expression"),
    shownAs "instantiation_expression" (nt "_type_query_instantiation_expression"),
    nt "identifier", nt "this"]])),
  define "index_type_query" (seqs [lit "keyof", nt "primary_type"]),
  define "lookup_type" (seqs [nt "primary_type", lit "[", nt "type", lit "]"]),
  define "mapped_type_clause" (seqs [field "name" (nt "_type_identifier"), lit "in",
    field "type" (nt "type"), opt (seqs [lit "as", field "alias" (nt "type")])]),
  define "literal_type" (alts [shownAs "unary_expression" (nt "_number"), nt "number", nt "string",
    nt "true", nt "false", nt "null", nt "undefined"]),
  define "_number" (.bind (.level 1) (some .left) (seqs [field "operator" (oneOfTexts ["-", "+"]),
    field "argument" (nt "number")])),
  define "existential_type" (lit "*"),
  define "flow_maybe_type" (rightAssoc (seqs [lit "?", nt "primary_type"])),
  define "parenthesized_type" (seqs [lit "(", nt "type", lit ")"]),
  define "predefined_type" (alts [lit "any", lit "number", lit "boolean", lit "string", lit "symbol",
    spelledAs "unique symbol" (seqs [lit "unique", lit "symbol"]), lit "void", lit "unknown",
    lit "never", lit "object"]),
  define "type_arguments" (seqs [lit "<", commaSep1 (nt "type"), opt (lit ","), lit ">"]),
  define "object_type" (seqs [oneOfTexts ["\x7b", "\x7b|"],
    opt (seqs [opt (oneOfTexts [",", ";"]),
      sepBy1 (alts [lit ",", nt "_semicolon"]) (alts [nt "export_statement", nt "property_signature",
        nt "call_signature", nt "construct_signature", nt "index_signature",
        nt "method_signature"]),
      opt (alts [lit ",", nt "_semicolon"])]),
    oneOfTexts ["\x7d", "|\x7d"]]),
  define "call_signature" (nt "_call_signature"),
  define "property_signature" (seqs [opt (nt "accessibility_modifier"), opt (lit "static"),
    opt (nt "override_modifier"), opt (lit "readonly"), propertyName, opt (lit "?"),
    optField "type" "type_annotation"]),
  define "_call_signature" (seqs [callSignatureFields, field "return_type" (opt
    (alts [nt "type_annotation", nt "asserts_annotation", nt "type_predicate_annotation"]))]),
  define "type_parameters" (seqs [lit "<", commaSep1 (nt "type_parameter"), opt (lit ","), lit ">"]),
  define "type_parameter" (seqs [opt (lit "const"), field "name" (nt "_type_identifier"),
    optField "constraint" "constraint", optField "value" "default_type"]),
  define "default_type" (seqs [lit "=", nt "type"]),
  define "constraint" (seqs [oneOfTexts ["extends", ":"], nt "type"]),
  define "construct_signature" (seqs [opt (lit "abstract"), lit "new", callSignatureFields,
    optField "type" "type_annotation"]),
  define "index_signature" (seqs [
    opt (seqs [field "sign" (opt (oneOfTexts ["+", "-"])), lit "readonly"]), lit "[",
    alts [
      seqs [field "name" (alts [nt "identifier", shownAs "identifier" (nt "_reserved_identifier")]),
        lit ":", field "index_type" (nt "type")],
      nt "mapped_type_clause"],
    lit "]",
    field "type" (alts [nt "type_annotation", nt "omitting_type_annotation",
      nt "adding_type_annotation", nt "opting_type_annotation"])]),
  define "array_type" (seqs [nt "primary_type", lit "[", lit "]"]),
  define "tuple_type" (seqs [lit "[", commaSep (nt "_tuple_type_member"), opt (lit ","), lit "]"]),
  define "readonly_type" (seqs [lit "readonly", nt "type"]),
  define "union_type" (leftAssoc (seqs [opt (nt "type"), lit "|", nt "type"])),
  define "intersection_type" (leftAssoc (seqs [opt (nt "type"), lit "&", nt "type"])),
  define "function_type" (leftAssoc (seqs [callSignatureFields, lit "=>",
    field "return_type" (alts [nt "type", nt "asserts", nt "type_predicate"])])),
  define "_type_identifier" (shownAs "type_identifier" (nt "identifier")),
  define "_reserved_identifier" (oneOfTexts ["declare", "namespace", "type", "public", "private",
    "protected", "override", "readonly", "module", "any", "number", "boolean", "string", "symbol",
    "export", "object", "new", "get", "set", "async", "static", "let"])]

def orderings : List (List Rank) := Script.orderings ++ [
  [.strength "call", .strength "instantiation", .strength "unary", .strength "binary",
    .rule "await_expression", .rule "arrow_function"],
  [.strength "extends", .strength "instantiation"],
  [.rule "intersection_type", .rule "union_type", .rule "conditional_type", .rule "function_type",
    .strength "binary", .rule "type_predicate", .rule "readonly_type"],
  [.rule "mapped_type_clause", .rule "primary_expression"],
  [.rule "accessibility_modifier", .rule "primary_expression"],
  [.strength "unary_void", .rule "expression"],
  [.rule "extends_clause", .rule "primary_expression"],
  [.strength "unary", .strength "assign"],
  [.strength "declare", .rule "expression"],
  [.rule "predefined_type", .rule "unary_expression"],
  [.rule "type", .rule "flow_maybe_type"],
  [.rule "tuple_type", .rule "array_type", .rule "pattern", .rule "type"],
  [.rule "readonly_type", .rule "pattern"],
  [.rule "readonly_type", .rule "primary_expression"],
  [.rule "type_query", .rule "subscript_expression", .rule "expression"],
  [.rule "type_query", .rule "_type_query_subscript_expression"],
  [.rule "nested_type_identifier", .rule "generic_type", .rule "primary_type", .rule "lookup_type",
    .rule "index_type_query", .rule "type"],
  [.rule "as_expression", .rule "satisfies_expression", .rule "primary_type"],
  [.rule "_type_query_member_expression", .rule "member_expression"],
  [.rule "member_expression", .rule "_type_query_member_expression_in_type_annotation"],
  [.rule "_type_query_member_expression", .rule "primary_expression"],
  [.rule "_type_query_subscript_expression", .rule "subscript_expression"],
  [.rule "_type_query_subscript_expression", .rule "primary_expression"],
  [.rule "_type_query_call_expression", .rule "primary_expression"],
  [.rule "_type_query_instantiation_expression", .rule "primary_expression"],
  [.rule "type_query", .rule "primary_expression"],
  [.rule "override_modifier", .rule "primary_expression"],
  [.rule "decorator_call_expression", .rule "decorator"],
  [.rule "literal_type", .rule "pattern"],
  [.rule "predefined_type", .rule "pattern"],
  [.rule "call_expression", .rule "_type_query_call_expression"],
  [.rule "call_expression", .rule "_type_query_call_expression_in_type_annotation"],
  [.rule "new_expression", .rule "primary_expression"],
  [.rule "meta_property", .rule "primary_expression"],
  [.rule "construct_signature", .rule "_property_name"]]

def inlined : List String :=
  Script.inlined.filter (fun n => n != "_formal_parameter" && n != "_call_signature")
    ++ ["_type_identifier", "_jsx_start_opening_element"]

def grammar (m : Markup) : Ruleset := {
  name := match m with
    | .assertions => "typescript"
    | .elements => "tsx"
  definitions := extend Script.definitions (changes m)
  blanks := Script.blanks
  extras := Script.extras
  layout := Script.layout ++ [⟨"_function_signature_automatic_semicolon", none⟩,
    ⟨"__error_recovery", none⟩]
  inlined := inlined
  supertypes := Script.supertypes ++ ["type", "primary_type"]
  orderings := orderings
  word := "identifier"
  reserved := []
  onlyInPlace := Script.onlyInPlace }

end HookLint.Language.TypeScript
