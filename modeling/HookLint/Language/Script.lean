import HookLint.Language.Notions

/-!
The definitions that the script dialects share.
-/
namespace HookLint.Language.Script

open HookLint.Text HookLint.Grammar HookLint.Language

/-! ### Characters -/

def spaceSeparators : List (Nat × Nat) :=
  [(0x20, 0x20), (0xA0, 0xA0), (0x1680, 0x1680), (0x2000, 0x200A), (0x202F, 0x202F),
    (0x205F, 0x205F), (0x3000, 0x3000)]

/-- Tab to carriage return, the separators, and the marks that count as blanks. -/
def blanks : CharSet :=
  ⟨(0x09, 0x0D) :: spaceSeparators ++
    [(0xFEFF, 0xFEFF), (0x2028, 0x2029), (0x2060, 0x2060), (0x200B, 0x200B)], false⟩

def outsideWords : CharSet :=
  ((CharSet.mk ((0x00, 0x1F) :: blanks.ranges) false).union
    (.ofString ":;`\"'@#.,|^&<=>+-*/\\%?!~()[]\x7b\x7d")).complement

def digits : CharSet := .range '0' '9'

def hexDigit : Pattern :=
  .one (((CharSet.range '0' '9').union (.range 'a' 'f')).union (.range 'A' 'F'))

def unicodeEscape : Pattern :=
  .alt (.seq (.text "\\u") (.times 4 0 hexDigit))
    (.seqs [.text "\\u\x7b", .star1 hexDigit, .text "\x7d"])

def wordStart : Pattern := .alt (.one ⟨outsideWords.ranges ++ digits.ranges, true⟩) unicodeEscape

def wordPart : Pattern := .alt (.one outsideWords) unicodeEscape

def identifier : Pattern := .seq wordStart (.star wordPart)

/-! ### Tokens -/

/-- A digit class with single underscores inside. -/
def separated (digit : Pattern) : Pattern := .seq digit (.star (.seq (.opt (.text "_")) digit))

def number : Pattern :=
  let digit := Pattern.one digits
  let hex := Pattern.seq (.alt (.text "0x") (.text "0X")) (separated hexDigit)
  let decimals := separated digit
  let exponent := Pattern.seqs [.oneOf "eE", .opt (.oneOf "+-"), decimals]
  let binary := Pattern.seq (.alt (.text "0b") (.text "0B")) (separated (.range '0' '1'))
  let octal := Pattern.seq (.alt (.text "0o") (.text "0O")) (separated (.range '0' '7'))
  let big := Pattern.seq (.alts [hex, binary, octal, decimals]) (.text "n")
  let whole := Pattern.alt (.text "0")
    (.seqs [.opt (.text "0"), .range '1' '9', .opt (.seq (.opt (.text "_")) decimals)])
  let decimal := Pattern.alts
    [.seqs [whole, .text ".", .opt decimals, .opt exponent],
      .seqs [.text ".", decimals, .opt exponent],
      .seq whole exponent,
      decimals]
  .alts [hex, decimal, binary, octal, big]

def lineEnds : CharSet := ⟨[(0x0A, 0x0A), (0x0D, 0x0D), (0x2028, 0x2029)], false⟩

def comment : Pattern :=
  let star1 := Pattern.star1 (.text "*")
  .alt (.seq (.text "//") (.star (.one lineEnds.complement)))
    (.seqs [.text "/*", .star (.noneOf "*"), star1,
      .star (.seqs [.noneOf "/*", .star (.noneOf "*"), star1]), .text "/"])

def escapeSequence : Pattern :=
  .seq (.text "\\") (.alts
    [.one ⟨[(0x78, 0x78), (0x75, 0x75), (0x30, 0x37)], true⟩,
      .times 1 2 (.range '0' '7'),
      .seq (.text "x") (.times 2 0 hexDigit),
      .seq (.text "u") (.times 4 0 hexDigit),
      .seqs [.text "u\x7b", .star1 hexDigit, .text "\x7d"],
      .seq (.oneOf "\r?") (.one ⟨[(0x0A, 0x0A), (0x2028, 0x2029)], false⟩)])

def regexPattern : Pattern :=
  let escaped := Pattern.seq (.text "\\") (.noneOf "\n")
  .star1 (.alts
    [.seqs [.text "[", .star (.alt escaped (.noneOf "]\n\\")), .text "]"],
      escaped,
      .noneOf "/\\[\n"])

def letters : CharSet := (CharSet.range 'a' 'z').union (.range 'A' 'Z')

def characterReference : Pattern :=
  .seqs [.text "&",
    .alt
      (.seq (.text "#") (.alt (.seq (.oneOf "xX") (.times 1 5 hexDigit)) (.times 1 4 (.range '0' '9'))))
      (.times 1 29 (.one letters)),
    .text ";"]

def dashedIdentifier : Pattern :=
  let start := letters.union (.ofString "_$")
  let part := start.union digits
  .seqs [.one start, .star (.one part), .text "-", .star (.one (part.union (.ofString "-")))]

/-- Text between quotes of an attribute; an ampersand counts unless a reference begins. -/
def attributeText (quote : String) : Pattern :=
  .star1 (.alt (.noneOf (quote ++ "&"))
    (.seq (.text "&") (.one ⟨(0x23, 0x23) :: letters.ranges, true⟩)))

/-- The words of a getter behind `static` when a line break follows. -/
def staticGet : R :=
  let blank := Pattern.one ⟨[(0x09, 0x0D), (0x20, 0x20)], false⟩
  spelledAs "static get"
    (token (.seqs [.text "static", .star1 blank, .text "get", .star blank, .text "\n"]))

/-! ### Definitions -/

def binaryOperators : List (String × String) :=
  [("&&", "logical_and"), ("||", "logical_or"), (">>", "binary_shift"), (">>>", "binary_shift"),
    ("<<", "binary_shift"), ("&", "bitwise_and"), ("^", "bitwise_xor"), ("|", "bitwise_or"),
    ("+", "binary_plus"), ("-", "binary_plus"), ("*", "binary_times"), ("/", "binary_times"),
    ("%", "binary_times"), ("**", "binary_exp"), ("<", "binary_relation"), ("<=", "binary_relation"),
    ("==", "binary_equality"), ("===", "binary_equality"), ("!=", "binary_equality"),
    ("!==", "binary_equality"), (">=", "binary_relation"), (">", "binary_relation"),
    ("??", "ternary"), ("instanceof", "binary_relation"), ("in", "binary_relation")]

def binaryOperation : String × String → R
  | (op, strength) =>
    let left := if op == "in" then alts [nt "expression", nt "private_property_identifier"]
      else nt "expression"
    let body := seqs [field "left" left, field "operator" (lit op), field "right" (nt "expression")]
    if op == "**" then precRight strength body else precLeft strength body

def quoted (quote : String) (fragment : String) (other : String) : R :=
  seqs [lit quote, many (alts [shownAs "string_fragment" (nt fragment), nt other]), lit quote]

def bindingName : R := alts [nt "identifier", nt "_destructuring_pattern"]

def decorators : R := many (field "decorator" (nt "decorator"))

def definitions : List Definition := [
  define "program" (seqs [opt (nt "hash_bang_line"), many (nt "statement")]),
  define "hash_bang_line" (token (.seq (.text "#!") (.star (.noneOf "\n")))),
  define "export_statement" (alts [
    seqs [lit "export",
      alts [seqs [lit "*", nt "_from_clause"],
        seqs [nt "namespace_export", nt "_from_clause"],
        seqs [nt "export_clause", nt "_from_clause"],
        nt "export_clause"],
      nt "_semicolon"],
    seqs [decorators, lit "export",
      alts [field "declaration" (nt "declaration"),
        seqs [lit "default",
          alts [field "declaration" (nt "declaration"),
            seqs [field "value" (nt "expression"), nt "_semicolon"]]]]]]),
  define "namespace_export" (seqs [lit "*", lit "as", nt "_module_export_name"]),
  define "export_clause" (seqs [lit "\x7b", commaSep (nt "export_specifier"), opt (lit ","), lit "\x7d"]),
  define "export_specifier" (seqs [field "name" (nt "_module_export_name"),
    opt (seqs [lit "as", field "alias" (nt "_module_export_name")])]),
  define "_module_export_name" (alts [nt "identifier", nt "string"]),
  define "declaration" (alts [nt "function_declaration", nt "generator_function_declaration",
    nt "class_declaration", nt "lexical_declaration", nt "variable_declaration"]),
  define "import" (lit "import"),
  define "import_statement" (seqs [lit "import",
    alts [seqs [nt "import_clause", nt "_from_clause"], field "source" (nt "string")],
    opt (nt "import_attribute"), nt "_semicolon"]),
  define "import_clause" (alts [nt "namespace_import", nt "named_imports",
    seqs [nt "identifier", opt (seqs [lit ",", alts [nt "namespace_import", nt "named_imports"]])]]),
  define "_from_clause" (seqs [lit "from", field "source" (nt "string")]),
  define "namespace_import" (seqs [lit "*", lit "as", nt "identifier"]),
  define "named_imports" (seqs [lit "\x7b", commaSep (nt "import_specifier"), opt (lit ","), lit "\x7d"]),
  define "import_specifier" (alts [field "name" (nt "identifier"),
    seqs [field "name" (alts [nt "_module_export_name", shownAs "identifier" (lit "default")]),
      lit "as", field "alias" (nt "identifier")]]),
  define "import_attribute" (seqs [lit "with", nt "object"]),
  define "statement" (alts [nt "export_statement", nt "import_statement", nt "debugger_statement",
    nt "expression_statement", nt "declaration", nt "statement_block", nt "if_statement",
    nt "switch_statement", nt "for_statement", nt "for_in_statement", nt "while_statement",
    nt "do_statement", nt "try_statement", nt "with_statement", nt "break_statement",
    nt "continue_statement", nt "return_statement", nt "throw_statement", nt "empty_statement",
    nt "labeled_statement"]),
  define "expression_statement" (seqs [nt "_expressions", nt "_semicolon"]),
  define "variable_declaration" (seqs [lit "var", commaSep1 (nt "variable_declarator"), nt "_semicolon"]),
  define "lexical_declaration" (seqs [field "kind" (oneOfTexts ["let", "const"]),
    commaSep1 (nt "variable_declarator"), nt "_semicolon"]),
  define "variable_declarator" (seqs [field "name" bindingName, opt (nt "_initializer")]),
  define "statement_block" (rightAssoc (seqs [lit "\x7b", many (nt "statement"), lit "\x7d",
    opt (nt "_automatic_semicolon")])),
  define "else_clause" (seqs [lit "else", nt "statement"]),
  define "if_statement" (rightAssoc (seqs [lit "if", field "condition" (nt "parenthesized_expression"),
    field "consequence" (nt "statement"), opt (field "alternative" (nt "else_clause"))])),
  define "switch_statement" (seqs [lit "switch", field "value" (nt "parenthesized_expression"),
    field "body" (nt "switch_body")]),
  define "for_statement" (seqs [lit "for", lit "(",
    alts [field "initializer" (alts [nt "lexical_declaration", nt "variable_declaration"]),
      seqs [field "initializer" (nt "_expressions"), lit ";"],
      field "initializer" (nt "empty_statement")],
    field "condition" (alts [seqs [nt "_expressions", lit ";"], nt "empty_statement"]),
    field "increment" (opt (nt "_expressions")), lit ")", field "body" (nt "statement")]),
  define "for_in_statement" (seqs [lit "for", opt (lit "await"), nt "_for_header",
    field "body" (nt "statement")]),
  define "_for_header" (seqs [lit "(",
    alts [field "left" (alts [nt "_lhs_expression", nt "parenthesized_expression"]),
      seqs [field "kind" (lit "var"), field "left" bindingName, opt (nt "_initializer")],
      seqs [field "kind" (oneOfTexts ["let", "const"]), field "left" bindingName,
        opt (nt "_automatic_semicolon")]],
    field "operator" (oneOfTexts ["in", "of"]), field "right" (nt "_expressions"), lit ")"]),
  define "while_statement" (seqs [lit "while", field "condition" (nt "parenthesized_expression"),
    field "body" (nt "statement")]),
  define "do_statement" (rightAssoc (seqs [lit "do", field "body" (nt "statement"), lit "while",
    field "condition" (nt "parenthesized_expression"), opt (nt "_semicolon")])),
  define "try_statement" (seqs [lit "try", field "body" (nt "statement_block"),
    opt (field "handler" (nt "catch_clause")), opt (field "finalizer" (nt "finally_clause"))]),
  define "with_statement" (seqs [lit "with", field "object" (nt "parenthesized_expression"),
    field "body" (nt "statement")]),
  define "break_statement" (seqs [lit "break",
    field "label" (opt (shownAs "statement_identifier" (nt "identifier"))), nt "_semicolon"]),
  define "continue_statement" (seqs [lit "continue",
    field "label" (opt (shownAs "statement_identifier" (nt "identifier"))), nt "_semicolon"]),
  define "debugger_statement" (seqs [lit "debugger", nt "_semicolon"]),
  define "return_statement" (seqs [lit "return", opt (nt "_expressions"), nt "_semicolon"]),
  define "throw_statement" (seqs [lit "throw", nt "_expressions", nt "_semicolon"]),
  define "empty_statement" (lit ";"),
  define "labeled_statement" (weigh (-1) (seqs [
    field "label" (shownAs "statement_identifier" (alts [nt "identifier", nt "_reserved_identifier"])),
    lit ":", field "body" (nt "statement")])),
  define "switch_body" (seqs [lit "\x7b", many (alts [nt "switch_case", nt "switch_default"]), lit "\x7d"]),
  define "switch_case" (seqs [lit "case", field "value" (nt "_expressions"), lit ":",
    field "body" (many (nt "statement"))]),
  define "switch_default" (seqs [lit "default", lit ":", field "body" (many (nt "statement"))]),
  define "catch_clause" (seqs [lit "catch",
    opt (seqs [lit "(", field "parameter" bindingName, lit ")"]), field "body" (nt "statement_block")]),
  define "finally_clause" (seqs [lit "finally", field "body" (nt "statement_block")]),
  define "parenthesized_expression" (seqs [lit "(", nt "_expressions", lit ")"]),
  define "_expressions" (alts [nt "expression", nt "sequence_expression"]),
  define "expression" (alts [nt "primary_expression", nt "_jsx_element", nt "assignment_expression",
    nt "augmented_assignment_expression", nt "await_expression", nt "unary_expression",
    nt "binary_expression", nt "ternary_expression", nt "update_expression", nt "new_expression",
    nt "yield_expression"]),
  define "primary_expression" (alts [nt "subscript_expression", nt "member_expression",
    nt "parenthesized_expression", nt "_identifier", shownAs "identifier" (nt "_reserved_identifier"),
    nt "this", nt "super", nt "number", nt "string", nt "template_string", nt "regex", nt "true",
    nt "false", nt "null", nt "object", nt "array", nt "function_expression", nt "arrow_function",
    nt "generator_function", nt "class", nt "meta_property", nt "call_expression"]),
  define "yield_expression" (rightAssoc (seqs [lit "yield",
    alts [seqs [lit "*", nt "expression"], opt (nt "expression")]])),
  define "object" (prec "object" (seqs [lit "\x7b",
    commaSep (opt (alts [nt "pair", nt "spread_element", nt "method_definition",
      shownAs "shorthand_property_identifier" (alts [nt "identifier", nt "_reserved_identifier"])])),
    lit "\x7d"])),
  define "object_pattern" (prec "object" (seqs [lit "\x7b",
    commaSep (opt (alts [nt "pair_pattern", nt "rest_pattern", nt "object_assignment_pattern",
      shownAs "shorthand_property_identifier_pattern"
        (alts [nt "identifier", nt "_reserved_identifier"])])),
    lit "\x7d"])),
  define "assignment_pattern" (seqs [field "left" (nt "pattern"), lit "=", field "right" (nt "expression")]),
  define "object_assignment_pattern" (seqs [
    field "left" (alts [
      shownAs "shorthand_property_identifier_pattern"
        (alts [nt "_reserved_identifier", nt "identifier"]),
      nt "_destructuring_pattern"]),
    lit "=", field "right" (nt "expression")]),
  define "array" (seqs [lit "[", commaSep (opt (alts [nt "expression", nt "spread_element"])), lit "]"]),
  define "array_pattern" (seqs [lit "[", commaSep (opt (alts [nt "pattern", nt "assignment_pattern"])),
    lit "]"]),
  define "_jsx_element" (alts [nt "jsx_element", nt "jsx_self_closing_element"]),
  define "jsx_element" (seqs [field "open_tag" (nt "jsx_opening_element"), many (nt "_jsx_child"),
    field "close_tag" (nt "jsx_closing_element")]),
  define "html_character_reference" (token characterReference),
  define "jsx_expression" (seqs [lit "\x7b",
    opt (alts [nt "expression", nt "sequence_expression", nt "spread_element"]), lit "\x7d"]),
  define "_jsx_child" (alts [nt "jsx_text", nt "html_character_reference", nt "_jsx_element",
    nt "jsx_expression"]),
  define "jsx_opening_element" (weigh (-1) (seqs [lit "<",
    opt (seqs [field "name" (nt "_jsx_element_name"), many (field "attribute" (nt "_jsx_attribute"))]),
    lit ">"])),
  define "jsx_identifier" (token dashedIdentifier),
  define "_jsx_identifier" (alts [shownAs "identifier" (nt "jsx_identifier"), nt "identifier"]),
  define "nested_identifier" (prec "member" (seqs [
    field "object" (alts [nt "identifier", shownAs "member_expression" (nt "nested_identifier")]),
    lit ".", field "property" (shownAs "property_identifier" (nt "identifier"))])),
  define "jsx_namespace_name" (seqs [nt "_jsx_identifier", lit ":", nt "_jsx_identifier"]),
  define "_jsx_element_name" (alts [nt "_jsx_identifier",
    shownAs "member_expression" (nt "nested_identifier"), nt "jsx_namespace_name"]),
  define "jsx_closing_element" (seqs [lit "</", opt (field "name" (nt "_jsx_element_name")), lit ">"]),
  define "jsx_self_closing_element" (seqs [lit "<", field "name" (nt "_jsx_element_name"),
    many (field "attribute" (nt "_jsx_attribute")), lit "/>"]),
  define "_jsx_attribute" (alts [nt "jsx_attribute", nt "jsx_expression"]),
  define "_jsx_attribute_name" (alts [shownAs "property_identifier" (nt "_jsx_identifier"),
    nt "jsx_namespace_name"]),
  define "jsx_attribute" (seqs [nt "_jsx_attribute_name",
    opt (seqs [lit "=", nt "_jsx_attribute_value"])]),
  define "_jsx_string" (alts [
    quoted "\"" "unescaped_double_jsx_string_fragment" "html_character_reference",
    quoted "'" "unescaped_single_jsx_string_fragment" "html_character_reference"]),
  define "unescaped_double_jsx_string_fragment" (adjacent 1 (attributeText "\"")),
  define "unescaped_single_jsx_string_fragment" (adjacent 1 (attributeText "'")),
  define "_jsx_attribute_value" (alts [shownAs "string" (nt "_jsx_string"), nt "jsx_expression",
    nt "_jsx_element"]),
  define "class" (prec "literal" (seqs [decorators, lit "class", field "name" (opt (nt "identifier")),
    opt (nt "class_heritage"), field "body" (nt "class_body")])),
  define "class_declaration" (prec "declare" (seqs [decorators, lit "class",
    field "name" (nt "identifier"), opt (nt "class_heritage"), field "body" (nt "class_body"),
    opt (nt "_automatic_semicolon")])),
  define "class_heritage" (seqs [lit "extends", nt "expression"]),
  define "function_expression" (prec "literal" (seqs [opt (lit "async"), lit "function",
    field "name" (opt (nt "identifier")), nt "_call_signature", field "body" (nt "statement_block")])),
  define "function_declaration" (precRight "declare" (seqs [opt (lit "async"), lit "function",
    field "name" (nt "identifier"), nt "_call_signature", field "body" (nt "statement_block"),
    opt (nt "_automatic_semicolon")])),
  define "generator_function" (prec "literal" (seqs [opt (lit "async"), lit "function", lit "*",
    field "name" (opt (nt "identifier")), nt "_call_signature", field "body" (nt "statement_block")])),
  define "generator_function_declaration" (precRight "declare" (seqs [opt (lit "async"),
    lit "function", lit "*", field "name" (nt "identifier"), nt "_call_signature",
    field "body" (nt "statement_block"), opt (nt "_automatic_semicolon")])),
  define "arrow_function" (seqs [opt (lit "async"),
    alts [field "parameter" (alts [shownAs "identifier" (nt "_reserved_identifier"), nt "identifier"]),
      nt "_call_signature"],
    lit "=>", field "body" (alts [nt "expression", nt "statement_block"])]),
  define "_call_signature" (field "parameters" (nt "formal_parameters")),
  define "_formal_parameter" (alts [nt "pattern", nt "assignment_pattern"]),
  define "optional_chain" (lit "?."),
  define "call_expression" (alts [
    prec "call" (seqs [field "function" (alts [nt "expression", nt "import"]),
      field "arguments" (nt "arguments")]),
    prec "template_call" (seqs [field "function" (alts [nt "primary_expression", nt "new_expression"]),
      field "arguments" (nt "template_string")]),
    prec "member" (seqs [field "function" (nt "primary_expression"),
      field "optional_chain" (nt "optional_chain"), field "arguments" (nt "arguments")])]),
  define "new_expression" (precRight "new" (seqs [lit "new",
    field "constructor" (alts [nt "primary_expression", nt "new_expression"]),
    field "arguments" (opt (weigh 1 (nt "arguments")))])),
  define "await_expression" (prec "unary_void" (seqs [lit "await", nt "expression"])),
  define "member_expression" (prec "member" (seqs [
    field "object" (alts [nt "expression", nt "primary_expression", nt "import"]),
    alts [lit ".", field "optional_chain" (nt "optional_chain")],
    field "property" (alts [nt "private_property_identifier",
      shownAs "property_identifier" (nt "identifier")])])),
  define "subscript_expression" (precRight "member" (seqs [
    field "object" (alts [nt "expression", nt "primary_expression"]),
    opt (field "optional_chain" (nt "optional_chain")),
    lit "[", field "index" (nt "_expressions"), lit "]"])),
  define "_lhs_expression" (alts [nt "member_expression", nt "subscript_expression", nt "_identifier",
    shownAs "identifier" (nt "_reserved_identifier"), nt "_destructuring_pattern"]),
  define "assignment_expression" (precRight "assign" (seqs [
    field "left" (alts [nt "parenthesized_expression", nt "_lhs_expression"]),
    lit "=", field "right" (nt "expression")])),
  define "_augmented_assignment_lhs" (alts [nt "member_expression", nt "subscript_expression",
    shownAs "identifier" (nt "_reserved_identifier"), nt "identifier", nt "parenthesized_expression"]),
  define "augmented_assignment_expression" (precRight "assign" (seqs [
    field "left" (nt "_augmented_assignment_lhs"),
    field "operator" (oneOfTexts ["+=", "-=", "*=", "/=", "%=", "^=", "&=", "|=", ">>=", ">>>=",
      "<<=", "**=", "&&=", "||=", "??="]),
    field "right" (nt "expression")])),
  define "_initializer" (seqs [lit "=", field "value" (nt "expression")]),
  define "_destructuring_pattern" (alts [nt "object_pattern", nt "array_pattern"]),
  define "spread_element" (seqs [lit "...", nt "expression"]),
  define "ternary_expression" (precRight "ternary" (seqs [field "condition" (nt "expression"),
    spelledAs "?" (nt "_ternary_qmark"), field "consequence" (nt "expression"), lit ":",
    field "alternative" (nt "expression")])),
  define "binary_expression" (alts (binaryOperators.map binaryOperation)),
  define "unary_expression" (precLeft "unary_void" (seqs [
    field "operator" (oneOfTexts ["!", "~", "-", "+", "typeof", "void", "delete"]),
    field "argument" (nt "expression")])),
  define "update_expression" (leftAssoc (alts [
    seqs [field "argument" (nt "expression"), field "operator" (oneOfTexts ["++", "--"])],
    seqs [field "operator" (oneOfTexts ["++", "--"]), field "argument" (nt "expression")]])),
  define "sequence_expression" (rightAssoc (commaSep1 (nt "expression"))),
  define "string" (alts [
    quoted "\"" "unescaped_double_string_fragment" "escape_sequence",
    quoted "'" "unescaped_single_string_fragment" "escape_sequence"]),
  define "unescaped_double_string_fragment" (adjacent 1 (.star1 (.noneOf "\"\\\r\n"))),
  define "unescaped_single_string_fragment" (adjacent 1 (.star1 (.noneOf "'\\\r\n"))),
  define "escape_sequence" (adjacent 0 escapeSequence),
  define "comment" (token comment),
  define "template_string" (seqs [lit "`",
    many (alts [shownAs "string_fragment" (nt "_template_chars"), nt "escape_sequence",
      nt "template_substitution"]),
    lit "`"]),
  define "template_substitution" (seqs [lit "$\x7b", nt "_expressions", lit "\x7d"]),
  define "regex" (seqs [lit "/", field "pattern" (nt "regex_pattern"), adjacentText 1 "/",
    opt (field "flags" (nt "regex_flags"))]),
  define "regex_pattern" (adjacent (-1) regexPattern),
  define "regex_flags" (adjacent 0 (.star1 (.range 'a' 'z'))),
  define "number" (token number),
  define "_identifier" (alts [nt "undefined", nt "identifier"]),
  define "identifier" (token identifier),
  define "private_property_identifier" (token (.seq (.text "#") identifier)),
  define "meta_property" (alts [seqs [lit "new", lit ".", lit "target"],
    seqs [lit "import", lit ".", lit "meta"]]),
  define "this" (lit "this"),
  define "super" (lit "super"),
  define "true" (lit "true"),
  define "false" (lit "false"),
  define "null" (lit "null"),
  define "undefined" (lit "undefined"),
  define "arguments" (seqs [lit "(", commaSep (opt (alts [nt "expression", nt "spread_element"])),
    lit ")"]),
  define "decorator" (seqs [lit "@", alts [nt "identifier",
    shownAs "member_expression" (nt "decorator_member_expression"),
    shownAs "call_expression" (nt "decorator_call_expression")]]),
  define "decorator_member_expression" (prec "member" (seqs [
    field "object" (alts [nt "identifier",
      shownAs "member_expression" (nt "decorator_member_expression")]),
    lit ".", field "property" (shownAs "property_identifier" (nt "identifier"))])),
  define "decorator_call_expression" (prec "call" (seqs [
    field "function" (alts [nt "identifier",
      shownAs "member_expression" (nt "decorator_member_expression")]),
    field "arguments" (nt "arguments")])),
  define "class_body" (seqs [lit "\x7b",
    many (alts [
      seqs [field "member" (nt "method_definition"), opt (lit ";")],
      seqs [field "member" (nt "field_definition"), alts [nt "_automatic_semicolon", lit ";"]],
      field "member" (nt "class_static_block"),
      lit ";"]),
    lit "\x7d"]),
  define "field_definition" (seqs [decorators, opt (alts [lit "static", staticGet]),
    field "property" (nt "_property_name"), opt (nt "_initializer")]),
  define "formal_parameters" (seqs [lit "(",
    opt (seqs [commaSep1 (nt "_formal_parameter"), opt (lit ",")]), lit ")"]),
  define "class_static_block" (seqs [lit "static", opt (nt "_automatic_semicolon"),
    field "body" (nt "statement_block")]),
  define "pattern" (weigh (-1) (alts [nt "_lhs_expression", nt "rest_pattern"])),
  define "rest_pattern" (rightAssoc (seqs [lit "...", nt "_lhs_expression"])),
  define "method_definition" (seqs [decorators, opt (alts [lit "static", staticGet]),
    opt (lit "async"), opt (oneOfTexts ["get", "set", "*"]), field "name" (nt "_property_name"),
    field "parameters" (nt "formal_parameters"), field "body" (nt "statement_block")]),
  define "pair" (seqs [field "key" (nt "_property_name"), lit ":", field "value" (nt "expression")]),
  define "pair_pattern" (seqs [field "key" (nt "_property_name"), lit ":",
    field "value" (alts [nt "pattern", nt "assignment_pattern"])]),
  define "_property_name" (alts [
    shownAs "property_identifier" (alts [nt "identifier", nt "_reserved_identifier"]),
    nt "private_property_identifier", nt "string", nt "number", nt "computed_property_name"]),
  define "computed_property_name" (seqs [lit "[", nt "expression", lit "]"]),
  define "_reserved_identifier" (oneOfTexts ["get", "set", "async", "static", "export", "let"]),
  define "_semicolon" (alts [nt "_automatic_semicolon", lit ";"])]

def layout : List LayoutToken := [
  ⟨"_automatic_semicolon", none⟩, ⟨"_template_chars", none⟩, ⟨"_ternary_qmark", none⟩,
  ⟨"html_comment", none⟩, ⟨"||", some (.lexeme (.ofSpelling "||"))⟩,
  ⟨"escape_sequence", some (.ref "escape_sequence")⟩, ⟨"regex_pattern", some (.ref "regex_pattern")⟩,
  ⟨"jsx_text", none⟩]

def extras : List String := ["comment", "html_comment"]

def supertypes : List String :=
  ["statement", "declaration", "expression", "primary_expression", "pattern"]

def inlined : List String := ["_call_signature", "_formal_parameter", "_expressions", "_semicolon",
  "_identifier", "_reserved_identifier", "_jsx_attribute", "_jsx_element_name", "_jsx_child",
  "_jsx_element", "_jsx_attribute_name", "_jsx_attribute_value", "_jsx_identifier", "_lhs_expression"]

def onlyInPlace : List Leaf := [
  .ref "regex_pattern", .ref "regex_flags", adjacentTextLeaf 1 "/", .ref "jsx_identifier",
  .ref "html_character_reference", .lexeme (.ofSpelling "/>"),
  .ref "unescaped_double_string_fragment", .ref "unescaped_single_string_fragment",
  .ref "unescaped_double_jsx_string_fragment", .ref "unescaped_single_jsx_string_fragment"]

def orderings : List (List Rank) := [
  [.strength "member", .strength "template_call", .strength "call", .rule "update_expression",
    .strength "unary_void", .strength "binary_exp", .strength "binary_times", .strength "binary_plus",
    .strength "binary_shift", .strength "binary_compare", .strength "binary_relation",
    .strength "binary_equality", .strength "bitwise_and", .strength "bitwise_xor",
    .strength "bitwise_or", .strength "logical_and", .strength "logical_or", .strength "ternary",
    .rule "sequence_expression", .rule "arrow_function"],
  [.strength "assign", .rule "primary_expression"],
  [.strength "member", .strength "template_call", .strength "new", .strength "call", .rule "expression"],
  [.strength "declare", .strength "literal"],
  [.rule "primary_expression", .rule "statement_block", .strength "object"],
  [.rule "meta_property", .rule "import"],
  [.rule "import_statement", .rule "import"],
  [.rule "export_statement", .rule "primary_expression"],
  [.rule "lexical_declaration", .rule "primary_expression"]]

end HookLint.Language.Script
