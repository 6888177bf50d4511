/-! Grammar symbols: terminals, nonterminals, and the names a node can carry. -/
namespace TypeScriptRepl.Grammar

/-- Terminals come first, then nonterminals, then names that only occur as aliases. -/
abbrev Symbol := Nat

namespace Symbol

/-- What a symbol shows in the syntax tree. -/
inductive Entry where
  /-- A node with a name of its own. -/
  | node (name : String)
  /-- A piece of punctuation or a keyword, named by its text. -/
  | token (text : String)
  /-- Nothing: the children stand in for it. -/
  | hidden (name : String)
deriving Repr, DecidableEq, Inhabited

end Symbol

private def symbolBlock0 : Array Symbol.Entry := #[
  .hidden "end", .node "identifier", .node "hash_bang_line", .token "export", .token "*",
  .token "default", .token "type", .token "import", .token "=", .token "as", .token "namespace",
  .token "\x7b", .token ",", .token "\x7d", .token "typeof", .token "from", .token "with",
  .token "var", .token "let", .token "const", .token "!", .token "else", .token "if",
  .token "switch", .token "for", .token "(", .token ";", .token ")", .token "await", .token "in",
  .token "of", .token "while", .token "do", .token "try", .token "break", .token "continue",
  .token "debugger", .token "return", .token "throw", .token ":", .token "case", .token "catch",
  .token "finally", .token "yield", .token "[", .token "]", .token ".", .token "class",
  .token "async", .token "function", .token "=>", .token "?.", .token "new", .token "using",
  .token "+=", .token "-=", .token "*=", .token "/=", .token "%=", .token "^=", .token "&=",
  .token "|=", .token ">>=", .token ">>>="]

private def symbolBlock1 : Array Symbol.Entry := #[
  .token "<<=", .token "**=", .token "&&=", .token "||=", .token "??=", .token "...", .token "&&",
  .token "||", .token ">>", .token ">>>", .token "<<", .token "&", .token "^", .token "|",
  .token "+", .token "-", .token "/", .token "%", .token "**", .token "<", .token "<=", .token "==",
  .token "===", .token "!=", .token "!==", .token ">=", .token ">", .token "??",
  .token "instanceof", .token "~", .token "void", .token "delete", .token "++", .token "--",
  .token "\"", .token "'", .node "string_fragment", .node "string_fragment",
  .node "escape_sequence", .node "comment", .token "`", .token "$\x7b", .token "/",
  .node "regex_pattern", .node "regex_flags", .node "number", .node "private_property_identifier",
  .token "target", .token "meta", .node "this", .node "super", .node "true", .node "false",
  .node "null", .node "undefined", .token "@", .token "static", .token "readonly", .token "get",
  .token "set", .token "?", .token "declare", .token "public", .token "private"]

private def symbolBlock2 : Array Symbol.Entry := #[
  .token "protected", .token "override", .token "module", .token "any", .token "number",
  .token "boolean", .token "string", .token "symbol", .token "object", .token "abstract",
  .token "accessor", .token "satisfies", .token "require", .token "extends", .token "implements",
  .token "global", .token "interface", .token "enum", .token "-?:", .token "+?:", .token "?:",
  .token "asserts", .token "infer", .token "is", .token "keyof", .token "unique symbol",
  .token "unknown", .token "never", .token "\x7b|", .token "|\x7d", .hidden "_automatic_semicolon",
  .node "string_fragment", .token "?", .node "html_comment", .node "jsx_text",
  .hidden "_function_signature_automatic_semicolon", .hidden "__error_recovery", .node "program",
  .node "export_statement", .node "namespace_export", .node "export_clause",
  .node "export_specifier", .hidden "_module_export_name", .hidden "declaration", .node "import",
  .node "import_statement", .node "import_clause", .hidden "_from_clause", .node "namespace_import",
  .node "named_imports", .node "import_specifier", .node "import_attribute", .hidden "statement",
  .node "expression_statement", .node "variable_declaration", .node "lexical_declaration",
  .node "variable_declarator", .node "statement_block", .node "else_clause", .node "if_statement",
  .node "switch_statement", .node "for_statement", .node "for_in_statement", .hidden "_for_header"]

private def symbolBlock3 : Array Symbol.Entry := #[
  .node "while_statement", .node "do_statement", .node "try_statement", .node "with_statement",
  .node "break_statement", .node "continue_statement", .node "debugger_statement",
  .node "return_statement", .node "throw_statement", .node "empty_statement",
  .node "labeled_statement", .node "switch_body", .node "switch_case", .node "switch_default",
  .node "catch_clause", .node "finally_clause", .node "parenthesized_expression",
  .hidden "expression", .hidden "primary_expression", .node "yield_expression", .node "object",
  .node "object_pattern", .node "assignment_pattern", .node "object_assignment_pattern",
  .node "array", .node "array_pattern", .node "nested_identifier", .node "class",
  .node "class_declaration", .node "class_heritage", .node "function_expression",
  .node "function_declaration", .node "generator_function", .node "generator_function_declaration",
  .node "arrow_function", .hidden "_call_signature", .hidden "_formal_parameter",
  .node "optional_chain", .node "call_expression", .node "new_expression", .node "await_expression",
  .node "member_expression", .node "subscript_expression", .node "assignment_expression",
  .hidden "_augmented_assignment_lhs", .node "augmented_assignment_expression",
  .hidden "_initializer", .hidden "_destructuring_pattern", .node "spread_element",
  .node "ternary_expression", .node "binary_expression", .node "unary_expression",
  .node "update_expression", .node "sequence_expression", .node "string", .node "template_string",
  .node "template_substitution", .node "regex", .node "meta_property", .node "arguments",
  .node "decorator", .node "member_expression", .node "call_expression", .node "class_body"]

private def symbolBlock4 : Array Symbol.Entry := #[
  .node "formal_parameters", .node "class_static_block", .hidden "pattern", .node "rest_pattern",
  .node "method_definition", .node "pair", .node "pair_pattern", .hidden "_property_name",
  .node "computed_property_name", .node "public_field_definition", .hidden "_import_identifier",
  .node "non_null_expression", .node "method_signature", .node "abstract_method_signature",
  .node "function_signature", .node "parenthesized_expression", .node "type_assertion",
  .node "as_expression", .node "satisfies_expression", .node "instantiation_expression",
  .node "import_require_clause", .node "extends_clause", .hidden "_extends_clause_single",
  .node "implements_clause", .node "ambient_declaration", .node "abstract_class_declaration",
  .node "module", .node "internal_module", .hidden "_module", .node "import_alias",
  .node "nested_type_identifier", .node "interface_declaration", .node "extends_type_clause",
  .node "enum_declaration", .node "enum_body", .node "enum_assignment",
  .node "type_alias_declaration", .node "accessibility_modifier", .node "override_modifier",
  .node "required_parameter", .node "optional_parameter", .hidden "_parameter_name",
  .node "omitting_type_annotation", .node "adding_type_annotation", .node "opting_type_annotation",
  .node "type_annotation", .node "member_expression", .node "call_expression", .node "asserts",
  .node "asserts_annotation", .hidden "type", .node "required_parameter",
  .node "optional_parameter", .node "optional_type", .node "rest_type",
  .hidden "_tuple_type_member", .node "constructor_type", .hidden "primary_type",
  .node "template_type", .node "template_literal_type", .node "infer_type",
  .node "conditional_type", .node "generic_type", .node "type_predicate"]

private def symbolBlock5 : Array Symbol.Entry := #[
  .node "type_predicate_annotation", .node "member_expression", .node "subscript_expression",
  .node "call_expression", .node "instantiation_expression", .node "type_query",
  .node "index_type_query", .node "lookup_type", .node "mapped_type_clause", .node "literal_type",
  .node "unary_expression", .node "existential_type", .node "flow_maybe_type",
  .node "parenthesized_type", .node "predefined_type", .node "type_arguments", .node "object_type",
  .node "call_signature", .node "property_signature", .node "type_parameters",
  .node "type_parameter", .node "default_type", .node "constraint", .node "construct_signature",
  .node "index_signature", .node "array_type", .node "tuple_type", .node "readonly_type",
  .node "union_type", .node "intersection_type", .node "function_type", .hidden "program_repeat1",
  .hidden "export_statement_repeat1", .hidden "export_clause_repeat1",
  .hidden "named_imports_repeat1", .hidden "variable_declaration_repeat1",
  .hidden "switch_body_repeat1", .hidden "object_repeat1", .hidden "object_pattern_repeat1",
  .hidden "array_repeat1", .hidden "array_pattern_repeat1", .hidden "sequence_expression_repeat1",
  .hidden "string_repeat1", .hidden "string_repeat2", .hidden "template_string_repeat1",
  .hidden "class_body_repeat1", .hidden "formal_parameters_repeat1",
  .hidden "extends_clause_repeat1", .hidden "implements_clause_repeat1",
  .hidden "extends_type_clause_repeat1", .hidden "enum_body_repeat1",
  .hidden "template_literal_type_repeat1", .hidden "object_type_repeat1",
  .hidden "type_parameters_repeat1", .hidden "tuple_type_repeat1", .node "property_identifier",
  .node "type_identifier", .node "this_type", .node "statement_identifier",
  .node "shorthand_property_identifier", .node "shorthand_property_identifier_pattern",
  .node "interface_body"]

/-- The symbols, 64 to a block. -/
def symbolTable : Array (Array Symbol.Entry) := #[
  symbolBlock0, symbolBlock1, symbolBlock2, symbolBlock3, symbolBlock4, symbolBlock5]

namespace Symbol

/-- How many symbols are terminals. -/
def terminalCount : Nat := 165

/-- The symbol of a stretch of text that fits nowhere. -/
def error : Symbol := 65535

/-- The symbol of consecutive skipped tokens, before they are gathered into an error. -/
def errorRepeat : Symbol := 65534

/-- The end of the text. -/
def endOfText : Symbol := 0

def identifier : Symbol := 1

def comment : Symbol := 103

def htmlComment : Symbol := 161

def entry (s : Symbol) : Entry :=
  if s = error then .node "ERROR"
  else ((symbolTable[s / 64]?.getD #[])[s % 64]?).getD (.hidden "")

def isVisible (s : Symbol) : Bool :=
  match s.entry with
  | .hidden _ => false
  | _ => true

def isTerminal (s : Symbol) : Bool := s < terminalCount

end Symbol

end TypeScriptRepl.Grammar
