import HookLint.Hook.Expression
import HookLint.Tree.Node

/-!
From nodes to the expressions of the hook rule. Parentheses are transparent.
-/
namespace HookLint.Hook

open HookLint.Text HookLint.Tree

def identifier? (bytes : ByteArray) (n : Node) : Option Identifier :=
  (slice bytes n.span).map (⟨·, n.span⟩)

mutual

def lower (bytes : ByteArray) : Node → Expression
  | .mk i cs =>
    match i.kind with
    | "identifier" =>
      match slice bytes i.span with
      | some name => .identifier ⟨name, i.span⟩
      | none => .other i.span
    | "parenthesized_expression" => lowerFirst bytes i.span cs
    | "member_expression" =>
      match lowerField bytes "object" cs, lowerProperty bytes cs with
      | some object, some property => .member object property i.span
      | _, _ => .other i.span
    | "subscript_expression" =>
      match lowerField bytes "object" cs, lowerField bytes "index" cs with
      | some object, some index => .member object (.computed index) i.span
      | _, _ => .other i.span
    | "arrow_function" => .arrow i.span
    | "function_expression" | "function" | "generator_function" =>
      let name := (cs.find? fun c => c.info.field == some "name").bind (identifier? bytes)
      .function name i.span
    | _ => .other i.span

/-- The first child that is neither punctuation nor an extra. -/
def lowerFirst (bytes : ByteArray) (outer : Span) : List Node → Expression
  | [] => .other outer
  | .mk i cs :: rest =>
    if i.isArgument then lower bytes (.mk i cs) else lowerFirst bytes outer rest

def lowerField (bytes : ByteArray) (field : String) : List Node → Option Expression
  | [] => none
  | .mk i cs :: rest =>
    if i.field == some field then some (lower bytes (.mk i cs)) else lowerField bytes field rest

def lowerProperty (bytes : ByteArray) : List Node → Option Property
  | [] => none
  | .mk i cs :: rest =>
    if i.field == some "property" then
      match i.kind with
      | "property_identifier" => (slice bytes i.span).map fun name => .named ⟨name, i.span⟩
      | "private_property_identifier" => (slice bytes i.span).map fun name => .hidden ⟨name, i.span⟩
      | _ => some (.computed (lower bytes (.mk i cs)))
    else lowerProperty bytes rest

end

/-- A call with an argument list. Tagged templates have none. -/
def lowerCall? (bytes : ByteArray) (n : Node) : Option Call :=
  if n.kind != "call_expression" then none
  else
    match n.childByField "function", n.childByField "arguments" with
    | some callee, some arguments =>
      if arguments.kind != "arguments" then none
      else some ⟨lower bytes callee, arguments.arguments.map (lower bytes), n.span⟩
    | _, _ => none

end HookLint.Hook
