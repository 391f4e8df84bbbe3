import HookLint.Hook.Expression

/-!
The hook rule: a tracked hook must not be called with an unnamed function first.
-/
namespace HookLint.Hook

open HookLint.Text

inductive AnonymousKind where
  | arrow
  | functionExpression
deriving DecidableEq, Repr

/-- A hook called with an unnamed function; the span is that of the function. -/
structure Diagnostic where
  hook : String
  kind : AnonymousKind
  span : Span
deriving DecidableEq, Repr

def namespaceName : String := "React"

def resolve? (hooks : List String) : Expression → Option String
  | .identifier id => if hooks.contains id.name then some id.name else none
  | .member (.identifier object) (.named property) _ =>
    if object.name == namespaceName && hooks.contains property.name then some property.name else none
  | _ => none

def anonymousKind? : Expression → Option AnonymousKind
  | .arrow _ => some .arrow
  | .function none _ => some .functionExpression
  | _ => none

def detect? (hooks : List String) (call : Call) : Option Diagnostic := do
  let hook ← resolve? hooks call.callee
  let first ← call.arguments.head?
  let kind ← anonymousKind? first
  return ⟨hook, kind, first.span⟩

end HookLint.Hook
