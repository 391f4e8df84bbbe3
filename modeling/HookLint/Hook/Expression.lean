import HookLint.Text.Span

/-!
The expressions that the hook rule looks at. All others are `other`.
-/
namespace HookLint.Hook

open HookLint.Text

structure Identifier where
  name : String
  span : Span
deriving DecidableEq, Repr, Inhabited

mutual

inductive Expression where
  | identifier (id : Identifier)
  | member (object : Expression) (property : Property) (span : Span)
  | arrow (span : Span)
  | function (name : Option Identifier) (span : Span)
  | other (span : Span)

inductive Property where
  | named (id : Identifier)
  | hidden (id : Identifier)
  | computed (index : Expression)

end

namespace Expression

instance : Inhabited Expression := ⟨.other default⟩
instance : Inhabited Property := ⟨.computed default⟩

def span : Expression → Span
  | identifier id => id.span
  | member _ _ s | arrow s | function _ s | other s => s

def asIdentifier : Expression → Option String
  | identifier id => some id.name
  | _ => none

end Expression

structure Call where
  callee : Expression
  arguments : List Expression
  span : Span

end HookLint.Hook
