import HookLint.Language.JavaScript
import HookLint.Language.OfPath
import HookLint.Language.TypeScript
import HookLint.Reader.Show

/-!
The prepared grammars, and a reader that keeps the one it used last.
-/
namespace HookLint

open HookLint.Reader HookLint.Tree

namespace Language

def javaScriptDialect : Dialect := ⟨JavaScript.grammar.prepare, false⟩
def typeScriptDialect : Dialect := ⟨(TypeScript.grammar .assertions).prepare, true⟩
def tsxDialect : Dialect := ⟨(TypeScript.grammar .elements).prepare, true⟩

def dialect : Language → Dialect
  | javaScript => javaScriptDialect
  | typeScript => typeScriptDialect
  | tsx => tsxDialect

end Language

/-- A reader of sources. It changes its grammar only when another language is asked for. -/
structure SourceReader where
  language : Option Language
  loaded : Option Dialect

namespace SourceReader

def fresh : SourceReader := ⟨none, none⟩

def switch (r : SourceReader) (l : Language) : SourceReader :=
  if r.language = some l then r else ⟨some l, some l.dialect⟩

/-- The tree of a source; none when no grammar is loaded. -/
def tree? (r : SourceReader) (source : String) : Option Node :=
  r.loaded.map fun d => readTree d source.toList

end SourceReader

end HookLint
