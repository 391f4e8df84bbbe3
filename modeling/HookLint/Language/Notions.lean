import HookLint.Grammar.Rule

/-!
Vocabulary for writing grammars: literals, references, lists with separators, and the operation that
lets a dialect replace the definitions of its base.
-/
namespace HookLint.Language

open HookLint.Text HookLint.Grammar

abbrev R := Rule Leaf

def lit (s : String) : R := .leaf (.lexeme (.ofSpelling s))

def nt (name : String) : R := .leaf (.ref name)

def token (p : Pattern) : R := .leaf (.lexeme { pattern := p })

/-- A token that must follow its predecessor without blanks. -/
def adjacent (level : Int) (p : Pattern) : R :=
  .leaf (.lexeme { pattern := p, level := level, adjacent := true })

def adjacentTextLeaf (level : Int) (s : String) : Leaf :=
  .lexeme { pattern := .text s, spelling := some s, level := level, adjacent := true }

def adjacentText (level : Int) (s : String) : R := .leaf (adjacentTextLeaf level s)

def seqs (rs : List R) : R := Rule.seqs rs

def alts (rs : List R) : R := Rule.alts rs

def opt (r : R) : R := Rule.opt r

def many (r : R) : R := Rule.many r

def field (name : String) (r : R) : R := .field name r

/-- Shown as a named node of this name. -/
def shownAs (name : String) (r : R) : R := .relabel ⟨name, true⟩ r

/-- Shown as an unnamed node of this name. -/
def spelledAs (name : String) (r : R) : R := .relabel ⟨name, false⟩ r

def prec (strength : String) (r : R) : R := .bind (.named strength) none r

def precLevel (n : Int) (r : R) : R := .bind (.level n) none r

def leftAssoc (r : R) : R := .bind (.level 0) (some .left) r

def rightAssoc (r : R) : R := .bind (.level 0) (some .right) r

def precLeft (strength : String) (r : R) : R := .bind (.named strength) (some .left) r

def precRight (strength : String) (r : R) : R := .bind (.named strength) (some .right) r

def weigh (n : Int) (r : R) : R := .weigh n r

def sepBy1 (separator : R) (r : R) : R := .seq r (many (.seq separator r))

def commaSep1 (r : R) : R := sepBy1 (lit ",") r

def commaSep (r : R) : R := opt (commaSep1 r)

def oneOfTexts (ss : List String) : R := alts (ss.map lit)

def define (name : String) (r : R) : Definition := ⟨name, r⟩

/-- Replaces definitions of the same name in place and adds the others at the end. -/
def extend (base changes : List Definition) : List Definition :=
  base.map (fun d => (changes.find? (·.name == d.name)).getD d)
    ++ changes.filter fun d => !(base.any (·.name == d.name))

def ruleOf (base : List Definition) (name : String) : R :=
  ((base.find? (·.name == name)).map (·.rule)).getD .blank

end HookLint.Language
