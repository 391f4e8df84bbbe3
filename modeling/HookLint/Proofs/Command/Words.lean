import HookLint.Command.Options
import HookLint.Proofs.Results

/-! A flag in front of a command line. Every step of the reading treats the words behind it as it would
without the flag, as long as the flag does not come again. -/
namespace HookLint.Command

namespace Options

def withJson (o : Options) : Options := { o with json := true }

end Options

namespace Scan

/-- The scan with the flag taken up before everything else. -/
def withJson (s : Scan) : Scan := { s with options := s.options.withJson, given := .json :: s.given }

/-- A step of the reading that does not mind the flag. When it ends without the flag it has not brought it,
and it does the same behind the flag; what it stops with is no run. -/
structure Indifferent (read : Scan → Except Stop Scan) : Prop where
  behind : ∀ s t, read s = .ok t → t.options.json = false →
    s.options.json = false ∧ (.json ∉ s.given → .json ∉ t.given ∧ read s.withJson = .ok t.withJson)
  stops : ∀ s o, read s ≠ .error (.answer (.run o))

namespace Indifferent

variable {first second : Scan → Except Stop Scan}

theorem bind (one : Indifferent first) (two : Indifferent second) :
    Indifferent fun s => first s >>= second where
  behind := by
    intro s t read plain
    obtain ⟨u, starts, ends⟩ := bind_eq_ok_iff.mp read
    obtain ⟨plain, after⟩ := two.behind u t ends plain
    obtain ⟨plain, before⟩ := one.behind s u starts plain
    refine ⟨plain, fun fresh => ?_⟩
    obtain ⟨fresh, starts⟩ := before fresh
    obtain ⟨fresh, ends⟩ := after fresh
    exact ⟨fresh, bind_eq_ok_iff.mpr ⟨u.withJson, starts, ends⟩⟩
  stops := by
    intro s o same
    cases started : first s with
    | error e =>
      rw [started] at same
      exact one.stops s o (started.trans same)
    | ok u =>
      rw [started] at same
      exact two.stops u o same

end Indifferent

def checked : Scan × Option UsageError → Except Stop Scan
  | (s, none) => .ok s
  | (_, some e) => .error (.wrong e)

section Waiting

variable {s : Scan} {a : Argument}

end Waiting

end Scan

end HookLint.Command
