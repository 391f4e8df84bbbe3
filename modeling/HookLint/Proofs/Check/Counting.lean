import HookLint.Proofs.Check.Fates

/-! What the counts of a result count. Findings all have the severity of the checker, and there is a parse
failure for every text that does not parse; so a result is clean for reasons that are in the files. -/
namespace HookLint.Check

open HookLint.Files HookLint.Hook HookLint.Tree

theorem countOf_of_labelled {severity : Severity} {findings : List Finding}
    (labelled : ∀ g ∈ findings, g.severity = severity) (s : Severity) :
    countOf s findings = if s = severity then findings.length else 0 := by
  rw [countOf]
  split
  · rename_i same
    exact List.countP_eq_length.mpr fun g member => by rw [labelled g member, same, beq_self_eq_true]
  · rename_i other
    refine List.countP_eq_zero.mpr fun g member same => ?_
    exact other ((labelled g member).symm.trans (beq_iff_eq.mp same)).symm

end HookLint.Check
