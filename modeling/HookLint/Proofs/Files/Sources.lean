import HookLint.Proofs.Files.Discovery

/-! Which files are found below a path: the source files at the end of a chain of directories, none of which
is skipped. What the path itself is called, and whether a link leads to it, does not matter. -/
namespace HookLint.Files

end HookLint.Files
