import HookLint.Proofs.Files.Disk

/-! Looking up the entries of a directory that a path leads to. -/
namespace HookLint.Files

namespace Disk

def Progress.resume (root : Entry) (more : List String) : Progress → Progress
  | arrived location => walk root location more
  | failed e => .failed e
  | linked directory target left => .linked directory target (left ++ more)

/-- A walk goes on from where it got to, unless that is a file. -/
theorem walk_append (root : Entry) (directory pieces more : List String) :
    walk root directory (pieces ++ more) = (walk root directory pieces).resume root more ∨
      ∃ location content, walk root directory pieces = .arrived location ∧
        root.at? location = some (.file content) ∧
        walk root directory (pieces ++ more) = .failed .notADirectory := by
  induction pieces generalizing directory with
  | nil => exact Or.inl rfl
  | cons piece left ih =>
    rw [List.cons_append]
    by_cases skipped : piece = "" ∨ piece = "."
    · rw [walk, walk, if_pos skipped, if_pos skipped]
      exact ih directory
    by_cases up : piece = ".."
    · rw [walk, walk, if_neg skipped, if_neg skipped, if_pos up, if_pos up]
      exact ih directory.dropLast
    rw [walk, walk, if_neg skipped, if_neg skipped, if_neg up, if_neg up]
    cases found : root.at? (directory ++ [piece]) with
    | none => exact Or.inl rfl
    | some e =>
      cases e with
      | directory es => exact ih (directory ++ [piece])
      | link target => exact Or.inl rfl
      | file content =>
        -- a file is where the pieces end, or the walk has failed already
        cases left with
        | cons next left => exact Or.inl rfl
        | nil =>
          cases more with
          | nil => exact Or.inl rfl
          | cons next more => exact Or.inr ⟨directory ++ [piece], content, rfl, found, rfl⟩

theorem walk_empty (root : Entry) (directory : List String) :
    walk root directory [""] = .arrived directory := by
  rw [walk, if_pos (Or.inl rfl), walk]

theorem walk_name {root e : Entry} {directory : List String} {name : String} (ok : IsName name)
    (found : root.at? (directory ++ [name]) = some e) (unlinked : ∀ target, e ≠ .link target) :
    walk root directory [name] = .arrived (directory ++ [name]) := by
  have plain : ¬ (name = "" ∨ name = ".") := not_or.mpr ⟨ok.notEmpty, ok.notHere⟩
  rw [walk, if_neg plain, if_neg ok.notUp, found]
  cases e with
  | file content => rfl
  | directory es => rfl
  | link target => exact absurd rfl (unlinked target)

def linkStart (directory : List String) (target : String) : List String :=
  if Path.isRooted ⟨target⟩ then [] else directory

theorem resolve_of_arrived {root : Entry} {directory pieces location : List String} (fuel : Nat)
    (walked : walk root directory pieces = .arrived location) :
    resolve root (fuel + 1) directory pieces = .ok location := by
  rw [resolve, walked]

theorem resolve_of_linked {root : Entry} {directory pieces at_ left : List String} {target : String}
    (fuel : Nat) (walked : walk root directory pieces = .linked at_ target left) :
    resolve root (fuel + 1) directory pieces =
      if target = "" then .error .notFound
      else resolve root fuel (linkStart at_ target) (piecesOf target ++ left) := by
  rw [resolve, walked]
  rfl

/-- A path that leads to a directory can be followed further from there. -/
theorem resolve_append {root : Entry} {es : Entries} {fuel : Nat}
    {directory pieces more location goal : List String}
    (led : resolve root fuel directory pieces = .ok location)
    (here : root.at? location = some (.directory es)) (further : walk root location more = .arrived goal) :
    resolve root fuel directory (pieces ++ more) = .ok goal := by
  induction fuel generalizing directory pieces with
  | zero => cases led
  | succ fuel ih =>
    rcases walk_append root directory pieces more with onward | ⟨l, content, arrived, file, -⟩
    · cases walked : walk root directory pieces with
      | arrived l =>
        rw [resolve_of_arrived fuel walked] at led
        obtain rfl := Except.ok.inj led
        rw [walked, Progress.resume, further] at onward
        exact resolve_of_arrived fuel onward
      | failed e =>
        rw [resolve, walked] at led
        cases led
      | linked at_ target left =>
        rw [resolve_of_linked fuel walked] at led
        rw [walked, Progress.resume] at onward
        rw [resolve_of_linked fuel onward]
        by_cases empty : target = ""
        · rw [if_pos empty] at led
          cases led
        · rw [if_neg empty] at led ⊢
          rw [← List.append_assoc]
          exact ih led
    · rw [resolve_of_arrived fuel arrived] at led
      obtain rfl := Except.ok.inj led
      rw [file] at here
      cases here

/-- A slash at the end changes nothing for a path that leads somewhere with it. -/
theorem resolve_of_slash {root : Entry} {fuel : Nat} {directory pieces location : List String}
    (led : resolve root fuel directory (pieces ++ [""]) = .ok location) :
    resolve root fuel directory pieces = .ok location := by
  induction fuel generalizing directory pieces with
  | zero => cases led
  | succ fuel ih =>
    rcases walk_append root directory pieces [""] with onward | ⟨l, content, -, -, failed⟩
    · cases walked : walk root directory pieces with
      | arrived l =>
        rw [walked, Progress.resume, walk_empty] at onward
        rw [resolve_of_arrived fuel onward] at led
        rw [resolve_of_arrived fuel walked, led]
      | failed e =>
        rw [walked, Progress.resume] at onward
        rw [resolve, onward] at led
        cases led
      | linked at_ target left =>
        rw [walked, Progress.resume] at onward
        rw [resolve_of_linked fuel onward, ← List.append_assoc] at led
        rw [resolve_of_linked fuel walked]
        by_cases empty : target = ""
        · rw [if_pos empty] at led
          cases led
        · rw [if_neg empty] at led ⊢
          exact ih led
    · rw [resolve, failed] at led
      cases led

theorem entry_eq_ok_iff {d : Disk} {p : Path} {e : Entry} :
    d.entry p = .ok e ↔ ∃ location, d.locate p = .ok location ∧ d.root.at? location = some e := by
  unfold entry
  cases located : d.locate p with
  | error fault =>
    constructor
    · intro h
      cases h
    · rintro ⟨location, h, -⟩
      cases h
  | ok location =>
    constructor
    · intro h
      refine ⟨location, rfl, ?_⟩
      cases found : d.root.at? location with
      | none =>
        simp only [bind, Except.bind, found] at h
        cases h
      | some e' =>
        simp only [bind, Except.bind, found] at h
        exact congrArg some (Except.ok.inj h)
    · rintro ⟨location', same, found⟩
      obtain rfl := Except.ok.inj same
      simp only [bind, Except.bind, found]
      rfl

theorem text_ne_of_locate {d : Disk} {p : Path} {location : List String}
    (located : d.locate p = .ok location) : p.text ≠ "" := by
  intro empty
  rw [locate, if_pos empty] at located
  cases located

/-- The pieces of a path behind which a name is put lead where the path leads. -/
theorem locate_join {d : Disk} {p : Path} {location : List String} {es : Entries} {name : String}
    {e : Entry} (located : d.locate p = .ok location)
    (here : d.root.at? location = some (.directory es)) (found : Entries.find? name es = some e)
    (ok : IsName name) (unlinked : ∀ target, e ≠ .link target) :
    d.locate (p.join name) = .ok (location ++ [name]) := by
  have spelled : p.text ≠ "" := text_ne_of_locate located
  obtain ⟨front, -, before, after⟩ := Path.segments_join spelled ok
  have spelled' : (p.join name).text ≠ "" := Path.text_join_ne spelled ok
  have further : walk d.root location [name] = .arrived (location ++ [name]) :=
    walk_name ok (Entry.at?_child here found) unlinked
  have pieces : piecesOf (p.join name).text = front.map String.ofList ++ [name] := by
    rw [piecesOf, ← Path.chars, ← Path.segments, after, List.map_append, List.map_singleton,
      String.ofList_toList]
  rw [locate, if_neg spelled] at located
  rw [locate, if_neg spelled', Path.isRooted_join spelled, pieces]
  refine resolve_append ?_ here further
  rcases before with before | before
  · rw [piecesOf, ← Path.chars, ← Path.segments, before] at located
    exact located
  · rw [piecesOf, ← Path.chars, ← Path.segments, before, List.map_append] at located
    exact resolve_of_slash located

theorem entry_join {d : Disk} {p : Path} {es : Entries} {name : String} {e : Entry}
    (listed : d.entry p = .ok (.directory es)) (found : Entries.find? name es = some e)
    (ok : IsName name) (unlinked : ∀ target, e ≠ .link target) : d.entry (p.join name) = .ok e := by
  obtain ⟨location, located, here⟩ := entry_eq_ok_iff.mp listed
  exact entry_eq_ok_iff.mpr
    ⟨location ++ [name], locate_join located here found ok unlinked, Entry.at?_child here found⟩

theorem text_ne_of_entry {d : Disk} {p : Path} {e : Entry} (found : d.entry p = .ok e) : p.text ≠ "" := by
  obtain ⟨location, located, -⟩ := entry_eq_ok_iff.mp found
  exact text_ne_of_locate located

theorem WellFormed.entry {d : Disk} {p : Path} {e : Entry} (wf : d.WellFormed)
    (found : d.entry p = .ok e) : e.WellFormed := by
  obtain ⟨location, -, here⟩ := entry_eq_ok_iff.mp found
  exact wf.root.at? here

end Disk

end HookLint.Files
