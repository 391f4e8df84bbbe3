import HookLint.Json.Reader
import HookLint.Proofs.Json.Numbers
import Mathlib.Tactic.IntervalCases

/-! Reading back what was printed: blanks, strings and whole numbers in front of any rest. -/
namespace HookLint.Json

open HookLint.Text HookLint.Number

/-- In front of a rest a text is read as a value, wherever it stands, and the rest is left. -/
def Reads {α : Type} (read : Cursor → Except SyntaxError (α × Cursor)) (text rest : List Char)
    (a : α) : Prop :=
  ∀ p, ∃ p', read ⟨p, text ++ rest⟩ = .ok (a, ⟨p', rest⟩)

/-! ### Blanks -/

/-- A rest that does not begin with a blank. -/
def Visible (rest : List Char) : Prop := ∀ c ∈ rest.head?, isBlank c = false

theorem Visible.cons {c : Char} (other : isBlank c = false) (rest : List Char) : Visible (c :: rest) := by
  rintro _ ⟨⟩
  exact other

theorem skipBlanks_visible {rest : List Char} (visible : Visible rest) (p : Place) :
    skipBlanks ⟨p, rest⟩ = ⟨p, rest⟩ := by
  cases rest with
  | nil => rfl
  | cons c rest =>
    have other : isBlank c = false := visible c rfl
    simp [skipBlanks, Cursor.dropWhile, Cursor.dropWhile.go, other]

theorem skipBlanks_append {blanks rest : List Char} (all : ∀ c ∈ blanks, isBlank c) (visible : Visible rest)
    (p : Place) : ∃ p', skipBlanks ⟨p, blanks ++ rest⟩ = ⟨p', rest⟩ := by
  induction blanks generalizing p with
  | nil => exact ⟨p, skipBlanks_visible visible p⟩
  | cons b blanks ih =>
    have blank : isBlank b := all b List.mem_cons_self
    have skipped : skipBlanks ⟨p, b :: (blanks ++ rest)⟩ = skipBlanks ⟨p.after b, blanks ++ rest⟩ := by
      simp [skipBlanks, Cursor.dropWhile, Cursor.dropWhile.go, blank]
    obtain ⟨p', stands⟩ := ih (fun c member => all c (List.mem_cons_of_mem b member)) (p.after b)
    exact ⟨p', skipped.trans stands⟩

theorem skipBlanks_newLine {rest : List Char} (visible : Visible rest) (level : Nat) (p : Place) :
    ∃ p', skipBlanks ⟨p, newLine level ++ rest⟩ = ⟨p', rest⟩ := by
  refine skipBlanks_append ?_ visible p
  intro c member
  rcases List.mem_cons.mp member with rfl | indent
  · decide
  · rw [(List.mem_replicate.mp indent).2]
    decide

/-! ### Strings -/

theorem hexValue?_hexDigit : ∀ d < 16, hexValue? (hexDigit d) = some d := by decide

theorem utf8Size_hexDigit : ∀ d < 16, (hexDigit d).utf8Size = 1 := by decide

theorem reads_hex {d e : Nat} (hd : d < 16) (he : e < 16) (rest : List Char) :
    Reads readHex ['0', '0', hexDigit d, hexDigit e] rest (16 * d + e) := by
  intro p
  have zero : ('0' : Char).utf8Size = 1 := by decide
  have bytes : ∃ p', onBytes p 4 ('0' :: '0' :: hexDigit d :: hexDigit e :: rest) = some p' := by
    simp [onBytes, zero, utf8Size_hexDigit d hd, utf8Size_hexDigit e he]
  obtain ⟨p', place⟩ := bytes
  have digits : ['0', '0', hexDigit d, hexDigit e].mapM hexValue? = some [0, 0, d, e] := by
    have none : hexValue? '0' = some 0 := by decide
    simp [none, hexValue?_hexDigit d hd, hexValue?_hexDigit e he]
  refine ⟨p', ?_⟩
  simp [readHex, place, digits]
  omega

theorem reads_codePoint {n : Nat} (control : n < 0x20) (rest : List Char) :
    Reads readCodePoint ['0', '0', hexDigit (n / 16), hexDigit (n % 16)] rest (Char.ofNat n) := by
  intro p
  have high : n / 16 < 16 := by omega
  have low : n % 16 < 16 := by omega
  obtain ⟨p', read⟩ := reads_hex high low rest p
  have value : 16 * (n / 16) + n % 16 = n := by omega
  rw [value] at read
  have plain : isTrailing n = false ∧ isLeading n = false := by
    simp [isTrailing, isLeading]
    omega
  refine ⟨p', ?_⟩
  rw [readCodePoint, read]
  simp [bind, Except.bind, plain]

/-- The characters with an escape of their own. -/
def shortEscaped : List Char := ['"', '\\', '\x08', '\x0c', '\n', '\r', '\t']

theorem escape_of_control {c : Char} (other : c ∉ shortEscaped) (control : c.toNat < 0x20) :
    escape c = ['\\', 'u', '0', '0', hexDigit (c.toNat / 16), hexDigit (c.toNat % 16)] := by
  simp only [shortEscaped, List.mem_cons, List.not_mem_nil, or_false, not_or] at other
  simp [escape, other, control]

theorem escape_of_visible {c : Char} (other : c ∉ shortEscaped) (visible : ¬ c.toNat < 0x20) :
    escape c = [c] := by
  simp only [shortEscaped, List.mem_cons, List.not_mem_nil, or_false, not_or] at other
  simp [escape, other, visible]

/-- What stands for a character is read in one round. -/
theorem readString_escape (fuel : Nat) (done : List Char) (c : Char) (rest : List Char) (p : Place) :
    ∃ p', readString (fuel + 1) done ⟨p, escape c ++ rest⟩ = readString fuel (c :: done) ⟨p', rest⟩ := by
  by_cases short : c ∈ shortEscaped
  · simp only [shortEscaped, List.mem_cons, List.not_mem_nil, or_false] at short
    rcases short with rfl | rfl | rfl | rfl | rfl | rfl | rfl <;> exact ⟨_, rfl⟩
  · by_cases control : c.toNat < 0x20
    · obtain ⟨p', read⟩ := reads_codePoint control rest ((p.after '\\').after 'u')
      rw [Char.ofNat_toNat] at read
      simp only [List.cons_append, List.nil_append] at read
      refine ⟨p', ?_⟩
      rw [escape_of_control short control]
      simp [readString, Cursor.next, readEscape, read, bind, Except.bind]
    · have quote : c ≠ '"' := by
        rintro rfl
        exact short (by decide)
      have slash : c ≠ '\\' := by
        rintro rfl
        exact short (by decide)
      refine ⟨p.after c, ?_⟩
      rw [escape_of_visible short control, List.singleton_append, readString]
      simp [Cursor.next, control]

theorem readString_escaped {cs rest : List Char} {fuel : Nat} (enough : cs.length < fuel) (done : List Char) :
    Reads (readString fuel done) (cs.flatMap escape ++ ['"']) rest (String.ofList (done.reverse ++ cs)) := by
  intro p
  induction cs generalizing fuel done p with
  | nil =>
    cases fuel with
    | zero => exact absurd enough (Nat.not_lt_zero _)
    | succ fuel => exact ⟨p.after '"', by simp [readString, Cursor.next]⟩
  | cons c cs ih =>
    cases fuel with
    | zero => exact absurd enough (Nat.not_lt_zero _)
    | succ fuel =>
      obtain ⟨p', first⟩ := readString_escape fuel done c (cs.flatMap escape ++ ['"'] ++ rest) p
      obtain ⟨p'', later⟩ := ih (Nat.lt_of_succ_lt_succ enough) (c :: done) p'
      have whole : (c :: cs).flatMap escape ++ ['"'] ++ rest =
          escape c ++ (cs.flatMap escape ++ ['"'] ++ rest) := by
        simp only [List.flatMap_cons, List.append_assoc]
      have chars : (c :: done).reverse ++ cs = done.reverse ++ c :: cs := by simp
      exact ⟨p'', by rw [whole, first, later, chars]⟩

theorem length_le_flatMap_escape (cs : List Char) : cs.length ≤ (cs.flatMap escape).length := by
  induction cs with
  | nil => exact Nat.le_refl 0
  | cons c cs ih =>
    have one : 1 ≤ (escape c).length := by
      unfold escape
      split_ifs <;> simp
    simp only [List.flatMap_cons, List.length_cons, List.length_append]
    omega

/-- A string behind its opening quote. -/
theorem reads_string (s : String) (rest : List Char) :
    Reads stringAt (s.toList.flatMap escape ++ ['"']) rest s := by
  intro p
  have enough : s.toList.length < (s.toList.flatMap escape ++ ['"'] ++ rest).length + 1 := by
    have longer := length_le_flatMap_escape s.toList
    simp only [List.length_append]
    omega
  have whole : ∃ p', readString _ [] ⟨p, s.toList.flatMap escape ++ ['"'] ++ rest⟩ = _ :=
    readString_escaped enough [] p
  simpa [stringAt] using whole

/-! ### Whole numbers -/

/-- A rest that does not go on with a number in front of it. -/
def Stops (rest : List Char) : Prop :=
  ∀ c ∈ rest.head?, c.isDigit = false ∧ c ≠ '.' ∧ c ≠ 'e' ∧ c ≠ 'E'

theorem Stops.cons {c : Char} (other : c.isDigit = false ∧ c ≠ '.' ∧ c ≠ 'e' ∧ c ≠ 'E')
    (rest : List Char) : Stops (c :: rest) := by
  rintro _ ⟨⟩
  exact other

theorem le_ofDigitChars (digits : List Char) (init : Nat) : init ≤ Nat.ofDigitChars 10 digits init := by
  induction digits generalizing init with
  | nil => exact Nat.le_refl init
  | cons c cs ih =>
    have rest := ih (10 * init + (c.toNat - '0'.toNat))
    rw [Nat.ofDigitChars_cons]
    omega

/-- All digits of a number below the limit are taken. -/
theorem takeDigits_append {limit number : Nat} {digits rest : List Char} (all : ∀ c ∈ digits, c.isDigit)
    (fits : Nat.ofDigitChars 10 digits number < limit) (stops : Stops rest) (taken : Nat) (p : Place) :
    ∃ taken' p', takeDigits limit number taken p (digits ++ rest) =
      (Nat.ofDigitChars 10 digits number, taken', ⟨p', rest⟩) := by
  induction digits generalizing number taken p with
  | nil =>
    refine ⟨taken, p, ?_⟩
    cases rest with
    | nil => rfl
    | cons c rest =>
      have other : c.isDigit = false := (stops c rfl).1
      simp [takeDigits, other]
  | cons c cs ih =>
    have digit : c.isDigit := all c List.mem_cons_self
    rw [Nat.ofDigitChars_cons] at fits
    have below : 10 * number + digitValue c < limit := (le_ofDigitChars cs _).trans_lt fits
    have first : takeDigits limit number taken p (c :: (cs ++ rest)) =
        takeDigits limit (10 * number + digitValue c) (taken + 1) (p.after c) (cs ++ rest) := by
      simp [takeDigits, digit, below]
    obtain ⟨taken', p', later⟩ :=
      ih (fun d member => all d (List.mem_cons_of_mem c member)) fits (taken + 1) (p.after c)
    exact ⟨taken', p', first.trans later⟩

theorem dropDigits_stops {rest : List Char} (stops : Stops rest) (p : Place) :
    dropDigits 0 p rest = (0, ⟨p, rest⟩) := by
  cases rest with
  | nil => rfl
  | cons c rest =>
    have other : c.isDigit = false := (stops c rfl).1
    simp [dropDigits, other]

/-- No number but zero begins with the digit of zero. -/
theorem head_decimalDigits_ne {n : Nat} (positive : 0 < n) {c : Char} {cs : List Char}
    (whole : decimalDigits n = c :: cs) : c ≠ '0' := by
  induction n using Nat.strongRecOn generalizing c cs with
  | _ n ih =>
    by_cases small : n < 10
    · rw [decimalDigits, Nat.toDigits_of_lt_base small] at whole
      obtain ⟨rfl, -⟩ := List.cons.inj whole
      interval_cases n <;> decide
    · have split : decimalDigits n = decimalDigits (n / 10) ++ [(n % 10).digitChar] :=
        Nat.toDigits_of_base_le (by decide) (Nat.le_of_not_lt small)
      obtain ⟨d, ds, front, -⟩ := exists_cons_decimalDigits (n / 10)
      rw [split, front, List.cons_append] at whole
      obtain ⟨rfl, -⟩ := List.cons.inj whole
      exact ih (n / 10) (by omega) (by omega) front

theorem no_leading_zero (n : Nat) {rest : List Char} (stops : Stops rest) (p : Place) :
    ((Cursor.mk p (decimalDigits n ++ rest)).sees '0' &&
      seesDigit (Cursor.mk p (decimalDigits n ++ rest)).next) = false := by
  rcases Nat.eq_zero_or_pos n with rfl | positive
  · have zero : decimalDigits 0 = ['0'] := by decide
    have behind : seesDigit ⟨p.after '0', rest⟩ = false := by
      cases rest with
      | nil => rfl
      | cons c rest => simpa [seesDigit] using (stops c rfl).1
    simp [zero, Cursor.next, behind]
  · obtain ⟨c, cs, whole, -⟩ := exists_cons_decimalDigits n
    have other : c ≠ '0' := head_decimalDigits_ne positive whole
    simp [whole, Cursor.sees, other]

/-- Digits are read as the whole number that they write, behind a minus or not. -/
theorem reads_digits {n : Nat} (fits : n < significandLimit) (positive : Bool) {rest : List Char}
    (stops : Stops rest) : Reads (readNumber positive) (decimalDigits n) rest (wholeNumber positive n) := by
  intro p
  obtain ⟨c, cs, whole, digit⟩ := exists_cons_decimalDigits n
  have value : Nat.ofDigitChars 10 (decimalDigits n) 0 = n :=
    Nat.ofDigitChars_toDigits (by decide) (by decide)
  obtain ⟨taken, p', digits⟩ := takeDigits_append (fun _ => isDigit_of_mem_decimalDigits)
    (value.symm ▸ fits) stops 0 p
  rw [value] at digits
  have inside : (Cursor.mk p (decimalDigits n ++ rest)).atEnd = false := by simp [whole, Cursor.atEnd]
  have first : seesDigit ⟨p, decimalDigits n ++ rest⟩ := by simp [whole, seesDigit, digit]
  have point : (Cursor.mk p' rest).sees '.' = false := by
    cases rest with
    | nil => rfl
    | cons c rest => simpa [Cursor.sees] using (stops c rfl).2.1
  have mark : seesExponent ⟨p', rest⟩ = false := by
    cases rest with
    | nil => rfl
    | cons c rest => simpa [seesExponent, Cursor.sees] using (stops c rfl).2.2
  refine ⟨p', ?_⟩
  simp [readNumber, inside, first, no_leading_zero n stops p, digits, dropDigits_stops stops, point, mark]

end HookLint.Json
