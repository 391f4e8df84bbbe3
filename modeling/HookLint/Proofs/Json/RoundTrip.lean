import HookLint.Proofs.Json.Reads

/-! What is printed is read back. Members come back in their places, each key once with its last value;
nothing else of a value changes. -/
namespace HookLint.Json

open HookLint.Text HookLint.Number

mutual

/-- A value with the members of every object in their places. -/
def Value.filed : Value → Value
  | .array items => .array (filedItems items)
  | .object members => .object (filedMembers [] members)
  | v => v

def filedItems : List Value → List Value
  | [] => []
  | v :: vs => v.filed :: filedItems vs

/-- Members put in their places among those that are there. -/
def filedMembers (done : Members) : Members → Members
  | [] => done
  | (k, v) :: ms => filedMembers (insert k v.filed done) ms

end

theorem filedItems_eq_map (items : List Value) : filedItems items = items.map Value.filed := by
  induction items with
  | nil => rw [filedItems, List.map_nil]
  | cons v vs ih => rw [filedItems, List.map_cons, ih]

/-- Whole numbers that fit 64 bits. -/
def Number.Whole : Number → Prop
  | .natural n => n < significandLimit
  | .negative n => 0 < n ∧ 2 * n ≤ significandLimit
  | .real _ _ => False

/-- The numbers of the value are whole, and in it lists and objects are nested no deeper than so many levels. -/
inductive Value.Within : Nat → Value → Prop
  | null {levels : Nat} : Within levels .null
  | bool {levels : Nat} (b : Bool) : Within levels (.bool b)
  | number {levels : Nat} {n : Number} (whole : n.Whole) : Within levels (.number n)
  | string {levels : Nat} (s : String) : Within levels (.string s)
  | array {levels : Nat} {items : List Value} (inner : ∀ v ∈ items, v.Within levels) :
    Within (levels + 1) (.array items)
  | object {levels : Nat} {members : Members} (inner : ∀ m ∈ members, m.2.Within levels) :
    Within (levels + 1) (.object members)

/-! ### How the text of a value begins -/

theorem ne_of_isDigit {c mark : Char} (digit : c.isDigit) (other : mark.isDigit = false) : c ≠ mark := by
  rintro rfl
  exact Bool.noConfusion (digit.symm.trans other)

theorem isBlank_of_isDigit {c : Char} (digit : c.isDigit) : isBlank c = false := by
  simp [isBlank, ne_of_isDigit digit]

theorem exists_cons_pretty (v : Value) (level : Nat) :
    ∃ c cs, v.pretty level = c :: cs ∧ isBlank c = false ∧ c ≠ ']' := by
  match v with
  | .null => exact ⟨'n', _, rfl, by decide⟩
  | .bool true => exact ⟨'t', _, rfl, by decide⟩
  | .bool false => exact ⟨'f', _, rfl, by decide⟩
  | .string s => exact ⟨'"', _, rfl, by decide⟩
  | .array [] => exact ⟨'[', _, rfl, by decide⟩
  | .array (_ :: _) => exact ⟨'[', _, rfl, by decide⟩
  | .object [] => exact ⟨'\x7b', _, rfl, by decide⟩
  | .object (_ :: _) => exact ⟨'\x7b', _, rfl, by decide⟩
  | .number n =>
    obtain ⟨c, cs, whole, rfl | digit⟩ := n.exists_cons_text
    · exact ⟨'-', cs, whole, by decide⟩
    · exact ⟨c, cs, whole, isBlank_of_isDigit digit, ne_of_isDigit digit (by decide)⟩

theorem visible_pretty (v : Value) (level : Nat) (rest : List Char) : Visible (v.pretty level ++ rest) := by
  obtain ⟨c, cs, whole, visible, -⟩ := exists_cons_pretty v level
  rw [whole]
  exact .cons visible _

theorem visible_quoted (key : String) (rest : List Char) : Visible (quoted key ++ rest) :=
  .cons (by decide) _

/-! ### Values without parts -/

/-- In front of a rest that stops it the text of a value is read as that value with its members filed, in as
many rounds as the text has characters. -/
def ReadsBack (depth : Nat) (v : Value) : Prop :=
  ∀ (fuel level : Nat) (rest : List Char), (v.pretty level).length ≤ fuel + 1 → Stops rest →
    Reads (readValue (fuel + 1) depth) (v.pretty level) rest v.filed

theorem readsBack_null (depth : Nat) : ReadsBack depth .null := by
  intro fuel level rest enough stops p
  refine ⟨(((p.after 'n').after 'u').after 'l').after 'l', ?_⟩
  rw [readValue]
  rfl

theorem readsBack_bool (depth : Nat) (b : Bool) : ReadsBack depth (.bool b) := by
  intro fuel level rest enough stops p
  cases b with
  | false =>
    refine ⟨((((p.after 'f').after 'a').after 'l').after 's').after 'e', ?_⟩
    rw [readValue]
    rfl
  | true =>
    refine ⟨(((p.after 't').after 'r').after 'u').after 'e', ?_⟩
    rw [readValue]
    rfl

theorem readsBack_string (depth : Nat) (s : String) : ReadsBack depth (.string s) := by
  intro fuel level rest enough stops p
  obtain ⟨p', inner⟩ := reads_string s rest (p.after '"')
  have first : readValue (fuel + 1) depth ⟨p, '"' :: (s.toList.flatMap escape ++ ['"'] ++ rest)⟩ =
      (stringAt ⟨p.after '"', s.toList.flatMap escape ++ ['"'] ++ rest⟩).bind
        fun r => .ok (.string r.1, r.2) := by
    rw [readValue]
    rfl
  exact ⟨p', first.trans (by rw [inner]; rfl)⟩

theorem readValue_digit {c : Char} (digit : c.isDigit) (fuel depth : Nat) (cs : List Char) (p : Place) :
    readValue (fuel + 1) depth ⟨p, c :: cs⟩ =
      (readNumber true ⟨p, c :: cs⟩).bind fun r => .ok (.number r.1, r.2) := by
  have stands : skipBlanks ⟨p, c :: cs⟩ = ⟨p, c :: cs⟩ :=
    skipBlanks_visible (.cons (isBlank_of_isDigit digit) cs) p
  rw [readValue, stands]
  dsimp only
  split
  case h_1 empty => exact absurd empty (List.cons_ne_nil c cs)
  case h_9 same =>
    obtain ⟨rfl, rfl⟩ := List.cons.inj same
    rw [if_pos digit]
    rfl
  -- The other characters that a value may begin with are no digits.
  all_goals
    rename_i same
    obtain ⟨rfl, -⟩ := List.cons.inj same
    exact absurd digit (by decide)

theorem readsBack_number (depth : Nat) {n : Number} (whole : n.Whole) : ReadsBack depth (.number n) := by
  intro fuel level rest enough stops p
  match n with
  | .natural n =>
    obtain ⟨c, cs, digits, digit⟩ := exists_cons_decimalDigits n
    obtain ⟨p', inner⟩ := reads_digits whole true stops p
    have first := readValue_digit digit fuel depth (cs ++ rest) p
    simp only [digits, List.cons_append] at inner
    refine ⟨p', ?_⟩
    change readValue (fuel + 1) depth ⟨p, decimalDigits n ++ rest⟩ = _
    rw [digits, List.cons_append, first, inner]
    rfl
  | .negative n =>
    obtain ⟨positive, fits⟩ := whole
    have below : n < significandLimit := by omega
    obtain ⟨p', inner⟩ := reads_digits below false stops (p.after '-')
    have first : readValue (fuel + 1) depth ⟨p, '-' :: (decimalDigits n ++ rest)⟩ =
        (readNumber false ⟨p.after '-', decimalDigits n ++ rest⟩).bind fun r => .ok (.number r.1, r.2) := by
      rw [readValue]
      rfl
    have sign : wholeNumber false n = .negative n := by simp [wholeNumber, positive, fits]
    exact ⟨p', first.trans (by rw [inner, sign]; rfl)⟩

/-! ### Lists and objects -/

theorem length_newLine (level : Nat) : (newLine level).length = 2 * level + 1 := by simp [newLine]

theorem exists_succ_of_pretty {fuel level : Nat} {v : Value} (enough : (v.pretty level).length ≤ fuel) :
    ∃ fuel', fuel = fuel' + 1 := by
  obtain ⟨c, cs, whole, -⟩ := exists_cons_pretty v level
  rw [whole] at enough
  exact Nat.exists_eq_add_one_of_ne_zero (Nat.ne_of_gt (Nat.lt_of_lt_of_le (Nat.succ_pos _) enough))

namespace ReadsBack

variable {depth fuel level : Nat} {v : Value} {rest : List Char}

theorem reads (back : ReadsBack depth v) (enough : (v.pretty level).length ≤ fuel) (stops : Stops rest) :
    Reads (readValue fuel depth) (v.pretty level) rest v.filed := by
  obtain ⟨fuel, rfl⟩ := exists_succ_of_pretty enough
  exact back fuel level rest enough stops

theorem reads_behind_blank (back : ReadsBack depth v) (enough : (v.pretty level).length ≤ fuel)
    (stops : Stops rest) : Reads (readValue fuel depth) (' ' :: v.pretty level) rest v.filed := by
  intro p
  obtain ⟨fuel, rfl⟩ := exists_succ_of_pretty enough
  obtain ⟨p', value⟩ := back fuel level rest enough stops (p.after ' ')
  have skipped : skipBlanks ⟨p, ' ' :: (v.pretty level ++ rest)⟩ =
      skipBlanks ⟨p.after ' ', v.pretty level ++ rest⟩ := rfl
  refine ⟨p', ?_⟩
  rw [readValue] at value ⊢
  rw [List.cons_append, skipped, value]

end ReadsBack

theorem stops_items (level : Nat) (vs : List Value) (rest : List Char) :
    Stops (prettyItems (level + 1) vs ++ newLine level ++ [']'] ++ rest) := by
  cases vs with
  | nil => exact .cons (by decide) _
  | cons v vs => exact .cons (by decide) _

theorem readItems_end (fuel depth level : Nat) (done : List Value) (rest : List Char) (p : Place) :
    ∃ p', readItems (fuel + 1) depth done ⟨p, newLine level ++ ']' :: rest⟩ =
      .ok (.array done.reverse, ⟨p', rest⟩) := by
  have bracket : Visible (']' :: rest) := .cons (by decide) rest
  obtain ⟨p', stands⟩ := skipBlanks_newLine bracket level p
  refine ⟨p'.after ']', ?_⟩
  rw [readItems, stands]
  rfl

/-- An item behind a comma is put in front of those that were read. -/
theorem readItems_next {depth fuel level : Nat} {v : Value} (back : ReadsBack depth v)
    (enough : (v.pretty level).length ≤ fuel) {rest : List Char} (stops : Stops rest) (d : Value)
    (ds : List Value) (p : Place) :
    ∃ p', readItems (fuel + 1) depth (d :: ds) ⟨p, ',' :: (newLine level ++ (v.pretty level ++ rest))⟩ =
      readItems fuel depth (v.filed :: d :: ds) ⟨p', rest⟩ := by
  obtain ⟨p₁, stands⟩ := skipBlanks_newLine (visible_pretty v level rest) level (p.after ',')
  obtain ⟨p₂, value⟩ := back.reads enough stops p₁
  obtain ⟨c, cs, whole, -, other⟩ := exists_cons_pretty v level
  have comma : ∀ text, skipBlanks ⟨p, ',' :: text⟩ = ⟨p, ',' :: text⟩ := fun _ => rfl
  refine ⟨p₂, ?_⟩
  rw [readItems, comma]
  dsimp only
  split
  case h_1 empty => exact absurd empty (List.cons_ne_nil _ _)
  case h_2 same => exact absurd (List.cons.inj same).1 (by decide)
  case h_3 same =>
    obtain ⟨rfl, rfl⟩ := List.cons.inj same
    simp only [List.isEmpty_cons, Bool.false_eq_true, if_false, if_true, Cursor.next]
    rw [stands]
    simp only [whole, List.cons_append] at value ⊢
    -- an end of the list behind a comma would be a fault, but no value begins with it
    split
    case h_1 empty => exact absurd empty (List.cons_ne_nil _ _)
    case h_2 same => exact absurd (List.cons.inj same).1 other
    case h_3 =>
      rw [value]
      rfl

/-- The first item, which no comma comes before. -/
theorem readItems_first {depth fuel level : Nat} {v : Value} (back : ReadsBack depth v)
    (enough : (v.pretty level).length ≤ fuel) {rest : List Char} (stops : Stops rest) (p : Place) :
    ∃ p', readItems (fuel + 1) depth [] ⟨p, newLine level ++ (v.pretty level ++ rest)⟩ =
      readItems fuel depth [v.filed] ⟨p', rest⟩ := by
  obtain ⟨p₁, stands⟩ := skipBlanks_newLine (visible_pretty v level rest) level p
  obtain ⟨p₂, value⟩ := back.reads enough stops p₁
  obtain ⟨c, cs, whole, -, other⟩ := exists_cons_pretty v level
  refine ⟨p₂, ?_⟩
  rw [readItems, stands]
  simp only [whole, List.cons_append] at value ⊢
  rw [if_pos List.isEmpty_nil, value]
  rfl

theorem reads_items {depth : Nat} {vs : List Value} (back : ∀ v ∈ vs, ReadsBack depth v) {fuel level : Nat}
    (enough : (prettyItems (level + 1) vs).length < fuel) (rest : List Char) (d : Value) (ds : List Value) :
    Reads (readItems fuel depth (d :: ds)) (prettyItems (level + 1) vs ++ newLine level ++ [']']) rest
      (.array ((d :: ds).reverse ++ filedItems vs)) := by
  intro p
  induction vs generalizing fuel d ds p with
  | nil =>
    obtain ⟨fuel, rfl⟩ : ∃ fuel', fuel = fuel' + 1 := ⟨fuel - 1, by omega⟩
    obtain ⟨p', ends⟩ := readItems_end fuel depth level (d :: ds) rest p
    refine ⟨p', ?_⟩
    simpa [prettyItems, filedItems] using ends
  | cons v vs ih =>
    obtain ⟨first, others⟩ := List.forall_mem_cons.mp back
    simp only [prettyItems, List.length_cons, List.length_append] at enough
    obtain ⟨fuel, rfl⟩ : ∃ fuel', fuel = fuel' + 1 := ⟨fuel - 1, by omega⟩
    have short : (v.pretty (level + 1)).length ≤ fuel := by omega
    have left : (prettyItems (level + 1) vs).length < fuel := by omega
    obtain ⟨p₁, next⟩ := readItems_next first short (stops_items level vs rest) d ds p
    obtain ⟨p₂, later⟩ := ih others left v.filed (d :: ds) p₁
    have text : prettyItems (level + 1) (v :: vs) ++ newLine level ++ [']'] ++ rest =
        ',' :: (newLine (level + 1) ++ (v.pretty (level + 1) ++
          (prettyItems (level + 1) vs ++ newLine level ++ [']'] ++ rest))) := by
      simp [prettyItems]
    have items : (v.filed :: d :: ds).reverse ++ filedItems vs =
        (d :: ds).reverse ++ filedItems (v :: vs) := by
      simp [filedItems]
    exact ⟨p₂, by rw [text, next, later, items]⟩

theorem readsBack_array {depth : Nat} {items : List Value} (back : ∀ v ∈ items, ReadsBack (depth + 1) v) :
    ReadsBack (depth + 2) (.array items) := by
  intro fuel level rest enough stops p
  have opens : ∀ text, readValue (fuel + 1) (depth + 2) ⟨p, '[' :: text⟩ =
      readItems fuel (depth + 1) [] ⟨p.after '[', text⟩ := by
    intro text
    rw [readValue]
    rfl
  cases items with
  | nil =>
    simp only [Value.pretty, List.length_cons] at enough
    obtain ⟨fuel, rfl⟩ : ∃ fuel', fuel = fuel' + 1 := ⟨fuel - 1, by omega⟩
    have ends : readItems (fuel + 1) (depth + 1) [] ⟨p.after '[', ']' :: rest⟩ =
        .ok (.array [], ⟨(p.after '[').after ']', rest⟩) := by
      rw [readItems]
      rfl
    exact ⟨_, (opens _).trans ends⟩
  | cons v vs =>
    obtain ⟨first, others⟩ := List.forall_mem_cons.mp back
    simp only [Value.pretty, List.length_cons, List.length_append, length_newLine] at enough
    obtain ⟨fuel, rfl⟩ : ∃ fuel', fuel = fuel' + 1 := ⟨fuel - 1, by omega⟩
    have short : (v.pretty (level + 1)).length ≤ fuel := by omega
    have left : (prettyItems (level + 1) vs).length < fuel := by omega
    obtain ⟨p₁, next⟩ := readItems_first first short (stops_items level vs rest) (p.after '[')
    obtain ⟨p₂, later⟩ := reads_items others left rest v.filed [] p₁
    have text : (Value.array (v :: vs)).pretty level ++ rest =
        '[' :: (newLine (level + 1) ++ (v.pretty (level + 1) ++
          (prettyItems (level + 1) vs ++ newLine level ++ [']'] ++ rest))) := by
      simp [Value.pretty]
    exact ⟨p₂, by rw [text, opens, next, later]; rfl⟩

theorem stops_members (level : Nat) (ms : Members) (rest : List Char) :
    Stops (prettyMembers (level + 1) ms ++ newLine level ++ ['\x7d'] ++ rest) := by
  cases ms with
  | nil => exact .cons (by decide) _
  | cons m ms => exact .cons (by decide) _

theorem readMembers_end (fuel depth level : Nat) (done : Members) (rest : List Char) (p : Place) :
    ∃ p', readMembers (fuel + 1) depth false done ⟨p, newLine level ++ '\x7d' :: rest⟩ =
      .ok (.object done, ⟨p', rest⟩) := by
  have brace : Visible ('\x7d' :: rest) := .cons (by decide) rest
  obtain ⟨p', stands⟩ := skipBlanks_newLine brace level p
  refine ⟨p'.after '\x7d', ?_⟩
  rw [readMembers, stands]
  rfl

section

variable {depth fuel level : Nat} {v : Value} {rest : List Char}

/-- A member behind the quote of its key is put among those that were read. -/
theorem readMember_filed (back : ReadsBack depth v) (enough : (v.pretty level).length ≤ fuel)
    (stops : Stops rest) (key : String) (done : Members) (p : Place) :
    ∃ p', readMember (fuel + 1) depth done
        ⟨p, key.toList.flatMap escape ++ ['"'] ++ ':' :: ' ' :: (v.pretty level ++ rest)⟩ =
      readMembers fuel depth false (insert key v.filed done) ⟨p', rest⟩ := by
  obtain ⟨p₁, name⟩ := reads_string key (':' :: ' ' :: (v.pretty level ++ rest)) p
  obtain ⟨p₂, value⟩ := back.reads_behind_blank enough stops (p₁.after ':')
  refine ⟨p₂, ?_⟩
  rw [readMember, name]
  change (readValue fuel depth ⟨p₁.after ':', ' ' :: v.pretty level ++ rest⟩).bind _ = _
  rw [value]
  rfl

theorem readMembers_next (back : ReadsBack depth v) (enough : (v.pretty level).length ≤ fuel)
    (stops : Stops rest) (key : String) (done : Members) (p : Place) :
    ∃ p', readMembers (fuel + 2) depth false done
        ⟨p, ',' :: (newLine level ++ (quoted key ++ ':' :: ' ' :: (v.pretty level ++ rest)))⟩ =
      readMembers fuel depth false (insert key v.filed done) ⟨p', rest⟩ := by
  obtain ⟨p₁, stands⟩ := skipBlanks_newLine
    (visible_quoted key (':' :: ' ' :: (v.pretty level ++ rest))) level (p.after ',')
  obtain ⟨p₂, member⟩ := readMember_filed back enough stops key done (p₁.after '"')
  have comma : ∀ text, skipBlanks ⟨p, ',' :: text⟩ = ⟨p, ',' :: text⟩ := fun _ => rfl
  refine ⟨p₂, ?_⟩
  rw [readMembers, comma, ← member]
  dsimp only [Cursor.next]
  rw [stands]
  rfl

theorem readMembers_first (back : ReadsBack depth v) (enough : (v.pretty level).length ≤ fuel)
    (stops : Stops rest) (key : String) (p : Place) :
    ∃ p', readMembers (fuel + 2) depth true []
        ⟨p, newLine level ++ (quoted key ++ ':' :: ' ' :: (v.pretty level ++ rest))⟩ =
      readMembers fuel depth false (insert key v.filed []) ⟨p', rest⟩ := by
  obtain ⟨p₁, stands⟩ := skipBlanks_newLine
    (visible_quoted key (':' :: ' ' :: (v.pretty level ++ rest))) level p
  obtain ⟨p₂, member⟩ := readMember_filed back enough stops key [] (p₁.after '"')
  refine ⟨p₂, ?_⟩
  rw [readMembers, stands, ← member]
  rfl

end

theorem reads_members {depth : Nat} {ms : Members} (back : ∀ m ∈ ms, ReadsBack depth m.2) {fuel level : Nat}
    (enough : (prettyMembers (level + 1) ms).length < fuel) (rest : List Char) (done : Members) :
    Reads (readMembers fuel depth false done) (prettyMembers (level + 1) ms ++ newLine level ++ ['\x7d']) rest
      (.object (filedMembers done ms)) := by
  intro p
  induction ms generalizing fuel done p with
  | nil =>
    obtain ⟨fuel, rfl⟩ : ∃ fuel', fuel = fuel' + 1 := ⟨fuel - 1, by omega⟩
    obtain ⟨p', ends⟩ := readMembers_end fuel depth level done rest p
    refine ⟨p', ?_⟩
    simpa [prettyMembers, filedMembers] using ends
  | cons m ms ih =>
    obtain ⟨key, v⟩ := m
    obtain ⟨first, others⟩ := List.forall_mem_cons.mp back
    simp only [prettyMembers, List.length_cons, List.length_append, length_newLine] at enough
    obtain ⟨fuel, rfl⟩ : ∃ fuel', fuel = fuel' + 2 := ⟨fuel - 2, by omega⟩
    have short : (v.pretty (level + 1)).length ≤ fuel := by omega
    have left : (prettyMembers (level + 1) ms).length < fuel := by omega
    obtain ⟨p₁, next⟩ := readMembers_next first short (stops_members level ms rest) key done p
    obtain ⟨p₂, later⟩ := ih others left (insert key v.filed done) p₁
    have text : prettyMembers (level + 1) ((key, v) :: ms) ++ newLine level ++ ['\x7d'] ++ rest =
        ',' :: (newLine (level + 1) ++ (quoted key ++ ':' :: ' ' :: (v.pretty (level + 1) ++
          (prettyMembers (level + 1) ms ++ newLine level ++ ['\x7d'] ++ rest)))) := by
      simp [prettyMembers]
    exact ⟨p₂, by rw [text, next, later, filedMembers]⟩

theorem readsBack_object {depth : Nat} {members : Members}
    (back : ∀ m ∈ members, ReadsBack (depth + 1) m.2) : ReadsBack (depth + 2) (.object members) := by
  intro fuel level rest enough stops p
  have opens : ∀ text, readValue (fuel + 1) (depth + 2) ⟨p, '\x7b' :: text⟩ =
      readMembers fuel (depth + 1) true [] ⟨p.after '\x7b', text⟩ := by
    intro text
    rw [readValue]
    rfl
  cases members with
  | nil =>
    simp only [Value.pretty, List.length_cons] at enough
    obtain ⟨fuel, rfl⟩ : ∃ fuel', fuel = fuel' + 1 := ⟨fuel - 1, by omega⟩
    have ends : readMembers (fuel + 1) (depth + 1) true [] ⟨p.after '\x7b', '\x7d' :: rest⟩ =
        .ok (.object [], ⟨(p.after '\x7b').after '\x7d', rest⟩) := by
      rw [readMembers]
      rfl
    exact ⟨_, (opens _).trans ends⟩
  | cons m ms =>
    obtain ⟨key, v⟩ := m
    obtain ⟨first, others⟩ := List.forall_mem_cons.mp back
    simp only [Value.pretty, List.length_cons, List.length_append, length_newLine] at enough
    obtain ⟨fuel, rfl⟩ : ∃ fuel', fuel = fuel' + 2 := ⟨fuel - 2, by omega⟩
    have short : (v.pretty (level + 1)).length ≤ fuel := by omega
    have left : (prettyMembers (level + 1) ms).length < fuel := by omega
    obtain ⟨p₁, next⟩ := readMembers_first first short (stops_members level ms rest) key (p.after '\x7b')
    obtain ⟨p₂, later⟩ := reads_members others left rest (insert key v.filed []) p₁
    have text : (Value.object ((key, v) :: ms)).pretty level ++ rest =
        '\x7b' :: (newLine (level + 1) ++ (quoted key ++ ':' :: ' ' :: (v.pretty (level + 1) ++
          (prettyMembers (level + 1) ms ++ newLine level ++ ['\x7d'] ++ rest)))) := by
      simp [Value.pretty]
    exact ⟨p₂, by rw [text, opens, next, later, Value.filed, filedMembers]⟩

/-! ### All values -/

theorem readsBack {levels : Nat} {v : Value} (within : v.Within levels) : ReadsBack (levels + 1) v := by
  induction within with
  | null => exact readsBack_null _
  | bool b => exact readsBack_bool _ b
  | number whole => exact readsBack_number _ whole
  | string s => exact readsBack_string _ s
  | array _ ih => exact readsBack_array ih
  | object _ ih => exact readsBack_object ih

/-- A printed value, with blanks behind it, is read as that value with its members in their places. -/
theorem read_prettyText {v : Value} (within : v.Within 127) {blanks : List Char}
    (all : ∀ c ∈ blanks, isBlank c) : readChars (v.pretty 0 ++ blanks) = .ok v.filed := by
  have enough : (v.pretty 0).length ≤ rounds (v.pretty 0 ++ blanks) := by
    simp only [rounds, List.length_append]
    omega
  have stops : Stops blanks := by
    intro c member
    have blank : isBlank c := all c (List.mem_of_mem_head? member)
    simp only [isBlank, Bool.or_eq_true, beq_iff_eq] at blank
    rcases blank with ((rfl | rfl) | rfl) | rfl <;> decide
  obtain ⟨p, value⟩ := (readsBack within).reads enough stops Place.start
  have nothing : Visible [] := nofun
  obtain ⟨p', ends⟩ := skipBlanks_append all nothing p
  rw [List.append_nil] at ends
  change (readValue _ 128 ⟨Place.start, v.pretty 0 ++ blanks⟩).bind _ = _
  rw [value]
  simp [Except.bind, ends, Cursor.atEnd]

end HookLint.Json
