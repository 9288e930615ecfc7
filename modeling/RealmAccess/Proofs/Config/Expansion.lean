/-
RealmAccess.Proofs.Config.Expansion — what an expanded configuration text is.

The expansion reads a line once, character by character, and remembers nothing
but whether it has passed a `#`. The statement here says the same without
reading: a row is cut into references and single characters (`Cut`), a
reference is replaced if it begins before the row's first `#`, and what a text
becomes is said of all its rows together (`Expands`).

  Variables  — which hold a text, by the bytes that the environment holds.
  References — `reference?` finds `${name}` at the front of a text, and only there.
  Cuts       — each row has one, and its pieces put together are the row.
  Outcomes   — the first name without a text, or else the result.
  One line   — `expandLine_eq`, by induction on the cut of the line.
  All rows   — rows in place of lines, and `expand_iff_expands`.
-/
import RealmAccess.Config.Expansion
import RealmAccess.Proofs.Text.Lines

namespace RealmAccess

/-! ## Variables -/

/-- The variable is not set, or what it holds is no text. -/
def Environment.Lacks (env : Environment) (name : String) : Prop :=
  ∀ bytes, env.values.find? name = some bytes → ¬bytes.IsValidUTF8

theorem Environment.text?_eq_some (env : Environment) {name value : String} :
    env.text? name = some value ↔ env.values.find? name = some value.toUTF8 := by
  have hbytes : ∀ bytes, String.fromUTF8? bytes = some value ↔ bytes = value.toUTF8 := by
    intro bytes
    unfold String.fromUTF8?
    split
    · rw [Option.some.injEq, ← String.toByteArray_inj]
      rfl
    · rename_i hinvalid
      simp only [reduceCtorEq, false_iff]
      rintro rfl
      exact hinvalid value.isValidUTF8
  cases hfind : env.values.find? name with
  | none => simp [text?, hfind]
  | some bytes => simp [text?, hfind, hbytes]

theorem Environment.text?_eq_none (env : Environment) {name : String} :
    env.text? name = none ↔ env.Lacks name := by
  cases hfind : env.values.find? name with
  | none => simp [text?, Lacks, hfind]
  | some bytes => simp [text?, Lacks, hfind, String.fromUTF8?]

namespace Expansion

/-! ## References -/

/-- What may stand between the braces of a reference. -/
def IsName (name : List Char) : Prop := name ≠ [] ∧ '}' ∉ name

/-- The text of a reference. -/
def braced (name : List Char) : List Char := '$' :: '{' :: (name ++ ['}'])

theorem hash_mem_braced {name : List Char} : '#' ∈ braced name ↔ '#' ∈ name := by
  simp [braced]

theorem splitBrace_eq_some {text name after : List Char} :
    splitBrace text = some (name, after) ↔ '}' ∉ name ∧ text = name ++ '}' :: after := by
  fun_induction splitBrace text generalizing name with
  | case1 => simp
  | case2 rest => cases name <;> simp_all
  | case3 c rest hc ih =>
    rw [Option.map_eq_some_iff]
    constructor
    · rintro ⟨⟨name', after'⟩, hsplit, heq⟩
      cases heq
      obtain ⟨hname, hrest⟩ := ih.1 hsplit
      exact ⟨by simp [hname, Ne.symm hc], congrArg (c :: ·) hrest⟩
    · rintro ⟨hname, heq⟩
      cases name with
      | nil => exact absurd (List.cons.inj heq).1 hc
      | cons d name =>
        obtain ⟨rfl, hrest⟩ := List.cons.inj heq
        exact ⟨(name, after), ih.2 ⟨fun h => hname (List.mem_cons_of_mem _ h), hrest⟩, rfl⟩

theorem reference?_eq_some {text name after : List Char} :
    reference? text = some (name, after) ↔ IsName name ∧ text = braced name ++ after := by
  have hshape : braced name ++ after = '$' :: '{' :: (name ++ '}' :: after) := by
    simp [braced]
  rw [hshape]
  fun_cases reference? text with
  | case1 rest c name' after' hsplit =>
    simp only [Option.some.injEq, Prod.mk.injEq, List.cons.injEq, true_and, IsName]
    constructor
    · rintro ⟨rfl, rfl⟩
      obtain ⟨hname, hrest⟩ := splitBrace_eq_some.1 hsplit
      exact ⟨⟨List.cons_ne_nil _ _, hname⟩, hrest⟩
    · rintro ⟨⟨-, hname⟩, hrest⟩
      have := hsplit.symm.trans (splitBrace_eq_some.2 ⟨hname, hrest⟩)
      simpa using this
  | case2 rest hnone =>
    simp only [List.cons.injEq, true_and, IsName, reduceCtorEq, false_iff]
    rintro ⟨⟨hne, hname⟩, hrest⟩
    obtain ⟨c, name, rfl⟩ := List.exists_cons_of_ne_nil hne
    exact hnone c name after (splitBrace_eq_some.2 ⟨hname, hrest⟩)
  | case3 =>
    simp only [reduceCtorEq, false_iff]
    rintro ⟨-, htext⟩
    rename_i hnone
    exact hnone _ htext

theorem reference?_eq_none {text : List Char} :
    reference? text = none ↔ ∀ name after, IsName name → text ≠ braced name ++ after := by
  rw [Option.eq_none_iff_forall_ne_some]
  constructor
  · intro hnone name after hname heq
    exact hnone (name, after) (reference?_eq_some.2 ⟨hname, heq⟩)
  · rintro hnone ⟨name, after⟩ hfound
    obtain ⟨hname, heq⟩ := reference?_eq_some.1 hfound
    exact hnone name after hname heq

/-! ## Cuts -/

/-- A piece of a row. -/
inductive Piece where
  | plain (c : Char)
  | reference (name : List Char)

/-- The text of a piece. -/
def Piece.source : Piece → List Char
  | .plain c => [c]
  | .reference name => braced name

/-- A row cut into its references and the characters outside of them, from left to right: where a
reference begins it is taken, and the next piece begins behind it. -/
inductive Cut : List Char → List Piece → Prop where
  | nil : Cut [] []
  | reference {name rest : List Char} {pieces : List Piece} (hname : IsName name)
      (h : Cut rest pieces) : Cut (braced name ++ rest) (.reference name :: pieces)
  | plain {c : Char} {rest : List Char} {pieces : List Piece}
      (hnone : ∀ name after, IsName name → c :: rest ≠ braced name ++ after)
      (h : Cut rest pieces) : Cut (c :: rest) (.plain c :: pieces)

theorem Cut.flatMap_source {line : List Char} {pieces : List Piece} (h : Cut line pieces) :
    pieces.flatMap Piece.source = line := by
  induction h with
  | nil => rfl
  | reference _ _ ih => rw [List.flatMap_cons, ih]; rfl
  | plain _ _ ih => rw [List.flatMap_cons, ih]; rfl

/-- Every row has a cut: at its front stands a reference or a character outside of references. -/
theorem exists_cut (line : List Char) : ∃ pieces, Cut line pieces := by
  match line with
  | [] => exact ⟨[], .nil⟩
  | c :: rest =>
    cases href : reference? (c :: rest) with
    | none =>
      obtain ⟨pieces, h⟩ := exists_cut rest
      exact ⟨.plain c :: pieces, .plain (reference?_eq_none.1 href) h⟩
    | some found =>
      obtain ⟨name, after⟩ := found
      obtain ⟨hname, heq⟩ := reference?_eq_some.1 href
      have hlength := length_of_reference href
      obtain ⟨pieces, h⟩ := exists_cut after
      exact ⟨.reference name :: pieces, heq ▸ .reference hname h⟩
termination_by line.length
decreasing_by
  · exact Nat.lt_succ_self _
  · exact hlength

/-- The pieces of a row, each with the place where it begins. -/
def placed : Nat → List Piece → List (Nat × Piece)
  | _, [] => []
  | start, piece :: more => (start, piece) :: placed (start + piece.source.length) more

/-- The name of a piece that is replaced: of a reference that begins before `comment`. -/
def replaced? (comment : Nat) : Nat × Piece → Option String
  | (_, .plain _) => none
  | (start, .reference name) => if start < comment then some (String.ofList name) else none

/-- What a piece becomes: the text of the variable for a reference that is replaced, and itself
otherwise. -/
def rendered (env : Environment) (comment : Nat) (piece : Nat × Piece) : List Char :=
  match replaced? comment piece with
  | some name => ((env.text? name).getD "").toList
  | none => piece.2.source

/-- The names that are replaced in a row, whose first piece begins at `start`. -/
def names (comment start : Nat) (pieces : List Piece) : List String :=
  (placed start pieces).filterMap (replaced? comment)

/-- What the pieces of a row become. -/
def result (env : Environment) (comment start : Nat) (pieces : List Piece) : List Char :=
  (placed start pieces).flatMap (rendered env comment)

section

variable {comment start : Nat}

theorem names_plain (c : Char) (pieces : List Piece) :
    names comment start (.plain c :: pieces) = names comment (start + 1) pieces := rfl

theorem result_plain (env : Environment) (c : Char) (pieces : List Piece) :
    result env comment start (.plain c :: pieces) = c :: result env comment (start + 1) pieces :=
  rfl

theorem names_replaced (h : start < comment) (name : List Char) (pieces : List Piece) :
    names comment start (.reference name :: pieces) =
      String.ofList name :: names comment (start + (braced name).length) pieces := by
  simp [names, placed, replaced?, h, Piece.source]

theorem result_replaced {env : Environment} (h : start < comment) {name : List Char}
    {value : String} (hvalue : env.text? (String.ofList name) = some value)
    (pieces : List Piece) :
    result env comment start (.reference name :: pieces) =
      value.toList ++ result env comment (start + (braced name).length) pieces := by
  simp [result, placed, rendered, replaced?, h, hvalue, Piece.source]

theorem replaced?_comment (h : comment ≤ start) (piece : Piece) :
    replaced? comment (start, piece) = none := by
  cases piece with
  | plain c => rfl
  | reference name => exact if_neg (Nat.not_lt.2 h)

/-- Nothing is replaced in a comment. -/
theorem names_comment (h : comment ≤ start) (pieces : List Piece) :
    names comment start pieces = [] := by
  induction pieces generalizing start with
  | nil => rfl
  | cons piece more ih =>
    rw [names, placed, List.filterMap_cons, replaced?_comment h]
    exact ih (Nat.le_add_right_of_le h)

/-- A comment becomes what it is. -/
theorem result_comment (env : Environment) (h : comment ≤ start) (pieces : List Piece) :
    result env comment start pieces = pieces.flatMap Piece.source := by
  induction pieces generalizing start with
  | nil => rfl
  | cons piece more ih =>
    rw [result, placed, List.flatMap_cons, List.flatMap_cons, rendered, replaced?_comment h]
    exact congrArg (piece.source ++ ·) (ih (Nat.le_add_right_of_le h))

end

/-! ## Outcomes -/

/-- What comes of using these variables: the first of them without a text, or else the result. -/
def outcome {α : Type} (env : Environment) (used : List String) (a : α) : Except String α :=
  match used.find? fun name => (env.text? name).isNone with
  | some name => .error name
  | none => .ok a

section

variable {α β : Type} {env : Environment}

theorem outcome_cons_none {name : String} (h : env.text? name = none) (used : List String) (a : α) :
    outcome env (name :: used) a = .error name := by
  simp [outcome, h]

theorem outcome_cons_some {name value : String} (h : env.text? name = some value)
    (used : List String) (a : α) : outcome env (name :: used) a = outcome env used a := by
  simp [outcome, h]

theorem map_outcome (f : α → β) (used : List String) (a : α) :
    (outcome env used a).map f = outcome env used (f a) := by
  unfold outcome
  split <;> rfl

theorem outcome_append (used more : List String) (a : α) (f : α → β) :
    outcome env (used ++ more) (f a) =
      match outcome env used a with
      | .error name => .error name
      | .ok a => outcome env more (f a) := by
  induction used with
  | nil => rfl
  | cons name used ih =>
    cases h : env.text? name with
    | none => rw [List.cons_append, outcome_cons_none h, outcome_cons_none h]
    | some value => rw [List.cons_append, outcome_cons_some h, outcome_cons_some h, ih]

theorem outcome_eq_error {used : List String} {a : α} {name : String} :
    outcome env used a = .error name ↔
      ∃ before after, used = before ++ name :: after ∧
        (∀ earlier ∈ before, ¬env.Lacks earlier) ∧ env.Lacks name := by
  have hfirst : outcome env used a = .error name ↔
      used.find? (fun name => (env.text? name).isNone) = some name := by
    unfold outcome
    split <;> simp [*]
  rw [hfirst, List.find?_eq_some_iff_append]
  simp only [Option.isNone_iff_eq_none, env.text?_eq_none, Bool.not_eq_true', ← Bool.not_eq_true]
  constructor
  · rintro ⟨hname, before, after, hused, hbefore⟩
    exact ⟨before, after, hused, hbefore, hname⟩
  · rintro ⟨before, after, hused, hbefore, hname⟩
    exact ⟨hname, before, after, hused, hbefore⟩

theorem outcome_eq_ok {used : List String} {a b : α} :
    outcome env used a = .ok b ↔ (∀ name ∈ used, ¬env.Lacks name) ∧ b = a := by
  have hnone : outcome env used a = .ok b ↔
      used.find? (fun name => (env.text? name).isNone) = none ∧ b = a := by
    unfold outcome
    split <;> simp [*, eq_comm]
  rw [hnone, List.find?_eq_none]
  simp only [Option.isNone_iff_eq_none, env.text?_eq_none]

end

/-! ## One line -/

theorem expandLine_hash (env : Environment) (rest : List Char) :
    expandLine env ('#' :: rest) = .ok ('#' :: rest) := by
  rw [expandLine, if_pos rfl]

theorem expandLine_plain (env : Environment) {c : Char} {rest : List Char} (hc : c ≠ '#')
    (href : reference? (c :: rest) = none) :
    expandLine env (c :: rest) = (expandLine env rest).map (c :: ·) := by
  rw [expandLine, if_neg hc]
  split
  · rfl
  · simp_all

theorem expandLine_reference (env : Environment) {name : List Char} (hname : IsName name)
    (rest : List Char) :
    expandLine env (braced name ++ rest) =
      match env.text? (String.ofList name) with
      | none => .error (String.ofList name)
      | some value =>
        if '#' ∈ name then .ok (value.toList ++ rest)
        else (expandLine env rest).map (value.toList ++ ·) := by
  have href : reference? (braced name ++ rest) = some (name, rest) :=
    reference?_eq_some.2 ⟨hname, rfl⟩
  rw [braced, List.cons_append] at href ⊢
  rw [expandLine, if_neg (by decide)]
  split
  · rename_i hnone
    cases hnone.symm.trans href
  · rename_i name' after' hfound
    cases hfound.symm.trans href
    rfl

/-- A line that stands at `start`, with a comment that begins `line.idxOf '#'` further on. -/
theorem expandLine_eq (env : Environment) {line : List Char} {pieces : List Piece}
    (h : Cut line pieces) (start : Nat) :
    expandLine env line =
      outcome env (names (start + line.idxOf '#') start pieces)
        (result env (start + line.idxOf '#') start pieces) := by
  induction h generalizing start with
  | nil => rw [expandLine]; rfl
  | @reference name rest pieces hname hcut ih =>
    have hbefore : start < start + (braced name ++ rest).idxOf '#' := by
      rw [braced, List.cons_append, List.idxOf_cons]
      exact Nat.lt_add_of_pos_right (Nat.succ_pos _)
    rw [expandLine_reference env hname, names_replaced hbefore]
    cases hvalue : env.text? (String.ofList name) with
    | none => rw [outcome_cons_none hvalue]
    | some value =>
      rw [outcome_cons_some hvalue, result_replaced hbefore hvalue]
      by_cases hhash : '#' ∈ braced name
      · -- The comment begins within the name, so it has begun where the reference ends.
        have hpast : start + (braced name ++ rest).idxOf '#' ≤ start + (braced name).length := by
          rw [List.idxOf_append, if_pos hhash]
          exact Nat.add_le_add_left List.idxOf_le_length start
        rw [names_comment hpast, result_comment env hpast, hcut.flatMap_source]
        exact if_pos (hash_mem_braced.1 hhash)
      · have hcomment : start + (braced name ++ rest).idxOf '#' =
            start + (braced name).length + rest.idxOf '#' := by
          rw [List.idxOf_append, if_neg hhash]
          omega
        rw [hcomment, ← map_outcome, ← ih]
        exact if_neg fun h => hhash (hash_mem_braced.2 h)
  | @plain c rest pieces hnone hcut ih =>
    rw [names_plain, result_plain]
    by_cases hc : c = '#'
    · subst hc
      have hpast : start + ('#' :: rest).idxOf '#' ≤ start + 1 := by simp
      rw [expandLine_hash, names_comment hpast, result_comment env hpast, hcut.flatMap_source]
      rfl
    · have hcomment : start + (c :: rest).idxOf '#' = start + 1 + rest.idxOf '#' := by
        simp only [List.idxOf_cons, beq_eq_false_iff_ne.2 hc, cond_false]
        omega
      rw [expandLine_plain env hc (reference?_eq_none.2 hnone), hcomment, ← map_outcome, ← ih]

/-! ## All rows -/

/-- A row that is cut. -/
structure Row where
  text : List Char
  pieces : List Piece
  cut : Cut text pieces

/-- The names that are replaced in a row: of the references that begin before its first `#`. -/
def Row.names (row : Row) : List String := Expansion.names (row.text.idxOf '#') 0 row.pieces

/-- What a row becomes. -/
def Row.result (env : Environment) (row : Row) : List Char :=
  Expansion.result env (row.text.idxOf '#') 0 row.pieces

theorem exists_rows (texts : List (List Char)) : ∃ rows : List Row, rows.map Row.text = texts := by
  induction texts with
  | nil => exact ⟨[], rfl⟩
  | cons text more ih =>
    obtain ⟨rows, hrows⟩ := ih
    obtain ⟨pieces, hcut⟩ := exists_cut text
    exact ⟨⟨text, pieces, hcut⟩ :: rows, congrArg (text :: ·) hrows⟩

theorem expandLine_row (env : Environment) (row : Row) :
    expandLine env row.text = outcome env row.names (row.result env) := by
  have h := expandLine_eq env row.cut 0
  rwa [Nat.zero_add] at h

theorem expandLines_rows (env : Environment) (rows : List Row) :
    expandLines env (rows.map Row.text) =
      outcome env (rows.flatMap Row.names) (rows.map (Row.result env)) := by
  induction rows with
  | nil => rfl
  | cons row rows ih =>
    rw [List.map_cons, expandLines, expandLine_row, ih, List.flatMap_cons, List.map_cons,
      outcome_append _ _ (row.result env) (· :: rows.map (Row.result env))]
    cases outcome env row.names (row.result env) with
    | error name => rfl
    | ok line => exact map_outcome ..

theorem expandLines_emptyRow (env : Environment) (text : List Char) (lines : List (List Char)) :
    expandLines env (lines ++ Text.emptyRow text) =
      (expandLines env lines).map (· ++ Text.emptyRow text) := by
  induction lines with
  | nil =>
    rw [Text.emptyRow]
    split <;> simp [expandLines, expandLine, Except.map]
  | cons line more ih =>
    rw [List.cons_append, expandLines, expandLines, ih]
    cases expandLine env line with
    | error name => rfl
    | ok line => cases expandLines env more <;> rfl

theorem length_of_expandLines {env : Environment} {lines out : List (List Char)}
    (h : expandLines env lines = .ok out) : out.length = lines.length := by
  induction lines generalizing out with
  | nil => cases h; rfl
  | cons line more ih =>
    rw [expandLines] at h
    cases hline : expandLine env line with
    | error name => simp [hline] at h
    | ok first =>
      cases hmore : expandLines env more with
      | error name => simp [hline, hmore, Except.map] at h
      | ok others =>
        simp only [hline, hmore, Except.map, Except.ok.injEq] at h
        rw [← h, List.length_cons, List.length_cons, ih hmore]

/-- The expansion of a text by its rows: a final line feed is a line feed before an empty row. -/
theorem expand_eq_rows (env : Environment) (text : String) :
    expand env text = (expandLines env (Text.rows text.toList)).map fun texts =>
      String.ofList (['\n'].intercalate texts) := by
  rw [expand, Text.rows_eq_lines, expandLines_emptyRow]
  cases hlines : expandLines env (Text.lines text.toList) with
  | error name => rfl
  | ok texts =>
    have hlength : texts.length = (Text.lines text.toList).length := length_of_expandLines hlines
    simp only [Except.map, Text.unlines_eq_intercalate hlength]

/-! ## Main statement -/

/-- What may come of a text: the first name to be replaced that lacks a text, or the results of the
rows with a line feed between two of them. -/
def Expands (env : Environment) (text : String) : Except String String → Prop
  | .error name => ∃ rows : List Row, rows.map Row.text = Text.rows text.toList ∧
      ∃ before after, rows.flatMap Row.names = before ++ name :: after ∧
        (∀ earlier ∈ before, ¬env.Lacks earlier) ∧ env.Lacks name
  | .ok out => ∃ rows : List Row, rows.map Row.text = Text.rows text.toList ∧
      (∀ name ∈ rows.flatMap Row.names, ¬env.Lacks name) ∧
        out = String.ofList (['\n'].intercalate (rows.map (Row.result env)))

theorem expand_eq_outcome (env : Environment) {text : String} {rows : List Row}
    (h : rows.map Row.text = Text.rows text.toList) :
    expand env text = outcome env (rows.flatMap Row.names)
      (String.ofList (['\n'].intercalate (rows.map (Row.result env)))) := by
  rw [expand_eq_rows, ← h, expandLines_rows, map_outcome]

/-- **The expansion of a text is what its rows, cut into references, become.** A reference that
begins before the first `#` of its row is replaced by what the environment holds under its name, and
all else stays as it is; if a name to be replaced is not set or holds no text, the first such name
is the error. -/
theorem expand_iff_expands (env : Environment) (text : String) :
    (∀ result, expand env text = result ↔ Expands env text result) ∧
      ∀ name value, env.text? name = some value ↔ env.values.find? name = some value.toUTF8 := by
  refine ⟨?_, fun name value => env.text?_eq_some⟩
  intro result
  cases result with
  | error name =>
    constructor
    · intro herror
      obtain ⟨rows, hrows⟩ := exists_rows (Text.rows text.toList)
      exact ⟨rows, hrows, outcome_eq_error.1 ((expand_eq_outcome env hrows).symm.trans herror)⟩
    · rintro ⟨rows, hrows, hfirst⟩
      exact (expand_eq_outcome env hrows).trans (outcome_eq_error.2 hfirst)
  | ok out =>
    constructor
    · intro hok
      obtain ⟨rows, hrows⟩ := exists_rows (Text.rows text.toList)
      exact ⟨rows, hrows, outcome_eq_ok.1 ((expand_eq_outcome env hrows).symm.trans hok)⟩
    · rintro ⟨rows, hrows, hall⟩
      exact (expand_eq_outcome env hrows).trans (outcome_eq_ok.2 hall)

end Expansion

end RealmAccess
