/-
RealmAccess.Proofs.Text.Lines — lines, and the rows between line feeds.

The rows of a text are what stands between its line feeds, so a text that ends
with a line feed has an empty last row; every row but the last loses a carriage
return at its end. `Text.lines` reads the text once, from the front, and leaves
an empty last row out. `rows_eq_lines` says that this is the only difference,
and `unlines_eq_intercalate` that leaving the row out is made good again when
the lines are put together: lines with a final break are rows with a line feed
between two of them.
-/
import RealmAccess.Text.Lines

namespace RealmAccess.Text

/-- The row without a carriage return at its end. -/
def dropReturn (row : List Char) : List Char :=
  if row.getLast? = some '\r' then row.dropLast else row

/-- The rows, where all but the last end at a line feed. -/
def chomp : List (List Char) → List (List Char)
  | [] => []
  | [last] => [last]
  | row :: more => dropReturn row :: chomp more

/-- What stands between the line feeds of a text, each time without the carriage return before the
line feed. -/
def rows (text : List Char) : List (List Char) := chomp (text.splitOn '\n')

/-! ## Rows from the front of a text -/

theorem chomp_cons {row : List Char} {more : List (List Char)} (h : more ≠ []) :
    chomp (row :: more) = dropReturn row :: chomp more := by
  cases more with
  | nil => exact absurd rfl h
  | cons next more => rfl

theorem dropReturn_cons {c : Char} {row : List Char} (h : c ≠ '\r' ∨ row ≠ []) :
    dropReturn (c :: row) = c :: dropReturn row := by
  unfold dropReturn
  cases row with
  | nil =>
    have hc : c ≠ '\r' := h.resolve_right (fun hne => hne rfl)
    simp [hc]
  | cons d row =>
    rw [List.getLast?_cons_cons, List.dropLast_cons_cons]
    split <;> rfl

theorem splitOn_lineFeed (rest : List Char) :
    ('\n' :: rest).splitOn '\n' = [] :: rest.splitOn '\n' := by
  simp [List.splitOn, List.splitOnP_cons_eq_if_modifyHead]

theorem splitOn_cons {c : Char} (hc : c ≠ '\n') (rest : List Char) :
    (c :: rest).splitOn '\n' = (rest.splitOn '\n').modifyHead (c :: ·) := by
  simp [List.splitOn, List.splitOnP_cons_eq_if_modifyHead, hc]

theorem rows_nil : rows [] = [[]] := by
  simp [rows, chomp]

theorem rows_lineFeed (rest : List Char) : rows ('\n' :: rest) = [] :: rows rest := by
  rw [rows, splitOn_lineFeed, chomp_cons (List.splitOn_ne_nil _ _)]
  rfl

theorem rows_returnLineFeed (rest : List Char) :
    rows ('\r' :: '\n' :: rest) = [] :: rows rest := by
  rw [rows, splitOn_cons (by decide), splitOn_lineFeed, List.modifyHead_cons,
    chomp_cons (List.splitOn_ne_nil _ _)]
  rfl

/-- An empty first row that is not the last was ended by a line feed. -/
theorem lineFeed_of_splitOn {text row : List Char} {more : List (List Char)}
    (h : text.splitOn '\n' = [] :: row :: more) : ∃ rest, text = '\n' :: rest := by
  cases text with
  | nil => simp at h
  | cons c rest =>
    by_cases hc : c = '\n'
    · exact ⟨rest, by rw [hc]⟩
    · rw [splitOn_cons hc] at h
      cases hsplit : rest.splitOn '\n' with
      | nil => exact absurd hsplit (List.splitOn_ne_nil _ _)
      | cons first others =>
        rw [hsplit, List.modifyHead_cons] at h
        cases h

/-- Any other character stands at the front of the first row. -/
theorem rows_cons {c : Char} {rest : List Char} (hc : c ≠ '\n')
    (hreturn : ∀ more, c = '\r' → rest ≠ '\n' :: more) :
    rows (c :: rest) = (rows rest).modifyHead (c :: ·) := by
  rw [rows, rows, splitOn_cons hc]
  cases hrows : rest.splitOn '\n' with
  | nil => exact absurd hrows (List.splitOn_ne_nil _ _)
  | cons row more =>
    cases more with
    | nil => rfl
    | cons next more =>
      have hrow : c ≠ '\r' ∨ row ≠ [] := by
        by_cases hempty : row = []
        · rw [hempty] at hrows
          obtain ⟨others, hrest⟩ := lineFeed_of_splitOn hrows
          exact .inl fun hcr => hreturn others hcr hrest
        · exact .inr hempty
      show dropReturn (c :: row) :: chomp (next :: more) = _
      rw [dropReturn_cons hrow]
      rfl

/-! ## Rows and lines -/

/-- What a text's rows have beyond its lines: an empty last one, if the text ends a line or has
none. -/
def emptyRow (text : List Char) : List (List Char) :=
  if text = [] ∨ endsLine text = true then [[]] else []

theorem emptyRow_cons (c : Char) {rest : List Char} (hrest : rest ≠ []) :
    emptyRow (c :: rest) = emptyRow rest := by
  obtain ⟨d, more, rfl⟩ := List.exists_cons_of_ne_nil hrest
  simp [emptyRow, endsLine]

theorem emptyRow_lineFeed (rest : List Char) : emptyRow ('\n' :: rest) = emptyRow rest := by
  cases rest <;> simp [emptyRow, endsLine]

theorem lines_eq_nil {text : List Char} : lines text = [] ↔ text = [] := by
  fun_cases lines text <;> simp [*]

/-- The rows of a text are its lines, and an empty last row where a line feed or nothing at all
comes before the end. -/
theorem rows_eq_lines (text : List Char) : rows text = lines text ++ emptyRow text := by
  fun_induction lines text with
  | case1 => exact rows_nil
  | case2 rest ih => rw [rows_lineFeed, ih, emptyRow_lineFeed, List.cons_append]
  | case3 rest ih =>
    rw [rows_returnLineFeed, ih, emptyRow_cons _ (List.cons_ne_nil _ _),
      emptyRow_lineFeed, List.cons_append]
  | case4 c rest hc hreturn hnil ih =>
    have hc' : c ≠ '\n' := fun heq => hc heq
    have hrest : rest = [] := lines_eq_nil.1 hnil
    subst hrest
    rw [rows_cons hc' (fun _ _ => (List.cons_ne_nil _ _).symm), rows_nil]
    simp [emptyRow, endsLine, hc']
  | case5 c rest hc hreturn line more hlines ih =>
    have hrest : rest ≠ [] := fun heq => by simp [lines_eq_nil.2 heq] at hlines
    rw [rows_cons hc hreturn, ih, hlines, emptyRow_cons c hrest]
    rfl

/-! ## Putting lines together -/

theorem unlines_of_ne_nil (finalBreak : Bool) {texts : List (List Char)} (h : texts ≠ []) :
    unlines finalBreak texts =
      ['\n'].intercalate (texts ++ if finalBreak = true then [[]] else []) := by
  induction texts with
  | nil => exact absurd rfl h
  | cons line more ih =>
    cases more with
    | nil => cases finalBreak <;> simp [unlines]
    | cons next more => simp [unlines, ih (List.cons_ne_nil _ _)]

/-- Texts for the lines of a text, put together as the lines were, are texts for its rows with a
line feed between two of them. -/
theorem unlines_eq_intercalate {text : List Char} {texts : List (List Char)}
    (h : texts.length = (lines text).length) :
    unlines (endsLine text) texts = ['\n'].intercalate (texts ++ emptyRow text) := by
  by_cases hempty : text = []
  · have htexts : texts = [] := by simpa [hempty, lines] using h
    simp [hempty, htexts, unlines, emptyRow]
  · have htexts : texts ≠ [] := by
      intro hnil
      exact hempty (lines_eq_nil.1 (List.length_eq_zero_iff.1 (by simp [← h, hnil])))
    rw [unlines_of_ne_nil _ htexts, emptyRow]
    simp only [hempty, false_or]

end RealmAccess.Text
