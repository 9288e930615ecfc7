/-
RealmAccess.Proofs.Config.Comment — what a `#` does to the expansion of a line.

The first `#` of a line is taken for the beginning of a comment, and no
reference that begins behind it is looked at. Two things follow that a reader
of configurations may not expect. The `#` is looked for without regard to
quotes, so it ends the expansion inside of a quoted value as well. And a
reference that begins before it is read to its closing brace, wherever that
stands: one that is still open at the `#` takes the comment for its name, up to
the comment's first closing brace.

  Open references — behind some `${` of a text there is no closing brace.
  Lines in parts  — `expandLine_append`: a part without an open reference is
                    expanded on its own. All else follows from this one.
  Comments        — inert, unless they close a reference.
  Quoted values   — expanded, unless a `#` comes before the reference.
-/
import RealmAccess.Proofs.Config.Expansion

namespace RealmAccess.Expansion

/-! ## Open references -/

/-- Behind every `${` of the text there is a closing brace. -/
def Closed (text : List Char) : Prop :=
  ∀ before name, text = before ++ '$' :: '{' :: name → '}' ∈ name

theorem closed_nil : Closed [] := by
  rintro before name heq
  simp at heq

/-- A text is closed if no open reference begins at its front and the rest of it is closed. -/
theorem closed_cons {c : Char} {rest : List Char} :
    Closed (c :: rest) ↔ (c = '$' ∧ rest.head? = some '{' → '}' ∈ rest) ∧ Closed rest := by
  constructor
  · intro h
    constructor
    · rintro ⟨rfl, hhead⟩
      obtain ⟨name, rfl⟩ := List.head?_eq_some_iff.1 hhead
      exact List.mem_cons_of_mem _ (h [] name rfl)
    · rintro before name rfl
      exact h (c :: before) name rfl
  · rintro ⟨hhere, hrest⟩ before name heq
    cases before with
    | nil =>
      obtain ⟨rfl, rfl⟩ := List.cons.inj heq
      simpa using hhere ⟨rfl, rfl⟩
    | cons d before => exact hrest before name (List.cons.inj heq).2

instance decidableClosed : (text : List Char) → Decidable (Closed text)
  | [] => .isTrue closed_nil
  | _ :: rest =>
    have := decidableClosed rest
    decidable_of_iff _ closed_cons.symm

theorem closed_of_not_mem {text : List Char} (h : '$' ∉ text) : Closed text := by
  rintro before name rfl
  simp at h

theorem Closed.of_append {front back : List Char} (h : Closed (front ++ back)) : Closed back := by
  rintro before name rfl
  exact h (front ++ before) name (List.append_assoc ..).symm

/-- A text that is not closed has a first reference that is open: what stands before it is
closed. -/
theorem exists_open {text : List Char} (h : ¬Closed text) :
    ∃ before name, text = before ++ '$' :: '{' :: name ∧ Closed before ∧ '}' ∉ name := by
  induction text with
  | nil => exact absurd closed_nil h
  | cons c rest ih =>
    by_cases hhere : c = '$' ∧ rest.head? = some '{' → '}' ∈ rest
    · have hrest : ¬Closed rest := fun hrest => h (closed_cons.2 ⟨hhere, hrest⟩)
      obtain ⟨before, name, rfl, hbefore, hname⟩ := ih hrest
      refine ⟨c :: before, name, rfl, closed_cons.2 ⟨?_, hbefore⟩, hname⟩
      rintro ⟨hc, hhead⟩
      have hbrace : '}' ∈ before ++ '$' :: '{' :: name :=
        hhere ⟨hc, by rw [List.head?_append, hhead]; rfl⟩
      simpa [hname] using hbrace
    · obtain ⟨⟨rfl, hhead⟩, hbrace⟩ := Classical.not_imp.1 hhere
      obtain ⟨name, rfl⟩ := List.head?_eq_some_iff.1 hhead
      exact ⟨[], name, rfl, closed_nil, by simpa using hbrace⟩

/-! ## Lines in parts -/

/-- Without a dollar sign or without a closing brace there is no reference. -/
theorem reference?_of_not_mem {text : List Char} (h : '$' ∉ text ∨ '}' ∉ text) :
    reference? text = none := by
  rw [reference?_eq_none]
  rintro name after - rfl
  simp [braced] at h

theorem expandLine_of_not_mem (env : Environment) {text : List Char}
    (h : '$' ∉ text ∨ '}' ∉ text) : expandLine env text = .ok text := by
  induction text with
  | nil => rw [expandLine]
  | cons c rest ih =>
    by_cases hc : c = '#'
    · rw [hc, expandLine_hash]
    · have hrest : '$' ∉ rest ∨ '}' ∉ rest :=
        h.imp (fun hd hmem => hd (List.mem_cons_of_mem _ hmem))
          (fun hb hmem => hb (List.mem_cons_of_mem _ hmem))
      rw [expandLine_plain env hc (reference?_of_not_mem h), ih hrest]
      rfl

/-- What follows a closed text makes no reference of its beginning. -/
theorem reference?_append {c : Char} {text rest : List Char} (hclosed : Closed (c :: text))
    (hrest : rest.head? ≠ some '{') (hnone : reference? (c :: text) = none) :
    reference? (c :: (text ++ rest)) = none := by
  rw [reference?_eq_none] at hnone ⊢
  intro name after hname heq
  simp only [braced, List.cons_append, List.append_assoc, List.nil_append, List.cons.injEq] at heq
  obtain ⟨rfl, heq⟩ := heq
  cases text with
  | nil => simp_all
  | cons d text =>
    rw [List.cons_append] at heq
    obtain ⟨rfl, htail⟩ := List.cons.inj heq
    have hbrace : '}' ∈ text := hclosed [] text rfl
    -- The name ends at the first brace behind it, and the text has one.
    rcases List.append_eq_append_iff.1 htail with ⟨inner, rfl, -⟩ | ⟨inner, rfl, hinner⟩
    · exact hname.2 (List.mem_append_left _ hbrace)
    · cases inner with
      | nil => exact hname.2 (by simpa using hbrace)
      | cons e inner =>
        obtain ⟨rfl, -⟩ := List.cons.inj hinner
        exact hnone name inner hname (by simp [braced])

/-- **A closed part of a line is expanded on its own**, if no `#` stands in it and the rest of the
line does not put a brace behind its last character. -/
theorem expandLine_append (env : Environment) {text rest : List Char} (hclosed : Closed text)
    (hhash : '#' ∉ text) (hrest : rest.head? ≠ some '{') :
    expandLine env (text ++ rest) =
      (expandLine env text).bind fun out => (expandLine env rest).map (out ++ ·) := by
  obtain ⟨pieces, hcut⟩ := exists_cut text
  induction hcut with
  | nil =>
    rw [expandLine_of_not_mem env (.inl List.not_mem_nil), List.nil_append]
    cases expandLine env rest <;> rfl
  | @reference name text pieces hname hcut ih =>
    have hhash' : '#' ∉ name := fun h => hhash (List.mem_append_left _ (hash_mem_braced.2 h))
    have htext : '#' ∉ text := fun h => hhash (List.mem_append_right _ h)
    rw [List.append_assoc, expandLine_reference env hname, expandLine_reference env hname]
    cases env.text? (String.ofList name) with
    | none => rfl
    | some value =>
      simp only [if_neg hhash', ih hclosed.of_append htext]
      cases expandLine env text with
      | error missing => rfl
      | ok out => cases expandLine env rest <;> simp [Except.map, Except.bind]
  | @plain c text pieces hnone hcut ih =>
    have hc : c ≠ '#' := fun h => hhash (h ▸ List.mem_cons_self)
    have htext : '#' ∉ text := fun h => hhash (List.mem_cons_of_mem _ h)
    have hhere : reference? (c :: text) = none := reference?_eq_none.2 hnone
    rw [List.cons_append, expandLine_plain env hc (reference?_append hclosed hrest hhere),
      expandLine_plain env hc hhere, ih (closed_cons.1 hclosed).2 htext]
    cases expandLine env text with
    | error missing => rfl
    | ok out => cases expandLine env rest <;> rfl

/-- What stays as it is on its own does so behind a closed part. -/
theorem expandLine_append_of_fixed {env : Environment} {text rest : List Char}
    (hclosed : Closed text) (hhash : '#' ∉ text) (hrest : rest.head? ≠ some '{')
    (hfixed : expandLine env rest = .ok rest) :
    expandLine env (text ++ rest) = (expandLine env text).map (· ++ rest) := by
  rw [expandLine_append env hclosed hhash hrest, hfixed]
  cases expandLine env text <;> rfl

/-- A reference with nothing but plain text around it is replaced, and nothing else is. -/
theorem expandLine_surrounded (env : Environment) {front name back : List Char}
    (hname : IsName name) (hhash : '#' ∉ front ++ name) (hfront : '$' ∉ front)
    (hback : '$' ∉ back) :
    expandLine env (front ++ (braced name ++ back)) =
      match env.text? (String.ofList name) with
      | none => .error (String.ofList name)
      | some value => .ok (front ++ (value.toList ++ back)) := by
  rw [List.mem_append, not_or] at hhash
  rw [expandLine_append env (closed_of_not_mem hfront) hhash.1 (by simp [braced]),
    expandLine_of_not_mem env (.inl hfront), expandLine_reference env hname]
  cases env.text? (String.ofList name) with
  | none => rfl
  | some value =>
    simp only [if_neg hhash.2, expandLine_of_not_mem env (.inl hback)]
    rfl

/-- A text without line feeds is one line. -/
theorem expand_line (env : Environment) {line : List Char} (h : '\n' ∉ line) :
    expand env (String.ofList line) = (expandLine env line).map String.ofList := by
  have hrows : Text.rows line = [line] := by
    rw [Text.rows, List.splitOn_eq_singleton h]
    rfl
  rw [expand_eq_rows, String.toList_ofList, hrows, expandLines, expandLines]
  cases expandLine env line with
  | error name => rfl
  | ok out => simp [Except.map]

/-- What a line keeps behind a text is kept behind the text's expansion. -/
theorem expand_append {env : Environment} {text rest : List Char} (htext : '\n' ∉ text)
    (hrest : '\n' ∉ rest)
    (hkept : expandLine env (text ++ rest) = (expandLine env text).map (· ++ rest)) :
    expand env (String.ofList (text ++ rest)) =
      (expand env (String.ofList text)).map (· ++ String.ofList rest) := by
  have hline : '\n' ∉ text ++ rest := by simp [htext, hrest]
  rw [expand_line env hline, expand_line env htext, hkept]
  cases expandLine env text with
  | error missing => rfl
  | ok out => simp [Except.map]

/-! ## Comments -/

/-- A comment stays as it is, if no reference is open where it begins or none is closed by it. -/
theorem expandLine_comment (env : Environment) {text comment : List Char} (hhash : '#' ∉ text)
    (h : Closed text ∨ '}' ∉ comment) :
    expandLine env (text ++ '#' :: comment) =
      (expandLine env text).map (· ++ '#' :: comment) := by
  by_cases hclosed : Closed text
  · exact expandLine_append_of_fixed hclosed hhash (by simp) (expandLine_hash env comment)
  · have hcomment : '}' ∉ comment := h.resolve_left hclosed
    obtain ⟨before, name, rfl, hbefore, hname⟩ := exists_open hclosed
    have hhash' : '#' ∉ before := fun h => hhash (List.mem_append_left _ h)
    have hopen : '}' ∉ '$' :: '{' :: name := by simp [hname]
    have hall : '}' ∉ '$' :: '{' :: name ++ '#' :: comment := by simp [hname, hcomment]
    rw [List.append_assoc,
      expandLine_append_of_fixed hbefore hhash' (by simp) (expandLine_of_not_mem env (.inr hall)),
      expandLine_append_of_fixed hbefore hhash' (by simp) (expandLine_of_not_mem env (.inr hopen))]
    cases expandLine env before with
    | error missing => rfl
    | ok out => simp [Except.map]

/-- An open reference reaches into the comment, to its first closing brace, and what stands behind
that is left. -/
theorem expandLine_open (env : Environment) {before name label : List Char} (rest : List Char)
    (hbefore : Closed before) (hhash : '#' ∉ before) (hname : '}' ∉ name) (hlabel : '}' ∉ label) :
    expandLine env (before ++ '$' :: '{' :: (name ++ '#' :: (label ++ '}' :: rest))) =
      (expandLine env before).bind fun out =>
        match env.text? (String.ofList (name ++ '#' :: label)) with
        | none => .error (String.ofList (name ++ '#' :: label))
        | some value => .ok (out ++ value.toList ++ rest) := by
  have hreference : IsName (name ++ '#' :: label) := ⟨by simp, by simp [hname, hlabel]⟩
  have hbraced : '$' :: '{' :: (name ++ '#' :: (label ++ '}' :: rest)) =
      braced (name ++ '#' :: label) ++ rest := by simp [braced]
  rw [hbraced, expandLine_append env hbefore hhash (by simp [braced]),
    expandLine_reference env hreference]
  cases expandLine env before with
  | error missing => rfl
  | ok out =>
    simp only [Except.bind]
    cases env.text? (String.ofList (name ++ '#' :: label)) with
    | none => rfl
    | some value => simp [Except.map]

/-- **A comment is inert unless it closes a reference.** If every reference before the first `#` of
a line has its closing brace there, or the comment has none, then the line fails just as its text
before the `#` does, and otherwise becomes what the text becomes, followed by the comment. In all
other cases a reference is open where the comment begins, the first such reaches to the first brace
of the comment, and its name is what stands between, the `#` included. -/
theorem comment_inert_unless_closing (env : Environment) {text comment : List Char}
    (hhash : '#' ∉ text) (htext : '\n' ∉ text) (hcomment : '\n' ∉ comment) :
    (Closed text ∨ '}' ∉ comment →
      expand env (String.ofList (text ++ '#' :: comment)) =
        (expand env (String.ofList text)).map (· ++ String.ofList ('#' :: comment))) ∧
    (¬(Closed text ∨ '}' ∉ comment) →
      ∃ before name label rest, Closed before ∧ '}' ∉ name ∧ '}' ∉ label ∧
        text = before ++ '$' :: '{' :: name ∧ comment = label ++ '}' :: rest ∧
        expand env (String.ofList text) =
          (expand env (String.ofList before)).map (· ++ String.ofList ('$' :: '{' :: name)) ∧
        expand env (String.ofList (text ++ '#' :: comment)) =
          (expand env (String.ofList before)).bind fun out =>
            match env.text? (String.ofList (name ++ '#' :: label)) with
            | none => .error (String.ofList (name ++ '#' :: label))
            | some value => .ok (out ++ value ++ String.ofList rest)) := by
  constructor
  · intro hinert
    have hcomment' : '\n' ∉ '#' :: comment := by simp [hcomment]
    exact expand_append htext hcomment' (expandLine_comment env hhash hinert)
  · intro hcloses
    obtain ⟨hopen, hbrace⟩ := not_or.1 hcloses
    obtain ⟨before, name, rfl, hbefore, hname⟩ := exists_open hopen
    obtain ⟨label, rest, rfl, hlabel⟩ := List.eq_append_cons_of_mem (Decidable.not_not.1 hbrace)
    obtain ⟨hhash', -⟩ : '#' ∉ before ∧ _ := not_or.1 (mt List.mem_append.2 hhash)
    obtain ⟨htext', hname'⟩ : '\n' ∉ before ∧ '\n' ∉ '$' :: '{' :: name :=
      not_or.1 (mt List.mem_append.2 htext)
    refine ⟨before, name, label, rest, hbefore, hname, hlabel, rfl, rfl, ?_, ?_⟩
    · have hfixed : expandLine env ('$' :: '{' :: name) = .ok ('$' :: '{' :: name) :=
        expandLine_of_not_mem env (.inr (by simp [hname]))
      exact expand_append htext' hname'
        (expandLine_append_of_fixed hbefore hhash' (by simp) hfixed)
    · have hline : '\n' ∉ before ++ '$' :: '{' :: (name ++ '#' :: (label ++ '}' :: rest)) := by
        simp_all
      rw [List.append_assoc, List.cons_append, List.cons_append, expand_line env hline,
        expand_line env htext', expandLine_open env rest hbefore hhash' hname hlabel]
      cases expandLine env before with
      | error missing => rfl
      | ok out =>
        simp only [Except.map, Except.bind]
        cases env.text? (String.ofList (name ++ '#' :: label)) with
        | none => rfl
        | some value => simp [String.append_assoc]

/-- A brace in a comment closes a reference: the text before the comment is expanded to itself, and
with the comment behind it a variable is asked for, by a name that holds the `#`. -/
theorem comment_closes_reference :
    expand ∅ "authorization.primary_realm = \"$\x7bA\" " =
        .ok "authorization.primary_realm = \"$\x7bA\" " ∧
      expand ∅ "authorization.primary_realm = \"$\x7bA\" # \x7d" = .error "A\" # " := by
  constructor <;> cbv

/-- The environment whose only variable is `A`, with the value `root`. -/
def rootAlone : Environment := (∅ : Environment).set "A" "root".toUTF8

theorem find?_rootAlone : rootAlone.values.find? "A" = some "root".toUTF8 :=
  Environment.find?_set ∅ "A" _

/-- Behind a value a comment may name a variable that is not set. -/
theorem comment_after_value_inert :
    '#' ∉ "realm = \"$\x7bA\x7d\" ".toList ∧ '\n' ∉ "realm = \"$\x7bA\x7d\" ".toList ∧
      '\n' ∉ " not $\x7bB\x7d".toList ∧ Closed "realm = \"$\x7bA\x7d\" ".toList ∧
      expand rootAlone (String.ofList
          ("realm = \"$\x7bA\x7d\" ".toList ++ '#' :: " not $\x7bB\x7d".toList)) =
        .ok "realm = \"root\" # not $\x7bB\x7d" := by
  have hhash : '#' ∉ "realm = \"$\x7bA\x7d\" ".toList := by decide
  have htext : '\n' ∉ "realm = \"$\x7bA\x7d\" ".toList := by decide
  have hcomment : '\n' ∉ " not $\x7bB\x7d".toList := by decide
  have hclosed : Closed "realm = \"$\x7bA\x7d\" ".toList := by decide
  have hvalue : expandLine rootAlone "realm = \"$\x7bA\x7d\" ".toList =
      .ok "realm = \"root\" ".toList := by
    have hparts : "realm = \"$\x7bA\x7d\" ".toList =
        "realm = \"".toList ++ (braced ['A'] ++ "\" ".toList) := by decide
    rw [hparts, expandLine_surrounded rootAlone (by simp [IsName]) (by decide) (by decide)
      (by decide), rootAlone.text?_eq_some.2 find?_rootAlone]
    rfl
  refine ⟨hhash, htext, hcomment, hclosed, ?_⟩
  rw [(comment_inert_unless_closing rootAlone hhash htext hcomment).1 (.inl hclosed),
    expand_line rootAlone htext, hvalue]
  rfl

/-! ## Quoted values -/

/-- The line that gives a key a value in double quotes. -/
def assignment (key value : List Char) : List Char :=
  key ++ ' ' :: '=' :: ' ' :: '"' :: (value ++ ['"'])

theorem assignment_append (key front rest : List Char) :
    assignment key (front ++ rest) =
      (key ++ ' ' :: '=' :: ' ' :: '"' :: front) ++ (rest ++ ['"']) := by
  simp [assignment]

/-- Behind a `#` nothing is replaced, if no reference begins before it. -/
theorem expandLine_of_hash_mem (env : Environment) {front : List Char} (rest : List Char)
    (hhash : '#' ∈ front) (hfront : '$' ∉ front) :
    expandLine env (front ++ rest) = .ok (front ++ rest) := by
  obtain ⟨before, comment, rfl, hbefore⟩ := List.eq_append_cons_of_mem hhash
  have hdollar : '$' ∉ before := fun h => hfront (List.mem_append_left _ h)
  rw [List.append_assoc, List.cons_append,
    expandLine_append_of_fixed (closed_of_not_mem hdollar) hbefore (by simp)
      (expandLine_hash env _), expandLine_of_not_mem env (.inl hdollar)]
  rfl

/-- **A reference in a quoted value is replaced, unless a `#` comes before it in the value.** Then
the line stays as it is, whatever the environment. Of the characters around the reference only the
dollar sign and the line feed are excluded, and `#` in the key and the name. -/
theorem quoted_reference_expanded (env : Environment) {key front name back : List Char}
    (hkey : '#' ∉ key ∧ '$' ∉ key ∧ '\n' ∉ key)
    (hname : IsName name ∧ '#' ∉ name ∧ '\n' ∉ name)
    (hfront : '$' ∉ front ∧ '\n' ∉ front) (hback : '$' ∉ back ∧ '\n' ∉ back) :
    let line := String.ofList (assignment key (front ++ (braced name ++ back)))
    ('#' ∉ front →
      (∀ value : String, env.values.find? (String.ofList name) = some value.toUTF8 →
        expand env line =
          .ok (String.ofList (assignment key (front ++ (value.toList ++ back))))) ∧
      (env.Lacks (String.ofList name) → expand env line = .error (String.ofList name))) ∧
    ('#' ∈ front → expand env line = .ok line) := by
  intro line
  have hline : '\n' ∉ assignment key (front ++ (braced name ++ back)) := by
    simp [assignment, braced, hkey, hname, hfront, hback]
  have hdollar : '$' ∉ key ++ ' ' :: '=' :: ' ' :: '"' :: front := by simp [hkey, hfront]
  refine ⟨?_, ?_⟩
  · intro hhash
    have hhash' : '#' ∉ (key ++ ' ' :: '=' :: ' ' :: '"' :: front) ++ name := by
      simp [hkey, hname, hhash]
    have hback' : '$' ∉ back ++ ['"'] := by simp [hback]
    have hexpand := expandLine_surrounded env hname.1 hhash' hdollar hback'
    rw [← List.append_assoc (braced name), ← assignment_append] at hexpand
    refine ⟨?_, ?_⟩
    · intro value hvalue
      rw [env.text?_eq_some.2 hvalue] at hexpand
      rw [expand_line env hline, hexpand, assignment_append, List.append_assoc value.toList]
      rfl
    · intro hlacks
      rw [env.text?_eq_none.2 hlacks] at hexpand
      rw [expand_line env hline, hexpand]
      rfl
  · intro hhash
    have hhash' : '#' ∈ key ++ ' ' :: '=' :: ' ' :: '"' :: front := by simp [hhash]
    rw [expand_line env hline, assignment_append, expandLine_of_hash_mem env _ hhash' hdollar,
      ← assignment_append]
    rfl

/-- In a quoted value a `#` hides a reference behind it: the variable's value is not put in if it is
set, and not missed if it is not. -/
theorem hash_in_quotes_hides_reference :
    let line := String.ofList (assignment "realm".toList ("no#".toList ++ (braced ['A'] ++ [])))
    rootAlone.values.find? "A" = some "root".toUTF8 ∧
      expand rootAlone line = .ok line ∧ line ≠ "realm = \"no#root\"" ∧
      (∅ : Environment).Lacks "A" ∧ expand ∅ line = .ok line := by
  intro line
  have hkept : ∀ env, expand env line = .ok line := by
    intro env
    rw [expand_line env (by decide), assignment_append,
      expandLine_of_hash_mem env _ (by decide) (by decide)]
    rfl
  exact ⟨find?_rootAlone, hkept rootAlone, by decide, (Environment.text?_eq_none ∅).1 rfl, hkept ∅⟩

/-- A reference is replaced between a brace and a `#`. -/
theorem reference_before_hash_expanded :
    ('#' ∉ "realm".toList ∧ '$' ∉ "realm".toList ∧ '\n' ∉ "realm".toList) ∧
      (IsName ['A'] ∧ '#' ∉ ['A'] ∧ '\n' ∉ ['A']) ∧ ('$' ∉ ['}'] ∧ '\n' ∉ ['}']) ∧
      ('$' ∉ ['#'] ∧ '\n' ∉ ['#']) ∧ rootAlone.values.find? "A" = some "root".toUTF8 ∧
      expand rootAlone (String.ofList
          (assignment "realm".toList (['}'] ++ (braced ['A'] ++ ['#'])))) =
        .ok "realm = \"\x7droot#\"" := by
  have hkey : '#' ∉ "realm".toList ∧ '$' ∉ "realm".toList ∧ '\n' ∉ "realm".toList := by decide
  have hname : IsName ['A'] ∧ '#' ∉ ['A'] ∧ '\n' ∉ ['A'] := by simp [IsName]
  have hfront : '$' ∉ ['}'] ∧ '\n' ∉ ['}'] := by decide
  have hback : '$' ∉ ['#'] ∧ '\n' ∉ ['#'] := by decide
  refine ⟨hkey, hname, hfront, hback, find?_rootAlone, ?_⟩
  rw [((quoted_reference_expanded rootAlone hkey hname hfront hback).1 (by decide)).1 "root"
    find?_rootAlone]
  rfl

end RealmAccess.Expansion
