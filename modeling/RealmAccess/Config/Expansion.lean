/-
RealmAccess.Config.Expansion — environment variables in a configuration text.

In each line a reference `${name}` is replaced by the value of the variable
`name`, up to the first `#`, from which on the line stands as it is. The
name reaches to the next closing brace and is not empty; it may hold a `#`
itself, and then nothing after it is replaced. A value is put in as it is
and not looked at again. The first reference without a value is an error.
-/
import RealmAccess.Environment
import RealmAccess.Text.Lines

namespace RealmAccess.Expansion

/-- Split a text at its first closing brace, if it has one. -/
def splitBrace : List Char → Option (List Char × List Char)
  | [] => none
  | '}' :: rest => some ([], rest)
  | c :: rest => (splitBrace rest).map fun (name, after) => (c :: name, after)

theorem length_of_splitBrace {cs name after : List Char} (h : splitBrace cs = some (name, after)) :
    after.length < cs.length := by
  fun_induction splitBrace cs generalizing name after with
  | case1 => simp at h
  | case2 rest => simp_all
  | case3 c rest _ ih =>
    obtain ⟨⟨n, a⟩, hn, heq⟩ := Option.map_eq_some_iff.1 h
    obtain ⟨rfl, rfl⟩ := Prod.mk.injEq .. ▸ heq
    exact Nat.lt_succ_of_lt (ih hn)

/-- A reference at the front of a text: its name and what follows. -/
def reference? : List Char → Option (List Char × List Char)
  | '$' :: '{' :: rest =>
    match splitBrace rest with
    | some (c :: name, after) => some (c :: name, after)
    | _ => none
  | _ => none

theorem length_of_reference {cs name after : List Char} (h : reference? cs = some (name, after)) :
    after.length < cs.length := by
  unfold reference? at h
  split at h
  · split at h
    · rename_i hs
      simp only [Option.some.injEq, Prod.mk.injEq] at h
      obtain ⟨-, rfl⟩ := h
      have := length_of_splitBrace hs
      simp
      omega
    · simp at h
  · simp at h

/-- The expansion of one line, or the name of the first variable without a value. -/
def expandLine (env : Environment) (line : List Char) : Except String (List Char) :=
  match line with
  | [] => .ok []
  | c :: rest =>
    if c = '#' then .ok (c :: rest)
    else
      match _ : reference? (c :: rest) with
      | none => (expandLine env rest).map (c :: ·)
      | some (name, after) =>
        match env.text? (String.ofList name) with
        | none => .error (String.ofList name)
        | some value =>
          if '#' ∈ name then .ok (value.toList ++ after)
          else (expandLine env after).map (value.toList ++ ·)
termination_by line.length
decreasing_by
  · simp
  · exact length_of_reference ‹_›

/-- The expansions of some lines. -/
def expandLines (env : Environment) : List (List Char) → Except String (List (List Char))
  | [] => .ok []
  | line :: rest =>
    match expandLine env line with
    | .error name => .error name
    | .ok line => (expandLines env rest).map (line :: ·)

/-- The expansion of a text, or the name of the first variable without a value. The lines are put
together again with line feeds, and the text ends with one if it did before. -/
def expand (env : Environment) (text : String) : Except String String :=
  (expandLines env (Text.lines text.toList)).map fun lines =>
    String.ofList (Text.unlines (Text.endsLine text.toList) lines)

end RealmAccess.Expansion
