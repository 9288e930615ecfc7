/-
RealmAccess.Proofs.Logging.Precedence — whose directives decide what is logged.

Directives come from three places: the variable, the configured filter and the
configured level. The variable replaces the other two. The filter is put after
the level in one text, and that must make the level the last resort and nothing
else: a level is a directive without a target, so every directive that is about
a target is as exact and comes later (`levels_ofLevel_append`).

What a filter lets through for a target is said without the fold that finds it:
by the directive that is most exact about the target and of those the last
(`Decides`). There is no other such directive, and there is one unless the
filter says nothing about the target (`settles_getD`).

Of the texts no more is used than what a reader of directives does with levels
and commas (`FilterReader.ReadsDirectives`); how a single directive is spelled
is left to the reader.
-/
import Mathlib.Data.List.Induction
import RealmAccess.Logging.Filter

namespace RealmAccess

/-- The levels that a threshold admits, gravest first. -/
def Threshold.levels (t : Threshold) : List Level := Level.all.filter t.admits

namespace Filter

/-! ## The directive that decides -/

/-- A directive of a filter decides for a target: it is about the target, no other that is about it
says so more exactly, and of those that are as exact it is the last. -/
def Decides (f : Filter) (target : String) (d : Directive) : Prop :=
  ∃ i : Nat, f[i]? = some d ∧ d.matchesTarget target = true ∧
    ∀ (j : Nat) (e : Directive), f[j]? = some e → e.matchesTarget target = true →
      e.reach < d.reach ∨ e.reach = d.reach ∧ j ≤ i

section

variable {f : Filter} {target : String} {d e : Directive}

/-- At most one directive decides. -/
theorem Decides.unique (hd : f.Decides target d) (he : f.Decides target e) : d = e := by
  obtain ⟨i, hi, hdmatch, hdbest⟩ := hd
  obtain ⟨j, hj, hematch, hebest⟩ := he
  have hij := hdbest j e hj hematch
  have hji := hebest i d hi hdmatch
  obtain rfl : i = j := by omega
  exact Option.some_inj.mp (hi.symm.trans hj)

theorem deciding?_concat :
    (f ++ [d]).deciding? target =
      if d.matchesTarget target then preferred (f.deciding? target) d else f.deciding? target := by
  by_cases h : d.matchesTarget target <;> simp [deciding?, List.filter_append, h]

theorem getElem?_concat_eq_some {i : Nat} (h : (f ++ [d])[i]? = some e) :
    f[i]? = some e ∨ i = f.length ∧ e = d := by
  rcases Nat.lt_or_ge i f.length with hlt | hge
  · rw [List.getElem?_append_left hlt] at h
    exact .inl h
  · have hle : i < (f ++ [d]).length := (List.getElem?_eq_some_iff.mp h).1
    obtain rfl : i = f.length := by simp at hle; omega
    exact .inr ⟨rfl, by simpa [eq_comm] using h⟩

/-- What comes after a filter changes what it decides only if it is as exact. -/
theorem Decides.concat (h : f.Decides target d)
    (hlast : e.matchesTarget target = true → e.reach < d.reach) : Decides (f ++ [e]) target d := by
  obtain ⟨i, hi, hmatch, hbest⟩ := h
  have hlt : i < f.length := (List.getElem?_eq_some_iff.mp hi).1
  refine ⟨i, by rw [List.getElem?_append_left hlt, hi], hmatch, fun j c hj hc => ?_⟩
  rcases getElem?_concat_eq_some hj with hj | ⟨-, rfl⟩
  · exact hbest j c hj hc
  · exact .inl (hlast hc)

/-- A last directive decides if none before it is more exact. -/
theorem decides_last (hmatch : d.matchesTarget target = true)
    (h : ∀ e ∈ f, e.matchesTarget target = true → e.reach ≤ d.reach) :
    Decides (f ++ [d]) target d := by
  refine ⟨f.length, by simp, hmatch, fun j c hj hc => ?_⟩
  rcases getElem?_concat_eq_some hj with hj | ⟨rfl, rfl⟩
  · have hlt : j < f.length := (List.getElem?_eq_some_iff.mp hj).1
    have hle := h c (List.mem_of_getElem? hj) hc
    omega
  · omega

theorem Decides.le (h : f.Decides target d) (he : e ∈ f) (hmatch : e.matchesTarget target = true) :
    e.reach ≤ d.reach := by
  obtain ⟨i, -, -, hbest⟩ := h
  obtain ⟨j, hj⟩ := List.mem_iff_getElem?.mp he
  have := hbest j e hj hmatch
  omega

/-- Nothing decides for a target that no directive is about. -/
theorem deciding?_eq_none :
    f.deciding? target = none ↔ ∀ d ∈ f, d.matchesTarget target = false := by
  induction f using List.reverseRecOn with
  | nil => simp [deciding?]
  | append_singleton f e ih =>
    rw [deciding?_concat]
    cases hmatch : e.matchesTarget target with
    | false => simp [ih, hmatch, or_imp, forall_and]
    | true =>
      have hsome : preferred (deciding? f target) e ≠ none := by
        cases deciding? f target with
        | none => simp [preferred]
        | some b =>
          rw [preferred]
          split <;> simp
      simp [hsome, hmatch]

/-- The directive that is found decides. -/
theorem decides_of_deciding? (h : f.deciding? target = some d) : f.Decides target d := by
  induction f using List.reverseRecOn generalizing d with
  | nil => simp [deciding?] at h
  | append_singleton f e ih =>
    rw [deciding?_concat] at h
    cases hmatch : e.matchesTarget target with
    | false =>
      simp only [hmatch, Bool.false_eq_true, if_false] at h
      exact (ih h).concat (by simp [hmatch])
    | true =>
      simp only [hmatch, if_true] at h
      cases hold : deciding? f target with
      | none =>
        obtain rfl : e = d := by simpa [hold, preferred] using h
        refine decides_last hmatch fun b hb hbmatch => ?_
        simp [deciding?_eq_none.mp hold b hb] at hbmatch
      | some b =>
        simp only [hold, preferred] at h
        split at h
        · rename_i hle
          obtain rfl : e = d := by simpa using h
          exact decides_last hmatch fun c hc hcmatch => Nat.le_trans ((ih hold).le hc hcmatch) hle
        · rename_i hlt
          obtain rfl : b = d := by simpa using h
          exact (ih hold).concat fun _ => by omega

/-- What a filter says about a target: the levels of the one directive that decides, or some other
levels where none is about the target. -/
def Settles (f : Filter) (target : String) (otherwise levels : List Level) : Prop :=
  (∃ d, f.Decides target d ∧ (∀ e, f.Decides target e → e = d) ∧ levels = d.threshold.levels) ∨
    (∀ d ∈ f, d.matchesTarget target = false) ∧ levels = otherwise

theorem settles_getD (f : Filter) (target : String) (otherwise : List Level) :
    f.Settles target otherwise
      (((f.deciding? target).map (·.threshold.levels)).getD otherwise) := by
  cases h : f.deciding? target with
  | none => exact .inr ⟨deciding?_eq_none.mp h, rfl⟩
  | some d =>
    have hd : f.Decides target d := decides_of_deciding? h
    exact .inl ⟨d, hd, fun e he => he.unique hd, rfl⟩

theorem levels_eq (f : Filter) (target : String) :
    f.levels target = ((f.deciding? target).map (·.threshold.levels)).getD [] := by
  unfold levels admits Threshold.levels
  cases f.deciding? target <;> simp

theorem settles_levels (f : Filter) (target : String) : f.Settles target [] (f.levels target) :=
  levels_eq f target ▸ settles_getD f target []

/-! ## A level before a filter -/

theorem foldl_preferred_some (b : Directive) (l : List Directive) :
    ∃ d, l.foldl preferred (some b) = some d := by
  induction l generalizing b with
  | nil => exact ⟨b, rfl⟩
  | cons e rest ih =>
    rw [List.foldl_cons, preferred]
    split
    · exact ih e
    · exact ih b

/-- A directive without a target that comes first yields to all others. -/
theorem foldl_preferred_global (threshold : Threshold) (l : List Directive) :
    l.foldl preferred (some ⟨none, threshold⟩) =
      some ((l.foldl preferred none).getD ⟨none, threshold⟩) := by
  cases l with
  | nil => rfl
  | cons e rest =>
    have hyields : preferred (some ⟨none, threshold⟩) e = some e := by simp [preferred, Directive.reach]
    obtain ⟨d, hd⟩ := foldl_preferred_some e rest
    rw [List.foldl_cons, List.foldl_cons, hyields]
    simp [preferred, hd]

/-- A level put before a filter is for the targets that the filter says nothing about. -/
theorem levels_ofLevel_append (level : Level) (f : Filter) (target : String) :
    levels (ofLevel level ++ f) target =
      ((f.deciding? target).map (·.threshold.levels)).getD (Threshold.levels (some level)) := by
  have hdeciding : deciding? (ofLevel level ++ f) target =
      some ((f.deciding? target).getD ⟨none, some level⟩) := by
    rw [ofLevel, List.singleton_append, deciding?, List.filter_cons_of_pos rfl, List.foldl_cons]
    exact foldl_preferred_global _ _
  rw [levels_eq, hdeciding]
  cases f.deciding? target <;> rfl

theorem settles_ofLevel_append (level : Level) (f : Filter) (target : String) :
    f.Settles target (Threshold.levels (some level)) (levels (ofLevel level ++ f) target) :=
  levels_ofLevel_append level f target ▸ settles_getD f target _

theorem levels_ofLevel (level : Level) (target : String) :
    levels (ofLevel level) target = Threshold.levels (some level) :=
  levels_ofLevel_append level [] target

end

end Filter

/-! ## Texts -/

/-- A reader of directives with commas between them. -/
structure FilterReader.ReadsDirectives (r : FilterReader) : Prop where
  /-- The name of a level is a directive about every target. -/
  strict_level : ∀ level : Level, r.strict level.smallName = some (.ofLevel level)
  /-- Texts with a comma between them are read one after the other, and both must be well-formed. -/
  strict_comma : ∀ a b, r.strict (a ++ "," ++ b) =
    (r.strict a).bind fun f => (r.strict b).map (f ++ ·)
  /-- Nothing is left out of a text that is well-formed. -/
  lenient_of_strict : ∀ text f, r.strict text = some f → f ≠ [] → r.lenient text = f

namespace Filter

theorem parts_ne_nil (cs : List Char) : parts cs ≠ [] := by
  fun_cases parts cs <;> simp_all

/-- Texts with a comma between them have the parts of both. -/
theorem parts_append_comma (a b : List Char) : parts (a ++ ',' :: b) = parts a ++ parts b := by
  induction a with
  | nil => simp [parts]
  | cons c a ih =>
    by_cases hc : c = ','
    · subst hc
      simp [parts, ih]
    · cases ha : parts a with
      | nil => exact absurd ha (parts_ne_nil a)
      | cons part more => simp [parts, ih, ha]

theorem ofParts?_append (a b : List (List Char)) :
    ofParts? (a ++ b) = (ofParts? a).bind fun f => (ofParts? b).map (f ++ ·) := by
  induction a with
  | nil => simp [ofParts?]
  | cons part rest ih =>
    rw [List.cons_append, ofParts?, ofParts?]
    split
    · exact ih
    · rw [ih]
      cases Directive.parse? part <;> cases ofParts? rest <;> cases ofParts? b <;> simp

/-- Where nothing is malformed nothing is left out. -/
theorem filterMap_of_ofParts? {ps : List (List Char)} {f : Filter} (h : ofParts? ps = some f) :
    ps.filterMap Directive.parse? = f := by
  induction ps generalizing f with
  | nil => simpa [ofParts?] using h
  | cons part rest ih =>
    rw [ofParts?] at h
    split at h
    · rename_i hempty
      obtain rfl : part = [] := by simpa using hempty
      rw [List.filterMap_cons_none rfl]
      exact ih h
    · obtain ⟨d, hd, h⟩ := Option.bind_eq_some_iff.mp h
      obtain ⟨g, hg, rfl⟩ := Option.map_eq_some_iff.mp h
      rw [List.filterMap_cons_some hd, ih hg]

end Filter

/-- The reader that settings are read with is one. -/
theorem FilterReader.directives_reads : directives.ReadsDirectives where
  strict_level level := by cases level <;> decide +kernel
  strict_comma a b := by
    simp only [directives, Filter.parse?]
    rw [← Filter.ofParts?_append, ← Filter.parts_append_comma]
    simp
  lenient_of_strict text f h hne := by
    have hf := Filter.filterMap_of_ofParts? h
    simp only [directives, hf]

/-! ## Main statement -/

namespace Filter

/-- **The variable goes before the settings, and in the settings the filter before the level.** If the
variable is set to a text, the levels of a target are those that its directives alone let through,
and if the text is malformed those of the configured level, whatever the configured filter. Without
the variable a well-formed filter settles the levels of the targets that it is about, and the
configured level those of all others; a malformed filter counts as none. -/
theorem settled_by_variable_or_settings (r : FilterReader) (hr : r.ReadsDirectives)
    (env : Environment) (s : LoggingSettings) (target : String) :
    let levels := (ofSettingsBy r env s).levels target
    let configured := Threshold.levels (some s.level)
    (∀ text, env.text? "RUST_LOG" = some text →
      (∀ f, r.strict text = some f → f.Settles target [] levels) ∧
      (r.strict text = none → levels = configured)) ∧
    (env.text? "RUST_LOG" = none →
      (∀ text, s.filter = some text →
        (∀ f, r.strict text = some f → f.Settles target configured levels) ∧
        (r.strict text = none → levels = configured)) ∧
      (s.filter = none → levels = configured)) := by
  intro levels configured
  have hname : env.text? variableName = env.text? "RUST_LOG" := rfl
  have hlevel : r.lenient s.level.smallName = ofLevel s.level :=
    hr.lenient_of_strict _ _ (hr.strict_level s.level) (by simp [ofLevel])
  have hconfigured : (ofLevel s.level).levels target = configured := levels_ofLevel s.level target
  refine ⟨fun text hset => ⟨?_, ?_⟩, fun hunset => ⟨fun text hfilter => ⟨?_, ?_⟩, ?_⟩⟩
  · intro f hread
    have hf : ofSettingsBy r env s = f := by simp [ofSettingsBy, hname, hset, hread]
    simpa only [levels, hf] using settles_levels f target
  · intro hmalformed
    simpa [levels, ofSettingsBy, hname, hset, hmalformed, hlevel] using hconfigured
  · intro f hread
    have hf : ofSettingsBy r env s = ofLevel s.level ++ f := by
      simp [ofSettingsBy, hname, hunset, hfilter, hr.strict_comma, hr.strict_level, hread]
    simpa only [levels, hf] using settles_ofLevel_append s.level f target
  · intro hmalformed
    have hf : ofSettingsBy r env s = ofLevel s.level := by
      simp [ofSettingsBy, hname, hunset, hfilter, hr.strict_comma, hr.strict_level, hmalformed, hlevel]
    simpa only [levels, hf] using hconfigured
  · intro hfilter
    simpa [levels, ofSettingsBy, hname, hunset, hfilter, hlevel] using hconfigured

/-- Of two directives for a target the later decides, a more exact one silences a part of it, and what
no directive is about has the configured level. -/
theorem jobs_silenced :
    let s : LoggingSettings :=
      { level := .warn, filter := some "realm_authz=debug,realm_authz::jobs=off,realm_authz=info" }
    FilterReader.directives.ReadsDirectives ∧
      (ofSettings ∅ s).levels "realm_authz::jobs" = [] ∧
      (ofSettings ∅ s).levels "realm_authz::authz" = [.error, .warn, .info] ∧
      (ofSettings ∅ s).levels "other" = [.error, .warn] ∧
      ∃ f, parse? "realm_authz=debug,realm_authz::jobs=off,realm_authz=info" = some f ∧
        f.Settles "realm_authz::authz" [.error, .warn] [.error, .warn, .info] := by
  intro s
  have hlevels : (ofSettings ∅ s).levels "realm_authz::authz" = [.error, .warn, .info] := by
    decide +kernel
  obtain ⟨f, hf⟩ : ∃ f, parse? "realm_authz=debug,realm_authz::jobs=off,realm_authz=info" = some f :=
    Option.isSome_iff_exists.mp (by decide +kernel)
  obtain ⟨-, hunset⟩ := settled_by_variable_or_settings .directives FilterReader.directives_reads ∅ s
    "realm_authz::authz"
  refine ⟨FilterReader.directives_reads, by decide +kernel, hlevels, by decide +kernel, f, hf, ?_⟩
  rw [← hlevels]
  exact ((hunset rfl).1 _ rfl).1 f hf

end Filter

end RealmAccess
