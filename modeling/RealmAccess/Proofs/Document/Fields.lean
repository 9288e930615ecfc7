/-
RealmAccess.Proofs.Document.Fields — what a record makes of its fields: known
and unknown ones, nulls, and fields left out.

A table is read entry by entry, so what one entry does settles what it does
among others. An entry that cannot be read spoils the record, entries that read
alike may stand for each other, and entries that read as nothing may be left
out. The last holds of unknown keys in a lenient record, whatever has been read
before them. It holds of nulls too where null is a value of the field, but there
only because the field is still blank when its null is read: that is carried
along as the invariant of `readNamed_filter`.
-/
import Mathlib.Data.List.Find
import RealmAccess.Proofs.Document.Layout
import RealmAccess.Proofs.Document.Places

namespace RealmAccess

open Document

namespace Record

variable {σ α : Type} {r : Record σ} {format : Format}

/-! ## Entry by entry -/

theorem readNamed_cons (e : String × Document) (rest : List (String × Document)) (s : σ) :
    r.readNamed format (e :: rest) s =
      (r.readNamed format [e] s).bind (r.readNamed format rest) := by
  simp only [readNamed]
  cases r.field? e.1 with
  | some field => cases h : field.read format e.2 s <;> simp [h, Except.bind]
  | none => cases r.lenient <;> simp [Except.bind]

/-- One entry that cannot be read is enough. -/
theorem readNamed_error {e : String × Document} {given : List (String × Document)} (he : e ∈ given)
    (h : ∀ s, ∃ cause, r.readNamed format [e] s = .error cause) (s : σ) :
    ∃ cause, r.readNamed format given s = .error cause := by
  induction given generalizing s with
  | nil => cases he
  | cons first rest ih =>
    rw [readNamed_cons]
    rcases List.mem_cons.mp he with rfl | he
    · obtain ⟨cause, hcause⟩ := h s
      exact ⟨cause, by rw [hcause]; rfl⟩
    · cases r.readNamed format [first] s with
      | error cause => exact ⟨cause, rfl⟩
      | ok t => exact ih he t

theorem decode_refuses {e : String × Document} {fields : List (String × Document)}
    (he : e ∈ fields) (h : ∀ s, ∃ cause, r.readNamed format [e] s = .error cause) :
    r.decode.Refuses format (.table fields) := by
  obtain ⟨cause, hcause⟩ := readNamed_error (mem_sortFields.mpr he) h r.blank
  exact ⟨cause, by simp only [decode, fields?, decodeTable, hcause]⟩

/-- Entries that are read alike one by one are read alike. -/
theorem readNamed_map {g : String × Document → String × Document}
    {given : List (String × Document)}
    (h : ∀ e ∈ given, ∀ s, r.readNamed format [g e] s = r.readNamed format [e] s) (s : σ) :
    r.readNamed format (given.map g) s = r.readNamed format given s := by
  induction given generalizing s with
  | nil => rfl
  | cons first rest ih =>
    rw [List.map_cons, readNamed_cons, readNamed_cons first, h first List.mem_cons_self]
    cases r.readNamed format [first] s with
    | error cause => rfl
    | ok t => exact ih (fun e he => h e (List.mem_cons_of_mem _ he)) t

/-- Entries may be left out if each of them reads as nothing, as long as what has been read so far
is good and stays good. -/
theorem readNamed_filter {keep : String → Bool} {good : σ → Prop}
    {given : List (String × Document)}
    (hgood : ∀ e ∈ given, ∀ s t, good s → r.readNamed format [e] s = .ok t → good t)
    (h : ∀ e ∈ given, keep e.1 = false → ∀ s, good s → r.readNamed format [e] s = .ok s)
    {s : σ} (hs : good s) :
    r.readNamed format (given.filter fun e => keep e.1) s = r.readNamed format given s := by
  induction given generalizing s with
  | nil => rfl
  | cons first rest ih =>
    have hrest : ∀ {t}, good t →
        r.readNamed format (rest.filter fun e => keep e.1) t = r.readNamed format rest t :=
      fun ht => ih (fun e he => hgood e (List.mem_cons_of_mem _ he))
        (fun e he => h e (List.mem_cons_of_mem _ he)) ht
    rw [readNamed_cons first, List.filter_cons]
    cases hkeep : keep first.1 with
    | false =>
      rw [h first List.mem_cons_self hkeep s hs]
      exact hrest hs
    | true =>
      rw [if_pos rfl, readNamed_cons]
      cases hfirst : r.readNamed format [first] s with
      | error cause => rfl
      | ok t => exact hrest (hgood first List.mem_cons_self s t hs hfirst)

/-- Names that are not required are not missed. -/
theorem missing?_filter {keep : String → Bool} {given : List (String × Document)}
    (h : ∀ field ∈ r.fields, keep field.name = false → field.required = false) :
    r.missing? ((given.filter fun e => keep e.1).map (·.1)) = r.missing? (given.map (·.1)) := by
  refine congrArg (Option.map _) (List.find?_congr fun field hfield => ?_)
  cases hkeep : keep field.name with
  | false => simp [h field hfield hkeep]
  | true =>
    have hmem : field.name ∈ (given.filter fun e => keep e.1).map (·.1) ↔
        field.name ∈ given.map (·.1) := by
      simp [hkeep]
    simp only [List.contains_eq_mem, hmem]

theorem decode_filter (keep : String → Bool) (good : σ → Prop) {fields : List (String × Document)}
    (hgood : ∀ e ∈ fields, ∀ s t, good s → r.readNamed format [e] s = .ok t → good t)
    (h : ∀ e ∈ fields, keep e.1 = false → ∀ s, good s → r.readNamed format [e] s = .ok s)
    (hblank : good r.blank)
    (hspared : ∀ field ∈ r.fields, keep field.name = false → field.required = false) :
    r.decode format (.table (fields.filter fun e => keep e.1)) = r.decode format (.table fields) := by
  have hread := readNamed_filter (fun e he => hgood e (mem_sortFields.mp he))
    (fun e he => h e (mem_sortFields.mp he)) hblank
  simp only [decode, fields?, decodeTable, sortFields_filter, hread, missing?_filter hspared]

/-! ## Item by item -/

section

variable {field : Field σ} {fields : List (Field σ)} {items : List Document} {position : Nat}

theorem readItems_error {d : Document} (hfield : fields[position]? = some field)
    (hd : items[position]? = some d) (h : ∀ s, ∃ cause, field.read format d s = .error cause)
    (index : Nat) (s : σ) : ∃ cause, r.readItems format fields items index s = .error cause := by
  induction fields generalizing items position index s with
  | nil => cases hfield
  | cons first rest ih =>
    cases items with
    | nil => cases hd
    | cons item items =>
      rw [readItems]
      cases hread : first.read format item s with
      | error cause => exact ⟨cause, rfl⟩
      | ok t =>
        cases position with
        | zero =>
          cases hfield
          cases hd
          obtain ⟨cause, hcause⟩ := h s
          cases hread.symm.trans hcause
        | succ position => exact ih hfield hd (index + 1) t

theorem readItems_modify {f : Document → Document} (hfield : fields[position]? = some field)
    (h : ∀ d, items[position]? = some d → ∀ s, field.read format (f d) s = field.read format d s)
    (index : Nat) (s : σ) :
    r.readItems format fields (items.modify position f) index s =
      r.readItems format fields items index s := by
  induction fields generalizing items position index s with
  | nil => cases hfield
  | cons first rest ih =>
    cases items with
    | nil => rw [List.modify_nil]
    | cons item items =>
      cases position with
      | zero =>
        cases hfield
        rw [List.modify_zero_cons, readItems, readItems, h item rfl]
      | succ position =>
        rw [List.modify_succ_cons, readItems, readItems]
        cases first.read format item s with
        | error cause => rfl
        | ok t => exact ih hfield h (index + 1) t

end

/-! ## Fields -/

theorem readNamed_reviseEntry {field : Field σ} (hname : r.field? field.name = some field)
    {f : Document → Document} {e : String × Document}
    (h : e.1 = field.name → ∀ s, field.read format (f e.2) s = field.read format e.2 s) (s : σ) :
    r.readNamed format [reviseEntry field.name f e] s = r.readNamed format [e] s := by
  by_cases hkey : e.1 = field.name
  · simp only [reviseEntry, readNamed, hkey, if_true, hname, h hkey]
  · simp only [reviseEntry, if_neg hkey]

/-- A record reads a field by the decoder of the field's values. -/
theorem reads_field {field : Field σ} {position : Nat} {item : Decoder α} {set : σ → α → σ}
    (hname : r.field? field.name = some field) (hposition : r.fields[position]? = some field)
    (hread : ∀ format d s, field.read format d s = (item format d).map (set s)) :
    r.decode.Reads [.field field.name position] item := by
  refine .of_step ?refuses ?congr
  case refuses =>
    intro format d part hpart ⟨cause, hcause⟩
    have herror : ∀ s, field.read format part s = .error cause := fun s => by
      rw [hread, hcause, Except.map]
    cases d with
    | table fields =>
      obtain ⟨e, he, rfl⟩ := List.mem_map.mp hpart
      obtain ⟨hmem, hkey⟩ := List.mem_filter.mp he
      refine decode_refuses hmem fun s => ⟨cause, ?_⟩
      simp only [readNamed, of_decide_eq_true hkey, hname, herror]
    | list items =>
      exact readItems_error hposition (Option.mem_toList.mp hpart) (fun s => ⟨cause, herror s⟩) 0 _
    | _ => cases hpart
  case congr =>
    intro format d f h
    have hparts : ∀ part ∈ Step.parts (.field field.name position) d, ∀ s,
        field.read format (f part) s = field.read format part s := fun part hpart s => by
      rw [hread, hread, h part hpart]
    cases d with
    | table fields =>
      have hentry : ∀ e ∈ sortFields fields, ∀ s,
          r.readNamed format [reviseEntry field.name f e] s = r.readNamed format [e] s :=
        fun e he => readNamed_reviseEntry hname fun hkey =>
          hparts e.2 (mem_values (mem_sortFields.mp he) hkey)
      simp only [decode, Step.revise, fields?, decodeTable, sortFields_reviseEntry,
        readNamed_map hentry, keys_reviseEntry]
    | list items =>
      exact readItems_modify hposition (fun d hd => hparts d (Option.mem_toList.mpr hd)) 0 _
    | _ => rfl

/-! ## Unknown keys -/

theorem field?_of_not_mem {name : String} (h : name ∉ r.names) : r.field? name = none := by
  refine List.find?_eq_none.mpr fun field hfield hname => h ?_
  exact List.mem_map.mpr ⟨field, hfield, of_decide_eq_true hname⟩

/-- A strict record refuses a key that it does not have. -/
theorem decode_unknown (hstrict : r.lenient = false) {fields : List (String × Document)}
    {e : String × Document} (he : e ∈ fields) (hname : e.1 ∉ r.names) :
    r.decode.Refuses format (.table fields) := by
  refine decode_refuses he fun s => ⟨.unknownField e.1 r.names, ?_⟩
  simp [readNamed, field?_of_not_mem hname, hstrict]

/-- A lenient record is read as if the keys that it does not have were not there. -/
theorem decode_retain_names (hlenient : r.lenient = true) (d : Document) :
    r.decode format (d.retain (· ∈ r.names)) = r.decode format d := by
  cases d with
  | table fields =>
    refine decode_filter (· ∈ r.names) (fun _ => True) (fun _ _ _ _ _ _ => trivial) ?_ trivial ?_
    · intro e _ hkeep s _
      simp [readNamed, field?_of_not_mem (of_decide_eq_false hkeep), hlenient]
    · intro field hfield hkeep
      exact absurd (List.mem_map_of_mem hfield) (of_decide_eq_false hkeep)
  | _ => rfl

end Record

/-! ## Nulls -/

namespace Decoder

variable {α : Type}

/-- Null does not stand for a value. -/
def RefusesNull (decoder : Decoder α) : Prop := ∀ format, decoder.Refuses format .null

theorem string_refusesNull : string.RefusesNull := fun _ => ⟨_, rfl⟩

theorem boolean_refusesNull : boolean.RefusesNull := fun _ => ⟨_, rfl⟩

theorem word_refusesNull : word.RefusesNull := fun _ => ⟨_, rfl⟩

theorem sequence_refusesNull (item : Decoder α) : (sequence item).RefusesNull := fun _ => ⟨_, rfl⟩

theorem map_refusesNull (item : Decoder α) : (map item).RefusesNull := fun _ => ⟨_, rfl⟩

theorem oneOfVariants_refusesNull (variants : List (String × α)) :
    (oneOfVariants variants).RefusesNull := fun format => by
  cases format <;> exact ⟨_, rfl⟩

theorem record_refusesNull (r : Record α) : r.decode.RefusesNull := fun _ => ⟨_, rfl⟩

end Decoder

/-- Null is read as what a record has when the part is left out, which it may be. -/
structure Part.TakesNull {σ : Type} (p : Part σ) (r : Record σ) : Prop where
  spared : p.required = false
  null : ∀ format, p.item format .null = .ok (p.get r.blank)

theorem Part.takesNull_iff {σ : Type} {p : Part σ} {r : Record σ} :
    p.TakesNull r ↔ p.required = false ∧ ∀ format, p.item format .null = .ok (p.get r.blank) :=
  ⟨fun h => ⟨h.1, h.2⟩, fun h => ⟨h.1, h.2⟩⟩

namespace Layout

variable {σ : Type} {r : Record σ} {format : Format} {p : Part σ}

theorem names_eq (l : Layout r) : r.names = l.parts.map (·.name) := by
  rw [Record.names, l.fields, List.map_map]
  rfl

theorem decode_null (l : Layout r) (hp : p ∈ l.parts) (h : p.item.RefusesNull)
    {fields : List (String × Document)} (hmem : (p.name, .null) ∈ fields) :
    r.decode.Refuses format (.table fields) := by
  obtain ⟨cause, hcause⟩ := h format
  refine Record.decode_refuses hmem fun s => ⟨cause, ?_⟩
  simp only [Record.readNamed, l.field?_name hp, Part.field, hcause, Except.map]

theorem set_get (l : Layout r) (hp : p ∈ l.parts) (s : σ) : p.set s (p.get s) = s := by
  refine l.ext _ _ fun q hq => ?_
  by_cases hqp : q = p
  · subst hqp
    exact q.get_set s _
  · exact (l.apart.forall hq hp hqp).get_set s _

theorem readNamed_part (l : Layout r) (hp : p ∈ l.parts) (d : Document) (s : σ) :
    r.readNamed format [(p.name, d)] s = (p.item format d).map (p.set s) := by
  rw [Record.readNamed, l.field?_name hp]
  simp only [Part.field]
  cases p.item format d <;> rfl

/-- An entry of another name leaves a part as it is. -/
theorem get_readNamed (l : Layout r) (hp : p ∈ l.parts) {e : String × Document}
    (hname : e.1 ≠ p.name) {s t : σ} (h : r.readNamed format [e] s = .ok t) :
    p.get t = p.get s := by
  by_cases hknown : e.1 ∈ r.names
  · rw [l.names_eq] at hknown
    obtain ⟨q, hq, hqe⟩ := List.mem_map.mp hknown
    have hqp : p ≠ q := fun heq => hname (by rw [← hqe, heq])
    have hread : r.readNamed format [(q.name, e.2)] s = _ := l.readNamed_part hq e.2 s
    rw [hqe, h] at hread
    cases hitem : q.item format e.2 with
    | error cause => simp [hitem, Except.map] at hread
    | ok a =>
      rw [hitem] at hread
      cases hread
      exact (l.apart.forall hp hq hqp).get_set s a
  · rw [Record.readNamed, Record.field?_of_not_mem hknown] at h
    cases hlenient : r.lenient with
    | false => simp [hlenient] at h
    | true =>
      simp only [hlenient, if_true, Record.readNamed, Except.ok.injEq] at h
      rw [h]

/-- Nulls of a part that takes them may be left out. -/
theorem decode_omit (l : Layout r) (hp : p ∈ l.parts) (h : p.TakesNull r)
    {fields : List (String × Document)} (hnull : ∀ e ∈ fields, e.1 = p.name → e.2 = .null) :
    r.decode format (.table (fields.filter fun e => e.1 ≠ p.name)) =
      r.decode format (.table fields) := by
  have hread : ∀ e ∈ fields, e.1 = p.name → ∀ s, p.get s = p.get r.blank →
      r.readNamed format [e] s = .ok s := by
    intro e he hname s hs
    have heq : e = (p.name, .null) := Prod.ext hname (hnull e he hname)
    rw [heq, l.readNamed_part hp, h.null, ← hs]
    exact congrArg Except.ok (l.set_get hp s)
  refine Record.decode_filter (· ≠ p.name) (fun s => p.get s = p.get r.blank) ?_ ?_ rfl ?_
  · intro e he s t hs ht
    by_cases hname : e.1 = p.name
    · rw [hread e he hname s hs] at ht
      cases ht
      exact hs
    · exact (l.get_readNamed hp hname ht).trans hs
  · intro e he hkeep
    exact hread e he (by simpa using hkeep)
  · intro field hfield hkeep
    rw [l.fields] at hfield
    obtain ⟨q, hq, rfl⟩ := List.mem_map.mp hfield
    have hname : q.name = p.name := not_not.mp (of_decide_eq_false hkeep)
    cases l.eq_of_name hq hp hname
    exact h.spared

/-- The parts of a record are read by their decoders. -/
theorem reads (l : Layout r) (position : Nat) (hp : l.parts[position]? = some p) :
    r.decode.Reads [.field p.name position] p.item := by
  have hposition : r.fields[position]? = some p.field := by
    rw [l.fields, List.getElem?_map, hp]
    rfl
  exact Record.reads_field (l.field?_name (List.mem_of_getElem? hp)) hposition fun _ _ _ => rfl

end Layout

end RealmAccess
