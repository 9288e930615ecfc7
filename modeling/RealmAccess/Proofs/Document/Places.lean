/-
RealmAccess.Proofs.Document.Places — what a decoder makes of the parts of a
document.

Steps lead from a document to its parts: to a field of a record, to the value
of a key in a map, or to an item of a list. One decoder reads the parts of a
document by another (`Reads`) if the whole depends on a part only through what
the other makes of it. Then a part that is refused spoils the whole, and a
change that is not seen in the part is not seen in the whole. Lists, maps and
records read their parts in this way, one step at a time, so what is said of a
record alone holds of it at any place of a larger document.
-/
import RealmAccess.Document.Record
import RealmAccess.Proofs.Document.KeyOrder

namespace RealmAccess

/-! ## Parts of documents -/

namespace Document

/-- A step from a document to a part of it. -/
inductive Step where
  /-- To a field of a record, by its name in a table or by its position in a list. -/
  | field (name : String) (position : Nat)
  /-- To the value of a key in a map. -/
  | value (key : String)
  /-- To an item of a list, counted from zero. -/
  | item (index : Nat)
  deriving DecidableEq

/-- The entry with its value changed if it has the key. -/
def reviseEntry (key : String) (f : Document → Document) (e : String × Document) :
    String × Document :=
  (e.1, if e.1 = key then f e.2 else e.2)

theorem keys_reviseEntry {key : String} {f : Document → Document}
    (fields : List (String × Document)) :
    (fields.map (reviseEntry key f)).map (·.1) = fields.map (·.1) := by
  rw [List.map_map]
  rfl

theorem sortFields_reviseEntry {key : String} {f : Document → Document}
    (fields : List (String × Document)) :
    sortFields (fields.map (reviseEntry key f)) = (sortFields fields).map (reviseEntry key f) :=
  have hkey : ∀ e, (reviseEntry key f e).1 = e.1 := fun _ => rfl
  sortFields_map hkey fields

/-- The parts one step away. There is at most one, unless a table has a key twice. -/
def Step.parts : Step → Document → List Document
  | .field key _, .table fields | .value key, .table fields =>
    (fields.filter (·.1 = key)).map (·.2)
  | .field _ index, .list items | .item index, .list items => items[index]?.toList
  | _, _ => []

/-- The document with its parts one step away changed. -/
def Step.revise : Step → (Document → Document) → Document → Document
  | .field key _, f, .table fields | .value key, f, .table fields =>
    .table (fields.map (reviseEntry key f))
  | .field _ index, f, .list items | .item index, f, .list items => .list (items.modify index f)
  | _, _, d => d

/-- The parts of a document at the end of some steps. -/
def parts : List Step → Document → List Document
  | [], d => [d]
  | step :: path, d => (step.parts d).flatMap (parts path)

/-- The document with its parts at the end of some steps changed. -/
def revise : List Step → (Document → Document) → Document → Document
  | [], f, d => f d
  | step :: path, f, d => step.revise (revise path f) d

theorem parts_append (path rest : List Step) (d : Document) :
    d.parts (path ++ rest) = (d.parts path).flatMap (parts rest) := by
  induction path generalizing d with
  | nil => simp [parts]
  | cons step path ih =>
    rw [List.cons_append, parts, parts, List.flatMap_assoc]
    exact congrArg ((step.parts d).flatMap ·) (funext ih)

theorem revise_append (path rest : List Step) (f : Document → Document) (d : Document) :
    d.revise (path ++ rest) f = d.revise path (revise rest f) := by
  induction path generalizing d with
  | nil => rfl
  | cons step path ih => exact congrArg (step.revise · d) (funext ih)

theorem parts_singleton (step : Step) (d : Document) : d.parts [step] = step.parts d := by
  simp [parts]

/-- The values of a key are parts of its table. -/
theorem mem_values {fields : List (String × Document)} {e : String × Document} {key : String}
    (he : e ∈ fields) (hkey : e.1 = key) :
    e.2 ∈ (fields.filter (·.1 = key)).map (·.2) :=
  List.mem_map_of_mem (List.mem_filter.mpr ⟨he, decide_eq_true hkey⟩)

/-- A table without the keys that are not to be kept. -/
def retain (keep : String → Bool) : Document → Document
  | .table fields => .table (fields.filter fun e => keep e.1)
  | d => d

/-- A list with its items changed. -/
def onItems (f : Document → Document) : Document → Document
  | .list items => .list (items.map f)
  | d => d

end Document

open Document

/-! ## Reading parts -/

namespace Decoder

variable {α β γ : Type}

/-- The document does not stand for a value. -/
def Refuses (decoder : Decoder α) (format : Format) (d : Document) : Prop :=
  ∃ cause, decoder format d = .error cause

/-- The outer decoder reads the parts at the end of the path by the inner one. -/
structure Reads (outer : Decoder α) (path : List Step) (inner : Decoder β) : Prop where
  /-- A part that is refused spoils the whole. -/
  refuses : ∀ {format d part}, part ∈ d.parts path → inner.Refuses format part →
    outer.Refuses format d
  /-- Changes that are not seen in the parts are not seen in the whole. -/
  congr : ∀ {format d} {f : Document → Document},
    (∀ part ∈ d.parts path, inner format (f part) = inner format part) →
      outer format (d.revise path f) = outer format d

theorem Reads.here (decoder : Decoder α) : decoder.Reads [] decoder where
  refuses hpart hrefuses := List.mem_singleton.mp hpart ▸ hrefuses
  congr h := h _ (List.mem_singleton.mpr rfl)

theorem Reads.trans {outer : Decoder α} {middle : Decoder β} {inner : Decoder γ}
    {path rest : List Step} (h : outer.Reads path middle) (h' : middle.Reads rest inner) :
    outer.Reads (path ++ rest) inner where
  refuses hpart hrefuses := by
    rw [parts_append] at hpart
    obtain ⟨between, hbetween, hpart⟩ := List.mem_flatMap.mp hpart
    exact h.refuses hbetween (h'.refuses hpart hrefuses)
  congr hf := by
    rw [revise_append]
    refine h.congr fun between hbetween => h'.congr fun part hpart => hf part ?_
    rw [parts_append]
    exact List.mem_flatMap.mpr ⟨between, hbetween, hpart⟩

/-- It is enough to look one step away. -/
theorem Reads.of_step {outer : Decoder α} {step : Step} {inner : Decoder β}
    (hrefuses : ∀ {format d part}, part ∈ step.parts d → inner.Refuses format part →
      outer.Refuses format d)
    (hcongr : ∀ {format d} {f : Document → Document},
      (∀ part ∈ step.parts d, inner format (f part) = inner format part) →
        outer format (step.revise f d) = outer format d) :
    outer.Reads [step] inner where
  refuses hpart := hrefuses (parts_singleton step _ ▸ hpart)
  congr h := hcongr (parts_singleton step _ ▸ h)

/-! ## Lists -/

section

variable {item : Decoder α} {format : Format}

theorem items_refuses {l : List Document} {d : Document} (hd : d ∈ l) (h : item.Refuses format d) :
    ∃ cause, items item format l = .error cause := by
  induction l with
  | nil => cases hd
  | cons first rest ih =>
    rw [items]
    cases hfirst : item format first with
    | error cause => exact ⟨cause, rfl⟩
    | ok a =>
      rcases List.mem_cons.mp hd with rfl | hd
      · obtain ⟨cause, hcause⟩ := h
        cases hfirst.symm.trans hcause
      · obtain ⟨cause, hcause⟩ := ih hd
        exact ⟨cause, by simp only [hcause, Except.map]⟩

/-- What the items of a list are read as is all that counts. -/
theorem items_congr {l l' : List Document} (h : l.map (item format) = l'.map (item format)) :
    items item format l = items item format l' := by
  induction l generalizing l' with
  | nil => cases List.map_eq_nil_iff.mp h.symm; rfl
  | cons first rest ih =>
    cases l' with
    | nil => cases h
    | cons first' rest' =>
      obtain ⟨hfirst, hrest⟩ := List.cons.inj h
      rw [items, items, hfirst, ih hrest]

/-- A list reads an item by the decoder of items. -/
theorem reads_item (item : Decoder α) (index : Nat) :
    (sequence item).Reads [.item index] item := by
  refine .of_step ?refuses ?congr
  case refuses =>
    intro format d part hpart hrefuses
    cases d with
    | list l =>
      have hmem : part ∈ l := List.mem_of_getElem? (Option.mem_toList.mp hpart)
      exact items_refuses hmem hrefuses
    | _ => cases hpart
  case congr =>
    intro format d f h
    cases d with
    | list l =>
      refine items_congr (List.ext_getElem? fun i => ?_)
      rw [List.getElem?_map, List.getElem?_map, List.getElem?_modify]
      by_cases hi : index = i
      · subst hi
        cases hget : l[index]? with
        | none => simp
        | some part => simpa using h part (Option.mem_toList.mpr hget)
      · simp [hi]
    | _ => rfl

/-- A list is read alike if every item is. -/
theorem sequence_onItems {f : Document → Document} (h : ∀ d, item format (f d) = item format d)
    (d : Document) : sequence item format (d.onItems f) = sequence item format d := by
  cases d with
  | list l =>
    refine items_congr ?_
    rw [List.map_map]
    exact List.map_congr_left fun part _ => h part
  | _ => rfl

/-! ## Maps -/

/-- The values of a map are read like the items of a list. -/
theorem entries_eq_items (l : List (String × Document)) :
    entries item format l =
      (items item format (l.map (·.2))).map fun values => (l.map (·.1)).zip values := by
  induction l with
  | nil => rfl
  | cons first rest ih =>
    simp only [List.map_cons, entries, items, ih]
    cases item format first.2 with
    | error cause => rfl
    | ok a => cases items item format (rest.map (·.2)) <;> rfl

/-- A map reads the value of a key by the decoder of values. -/
theorem reads_value (item : Decoder α) (key : String) : (map item).Reads [.value key] item := by
  refine .of_step ?refuses ?congr
  case refuses =>
    intro format d part hpart hrefuses
    cases d with
    | table fields =>
      have hmem : part ∈ (sortFields fields).map (·.2) := by
        obtain ⟨e, he, rfl⟩ := List.mem_map.mp hpart
        exact List.mem_map_of_mem (mem_sortFields.mpr (List.mem_filter.mp he).1)
      obtain ⟨cause, hcause⟩ := items_refuses hmem hrefuses
      exact ⟨cause, by simp only [map, fields?, entries_eq_items, hcause, Except.map]⟩
    | _ => cases hpart
  case congr =>
    intro format d f h
    cases d with
    | table fields =>
      have hitems : items item format (((sortFields fields).map (reviseEntry key f)).map (·.2)) =
          items item format ((sortFields fields).map (·.2)) := by
        refine items_congr ?_
        rw [List.map_map, List.map_map, List.map_map]
        refine List.map_congr_left fun e he => ?_
        by_cases hkey : e.1 = key
        · simpa [reviseEntry, hkey] using h e.2 (mem_values (mem_sortFields.mp he) hkey)
        · simp [reviseEntry, hkey]
      simp only [map, Step.revise, fields?, sortFields_reviseEntry, entries_eq_items, hitems,
        keys_reviseEntry]
    | _ => rfl

end

end Decoder

end RealmAccess
