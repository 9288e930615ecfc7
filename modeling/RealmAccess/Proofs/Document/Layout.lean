/-
RealmAccess.Proofs.Document.Layout — records that are read as they were written.

A record's fields are read in key order, which has nothing to do with the order
in which they are described or written. So a record is not followed through its
reading field by field; instead each field is a part of it, with a way to get
the part and a way to set it. Setting a part is seen by getting that part and by
no other, hence what has been read at any time is told part by part: the parts
that were given are those of the written value, the others are as they were
(`readNamed_written`). A part that is left out has to be what the blank record
has there already. Records that agree in all parts are equal, and that ends the
argument (`decodeTable_written`).
-/
import Mathlib.Data.List.Pairwise
import RealmAccess.Document.Record
import RealmAccess.Proofs.Document.RoundTrip

namespace RealmAccess

/-! ## Parts -/

/-- A part of a record: one field, how it is read and set, and how it is got and written. -/
structure Part (σ : Type) where
  {α : Type}
  name : String
  /-- Whether the record cannot be without it. -/
  required : Bool
  item : Decoder α
  set : σ → α → σ
  get : σ → α
  /-- What is written of the part, unless it is left out. -/
  write : α → Option Document
  item_write : ∀ format a d, write a = some d → item format d = .ok a
  get_set : ∀ record a, get (set record a) = a

namespace Part

variable {σ α : Type}

/-- The field of a part. -/
def field (p : Part σ) : Field σ where
  name := p.name
  required := p.required
  read format d record := (p.item format d).map (p.set record)

/-- What is written of a record's part. -/
def written (p : Part σ) (record : σ) : List (String × Document) :=
  match p.write (p.get record) with
  | some d => [(p.name, d)]
  | none => []

theorem read_field {p : Part σ} {a : p.α} {d : Document} (h : p.write a = some d) (format : Format)
    (record : σ) : p.field.read format d record = .ok (p.set record a) :=
  congrArg (Except.map (p.set record)) (p.item_write format a d h)

theorem mem_written {p : Part σ} {record : σ} {e : String × Document} :
    e ∈ p.written record ↔ p.name = e.1 ∧ p.write (p.get record) = some e.2 := by
  obtain ⟨name, d⟩ := e
  unfold written
  cases p.write (p.get record) <;> simp [eq_comm]

/-- A part that is always written. -/
def always {item : Decoder α} {encode : α → Document} (required : Bool) (name : String)
    (get : σ → α) (set : σ → α → σ) (h : item.Undoes encode)
    (get_set : ∀ record a, get (set record a) = a) : Part σ where
  name := name
  required := required
  item := item
  set := set
  get := get
  write a := some (encode a)
  item_write format a d hd := by
    cases hd
    exact h format a
  get_set := get_set

theorem written_always {item : Decoder α} {encode : α → Document} {required : Bool} {name : String}
    {get : σ → α} {set : σ → α → σ} {h : item.Undoes encode}
    {get_set : ∀ record a, get (set record a) = a} (record : σ) :
    (always required name get set h get_set).written record = [(name, encode (get record))] := rfl

/-- A part that is left out when it is absent. -/
def optional {item : Decoder α} {encode : α → Document} (name : String) (get : σ → Option α)
    (set : σ → Option α → σ) (h : item.Undoes encode) (hne : ∀ a, encode a ≠ .null)
    (get_set : ∀ record a, get (set record a) = a) : Part σ where
  name := name
  required := false
  item := .nullable item
  set := set
  get := get
  write o := o.map encode
  item_write format o d hd := by
    obtain ⟨a, rfl, rfl⟩ := Option.map_eq_some_iff.mp hd
    exact h.nullable_some hne format a
  get_set := get_set

/-- Parts that do not see each other: each is as it was when the other is set. -/
structure Apart (p q : Part σ) : Prop where
  name_ne : p.name ≠ q.name
  get_set : ∀ record a, p.get (q.set record a) = p.get record
  get_set' : ∀ record a, q.get (p.set record a) = q.get record

theorem apart_iff {p q : Part σ} : p.Apart q ↔ p.name ≠ q.name ∧
    (∀ record a, p.get (q.set record a) = p.get record) ∧
      ∀ record a, q.get (p.set record a) = q.get record :=
  ⟨fun h => ⟨h.1, h.2, h.3⟩, fun h => ⟨h.1, h.2.1, h.2.2⟩⟩

instance : Std.Symm (Apart (σ := σ)) where
  symm _ _ h := ⟨h.name_ne.symm, h.get_set', h.get_set⟩

end Part

/-! ## Layouts -/

/-- The parts of a record type, which are apart and make up the whole record. -/
structure Layout {σ : Type} (r : Record σ) where
  parts : List (Part σ)
  fields : r.fields = parts.map Part.field
  apart : parts.Pairwise Part.Apart
  /-- A part that is left out need not be given, and a blank record has it already. -/
  omitted : ∀ p ∈ parts, ∀ a, p.write a = none → p.required = false ∧ p.get r.blank = a
  ext : ∀ s t : σ, (∀ p ∈ parts, p.get s = p.get t) → s = t

namespace Layout

variable {σ : Type} {r : Record σ}

/-- What is written of the parts of a record, in the order of its fields. -/
def written (l : Layout r) (record : σ) : List (String × Document) :=
  l.parts.flatMap (·.written record)

/-- Write a record. -/
def encode (l : Layout r) (record : σ) : Document := .table (l.written record)

theorem eq_of_name (l : Layout r) {p q : Part σ} (hp : p ∈ l.parts) (hq : q ∈ l.parts)
    (h : p.name = q.name) : p = q := by
  by_contra hne
  exact (l.apart.forall hp hq hne).name_ne h

theorem field?_name (l : Layout r) {p : Part σ} (hp : p ∈ l.parts) :
    r.field? p.name = some p.field := by
  cases hfind : r.field? p.name with
  | none =>
    have hfields : p.field ∈ r.fields := l.fields ▸ List.mem_map_of_mem hp
    have hnot := List.find?_eq_none.mp hfind p.field hfields
    exact absurd (decide_eq_true rfl) hnot
  | some field =>
    have hmem : field ∈ l.parts.map Part.field := l.fields ▸ List.mem_of_find?_eq_some hfind
    obtain ⟨q, hq, rfl⟩ := List.mem_map.mp hmem
    have hfound := List.find?_some hfind
    have hname : q.name = p.name := of_decide_eq_true hfound
    rw [l.eq_of_name hq hp hname]

/-- Named documents that were written of a record, in whatever order, are read into any other: the
parts that were given are the record's, and the others stay. -/
theorem readNamed_written (l : Layout r) (format : Format) (v : σ)
    {given : List (String × Document)} (h : ∀ e ∈ given, ∃ p ∈ l.parts, e ∈ p.written v) (s : σ) :
    ∃ s', r.readNamed format given s = .ok s' ∧
      ∀ p ∈ l.parts, p.get s' = if p.name ∈ given.map Prod.fst then p.get v else p.get s := by
  induction given generalizing s with
  | nil => exact ⟨s, rfl, fun p _ => rfl⟩
  | cons e rest ih =>
    obtain ⟨name, d⟩ := e
    obtain ⟨p, hp, hwritten⟩ := h (name, d) List.mem_cons_self
    obtain ⟨rfl, hd⟩ := Part.mem_written.mp hwritten
    obtain ⟨s', hs', hparts⟩ := ih (fun e he => h e (List.mem_cons_of_mem _ he)) (p.set s (p.get v))
    refine ⟨s', ?_, ?_⟩
    · rw [Record.readNamed, l.field?_name hp]
      simp only [Part.read_field hd, hs']
    · intro q hq
      rw [hparts q hq, List.map_cons]
      by_cases hqp : q = p
      · subst hqp
        simp [q.get_set]
      · have hapart := l.apart.forall hq hp hqp
        rw [hapart.get_set]
        simp only [List.mem_cons, hapart.name_ne, false_or]

section

variable {v : σ} {given : List (String × Document)}

theorem mem_names (l : Layout r) (h : ∀ e, e ∈ given ↔ e ∈ l.written v) {p : Part σ}
    (hp : p ∈ l.parts) : p.name ∈ given.map Prod.fst ∨ p.write (p.get v) = none := by
  cases hd : p.write (p.get v) with
  | none => exact .inr rfl
  | some d =>
    have hwritten : (p.name, d) ∈ p.written v := Part.mem_written.mpr ⟨rfl, hd⟩
    have hgiven : (p.name, d) ∈ given := (h _).mpr (List.mem_flatMap.mpr ⟨p, hp, hwritten⟩)
    exact .inl (List.mem_map.mpr ⟨_, hgiven, rfl⟩)

/-- No part that is required is left out. -/
theorem missing?_written (l : Layout r) (h : ∀ e, e ∈ given ↔ e ∈ l.written v) :
    r.missing? (given.map Prod.fst) = none := by
  rw [Record.missing?, Option.map_eq_none_iff, List.find?_eq_none, l.fields]
  intro field hfield
  obtain ⟨p, hp, rfl⟩ := List.mem_map.mp hfield
  obtain hname | hnone := l.mem_names h hp
  · simp [Part.field, hname]
  · simp [Part.field, (l.omitted p hp _ hnone).1]

/-- A record is read from what its parts wrote, in whatever order that comes. -/
theorem decodeTable_written (l : Layout r) (format : Format)
    (h : ∀ e, e ∈ given ↔ e ∈ l.written v) : r.decodeTable format given = .ok v := by
  have hsorted : ∀ e, e ∈ Document.sortFields given ↔ e ∈ l.written v :=
    fun e => Document.mem_sortFields.trans (h e)
  obtain ⟨s, hs, hparts⟩ := l.readNamed_written format v
    (fun e he => List.mem_flatMap.mp ((hsorted e).mp he)) r.blank
  have heq : s = v := by
    refine l.ext s v fun p hp => ?_
    rw [hparts p hp]
    obtain hname | hnone := l.mem_names hsorted hp
    · exact if_pos hname
    · rw [(l.omitted p hp _ hnone).2, ite_self]
  rw [Record.decodeTable, hs, l.missing?_written h, heq]

end

/-- **A record is read as it was written.** -/
theorem undoes (l : Layout r) : r.decode.Undoes l.encode := fun format _ =>
  l.decodeTable_written format fun _ => Iff.rfl

end Layout

end RealmAccess
