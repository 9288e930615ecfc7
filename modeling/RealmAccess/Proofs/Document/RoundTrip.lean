/-
RealmAccess.Proofs.Document.RoundTrip — values that are read as they were
written.

A decoder undoes an encoder if it reads every value from the document that the
encoder makes of it, in either format. Each decoder of scalars undoes its
constructor, and the decoders of lists, maps and optional values undo what
encodes their items, if the items' decoder does. A map is read in key order,
which is the order that a table's entries have already.
-/
import RealmAccess.Document.Decoder
import RealmAccess.Proofs.Document.KeyOrder

namespace RealmAccess

namespace Decoder

variable {α : Type}

/-- The decoder reads every value from what the encoder makes of it. -/
def Undoes (item : Decoder α) (encode : α → Document) : Prop :=
  ∀ format a, item format (encode a) = .ok a

/-- What is undone was injective: two values with one document would be one value. -/
theorem Undoes.injective {item : Decoder α} {encode : α → Document} (h : item.Undoes encode) :
    Function.Injective encode := by
  intro a b hab
  have heq : (.ok a : Except DecodeError α) = .ok b := by rw [← h .json a, hab, h .json b]
  exact Except.ok.inj heq

/-! ## Scalars -/

theorem string_undoes : string.Undoes .string := fun _ _ => rfl

theorem boolean_undoes : boolean.Undoes .bool := fun _ _ => rfl

/-- Every word is in the range that is read as a word. -/
theorem word_undoes : word.Undoes fun n => .int n.toNat := by
  intro format n
  have hrange : (0 : Int) ≤ n.toNat ∧ (n.toNat : Int) < Int.pow 2 64 := by
    refine ⟨Int.natCast_nonneg _, ?_⟩
    have hlt := n.toNat_lt
    exact Int.ofNat_lt.mpr hlt
  rw [word, if_pos hrange, Int.toNat_natCast, UInt64.ofNat_toNat]

theorem oneOfVariants_undoes {variants : List (String × α)} {name : α → String}
    (h : ∀ a, variants.find? (·.1 = name a) = some (name a, a)) :
    (oneOfVariants variants).Undoes fun a => .string (name a) := by
  intro format a
  rw [oneOfVariants, variant, h a]

/-! ## Optional values, lists and maps -/

section

variable {item : Decoder α} {encode : α → Document}

theorem nullable_ne_null (item : Decoder α) (format : Format) {d : Document} (h : d ≠ .null) :
    nullable item format d = (item format d).map some := by
  cases d with
  | null => exact absurd rfl h
  | _ => rfl

/-- A value that is there is read as one, whether or not an absent one would be written. -/
theorem Undoes.nullable_some (h : item.Undoes encode) (hne : ∀ a, encode a ≠ .null)
    (format : Format) (a : α) : nullable item format (encode a) = .ok (some a) := by
  rw [nullable_ne_null item format (hne a), h format a]
  rfl

theorem Undoes.nullable (h : item.Undoes encode) (hne : ∀ a, encode a ≠ .null) :
    (nullable item).Undoes fun
      | some a => encode a
      | none => .null := by
  intro format o
  cases o with
  | none => rfl
  | some a => exact h.nullable_some hne format a

/-- Items are read as they were written if each of them is. -/
theorem items_map {format : Format} {l : List α} (h : ∀ a ∈ l, item format (encode a) = .ok a) :
    items item format (l.map encode) = .ok l := by
  induction l with
  | nil => rfl
  | cons a rest ih =>
    rw [List.map_cons, items, h a List.mem_cons_self,
      ih fun b hb => h b (List.mem_cons_of_mem a hb)]
    rfl

theorem Undoes.sequence (h : item.Undoes encode) :
    (sequence item).Undoes fun l => .list (l.map encode) :=
  fun format _ => items_map fun a _ => h format a

theorem entries_map {format : Format} {l : List (String × α)}
    (h : ∀ e ∈ l, item format (encode e.2) = .ok e.2) :
    entries item format (l.map fun (k, a) => (k, encode a)) = .ok l := by
  induction l with
  | nil => rfl
  | cons e rest ih =>
    rw [List.map_cons, entries, h e List.mem_cons_self,
      ih fun f hf => h f (List.mem_cons_of_mem e hf)]
    rfl

/-- A table is read as it was written if each of its values is. -/
theorem map_entries {format : Format} {t : Table String α}
    (h : ∀ e ∈ t.entries, item format (encode e.2) = .ok e.2) :
    map item format (.table (t.entries.map fun (k, a) => (k, encode a))) = .ok t := by
  have hsort : Document.sortFields (t.entries.map fun (k, a) => (k, encode a)) =
      t.entries.map fun (k, a) => (k, encode a) :=
    Document.sortFields_of_ascending (List.pairwise_map.mpr t.ascending)
  rw [map]
  simp only [Document.fields?, hsort, entries_map h]
  exact congrArg Except.ok t.ofList_entries

theorem Undoes.map (h : item.Undoes encode) :
    (map item).Undoes fun t => .table (t.entries.map fun (k, a) => (k, encode a)) :=
  fun format _ => map_entries fun e _ => h format e.2

end

end Decoder

end RealmAccess
