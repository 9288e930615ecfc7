/-
RealmAccess.Proofs.Document.KeyOrder — fields put in ascending order of their
keys.

Putting in order keeps the fields, and does nothing to fields that are in order
already. It looks at keys only: values may be changed, and keys be left out,
before or after.
-/
import RealmAccess.Document
import Mathlib.Data.List.Basic

namespace RealmAccess.Document

variable {α β : Type}

theorem sortFields_cons (field : String × α) (rest : List (String × α)) :
    sortFields (field :: rest) = insertField field (sortFields rest) := rfl

/-! ## The fields stay the same -/

theorem mem_insertField {e field : String × α} {fields : List (String × α)} :
    e ∈ insertField field fields ↔ e = field ∨ e ∈ fields := by
  induction fields with
  | nil => simp [insertField]
  | cons head rest ih =>
    unfold insertField
    split
    · exact List.mem_cons
    · rw [List.mem_cons, ih, List.mem_cons, or_left_comm]

theorem mem_sortFields {e : String × α} {fields : List (String × α)} :
    e ∈ sortFields fields ↔ e ∈ fields := by
  induction fields with
  | nil => rfl
  | cons field rest ih => rw [sortFields_cons, mem_insertField, ih, List.mem_cons]

/-! ## Fields in order -/

theorem insertField_of_le {field : String × α} {fields : List (String × α)}
    (h : ∀ e ∈ fields, field.1 ≤ e.1) : insertField field fields = field :: fields := by
  cases fields with
  | nil => rfl
  | cons head rest => exact if_pos (h head List.mem_cons_self)

/-- Fields in ascending order stay as they are. -/
theorem sortFields_of_ascending {fields : List (String × α)}
    (h : fields.Pairwise fun a b => compare a.1 b.1 = .lt) : sortFields fields = fields := by
  induction h with
  | nil => rfl
  | @cons field rest hfirst _ ih =>
    have hle : ∀ e ∈ rest, field.1 ≤ e.1 :=
      fun e he => Std.le_of_lt (compareOfLessAndEq_eq_lt.mp (hfirst e he))
    rw [sortFields_cons, ih, insertField_of_le hle]

theorem pairwise_insertField {field : String × α} {fields : List (String × α)}
    (h : fields.Pairwise fun a b => a.1 ≤ b.1) :
    (insertField field fields).Pairwise fun a b => a.1 ≤ b.1 := by
  induction h with
  | nil => simp [insertField]
  | @cons head rest hhead hrest ih =>
    rw [insertField]
    split
    · rename_i hle
      refine List.pairwise_cons.mpr ⟨fun e he => ?_, List.pairwise_cons.mpr ⟨hhead, hrest⟩⟩
      rcases List.mem_cons.mp he with rfl | he
      · exact hle
      · exact String.le_trans hle (hhead e he)
    · rename_i hnot
      refine List.pairwise_cons.mpr ⟨fun e he => ?_, ih⟩
      rcases mem_insertField.mp he with rfl | he
      · exact (String.le_total _ _).resolve_left hnot
      · exact hhead e he

theorem pairwise_sortFields (fields : List (String × α)) :
    (sortFields fields).Pairwise fun a b => a.1 ≤ b.1 := by
  induction fields with
  | nil => exact .nil
  | cons field rest ih => exact pairwise_insertField ih

/-! ## Values changed -/

section

variable {g : String × α → String × β}

theorem insertField_map (hg : ∀ e, (g e).1 = e.1) (field : String × α)
    (fields : List (String × α)) :
    insertField (g field) (fields.map g) = (insertField field fields).map g := by
  induction fields with
  | nil => rfl
  | cons head rest ih =>
    simp only [List.map_cons, insertField, hg]
    split
    · rfl
    · rw [ih, List.map_cons]

theorem sortFields_map (hg : ∀ e, (g e).1 = e.1) (fields : List (String × α)) :
    sortFields (fields.map g) = (sortFields fields).map g := by
  induction fields with
  | nil => rfl
  | cons field rest ih => rw [List.map_cons, sortFields_cons, ih, insertField_map hg, sortFields_cons]

end

/-! ## Keys left out -/

variable {keep : String → Bool}

/-- The field goes to its place among the kept ones, or nowhere. Only fields in order will do: the
place is before the first larger key, which may itself be left out. -/
theorem insertField_filter {field : String × α} {fields : List (String × α)}
    (h : fields.Pairwise fun a b => a.1 ≤ b.1) :
    (insertField field fields).filter (fun e => keep e.1) =
      if keep field.1 then insertField field (fields.filter fun e => keep e.1)
      else fields.filter fun e => keep e.1 := by
  induction h with
  | nil => by_cases hkeep : keep field.1 <;> simp [insertField, hkeep]
  | @cons head rest hhead _ ih =>
    by_cases hle : field.1 ≤ head.1
    · have hfirst : ∀ e ∈ (head :: rest).filter (fun e => keep e.1), field.1 ≤ e.1 := by
        intro e he
        rcases List.mem_cons.mp (List.mem_filter.mp he).1 with rfl | he
        · exact hle
        · exact String.le_trans hle (hhead e he)
      rw [insertField, if_pos hle, List.filter_cons, insertField_of_le hfirst]
    · rw [insertField, if_neg hle, List.filter_cons, ih, List.filter_cons]
      by_cases hkeep : keep head.1 <;> by_cases hkeep' : keep field.1 <;>
        simp [hkeep, hkeep', insertField, hle]

theorem sortFields_filter (fields : List (String × α)) :
    sortFields (fields.filter fun e => keep e.1) = (sortFields fields).filter fun e => keep e.1 := by
  induction fields with
  | nil => rfl
  | cons field rest ih =>
    rw [sortFields_cons, insertField_filter (pairwise_sortFields rest), ← ih, List.filter_cons]
    split
    · rw [sortFields_cons]
    · rfl

end RealmAccess.Document
