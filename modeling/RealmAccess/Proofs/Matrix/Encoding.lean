/-
RealmAccess.Proofs.Matrix.Encoding — a listing of rights is read as it was
written.

Tokens do not tell all keys apart: a name that is spelled like a reserved token
is written like it. So a listing can only be read again if it has no such key,
and then every key is the one that its token reads as (`Key.Faithful`). Keys of
that kind keep their order when they are written, hence the written table has an
entry for each of them (`Grants.decode_encode`).

All keys of a loaded matrix are read from names, whatever the rows
(`Matrix.faithful_load`), and a listing shows entries of the matrix.
-/
import RealmAccess.Matrix.Encoding
import RealmAccess.Proofs.Document.RoundTrip
import RealmAccess.Proofs.Matrix.Listing

namespace RealmAccess

open Decoder

/-! ## Keys -/

namespace Key

/-- The key is the one that its token reads as. -/
def Faithful (k : Key) : Prop := parse k.token = k

/-- Only a name that is spelled like a reserved token is taken for something else. -/
theorem faithful_iff {k : Key} :
    k.Faithful ↔ k ≠ .exact anyToken ∧ k ≠ .exact nonPrimaryToken := by
  cases k with
  | wildcard => simp [Faithful, parse]
  | nonPrimary => simp [Faithful, parse, nonPrimaryToken, anyToken]
  | exact name =>
    by_cases hany : name = anyToken
    · simp [Faithful, parse, hany]
    · by_cases hnon : name = nonPrimaryToken
      · simp [Faithful, parse, hnon, nonPrimaryToken, anyToken]
      · simp [Faithful, parse, hany, hnon]

section

variable {a b : Key}

theorem Faithful.eq_of_token (ha : a.Faithful) (hb : b.Faithful) (h : a.token = b.token) :
    a = b := by
  rw [← ha, h, hb]

/-- Tokens are in the order of their keys. -/
theorem Faithful.compare_token (ha : a.Faithful) (hb : b.Faithful) (h : compare a b = .lt) :
    compare a.token b.token = .lt := by
  rw [compare_def] at h
  cases htoken : compare a.token b.token with
  | lt => rfl
  | eq =>
    obtain rfl : a = b := ha.eq_of_token hb (Std.LawfulEqCmp.eq_of_compare htoken)
    simp [Std.ReflCmp.compare_self] at h
  | gt => simp [htoken] at h

theorem Faithful.decode_encode (h : a.Faithful) (format : Format) :
    decode format a.encode = .ok a := congrArg Except.ok h

end

end Key

/-! ## Targets -/

theorem TargetGroups.decode_encode {groups : TargetGroups}
    (h : ∀ g, groups.contains g = true → g.Faithful) (format : Format) :
    decode format groups.encode = .ok groups := by
  have hkeys : sequence Key.decode format groups.encode = .ok groups.keys :=
    items_map fun g hg => (h g (Table.mem_keys.mp hg)).decode_encode format
  have hentries : groups.keys.map (·, ()) = groups.entries := by
    simp [Table.keys, Function.comp_def]
  rw [decode, hkeys]
  simp [Except.map, hentries, Table.ofList_entries]

/-- All keys of the grants are what their tokens read as. -/
structure Grants.Faithful (grants : Grants) : Prop where
  realm : ∀ k, grants.contains k = true → k.Faithful
  group : ∀ k groups, grants.find? k = some groups → ∀ g, groups.contains g = true → g.Faithful

namespace Grants

variable {grants : Grants}

theorem Faithful.key (h : grants.Faithful) {e : Key × TargetGroups} (he : e ∈ grants.entries) :
    e.1.Faithful := by
  refine h.realm e.1 ?_
  rw [Table.contains, Table.find?_eq_some.mpr he]
  rfl

/-- The grants under the tokens of their realms. -/
def Faithful.named (h : grants.Faithful) : Table String TargetGroups where
  entries := grants.entries.map fun e => (e.1.token, e.2)
  ascending := by
    refine List.pairwise_map.mpr (grants.ascending.imp_of_mem ?_)
    intro e f he hf hlt
    exact (h.key he).compare_token (h.key hf) hlt

theorem decode_encode (h : grants.Faithful) (format : Format) :
    decode format grants.encode = .ok grants := by
  have hencode : grants.encode =
      .table (h.named.entries.map fun e => (e.1, e.2.encode)) := by
    simp [encode, Faithful.named]
  have hmap : map TargetGroups.decode format grants.encode = .ok h.named := by
    rw [hencode]
    refine map_entries fun e he => ?_
    obtain ⟨f, hf, rfl⟩ := List.mem_map.mp he
    exact TargetGroups.decode_encode (h.group f.1 f.2 (Table.find?_eq_some.mpr hf)) format
  have hentries : h.named.entries.map (fun e => (Key.parse e.1, e.2)) = grants.entries := by
    rw [Faithful.named, List.map_map]
    refine (List.map_congr_left fun e he => ?_).trans (List.map_id _)
    exact Prod.ext (h.key he) rfl
  rw [decode, hmap]
  simp [Except.map, hentries, Table.ofList_entries]

end Grants

/-! ## Rights -/

theorem GroupRights.decode_encode {rights : GroupRights}
    (h : ∀ action grants, rights.find? action = some grants → grants.Faithful) (format : Format) :
    decode format rights.encode = .ok rights :=
  map_entries fun e he => Grants.decode_encode (h e.1 e.2 (Table.find?_eq_some.mpr he)) format

theorem Rights.decode_encode {rights : Rights}
    (h : ∀ group r action grants, rights.find? group = some r → r.find? action = some grants →
      grants.Faithful) (format : Format) : decode format rights.encode = .ok rights := by
  refine map_entries fun e he => GroupRights.decode_encode ?_ format
  intro action grants hgrants
  exact h e.1 e.2 action grants (Table.find?_eq_some.mpr he) hgrants

/-- A loaded key was read from a name. -/
theorem Matrix.faithful_load {rules : List Rule} {realm group action : String} {grants : Grants}
    (h : (load rules).grants realm group action = some grants) : grants.Faithful where
  realm _ hk := parse_token_of_contains h hk
  group k groups hgroups g hg := by
    have hholds : grants.holds k g = true := by
      rw [Grants.holds, hgroups]
      exact hg
    exact (parse_token_of_holds h hholds).2

/-! ## Main statement -/

/-- **A listing of rights is read as it was written**, for any rows and any context. In each of its
tables no two target realms have one token, and no two target groups in each of its sets. For no key
of a loaded matrix is a name that is spelled like a reserved token. -/
theorem Policy.rights_read_as_written (rules : List Rule) (primaryRealm : String) (ctx : Context) :
    let listing := (⟨Matrix.load rules, primaryRealm⟩ : Policy).rights ctx
    (∀ format, Rights.decode format (Rights.encode listing) = .ok listing) ∧
    (∀ group rights action grants,
      listing.find? group = some rights → rights.find? action = some grants →
        (∀ k k', grants.contains k = true → grants.contains k' = true →
          k.token = k'.token → k = k') ∧
        ∀ k groups, grants.find? k = some groups →
          ∀ g g', groups.contains g = true → groups.contains g' = true →
            g.token = g'.token → g = g') ∧
    ∀ realm group action grants, (Matrix.load rules).grants realm group action = some grants →
      (∀ k, grants.contains k = true → k ≠ .exact "*" ∧ k ≠ .exact "/") ∧
      ∀ k groups, grants.find? k = some groups →
        ∀ g, groups.contains g = true → g ≠ .exact "*" ∧ g ≠ .exact "/" := by
  intro listing
  have hlisted : ∀ group rights action grants,
      listing.find? group = some rights → rights.find? action = some grants → grants.Faithful := by
    intro group rights action grants hrights hgrants
    obtain ⟨realm, hload⟩ := grants_of_find?_rights hrights hgrants
    exact Matrix.faithful_load hload
  refine ⟨Rights.decode_encode hlisted, ?_, ?_⟩
  · intro group rights action grants hrights hgrants
    have hfaithful := hlisted group rights action grants hrights hgrants
    refine ⟨?_, ?_⟩
    · intro k k' hk hk'
      exact (hfaithful.realm k hk).eq_of_token (hfaithful.realm k' hk')
    · intro k groups hgroups g g' hg hg'
      exact (hfaithful.group k groups hgroups g hg).eq_of_token
        (hfaithful.group k groups hgroups g' hg')
  · intro realm group action grants hgrants
    have hfaithful := Matrix.faithful_load hgrants
    refine ⟨?_, ?_⟩
    · intro k hk
      exact Key.faithful_iff.mp (hfaithful.realm k hk)
    · intro k groups hgroups g hg
      exact Key.faithful_iff.mp (hfaithful.group k groups hgroups g hg)

/-- Tokens that stand for more than a name are listed beside names, as realms and as groups. -/
theorem Policy.tokens_read_as_written :
    let p : Policy := ⟨Matrix.load
      [⟨"dep", "toe", "GetUser", some "/", some "*"⟩, ⟨"dep", "toe", "GetUser", some "far", none⟩,
        ⟨"dep", "toe", "GetUser", some "*", some "/"⟩], "master"⟩
    let ctx : Context := { realm := some "dep", groups := some ["toe"] }
    Rights.encode (p.rights ctx) = .table [("toe", .table [("GetUser", .table
        [("*", .list [.string "/"]), ("/", .list [.string "*"]), ("far", .list [])])])] ∧
      Rights.decode .json (Rights.encode (p.rights ctx)) = .ok (p.rights ctx) := by
  intro p ctx
  exact ⟨rfl, (rights_read_as_written _ _ ctx).1 .json⟩

end RealmAccess
