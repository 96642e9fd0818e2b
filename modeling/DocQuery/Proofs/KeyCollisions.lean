import DocQuery.Proofs.RecordWrites
import Mathlib.Data.List.Nodup

/-! # Where renaming makes keys equal

What is written keeps every pair that was given, and a document may have a key more than once.
Renaming the primary key to the identity key can therefore give two pairs the same key.  It does
so in one case only: the document has both keys, its primary key and the identity key, as two
keys (`Scope.IdentifiedTwice`).  Then the identity of the record is written twice; all other keys
stay as distinct as they were. -/
namespace DocQuery

namespace Scope
variable {s : Scope} {keys : List String}

/-- The keys hold the identity key and beside it the primary key. -/
structure IdentifiedTwice (s : Scope) (keys : List String) : Prop where
  identity : s.identityKey ∈ keys
  primary : ∃ key ∈ keys, s.primaryKey = some key ∧ key ≠ s.identityKey

/-- Two keys are written alike if they are the same, or if one of them is the primary key and the
other the identity key. -/
theorem key_eq_key_iff {a b : String} :
    s.key a = s.key b ↔ a = b ∨ (s.primaryKey = some a ∧ b = s.identityKey) ∨
      (s.primaryKey = some b ∧ a = s.identityKey) := by
  unfold key
  by_cases ha : s.primaryKey = some a
  · by_cases hb : s.primaryKey = some b
    · have hab : a = b := Option.some.inj (ha.symm.trans hb)
      simp [hab]
    · rw [if_pos ha, if_neg hb]
      constructor
      · intro h
        exact .inr (.inl ⟨ha, h.symm⟩)
      · rintro (rfl | ⟨-, rfl⟩ | ⟨hb', -⟩)
        · exact absurd ha hb
        · rfl
        · exact absurd hb' hb
  · by_cases hb : s.primaryKey = some b
    · rw [if_neg ha, if_pos hb]
      constructor
      · intro h
        exact .inr (.inr ⟨hb, h⟩)
      · rintro (rfl | ⟨ha', -⟩ | ⟨-, rfl⟩)
        · exact absurd hb ha
        · exact absurd ha' ha
        · rfl
    · rw [if_neg ha, if_neg hb]
      simp [ha, hb]

/-- Distinct keys are written as distinct keys unless the record is identified twice. -/
theorem nodup_map_key_iff (h : keys.Nodup) :
    (keys.map s.key).Nodup ↔ ¬ s.IdentifiedTwice keys := by
  rw [List.nodup_map_iff_inj_on h]
  constructor
  · rintro hinj ⟨hidentity, key, hkey, hprimary, hne⟩
    have hsame : s.key key = s.key s.identityKey :=
      key_eq_key_iff.mpr (.inr (.inl ⟨hprimary, rfl⟩))
    exact hne (hinj key hkey _ hidentity hsame)
  · intro honce a ha b hb hab
    rcases key_eq_key_iff.mp hab with heq | ⟨hprimary, rfl⟩ | ⟨hprimary, rfl⟩
    · exact heq
    · by_contra hne
      exact honce ⟨hb, a, ha, hprimary, hne⟩
    · by_contra hne
      exact honce ⟨ha, b, hb, hprimary, Ne.symm hne⟩

/-- A key that is not written as the identity key is written as it is. -/
theorem key_eq_self {key : String} (h : s.key key ≠ s.identityKey) : s.key key = key := by
  have hkey : s.primaryKey ≠ some key := fun hprimary => h (if_pos hprimary)
  exact if_neg hkey

/-- Besides the identity key nothing is written that was not given, and nothing more often. -/
theorem sublist_map_key (keys : List String) :
    ((keys.map s.key).filter (· ≠ s.identityKey)).Sublist keys := by
  induction keys with
  | nil => exact .slnil
  | cons key keys ih =>
    rw [List.map_cons]
    by_cases hkey : s.key key = s.identityKey
    · rw [List.filter_cons_of_neg (by simp [hkey])]
      exact ih.cons key
    · rw [List.filter_cons_of_pos (by simp [hkey]), key_eq_self hkey]
      exact ih.cons_cons key

/-- The keys of a record that is written are the keys of its pairs, renamed. -/
theorem keys_of_record {clause : Clause} {d body : Document}
    (h : s.record clause d.pairs = .ok body) : body.keys = d.keys.map s.key := by
  obtain ⟨-, rfl⟩ := record_eq_ok.mp h
  rw [Document.keys, Document.pairs_ofPairs, rename, Document.keys, List.map_map, List.map_map]
  rfl

/-- A record with distinct keys is written with distinct keys unless it is identified twice, and
even then only the identity key repeats. -/
theorem nodup_keys_of_record {clause : Clause} {d body : Document} (hkeys : d.keys.Nodup)
    (h : s.record clause d.pairs = .ok body) :
    (body.keys.Nodup ↔ ¬ s.IdentifiedTwice d.keys) ∧
      (body.keys.filter (· ≠ s.identityKey)).Nodup := by
  rw [keys_of_record h]
  exact ⟨nodup_map_key_iff hkeys, hkeys.sublist (sublist_map_key d.keys)⟩

end Scope

namespace Planner

/-- **Renaming makes keys equal only where a record is identified twice.**  If an inserted record,
or the values of an update, have distinct keys, then so has what is written, except when both the
identity key and a different primary key are among them.  Even then only the identity key
repeats. -/
theorem written_keys_distinct_iff (p : Planner) :
    (∀ coll model record plan, record.keys.Nodup →
      p.answer (.insert coll model record) = .ok plan →
        ∃ w body, plan = .write w ∧ w.command = some body ∧
          (body.keys.Nodup ↔
            ¬ (p.recordScope (p.primaryKey? model)).IdentifiedTwice record.keys) ∧
          (body.keys.filter (· ≠ p.settings.identityKey)).Nodup) ∧
    ∀ coll model values filter plan, values.keys.Nodup →
      p.answer (.update coll model values filter) = .ok plan →
        ∃ w body, plan = .write w ∧ w.command = some (Changes.setCommand body) ∧
          (body.keys.Nodup ↔
            ¬ (p.recordScope (p.primaryKey? model)).IdentifiedTwice values.keys) ∧
          (body.keys.filter (· ≠ p.settings.identityKey)).Nodup := by
  constructor
  · intro coll model record plan hkeys hplan
    obtain ⟨w, hinsert, rfl⟩ := map_eq_ok.mp hplan
    obtain ⟨body, hbody, hw⟩ := bind_eq_ok.mp hinsert
    obtain rfl := pure_eq_ok.mp hw
    exact ⟨_, body, rfl, rfl, Scope.nodup_keys_of_record hkeys hbody⟩
  · intro coll model values filter plan hkeys hplan
    obtain ⟨w, hupdate, rfl⟩ := map_eq_ok.mp hplan
    obtain ⟨body, hbody, hcommand⟩ := Scope.command_of_update hupdate
    exact ⟨w, body, rfl, hcommand, Scope.nodup_keys_of_record hkeys hbody⟩

/-- The identity key among the values of an update does no harm without the primary key. -/
theorem written_keys_distinct_of_identity_alone :
    ∃ (p : Planner) (values filter : Document) (w : Write) (body : Document),
      p.primaryKey? (some "User") = some "id" ∧ values.keys = ["name", "_id"] ∧
      values.keys.Nodup ∧
      p.answer (.update "users" (some "User") values filter) = .ok (.write w) ∧
      w.command = some (Changes.setCommand body) ∧ body.keys.Nodup := by
  let p : Planner := { registry := [("User", "id")] }
  let values : Document := .ofPairs [("name", .null), ("_id", .int 3)]
  have hkeys : values.keys.Nodup := by decide
  obtain ⟨w, body, hw, hcommand, hdistinct, -⟩ := p.written_keys_distinct_iff.2 "users"
    (some "User") values (.single "id" (.int 2)) _ hkeys rfl
  refine ⟨p, values, .single "id" (.int 2), w, body, by decide, rfl, hkeys, ?_, hcommand, ?_⟩
  · rw [← hw]
    rfl
  · refine hdistinct.mpr fun htwice => ?_
    obtain ⟨key, hkey, hprimary, -⟩ := htwice.primary
    obtain rfl : "id" = key := Option.some.inj hprimary
    exact absurd hkey (by decide)

/-- A record that has the identity key beside its primary key is inserted with both under the
identity key. -/
theorem not_all_written_keys_distinct :
    ¬ ∀ (p : Planner) coll model record w body, record.keys.Nodup →
      p.answer (.insert coll model record) = .ok (.write w) → w.command = some body →
        body.keys.Nodup := by
  intro hdistinct
  have hnodup : ["_id", "_id"].Nodup :=
    hdistinct { registry := [("User", "id")] } "users" (some "User")
      (.ofPairs [("id", .int 1), ("_id", .int 2)]) _ _ (by decide) rfl rfl
  exact absurd hnodup (by decide)

end Planner
end DocQuery
