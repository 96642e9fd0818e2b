import DocQuery.Proofs.Configurations
import DocQuery.Proofs.KeyChecks
import DocQuery.Proofs.RecordWrites

/-! # The keys of what is written

The keys of a record are checked at every depth before it is written, and the primary key is
renamed after that.  So every key that is written is one that the store takes, with one possible
exception: the identity key, of which a configuration only has to say that it is not empty. -/
namespace DocQuery

/-! ### Written records -/

theorem deepKeys_ofPairs (pairs : List (String × Value)) :
    (Document.ofPairs pairs).deepKeys = deepKeysOfPairs pairs := by
  cases pairs <;> rfl

namespace Scope
variable {s : Scope} {clause : Clause} {pairs : List (String × Value)} {body : Document}

theorem forall_mem_deepKeys_record {P : String → Prop} (h : s.record clause pairs = .ok body) :
    (∀ key ∈ body.deepKeys, P key) ↔
      ∀ p ∈ pairs, P (s.key p.1) ∧ ∀ key ∈ p.2.deepKeys, P key := by
  obtain ⟨-, rfl⟩ := record_eq_ok.mp h
  rw [deepKeys_ofPairs, forall_mem_deepKeysOfPairs, rename, List.forall_mem_map]

/-- The pairs of a record that is written have been checked, keys as given. -/
theorem storeKey_of_record (h : s.record clause pairs = .ok body) :
    ∀ p ∈ pairs, StoreKey p.1 ∧ ∀ key ∈ p.2.deepKeys, StoreKey key := by
  obtain ⟨hpairs, -⟩ := record_eq_ok.mp h
  exact forall_mem_deepKeysOfPairs.mp (badKeyOfPairs?_eq_none_iff.mp hpairs)

/-- Of the keys of a record only the identity key has not been checked. -/
theorem storeKey_or_identity (h : s.record clause pairs = .ok body) :
    ∀ key ∈ body.deepKeys, StoreKey key ∨ key = s.identityKey := by
  rw [forall_mem_deepKeys_record h]
  intro p hp
  obtain ⟨hkey, hbelow⟩ := storeKey_of_record h p hp
  refine ⟨?_, fun key hmem => .inl (hbelow key hmem)⟩
  unfold Scope.key
  split
  · exact .inr rfl
  · exact .inl hkey

/-- The store takes all keys of a record exactly if the primary key is not among them or the
store takes the identity key. -/
theorem record_keys_iff (h : s.record clause pairs = .ok body) :
    (∀ key ∈ body.deepKeys, StoreKey key) ↔
      (∀ p ∈ pairs, s.primaryKey ≠ some p.1) ∨ StoreKey s.identityKey := by
  constructor
  · intro hall
    by_cases hprimary : ∃ p ∈ pairs, s.primaryKey = some p.1
    · -- the pair with the primary key is written under the identity key
      obtain ⟨p, hp, hkey⟩ := hprimary
      have hidentity := ((forall_mem_deepKeys_record h).mp hall p hp).1
      rw [Scope.key, if_pos hkey] at hidentity
      exact .inr hidentity
    · exact .inl fun p hp hkey => hprimary ⟨p, hp, hkey⟩
  · intro hkeys
    rw [forall_mem_deepKeys_record h]
    intro p hp
    obtain ⟨hkey, hbelow⟩ := storeKey_of_record h p hp
    refine ⟨?_, hbelow⟩
    rcases hkeys with hnone | hidentity
    · rw [Scope.key, if_neg (hnone p hp)]
      exact hkey
    · unfold Scope.key
      split
      · exact hidentity
      · exact hkey

end Scope

/-! ### Loaded configurations -/

namespace Planner

/-- Whether the pairs of a document are written under their own keys. -/
def KeepsKeys (p : Planner) (model : Option String) (d : Document) : Prop :=
  ∀ key ∈ d.keys, p.primaryKey? model ≠ some key

instance (p : Planner) (model : Option String) (d : Document) : Decidable (p.KeepsKeys model d) :=
  inferInstanceAs (Decidable (∀ key ∈ d.keys, p.primaryKey? model ≠ some key))

/-- Whether the identity key is neither an operator nor a path. -/
def HasPlainIdentity (p : Planner) : Prop :=
  p.settings.identityKey.toList.head? ≠ some '$' ∧ '.' ∉ p.settings.identityKey.toList

/-- The keys of a record that is written for a model. -/
theorem record_keys {file : File} {p : Planner} (hload : load file = .ok p) {clause : Clause}
    {model : Option String} {d body : Document}
    (h : (p.recordScope (p.primaryKey? model)).record clause d.pairs = .ok body) :
    (∀ key ∈ body.deepKeys, StoreKey key ∨ key = p.settings.identityKey) ∧
      ((∀ key ∈ body.deepKeys, StoreKey key) ↔ p.KeepsKeys model d ∨ p.HasPlainIdentity) := by
  have hkeeps : (∀ q ∈ d.pairs, p.primaryKey? model ≠ some q.1) ↔ p.KeepsKeys model d := by
    rw [KeepsKeys, Document.keys, List.forall_mem_map]
  have hidentity : StoreKey p.settings.identityKey ↔ p.HasPlainIdentity := by
    have hne := identityKey_ne_empty_of_load hload
    exact ⟨fun h => ⟨h.not_operator, h.no_dot⟩, fun h => ⟨hne, h.1, h.2⟩⟩
  rw [← hkeeps, ← hidentity]
  exact ⟨Scope.storeKey_or_identity h, Scope.record_keys_iff h⟩

/-- A configuration with a path as identity key, and one model. -/
def dottedConfig : Json :=
  .obj [("identity_key", .str "a.b"), ("primary_keys", .obj [("User", .str "id")])]

theorem load_dottedConfig : load (.bytes dottedConfig.text.toUTF8) =
    .ok { settings := { identityKey := "a.b" }, registry := [("User", "id")] } :=
  load_text dottedConfig (by decide) (by decide) (by decide) rfl

/-- **The store takes the keys that are written**, at every depth, of every inserted record and
every update of a record, up to the identity key: it takes all of them exactly if the primary key
is not among the keys given or the configured identity key is neither an operator nor a path. -/
theorem written_keys_iff {file : File} {p : Planner} (hload : load file = .ok p) :
    (∀ coll model record plan, p.answer (.insert coll model record) = .ok plan →
      ∃ w body, plan = .write w ∧ w.command = some body ∧
        (∀ key ∈ body.deepKeys, StoreKey key ∨ key = p.settings.identityKey) ∧
        ((∀ key ∈ body.deepKeys, StoreKey key) ↔
          p.KeepsKeys model record ∨ p.HasPlainIdentity)) ∧
    ∀ coll model values filter plan, p.answer (.update coll model values filter) = .ok plan →
      ∃ w body, plan = .write w ∧ w.command = some (Changes.setCommand body) ∧
        (∀ key ∈ body.deepKeys, StoreKey key ∨ key = p.settings.identityKey) ∧
        ((∀ key ∈ body.deepKeys, StoreKey key) ↔
          p.KeepsKeys model values ∨ p.HasPlainIdentity) := by
  constructor
  · intro coll model record plan hplan
    obtain ⟨w, hinsert, rfl⟩ := map_eq_ok.mp hplan
    obtain ⟨body, hbody, hw⟩ := bind_eq_ok.mp hinsert
    obtain rfl := pure_eq_ok.mp hw
    exact ⟨_, body, rfl, rfl, record_keys hload hbody⟩
  · intro coll model values filter plan hplan
    obtain ⟨w, hupdate, rfl⟩ := map_eq_ok.mp hplan
    obtain ⟨body, hbody, hcommand⟩ := Scope.command_of_update hupdate
    exact ⟨w, body, rfl, hcommand, record_keys hload hbody⟩

/-- The record is found by its primary key, and the primary key is not written: all is well. -/
theorem written_keys_of_dotted_filter :
    ∃ p w body, load (.bytes dottedConfig.text.toUTF8) = .ok p ∧
      p.answer (.update "users" (some "User")
        (.single "tags" (.array [.document (.single "id" .null)])) (.single "id" (.int 1))) =
          .ok (.write w) ∧
      w.command = some (Changes.setCommand body) ∧ body.deepKeys = ["tags", "id"] ∧
      ∀ key ∈ body.deepKeys, StoreKey key := by
  obtain ⟨w, body, hw, hcommand, -, hkeys⟩ := (written_keys_iff load_dottedConfig).2 "users"
    (some "User") (.single "tags" (.array [.document (.single "id" .null)]))
    (.single "id" (.int 1)) _ rfl
  cases hw
  cases hcommand
  exact ⟨_, _, _, load_dottedConfig, rfl, rfl, rfl, hkeys.mpr (.inl (by decide))⟩

/-- An inserted record has its primary key renamed to a path, which the store does not take. -/
theorem not_all_written_keys_taken :
    ¬ ∀ (file : File) (p : Planner), load file = .ok p → ∀ coll model record w body,
      p.answer (.insert coll model record) = .ok (.write w) → w.command = some body →
        ∀ key ∈ body.deepKeys, StoreKey key := by
  intro htaken
  have hkey : StoreKey "a.b" := htaken _ _ load_dottedConfig "users" (some "User")
    (.single "id" (.int 1)) _ _ rfl rfl "a.b" List.mem_cons_self
  exact hkey.no_dot (by decide)

end Planner
end DocQuery
