import DocQuery.Proofs.UpdateCommands
import DocQuery.Proofs.JsonRoundTrip
import DocQuery.Proofs.JsonSteps
import DocQuery.Value.Json

/-! # Two ways to read a value

A text can be read as a value pair by pair, or taken in whole first and turned into a value then.
The second way has objects that are maps and numbers of its own, and a value is made from them by
other rules.  Both ways accept the same texts.  What the second gives is the value that the first
gives with repeated keys collapsed: each key stands where it came first, with the value that came
last (`lastValues`, `Value.collapsed`).  Where no key is repeated the two values are equal
(`Value.parseUnique?_collapses`).

That numbers come out alike rests on the reader: integers that are too large to be taken in whole
never reach either way as integers (`Json.IntsFit`). -/
namespace DocQuery

/-! ### Integers that are read -/

namespace Json

mutual
/-- Every integer of the tree has 64 bits, with a sign or without. -/
def IntsFit : Json → Prop
  | .int n => -2 ^ 63 ≤ n ∧ n < 2 ^ 64
  | .arr items => ItemsFit items
  | .obj pairs => PairsFit pairs
  | _ => True

def ItemsFit : List Json → Prop
  | [] => True
  | j :: js => j.IntsFit ∧ ItemsFit js

def PairsFit : List (String × Json) → Prop
  | [] => True
  | (_, j) :: ps => j.IntsFit ∧ PairsFit ps
end

theorem intsFit_of_isNumber {j : Json} (h : IsNumber j) : j.IntsFit := by
  cases h with
  | int hrange =>
    rw [Int64.toInt_minValue] at hrange
    exact hrange
  | double | unusable => trivial

theorem intsFit_ofString (s : Option String) : (ofString s).IntsFit := by
  cases s <;> trivial

theorem intsFit_ofItems {room : Nat} {items : List Json} (h : ItemsFit items) :
    (ofItems room items).IntsFit := by
  unfold ofItems
  split
  · trivial
  · exact h

/-- The same of pairs of which there may be none for want of a name. -/
def KnownFit (ps : Option (List (String × Json))) : Prop :=
  ∀ known, ps = some known → PairsFit known

theorem knownFit_nil : KnownFit (some []) := by
  intro known hknown
  cases hknown
  trivial

theorem intsFit_ofPairs {room : Nat} {ps : Option (List (String × Json))} (h : KnownFit ps) :
    (ofPairs room ps).IntsFit := by
  cases ps with
  | none => trivial
  | some ps =>
    rw [ofPairs]
    split
    · trivial
    · exact h ps rfl

theorem knownFit_consPair {k : Option String} {j : Json} {ps : Option (List (String × Json))}
    (hj : j.IntsFit) (hps : KnownFit ps) : KnownFit (consPair k j ps) := by
  intro known hknown
  cases k with
  | none => cases hknown
  | some k =>
    cases ps with
    | none => cases hknown
    | some ps =>
      cases hknown
      exact ⟨hj, hps ps rfl⟩

/-- Every integer that is read has 64 bits, wherever in the tree it stands. -/
theorem keeps_intsFit :
    Keeps (fun _ j _ => j.IntsFit) (fun _ js _ => ItemsFit js) (fun _ ps _ => KnownFit ps) where
  word := by
    intro cs rest w j hw _
    have hwords : ∀ p ∈ words, p.2.IntsFit := by simp [words, IntsFit]
    exact hwords _ hw
  string := fun _ _ => intsFit_ofString _
  number h := intsFit_of_isNumber (isNumber_of_readNumber h)
  emptyArray := fun _ _ => intsFit_ofItems trivial
  array := fun _ hj hjs => intsFit_ofItems ⟨hj, hjs⟩
  emptyObject := fun _ _ => intsFit_ofPairs knownFit_nil
  object := fun _ _ hj hps => intsFit_ofPairs (knownFit_consPair hj hps)
  lastItem := fun _ => trivial
  nextItem := fun _ hj hjs => ⟨hj, hjs⟩
  lastPair := fun _ => knownFit_nil
  nextPair := fun _ _ hj hps => knownFit_consPair hj hps

theorem intsFit_of_parse? {s : String} {j : Json} (h : parse? s = some j) : j.IntsFit := by
  obtain ⟨rest, hfront, -⟩ := readFront_of_parse? h
  exact keeps_intsFit.front hfront

end Json

/-! ### Numbers -/

namespace Json.Number

/-- Naturals below `2 ^ 63` have a sign bit to spare. -/
theorem int64?_ofNat {n : Nat} (hn : n < 2 ^ 64) :
    (natural (UInt64.ofNat n)).int64? = if n < 2 ^ 63 then some (Int64.ofNat n) else none := by
  have hmax : Int64.maxValue.toUInt64.toNat = 2 ^ 63 - 1 := by decide
  have hle : UInt64.ofNat n ≤ Int64.maxValue.toUInt64 ↔ n < 2 ^ 63 := by
    rw [UInt64.le_iff_toNat_le, hmax, UInt64.toNat_ofNat_of_lt' hn]
    omega
  rw [int64?]
  by_cases hsmall : n < 2 ^ 63
  · rw [if_pos (hle.mpr hsmall), if_pos hsmall]
    rfl
  · rw [if_neg (mt hle.mp hsmall), if_neg hsmall]

end Json.Number

/-- An integer of 64 bits gives the same scalar by either rule. -/
theorem Value.ofUnique_ofInt {n : Int} (hn : -2 ^ 63 ≤ n ∧ n < 2 ^ 64) :
    Value.ofUnique (.number (.ofInt n)) = .scalar (.ofInt n) := by
  have hmin : Int64.minValue.toInt = -2 ^ 63 := Int64.toInt_minValue
  have hmax : Int64.maxValue.toInt = 2 ^ 63 - 1 := Int64.toInt_maxValue
  rw [Value.ofUnique, Scalar.ofInt, hmin, hmax]
  by_cases hsign : 0 ≤ n
  · obtain ⟨m, rfl⟩ := Int.eq_ofNat_of_zero_le hsign
    have hm : m < 2 ^ 64 := by omega
    rw [Json.Number.ofInt, if_pos hsign, Int.toNat_natCast, Json.Number.int64?_ofNat hm]
    by_cases hsmall : m < 2 ^ 63
    · rw [if_pos hsmall, if_pos (by omega), Int64.ofInt_eq_ofNat]
    · rw [if_neg hsmall, if_neg (by omega)]
      simp only [Json.Number.toDouble, UInt64.toNat_ofNat_of_lt' hm]
  · rw [Json.Number.ofInt, if_neg hsign, if_pos (by omega)]
    rfl

/-! ### Maps -/

section Maps
variable {α β : Type}

/-- Each key once, at its first place and with its last value. -/
def lastValues (pairs : List (String × α)) : List (String × α) :=
  (pairs.map Prod.fst).eraseDups.filterMap fun k => pairs.reverse.find? (·.1 = k)

open Json

theorem putPair_of_notMem {pairs : List (String × α)} {k : String} (a : α)
    (h : k ∉ pairs.map Prod.fst) : putPair pairs k a = pairs ++ [(k, a)] := by
  induction pairs with
  | nil => rfl
  | cons p ps ih =>
    rw [List.map_cons, List.mem_cons, not_or] at h
    rw [putPair, if_neg (Ne.symm h.1), ih h.2, List.cons_append]

/-- A pair replaces the one with its key, or else goes to the end. -/
theorem putPair_filterMap {ks : List String} (hks : ks.Nodup) {f : String → Option (String × α)}
    (hf : ∀ k ∈ ks, ∃ a, f k = some (k, a)) (k : String) (a : α) :
    putPair (ks.filterMap f) k a =
      (if k ∈ ks then ks else ks ++ [k]).filterMap (Function.update f k (some (k, a))) := by
  induction ks with
  | nil => simp [putPair]
  | cons k₀ ks ih =>
    obtain ⟨hnotMem, hks⟩ := List.nodup_cons.mp hks
    obtain ⟨⟨a₀, ha₀⟩, hf⟩ := List.forall_mem_cons.mp hf
    rw [List.filterMap_cons_some ha₀, putPair]
    by_cases hk : k₀ = k
    · subst hk
      -- the key is not among the others, so they stay as they are
      have hothers : ks.filterMap (Function.update f k₀ (some (k₀, a))) = ks.filterMap f := by
        refine List.filterMap_congr fun k' hk' => Function.update_of_ne ?_ _ _
        rintro rfl
        exact hnotMem hk'
      rw [if_pos rfl, if_pos List.mem_cons_self,
        List.filterMap_cons_some (Function.update_self k₀ _ f), hothers]
    · have hmem : k ∈ k₀ :: ks ↔ k ∈ ks := List.mem_cons.trans (or_iff_right (Ne.symm hk))
      have hhead : Function.update f k (some (k, a)) k₀ = some (k₀, a₀) :=
        (Function.update_of_ne hk _ f).trans ha₀
      rw [if_neg hk, ih hks hf]
      by_cases hin : k ∈ ks
      · rw [if_pos hin, if_pos (hmem.mpr hin), List.filterMap_cons_some hhead]
      · rw [if_neg hin, if_neg (mt hmem.mp hin), List.cons_append, List.filterMap_cons_some hhead]

/-- A key that occurs is found from the end. -/
theorem exists_find?_reverse {pairs : List (String × α)} {k : String}
    (h : k ∈ pairs.map Prod.fst) : ∃ a, pairs.reverse.find? (·.1 = k) = some (k, a) := by
  obtain ⟨p, hp, rfl⟩ := List.mem_map.mp h
  have hsome : (pairs.reverse.find? (·.1 = p.1)).isSome :=
    List.find?_isSome.mpr ⟨p, List.mem_reverse.mpr hp, decide_eq_true rfl⟩
  obtain ⟨⟨k, a⟩, hfound⟩ := Option.isSome_iff_exists.mp hsome
  have hk : k = p.1 := by simpa using List.find?_some hfound
  exact ⟨a, hk ▸ hfound⟩

theorem lastValues_ne_nil {pairs : List (String × α)} (h : pairs ≠ []) : lastValues pairs ≠ [] := by
  obtain ⟨p, hp⟩ := List.exists_mem_of_ne_nil pairs h
  have hkey : p.1 ∈ pairs.map Prod.fst := List.mem_map_of_mem hp
  obtain ⟨a, ha⟩ := exists_find?_reverse hkey
  have hmem : (p.1, a) ∈ lastValues pairs :=
    List.mem_filterMap.mpr ⟨p.1, List.mem_eraseDups.mpr hkey, ha⟩
  exact List.ne_nil_of_mem hmem

/-- One more pair: the rule for all pairs so far is kept. -/
theorem putPair_lastValues (pairs : List (String × α)) (k : String) (a : α) :
    putPair (lastValues pairs) k a = lastValues (pairs ++ [(k, a)]) := by
  have hfind : (fun k' => (pairs ++ [(k, a)]).reverse.find? (·.1 = k')) =
      Function.update (fun k' => pairs.reverse.find? (·.1 = k')) k (some (k, a)) := by
    funext k'
    rw [List.reverse_append, List.reverse_singleton, List.singleton_append]
    by_cases hk : k' = k
    · subst hk
      rw [Function.update_self, List.find?_cons_of_pos (by simp)]
    · rw [Function.update_of_ne hk, List.find?_cons_of_neg (by simpa using Ne.symm hk)]
  have hfound : ∀ k ∈ (pairs.map Prod.fst).eraseDups,
      ∃ a, pairs.reverse.find? (·.1 = k) = some (k, a) :=
    fun k hk => exists_find?_reverse (List.mem_eraseDups.mp hk)
  rw [lastValues, putPair_filterMap (nodup_eraseDups _) hfound, lastValues, hfind, List.map_append,
    List.map_singleton, eraseDups_concat]
  simp only [List.mem_eraseDups]

/-- The whole run: pairs put in one by one give each key its first place and its last value. -/
theorem foldl_putPair (pairs : List (String × α)) :
    pairs.foldl (fun seen p => putPair seen p.1 p.2) [] = lastValues pairs := by
  induction pairs using List.reverseRecOn with
  | nil => rfl
  | append_singleton pairs p ih =>
    rw [List.foldl_append, ih, ← putPair_lastValues]
    rfl

theorem lastValues_of_nodup {pairs : List (String × α)} (h : (pairs.map Prod.fst).Nodup) :
    lastValues pairs = pairs := by
  induction pairs using List.reverseRecOn with
  | nil => rfl
  | append_singleton pairs p ih =>
    rw [List.map_append, List.map_singleton] at h
    obtain ⟨hpairs, -, hdisjoint⟩ := List.nodup_append.mp h
    have hp : p.1 ∉ pairs.map Prod.fst := fun hp => hdisjoint p.1 hp p.1 List.mem_cons_self rfl
    rw [← putPair_lastValues, ih hpairs, putPair_of_notMem p.2 hp]

theorem map_putPair (f : α → β) (pairs : List (String × α)) (k : String) (a : α) :
    (putPair pairs k a).map (fun p => (p.1, f p.2)) =
      putPair (pairs.map fun p => (p.1, f p.2)) k (f a) := by
  induction pairs with
  | nil => rfl
  | cons p ps ih =>
    rw [List.map_cons, putPair, putPair]
    split
    · rw [List.map_cons]
    · rw [List.map_cons, ih]

end Maps

/-! ### Values -/

mutual
/-- The value with repeated keys collapsed in every document. -/
def Value.collapsed : Value → Value
  | .native n => .native n
  | .array items => .array (collapsedValues items)
  | .document d => .document d.collapsed

def collapsedValues : List Value → List Value
  | [] => []
  | v :: vs => v.collapsed :: collapsedValues vs

def Document.collapsed : Document → Document
  | .empty => .empty
  | .entries pairs => .entries (lastValues (collapsedPairs pairs))

def collapsedPairs : List (String × Value) → List (String × Value)
  | [] => []
  | (k, v) :: ps => (k, v.collapsed) :: collapsedPairs ps
end

theorem Document.collapsed_ofPairs (pairs : List (String × Value)) :
    (ofPairs pairs).collapsed = .ofPairs (lastValues (collapsedPairs pairs)) := by
  cases pairs with
  | nil => rfl
  | cons p ps =>
    have hne : lastValues (collapsedPairs (p :: ps)) ≠ [] :=
      lastValues_ne_nil (List.cons_ne_nil _ _)
    obtain ⟨q, qs, hcons⟩ := List.exists_cons_of_ne_nil hne
    rw [ofPairs, collapsed, hcons, ofPairs]

theorem pairsOfUnique_eq_map (pairs : List (String × Json.Unique)) :
    pairsOfUnique pairs = pairs.map fun p => (p.1, Value.ofUnique p.2) := by
  induction pairs with
  | nil => rfl
  | cons p ps ih => rw [pairsOfUnique, ih, List.map_cons]

theorem pairsOfUnique_putPair (pairs : List (String × Json.Unique)) (k : String)
    (u : Json.Unique) :
    pairsOfUnique (Json.putPair pairs k u) =
      Json.putPair (pairsOfUnique pairs) k (Value.ofUnique u) := by
  rw [pairsOfUnique_eq_map, pairsOfUnique_eq_map, map_putPair]

/-- Two results that agree are both there or both missing. -/
theorem map_eq_map_cases {α β γ : Type} {x : Option α} {y : Option β} {f : α → γ} {g : β → γ}
    (h : x.map f = y.map g) :
    (x = none ∧ y = none) ∨ ∃ a b, x = some a ∧ y = some b ∧ f a = g b := by
  cases x <;> cases y
  · exact .inl ⟨rfl, rfl⟩
  · cases h
  · cases h
  · exact .inr ⟨_, _, rfl, rfl, Option.some.inj h⟩

mutual
/-- **The two ways agree on trees**: what is made of a tree taken in whole is the collapsed value of
the tree. -/
theorem Value.ofUnique_of_unique? : ∀ j : Json, j.IntsFit →
    j.unique?.map Value.ofUnique = (Value.ofJson? j).map Value.collapsed
  | .null, _ => rfl
  | .bool _, _ => rfl
  | .str _, _ => rfl
  | .double _, _ => rfl
  | .unusable, _ => rfl
  | .int n, hfit => by
    rw [Json.unique?, Option.map_some, Value.ofUnique_ofInt hfit]
    rfl
  | .arr items, hfit => by
    rw [Json.unique?, Value.ofJson?]
    rcases map_eq_map_cases (valuesOfUnique_of_uniqueItems? items hfit) with
      ⟨hus, hvs⟩ | ⟨us, vs, hus, hvs, huv⟩
    · rw [hus, hvs]
      rfl
    · rw [hus, hvs]
      simp only [Option.map_some, Value.ofUnique, Value.collapsed, huv]
  | .obj pairs, hfit => by
    rw [Json.unique?, Value.ofJson?]
    rcases map_eq_map_cases (pairsOfUnique_of_uniquePairs? pairs [] hfit) with
      ⟨hus, hvs⟩ | ⟨us, vs, hus, hvs, huv⟩
    · rw [hus, hvs]
      rfl
    · rw [hus, hvs]
      simp only [Option.map_some, Value.ofUnique, Value.collapsed, huv, Document.collapsed_ofPairs,
        ← foldl_putPair]
      rfl

theorem valuesOfUnique_of_uniqueItems? : ∀ js : List Json, Json.ItemsFit js →
    (Json.uniqueItems? js).map valuesOfUnique = (valuesOfJson? js).map collapsedValues
  | [], _ => rfl
  | j :: js, hfit => by
    rw [Json.uniqueItems?, valuesOfJson?]
    rcases map_eq_map_cases (Value.ofUnique_of_unique? j hfit.1) with
      ⟨hu, hv⟩ | ⟨u, v, hu, hv, huv⟩
    · rw [hu, hv]
      rfl
    · rcases map_eq_map_cases (valuesOfUnique_of_uniqueItems? js hfit.2) with
        ⟨hus, hvs⟩ | ⟨us, vs, hus, hvs, husvs⟩
      · rw [hu, hv, hus, hvs]
        rfl
      · rw [hu, hv, hus, hvs]
        simp only [Option.bind_eq_bind, Option.bind_some, Option.map_some, valuesOfUnique,
          collapsedValues, huv, husvs]

/-- Pairs are put into what is there already, so the statement is about any start. -/
theorem pairsOfUnique_of_uniquePairs? : ∀ (ps : List (String × Json))
    (seen : List (String × Json.Unique)), Json.PairsFit ps →
    (Json.uniquePairs? seen ps).map pairsOfUnique = (pairsOfJson? ps).map fun vs =>
      (collapsedPairs vs).foldl (fun seen p => Json.putPair seen p.1 p.2) (pairsOfUnique seen)
  | [], _, _ => rfl
  | (k, j) :: ps, seen, hfit => by
    rw [Json.uniquePairs?, pairsOfJson?]
    rcases map_eq_map_cases (Value.ofUnique_of_unique? j hfit.1) with
      ⟨hu, hv⟩ | ⟨u, v, hu, hv, huv⟩
    · rw [hu, hv]
      rfl
    · have htail := pairsOfUnique_of_uniquePairs? ps (Json.putPair seen k u) hfit.2
      rw [pairsOfUnique_putPair, huv] at htail
      rw [hu, hv, Option.bind_eq_bind, Option.bind_some, htail]
      cases pairsOfJson? ps <;> rfl
end

/-! ### Values without repeats -/

mutual
/-- No document in the value repeats a key. -/
def Value.KeysDistinct : Value → Prop
  | .native _ => True
  | .array items => ValuesDistinct items
  | .document d => d.KeysDistinct

def ValuesDistinct : List Value → Prop
  | [] => True
  | v :: vs => v.KeysDistinct ∧ ValuesDistinct vs

def Document.KeysDistinct : Document → Prop
  | .empty => True
  | .entries pairs => (pairs.map Prod.fst).Nodup ∧ PairsDistinct pairs

def PairsDistinct : List (String × Value) → Prop
  | [] => True
  | (_, v) :: ps => v.KeysDistinct ∧ PairsDistinct ps
end

mutual
theorem Value.collapsed_of_keysDistinct : ∀ v : Value, v.KeysDistinct → v.collapsed = v
  | .native _, _ => rfl
  | .array items, h => by
    rw [Value.collapsed, collapsedValues_of_distinct items h]
  | .document d, h => by
    rw [Value.collapsed, Document.collapsed_of_keysDistinct d h]

theorem collapsedValues_of_distinct : ∀ vs : List Value, ValuesDistinct vs →
    collapsedValues vs = vs
  | [], _ => rfl
  | v :: vs, h => by
    rw [collapsedValues, Value.collapsed_of_keysDistinct v h.1, collapsedValues_of_distinct vs h.2]

theorem Document.collapsed_of_keysDistinct : ∀ d : Document, d.KeysDistinct → d.collapsed = d
  | .empty, _ => rfl
  | .entries pairs, h => by
    rw [Document.collapsed, collapsedPairs_of_distinct pairs h.2, lastValues_of_nodup h.1]

theorem collapsedPairs_of_distinct : ∀ ps : List (String × Value), PairsDistinct ps →
    collapsedPairs ps = ps
  | [], _ => rfl
  | (k, v) :: ps, h => by
    rw [collapsedPairs, Value.collapsed_of_keysDistinct v h.1, collapsedPairs_of_distinct ps h.2]
end

/-! ### Texts -/

theorem Value.parseUnique?_eq_map (s : String) :
    Value.parseUnique? s = (Value.parse? s).map Value.collapsed := by
  rw [Value.parseUnique?, Value.parse?]
  cases hj : Json.parse? s with
  | none => rfl
  | some j =>
    have hagree := Value.ofUnique_of_unique? j (Json.intsFit_of_parse? hj)
    rw [Option.map_eq_bind] at hagree
    exact hagree

/-- **The two ways to read a value agree.**  A text can be read by way of a tree without repeated
names if and only if it can be read at all, and this gives the value of the text with repeated keys
collapsed in every document.  Where no document repeats a key it gives the value itself. -/
theorem Value.parseUnique?_collapses (s : String) :
    Value.parseUnique? s = (Value.parse? s).map Value.collapsed ∧
      ∀ v, Value.parse? s = some v → v.KeysDistinct → Value.parseUnique? s = some v := by
  have hcollapsed := Value.parseUnique?_eq_map s
  refine ⟨hcollapsed, fun v hv hdistinct => ?_⟩
  rw [hcollapsed, hv, Option.map_some, Value.collapsed_of_keysDistinct v hdistinct]

/-- Keys that come back at two depths, with integers at the limits of both kinds; and an object that
has the same integers under keys of their own. -/
theorem Value.parseUnique?_collapses_of_limits :
    ∃ repeated distinct : String,
      Value.parseUnique? repeated = some (.document (.entries
        [("b", .document .empty),
          ("a", .array [.document (.entries [("x", .int (-9223372036854775808))])])])) ∧
      ∃ v : Value, Value.parse? distinct = some v ∧ v.KeysDistinct ∧
        Value.parseUnique? distinct = some v := by
  let inner : Json := .obj [("x", .int 18446744073709551615), ("x", .int (-9223372036854775808))]
  let repeated : Json := .obj [("b", .int 1), ("a", .arr [inner]), ("b", .obj [])]
  let distinct : Json :=
    .obj [("x", .int 9223372036854775808), ("y", .int (-9223372036854775808))]
  have hrepeated : Json.parse? repeated.text = some repeated :=
    Json.parse?_text_of_isExact (by decide) (by decide)
  have hdistinct : Json.parse? distinct.text = some distinct :=
    Json.parse?_text_of_isExact (by decide) (by decide)
  let v : Value := .document (.entries
    [("x", .scalar (.double (.ofInt 9223372036854775808))), ("y", .int (-9223372036854775808))])
  have hv : Value.parse? distinct.text = some v := by
    rw [Value.parse?, hdistinct]
    rfl
  have hkeys : v.KeysDistinct := ⟨by decide, trivial, trivial, trivial⟩
  refine ⟨repeated.text, distinct.text, ?_, v, hv, hkeys,
    (Value.parseUnique?_collapses distinct.text).2 v hv hkeys⟩
  rw [(Value.parseUnique?_collapses repeated.text).1, Value.parse?, hrepeated]
  rfl

end DocQuery
