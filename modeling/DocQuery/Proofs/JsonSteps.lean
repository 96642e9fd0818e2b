import DocQuery.Json.Reader

/-! # Steps of the JSON reader

The reader calls itself for the items of an array and for the pairs of an object.  `Keeps` lists
what it does in between, as what each step keeps of three relations between a text, what is read
from its front and what is left of it: one for values, one for the rest of an array and one for the
rest of an object.  Relations that every step keeps hold of all that is read (`Keeps.value`), so a
fact about what is read needs no look at the reader itself.  Of a number it is enough to know the
three kinds of values it can have (`IsNumber`). -/
namespace DocQuery.Json

/-! ### Numbers -/

/-- The values of numbers: integers in the range of a 64-bit one, signed or unsigned, doubles, and
what is too large for a double. -/
inductive IsNumber : Json → Prop
  | int {i : Int} (hrange : Int64.minValue.toInt ≤ i ∧ i < UInt64.size) : IsNumber (.int i)
  | double {d : Double} : IsNumber (.double d)
  | unusable : IsNumber .unusable

theorem isNumber_ofDouble (d : Option Double) : IsNumber (ofDouble d) := by
  cases d
  · exact .unusable
  · exact .double

theorem isNumber_ofDecimal (negative : Bool) (whole fraction : List Char) (exponent : Int) :
    IsNumber (ofDecimal negative whole fraction exponent) := by
  unfold ofDecimal
  dsimp only
  split
  · split
    · exact .double
    · exact .unusable
  · exact isNumber_ofDouble _

theorem isNumber_ofInteger (negative : Bool) (digits : List Char) :
    IsNumber (ofInteger negative digits) := by
  unfold ofInteger
  dsimp only
  generalize (if negative = true then -(Digits.number digits : Int) else Digits.number digits) = i
  split
  · exact .double
  · split
    · rename_i hrange
      exact .int hrange
    · exact isNumber_ofDecimal _ _ _ _

theorem isNumber_of_readNumber {cs : List Char} {j : Json} {rest : List Char}
    (h : readNumber cs = some (j, rest)) : IsNumber j := by
  unfold readNumber at h
  dsimp only at h
  split at h
  · cases h
  · obtain ⟨⟨f, rest₁⟩, -, h⟩ := Option.bind_eq_some_iff.mp h
    obtain ⟨⟨e, rest₂⟩, -, h⟩ := Option.bind_eq_some_iff.mp h
    cases h
    split
    · exact isNumber_ofInteger _ _
    · exact isNumber_ofDecimal _ _ _ _

/-! ### What every step keeps -/

/-- The values that are written as words. -/
def words : List (List Char × Json) :=
  [(['n', 'u', 'l', 'l'], .null), (['t', 'r', 'u', 'e'], .bool true),
    (['f', 'a', 'l', 's', 'e'], .bool false)]

/-- Each step of the reader keeps the relations `V` of values, `I` of the rest of an array and `P`
of the rest of an object. -/
structure Keeps (V : List Char → Json → List Char → Prop)
    (I : List Char → List Json → List Char → Prop)
    (P : List Char → Option (List (String × Json)) → List Char → Prop) : Prop where
  word : ∀ {cs rest w : List Char} {j : Json}, (w, j) ∈ words → skip cs = w ++ rest → V cs j rest
  string : ∀ {cs text rest : List Char} {s : Option String}, skip cs = '"' :: text →
    readString text = some (s, rest) → V cs (ofString s) rest
  number : ∀ {cs rest : List Char} {j : Json}, readNumber (skip cs) = some (j, rest) → V cs j rest
  emptyArray : ∀ {cs text rest : List Char} {room : Nat}, skip cs = '[' :: text →
    skip text = ']' :: rest → V cs (ofItems room []) rest
  array : ∀ {cs text after rest : List Char} {room : Nat} {j : Json} {js : List Json},
    skip cs = '[' :: text → V (skip text) j after → I after js rest →
      V cs (ofItems room (j :: js)) rest
  emptyObject : ∀ {cs text rest : List Char} {room : Nat}, skip cs = '{' :: text →
    skip text = '}' :: rest → V cs (ofPairs room (some [])) rest
  object : ∀ {cs text after after' rest : List Char} {room : Nat} {k : Option String} {j : Json}
    {ps : Option (List (String × Json))}, skip cs = '{' :: text →
      readName (skip text) = some (k, after) → V after j after' → P after' ps rest →
        V cs (ofPairs room (consPair k j ps)) rest
  lastItem : ∀ {cs rest : List Char}, skip cs = ']' :: rest → I cs [] rest
  nextItem : ∀ {cs text after rest : List Char} {j : Json} {js : List Json},
    skip cs = ',' :: text → V text j after → I after js rest → I cs (j :: js) rest
  lastPair : ∀ {cs rest : List Char}, skip cs = '}' :: rest → P cs (some []) rest
  nextPair : ∀ {cs text after after' rest : List Char} {k : Option String} {j : Json}
    {ps : Option (List (String × Json))}, skip cs = ',' :: text →
      readName text = some (k, after) → V after j after' → P after' ps rest →
        P cs (consPair k j ps) rest

namespace Keeps
variable {V : List Char → Json → List Char → Prop} {I : List Char → List Json → List Char → Prop}
  {P : List Char → Option (List (String × Json)) → List Char → Prop}

-- by recursion on the fuel, as the reader itself goes; a reader without fuel reads nothing
mutual
/-- What every step keeps holds of what is read. -/
theorem value (hkeeps : Keeps V I P) : ∀ (fuel room : Nat) (cs : List Char) {j : Json}
    {rest : List Char}, readValue fuel room cs = some (j, rest) → V cs j rest
  | 0, _, _, _, _, h => by cases h
  | fuel + 1, room, cs, j, rest, h => by
    unfold readValue at h
    split at h
    case h_1 hcs =>
      cases h
      exact hkeeps.word (.head _) hcs
    case h_2 hcs =>
      cases h
      exact hkeeps.word (.tail _ (.head _)) hcs
    case h_3 hcs =>
      cases h
      exact hkeeps.word (.tail _ (.tail _ (.head _))) hcs
    case h_4 text hcs =>
      obtain ⟨⟨s, _⟩, hs, hpair⟩ := Option.map_eq_some_iff.mp h
      cases hpair
      exact hkeeps.string hcs hs
    case h_5 text hcs =>
      split at h
      · rename_i hend
        cases h
        exact hkeeps.emptyArray hcs hend
      · obtain ⟨⟨j, after⟩, hj, h⟩ := Option.bind_eq_some_iff.mp h
        obtain ⟨⟨js, _⟩, hjs, h⟩ := Option.bind_eq_some_iff.mp h
        cases h
        exact hkeeps.array hcs (value hkeeps fuel _ _ hj) (items hkeeps fuel _ _ hjs)
    case h_6 text hcs =>
      split at h
      · rename_i hend
        cases h
        exact hkeeps.emptyObject hcs hend
      · obtain ⟨⟨k, after⟩, hk, h⟩ := Option.bind_eq_some_iff.mp h
        obtain ⟨⟨j, after'⟩, hj, h⟩ := Option.bind_eq_some_iff.mp h
        obtain ⟨⟨ps, _⟩, hps, h⟩ := Option.bind_eq_some_iff.mp h
        cases h
        exact hkeeps.object hcs hk (value hkeeps fuel _ _ hj) (pairs hkeeps fuel _ _ hps)
    case h_7 => exact hkeeps.number h

theorem items (hkeeps : Keeps V I P) : ∀ (fuel room : Nat) (cs : List Char) {js : List Json}
    {rest : List Char}, readItems fuel room cs = some (js, rest) → I cs js rest
  | 0, _, _, _, _, h => by cases h
  | fuel + 1, room, cs, js, rest, h => by
    unfold readItems at h
    split at h
    · rename_i hcs
      cases h
      exact hkeeps.lastItem hcs
    · rename_i hcs
      obtain ⟨⟨j, after⟩, hj, h⟩ := Option.bind_eq_some_iff.mp h
      obtain ⟨⟨js, _⟩, hjs, h⟩ := Option.bind_eq_some_iff.mp h
      cases h
      exact hkeeps.nextItem hcs (value hkeeps fuel _ _ hj) (items hkeeps fuel _ _ hjs)
    · cases h

theorem pairs (hkeeps : Keeps V I P) : ∀ (fuel room : Nat) (cs : List Char)
    {ps : Option (List (String × Json))} {rest : List Char},
    readPairs fuel room cs = some (ps, rest) → P cs ps rest
  | 0, _, _, _, _, h => by cases h
  | fuel + 1, room, cs, ps, rest, h => by
    unfold readPairs at h
    split at h
    · rename_i hcs
      cases h
      exact hkeeps.lastPair hcs
    · rename_i hcs
      obtain ⟨⟨k, after⟩, hk, h⟩ := Option.bind_eq_some_iff.mp h
      obtain ⟨⟨j, after'⟩, hj, h⟩ := Option.bind_eq_some_iff.mp h
      obtain ⟨⟨ps, _⟩, hps, h⟩ := Option.bind_eq_some_iff.mp h
      cases h
      exact hkeeps.nextPair hcs hk (value hkeeps fuel _ _ hj) (pairs hkeeps fuel _ _ hps)
    · cases h
end

/-- What every step keeps holds of the value at the front of a text. -/
theorem front (hkeeps : Keeps V I P) {cs : List Char} {j : Json} {rest : List Char}
    (h : readFront cs = some (j, rest)) : V cs j rest :=
  hkeeps.value _ _ cs h

end Keeps
end DocQuery.Json
