import DocQuery.Proofs.DoubleText
import Mathlib.Algebra.Group.Int.Defs

/-! # Reading back what was written

Every tree is written as a well-formed text, and `reread` says what is read back from it
(`parse?_text`).  Most of the tree comes back as it is.  Three things do not: a tree has more ways
to say `null` than a text, a double comes back as the number that its digits spell, and what is
nested too deep is unusable.  A tree that has none of them, an *exact* tree, comes back unchanged
(`parse?_text_of_isExact`).

A text that was written holds no control characters, and so no line breaks
(`printable_render`). -/
namespace DocQuery.Json

/-! ### Numbers of a tree -/

namespace Numeral

/-- The numeral of an integer. -/
def ofInt (n : Int) : Numeral where
  negative := n < 0
  whole := Digits.decimal n.natAbs
  isRun_whole := Digits.isRun_decimal _
  length_whole hzero := by
    by_cases hn : 0 < n.natAbs
    · exact absurd hzero (Digits.head?_decimal hn)
    · rw [Nat.eq_zero_of_not_pos hn]
      rfl
  isRun_fraction := by
    rintro _ ⟨⟩

theorem text_ofInt (n : Int) : (ofInt n).text = Digits.signed n := by
  cases n with
  | ofNat n => simp [text, ofInt, signText, fractionText, exponentText, Digits.signed]
  | negSucc n => simp [text, ofInt, signText, fractionText, exponentText, Digits.signed]

end Numeral

/-- What the text of a double is read as. -/
def rereadDouble (d : Double) : Json :=
  if d.isFinite then ((readNumber (renderDouble d)).map Prod.fst).getD .unusable else .null

/-! ### The tree that is read back -/

mutual
/-- What the text of a tree is read as, where `room` is how many containers may be opened. -/
def reread (room : Nat) : Json → Json
  | .null => .null
  | .unusable => .null
  | .bool b => .bool b
  | .int n => ofInteger (n < 0) (Digits.decimal n.natAbs)
  | .double d => rereadDouble d
  | .str s => .str s
  | .arr items => ofItems room (rereadItems (room - 1) items)
  | .obj pairs => ofPairs room (some (rereadPairs (room - 1) pairs))

def rereadItems (room : Nat) : List Json → List Json
  | [] => []
  | j :: js => j.reread room :: rereadItems room js

def rereadPairs (room : Nat) : List (String × Json) → List (String × Json)
  | [] => []
  | (k, j) :: ps => (k, j.reread room) :: rereadPairs room ps
end

/-! ### First characters -/

/-- How a number begins. -/
def OpensNumber (c : Char) : Prop := c = '-' ∨ c.isDigit = true

theorem OpensNumber.ne {c c' : Char} (hc : OpensNumber c)
    (hc' : c' ≠ '-' ∧ c'.isDigit = false) : c ≠ c' := by
  rintro rfl
  rcases hc with hminus | hdigit
  · exact hc'.1 hminus
  · rw [hc'.2] at hdigit
    cases hdigit

theorem OpensNumber.not_isSpace {c : Char} (hc : OpensNumber c) : isSpace c = false := by
  simp only [isSpace, Bool.or_eq_false_iff, decide_eq_false_iff_not]
  exact ⟨⟨⟨hc.ne (by decide), hc.ne (by decide)⟩, hc.ne (by decide)⟩, hc.ne (by decide)⟩

theorem Numeral.exists_head (n : Numeral) : ∃ c cs, n.text = c :: cs ∧ OpensNumber c := by
  obtain ⟨first, rest, hwhole⟩ := List.exists_cons_of_ne_nil n.isRun_whole.ne_nil
  have hfirst := n.isRun_whole.isDigit first (by rw [hwhole]; exact List.mem_cons_self)
  unfold text
  rw [hwhole]
  cases n.negative with
  | true => exact ⟨'-', _, rfl, .inl rfl⟩
  | false => exact ⟨first, _, rfl, .inr hfirst⟩

/-- The text of a value begins neither with a blank nor with the end of an array. -/
theorem exists_head_render (j : Json) :
    ∃ c cs, j.render = c :: cs ∧ isSpace c = false ∧ c ≠ ']' := by
  have hnumeral (n : Numeral) : ∃ c cs, n.text = c :: cs ∧ isSpace c = false ∧ c ≠ ']' := by
    obtain ⟨c, cs, htext, hc⟩ := n.exists_head
    exact ⟨c, cs, htext, hc.not_isSpace, hc.ne (by decide)⟩
  match j with
  | .null => exact ⟨_, _, rfl, by decide⟩
  | .unusable => exact ⟨_, _, rfl, by decide⟩
  | .bool true => exact ⟨_, _, rfl, by decide⟩
  | .bool false => exact ⟨_, _, rfl, by decide⟩
  | .int n =>
    rw [render, ← Numeral.text_ofInt]
    exact hnumeral _
  | .double d =>
    rw [render, renderDouble]
    split
    · obtain ⟨n, hn⟩ := d.exists_numeral
      rw [← hn]
      exact hnumeral n
    · exact ⟨_, _, rfl, by decide⟩
  | .str s => exact ⟨_, _, rfl, by decide⟩
  | .arr [] => exact ⟨_, _, rfl, by decide⟩
  | .arr (j :: js) => exact ⟨_, _, rfl, by decide⟩
  | .obj [] => exact ⟨_, _, rfl, by decide⟩
  | .obj ((k, j) :: ps) => exact ⟨_, _, rfl, by decide⟩

theorem skip_of_head {c : Char} (cs : List Char) (hc : isSpace c = false) :
    skip (c :: cs) = c :: cs := by
  rw [skip, List.dropWhile_cons, hc]
  rfl

/-- An array that does not end at once is read as a first element and the rest. -/
theorem readValue_items (fuel room : Nat) {c : Char} (cs : List Char) (hspace : isSpace c = false)
    (hclose : c ≠ ']') :
    readValue (fuel + 1) room ('[' :: c :: cs) = (do
      let (j, rest) ← readValue fuel (room - 1) (c :: cs)
      let (js, rest) ← readItems fuel (room - 1) rest
      some (ofItems room (j :: js), rest)) := by
  simp only [readValue, skip_of_head _ (show isSpace '[' = false from rfl), skip_of_head cs hspace]
  split
  · rename_i heq
    cases heq
    exact absurd rfl hclose
  · rfl

/-- The text of a numeral is read as its value, also where any value may stand. -/
theorem readValue_numeral (fuel room : Nat) (n : Numeral) {rest : List Char} (hrest : Stops rest) :
    readValue (fuel + 1) room (n.text ++ rest) = some (n.value, rest) := by
  obtain ⟨c, cs, htext, hc⟩ := n.exists_head
  rw [← readNumber_numeral n hrest, htext, List.cons_append, readValue,
    skip_of_head _ hc.not_isSpace]
  split
  · rename_i heq
    exact absurd (List.cons.inj heq).1 (hc.ne (by decide))
  · rename_i heq
    exact absurd (List.cons.inj heq).1 (hc.ne (by decide))
  · rename_i heq
    exact absurd (List.cons.inj heq).1 (hc.ne (by decide))
  · rename_i heq
    exact absurd (List.cons.inj heq).1 (hc.ne (by decide))
  · rename_i heq
    exact absurd (List.cons.inj heq).1 (hc.ne (by decide))
  · rename_i heq
    exact absurd (List.cons.inj heq).1 (hc.ne (by decide))
  · rfl

theorem readName_quote (k : String) (rest : List Char) :
    readName (quote k ++ ':' :: rest) = some (some k, rest) := by
  rw [quote, List.cons_append, List.append_assoc, List.singleton_append, readName,
    skip_of_head _ (by decide)]
  simp only [readString_quoted, skip_of_head _ (show isSpace ':' = false from rfl)]

/-! ### Reading a tree back -/

theorem stops_renderItems (js : List Json) (rest : List Char) : Stops (renderItems js ++ rest) := by
  cases js with
  | nil => exact stops_cons (by decide)
  | cons j js => exact stops_cons (by decide)

theorem stops_renderPairs (ps : List (String × Json)) (rest : List Char) :
    Stops (renderPairs ps ++ rest) := by
  cases ps with
  | nil => exact stops_cons (by decide)
  | cons p ps => exact stops_cons (by decide)

theorem readValue_renderDouble (fuel room : Nat) (d : Double) {rest : List Char}
    (hrest : Stops rest) :
    readValue (fuel + 1) room (renderDouble d ++ rest) = some (rereadDouble d, rest) := by
  unfold rereadDouble
  split
  · rename_i hfinite
    obtain ⟨n, hn⟩ := d.exists_numeral
    have htext : renderDouble d = n.text := by
      rw [renderDouble, if_pos hfinite, hn]
    have hread := readNumber_numeral n stops_nil
    rw [List.append_nil] at hread
    rw [htext, readValue_numeral fuel room n hrest, hread]
    rfl
  · rename_i hinfinite
    rw [renderDouble, if_neg hinfinite]
    rfl

mutual
/-- Every value is read back, with the length of its text as fuel. -/
theorem readValue_render : ∀ (j : Json) (fuel room : Nat) (rest : List Char),
    j.render.length ≤ fuel → Stops rest →
      readValue fuel room (j.render ++ rest) = some (j.reread room, rest)
  | j, 0, _, _, hfuel, _ => by
    obtain ⟨c, cs, hrender, -⟩ := j.exists_head_render
    rw [hrender] at hfuel
    cases hfuel
  | .null, fuel + 1, room, rest, _, _ => rfl
  | .unusable, fuel + 1, room, rest, _, _ => rfl
  | .bool true, fuel + 1, room, rest, _, _ => rfl
  | .bool false, fuel + 1, room, rest, _, _ => rfl
  | .int n, fuel + 1, room, rest, _, hrest => by
    rw [render, ← Numeral.text_ofInt, readValue_numeral fuel room _ hrest, reread]
    rfl
  | .double d, fuel + 1, room, rest, _, hrest => readValue_renderDouble fuel room d hrest
  | .str s, fuel + 1, room, rest, _, _ => by
    have hread := readString_quoted s rest
    rw [render, quote, List.cons_append, List.append_assoc, List.singleton_append]
    change (readString _).map _ = _
    rw [hread]
    rfl
  | .arr [], fuel + 1, room, rest, _, _ => rfl
  | .arr (j :: js), fuel + 1, room, rest, hfuel, _ => by
    rw [render, List.length_cons, List.length_append] at hfuel
    -- the first element must not be taken for the end of the array
    obtain ⟨c, cs, hrender, hspace, hclose⟩ := j.exists_head_render
    have hj := readValue_render j fuel (room - 1) (renderItems js ++ rest) (by omega)
      (stops_renderItems js rest)
    have hjs := readItems_render js fuel (room - 1) rest (by omega)
    rw [hrender, List.cons_append] at hj
    rw [render, List.cons_append, List.append_assoc, hrender, List.cons_append,
      readValue_items fuel room _ hspace hclose, hj]
    simp only [Option.bind_eq_bind, Option.bind_some, hjs, reread, rereadItems]
  | .obj [], fuel + 1, room, rest, _, _ => rfl
  | .obj ((k, j) :: ps), fuel + 1, room, rest, hfuel, _ => by
    simp only [render, List.length_cons, List.length_append] at hfuel
    have hk := readName_quote k (j.render ++ (renderPairs ps ++ rest))
    have hj := readValue_render j fuel (room - 1) (renderPairs ps ++ rest) (by omega)
      (stops_renderPairs ps rest)
    have hps := readPairs_render ps fuel (room - 1) rest (by omega)
    rw [render, List.cons_append, List.append_assoc, List.cons_append, List.append_assoc]
    change (readName (quote k ++ _) >>= _) = _
    rw [hk]
    simp only [Option.bind_eq_bind, Option.bind_some, hj, hps, consPair, reread, rereadPairs]

theorem readItems_render : ∀ (js : List Json) (fuel room : Nat) (rest : List Char),
    (renderItems js).length ≤ fuel →
      readItems fuel room (renderItems js ++ rest) = some (rereadItems room js, rest)
  | [], 0, _, _, hfuel => by cases hfuel
  | _ :: _, 0, _, _, hfuel => by cases hfuel
  | [], fuel + 1, room, rest, _ => rfl
  | j :: js, fuel + 1, room, rest, hfuel => by
    rw [renderItems, List.length_cons, List.length_append] at hfuel
    have hj := readValue_render j fuel room (renderItems js ++ rest) (by omega)
      (stops_renderItems js rest)
    have hjs := readItems_render js fuel room rest (by omega)
    rw [renderItems, List.cons_append, List.append_assoc]
    change (readValue fuel room _ >>= _) = _
    rw [hj]
    simp only [Option.bind_eq_bind, Option.bind_some, hjs, rereadItems]

theorem readPairs_render : ∀ (ps : List (String × Json)) (fuel room : Nat) (rest : List Char),
    (renderPairs ps).length ≤ fuel →
      readPairs fuel room (renderPairs ps ++ rest) = some (some (rereadPairs room ps), rest)
  | [], 0, _, _, hfuel => by cases hfuel
  | _ :: _, 0, _, _, hfuel => by cases hfuel
  | [], fuel + 1, room, rest, _ => rfl
  | (k, j) :: ps, fuel + 1, room, rest, hfuel => by
    simp only [renderPairs, List.length_cons, List.length_append] at hfuel
    have hk := readName_quote k (j.render ++ (renderPairs ps ++ rest))
    have hj := readValue_render j fuel room (renderPairs ps ++ rest) (by omega)
      (stops_renderPairs ps rest)
    have hps := readPairs_render ps fuel room rest (by omega)
    rw [renderPairs, List.cons_append, List.append_assoc, List.cons_append, List.append_assoc]
    change (readName (quote k ++ _) >>= _) = _
    rw [hk]
    simp only [Option.bind_eq_bind, Option.bind_some, hj, hps, consPair, rereadPairs]
end

/-- A tree is read back from the front of a text, whatever follows that does not continue it. -/
theorem readFront_render (j : Json) {rest : List Char} (hrest : Stops rest) :
    readFront (j.render ++ rest) = some (j.reread nestingLimit, rest) := by
  refine readValue_render j _ nestingLimit rest ?_ hrest
  rw [List.length_append]
  omega

theorem readFront_text (j : Json) :
    readFront j.text.toList = some (j.reread nestingLimit, []) := by
  rw [text, String.toList_ofList, ← readFront_render j stops_nil, List.append_nil]

/-- The tree of a text is the one at its front. -/
theorem readFront_of_parse? {s : String} {j : Json} (h : parse? s = some j) :
    ∃ rest, readFront s.toList = some (j, rest) ∧ atEnd rest = true := by
  obtain ⟨⟨j', rest⟩, hfront, hend⟩ := Option.bind_eq_some_iff.mp h
  obtain ⟨hrest, hj'⟩ := Option.ite_none_right_eq_some.mp hend
  cases hj'
  exact ⟨rest, hfront, hrest⟩

/-- **Every tree is written as a well-formed text**, and this is what is read back from it. -/
theorem parse?_text (j : Json) : parse? j.text = some (j.reread nestingLimit) := by
  rw [parse?, readFront_text]
  rfl

/-- The end of a line does not belong to the tree. -/
theorem parse?_line (j : Json) : parse? (j.text ++ "\n") = some (j.reread nestingLimit) := by
  have hline : (j.text ++ "\n").toList = j.render ++ ['\n'] := by
    rw [String.toList_append, text, String.toList_ofList]
    rfl
  rw [parse?, hline, readFront_render j (stops_cons (by decide))]
  rfl

/-! ### Exact trees -/

mutual
/-- Whether a tree has nothing that changes when it is written and read: no doubles, no unusable
parts, and only integers that are read as such. -/
def isExact : Json → Bool
  | .null | .bool _ | .str _ => true
  | .int n => -2 ^ 63 ≤ n ∧ n < 2 ^ 64
  | .double _ | .unusable => false
  | .arr items => itemsExact items
  | .obj pairs => pairsExact pairs

def itemsExact : List Json → Bool
  | [] => true
  | j :: js => j.isExact && itemsExact js

def pairsExact : List (String × Json) → Bool
  | [] => true
  | (_, j) :: ps => j.isExact && pairsExact ps
end

@[simp] theorem isExact_str (s : String) : (Json.str s).isExact = true := rfl

@[simp] theorem isExact_arr {items : List Json} :
    (Json.arr items).isExact = true ↔ ∀ j ∈ items, j.isExact = true := by
  rw [isExact]
  induction items with
  | nil => simp [itemsExact]
  | cons j js ih => rw [itemsExact, Bool.and_eq_true, ih, List.forall_mem_cons]

@[simp] theorem isExact_obj {pairs : List (String × Json)} :
    (Json.obj pairs).isExact = true ↔ ∀ p ∈ pairs, p.2.isExact = true := by
  rw [isExact]
  induction pairs with
  | nil => simp [pairsExact]
  | cons p ps ih => rw [pairsExact, Bool.and_eq_true, ih, List.forall_mem_cons]

theorem ofInteger_eq_int {n : Int} (hn : -2 ^ 63 ≤ n ∧ n < 2 ^ 64) :
    ofInteger (n < 0) (Digits.decimal n.natAbs) = .int n := by
  have hzero : ¬ (decide (n < 0) = true ∧ n.natAbs = 0) := by
    rw [decide_eq_true_eq]
    omega
  have hvalue : (if decide (n < 0) = true then -(n.natAbs : Int) else n.natAbs) = n := by
    simp only [decide_eq_true_eq]
    split <;> omega
  have hrange : Int64.minValue.toInt ≤ n ∧ n < UInt64.size := by
    rw [Int64.toInt_minValue]
    exact hn
  unfold ofInteger
  dsimp only
  rw [Digits.number_decimal, hvalue, if_neg hzero, if_pos hrange]

mutual
theorem reread_of_isExact : ∀ (j : Json) (room : Nat),
    j.isExact = true → j.depth ≤ room → j.reread room = j
  | .null, _, _, _ => rfl
  | .bool _, _, _, _ => rfl
  | .str _, _, _, _ => rfl
  | .int n, room, hexact, _ => by
    rw [isExact, decide_eq_true_eq] at hexact
    rw [reread, ofInteger_eq_int hexact]
  | .double _, _, hexact, _ => by cases hexact
  | .unusable, _, hexact, _ => by cases hexact
  | .arr items, room, hexact, hdepth => by
    rw [depth] at hdepth
    rw [reread, rereadItems_of_isExact items (room - 1) hexact (by omega), ofItems,
      if_neg (by omega)]
  | .obj pairs, room, hexact, hdepth => by
    rw [depth] at hdepth
    rw [reread, rereadPairs_of_isExact pairs (room - 1) hexact (by omega), ofPairs,
      if_neg (by omega)]

theorem rereadItems_of_isExact : ∀ (js : List Json) (room : Nat),
    itemsExact js = true → itemsDepth js ≤ room → rereadItems room js = js
  | [], _, _, _ => rfl
  | j :: js, room, hexact, hdepth => by
    rw [itemsExact, Bool.and_eq_true] at hexact
    rw [itemsDepth] at hdepth
    rw [rereadItems, reread_of_isExact j room hexact.1 (by omega),
      rereadItems_of_isExact js room hexact.2 (by omega)]

theorem rereadPairs_of_isExact : ∀ (ps : List (String × Json)) (room : Nat),
    pairsExact ps = true → pairsDepth ps ≤ room → rereadPairs room ps = ps
  | [], _, _, _ => rfl
  | (k, j) :: ps, room, hexact, hdepth => by
    rw [pairsExact, Bool.and_eq_true] at hexact
    rw [pairsDepth] at hdepth
    rw [rereadPairs, reread_of_isExact j room hexact.1 (by omega),
      rereadPairs_of_isExact ps room hexact.2 (by omega)]
end

/-- **An exact tree is read back unchanged**, unless it is nested too deep. -/
theorem parse?_text_of_isExact {j : Json} (hexact : j.isExact = true)
    (hdepth : j.depth ≤ nestingLimit) : parse? j.text = some j := by
  rw [parse?_text, reread_of_isExact j nestingLimit hexact hdepth]

/-! ### No control characters -/

theorem printable_of_isDigit {c : Char} (hc : c.isDigit = true) : 0x20 ≤ c.toNat := by
  have hrange := Char.isDigit_iff_toNat.mp hc
  exact Nat.le_trans (by decide) hrange.1

theorem printable_digitChar : ∀ d < 16, 0x20 ≤ (Nat.digitChar d).toNat := by decide

theorem printable_signed (n : Int) : ∀ c ∈ Digits.signed n, 0x20 ≤ c.toNat := by
  intro c hc
  cases n with
  | ofNat n => exact printable_of_isDigit ((Digits.isRun_decimal n).isDigit c hc)
  | negSucc n =>
    rcases List.mem_cons.mp hc with rfl | hc
    · decide
    · exact printable_of_isDigit ((Digits.isRun_decimal _).isDigit c hc)

theorem printable_escaped {ch : Char} {cs : List Char} (hcs : Escaped ch cs) :
    ∀ c ∈ cs, 0x20 ≤ c.toNat := by
  cases hcs with
  | plain hprint => exact List.forall_mem_singleton.mpr hprint
  | short e he hprint =>
    exact List.forall_mem_cons.mpr ⟨by decide, List.forall_mem_singleton.mpr hprint⟩
  | code hcontrol =>
    have hhigh := printable_digitChar (ch.toNat / 16) (by omega)
    have hlow := printable_digitChar (ch.toNat % 16) (by omega)
    simp [hhigh, hlow]

theorem printable_quote (s : String) : ∀ c ∈ quote s, 0x20 ≤ c.toNat := by
  intro c hc
  rcases List.mem_cons.mp hc with rfl | hc
  · decide
  rcases List.mem_append.mp hc with hc | hc
  · obtain ⟨ch, -, hc⟩ := List.mem_flatMap.mp hc
    exact printable_escaped (escaped_escape ch) c hc
  · rw [List.mem_singleton.mp hc]
    decide

open Numeral in
theorem printable_numeral (n : Numeral) : ∀ c ∈ n.text, 0x20 ≤ c.toNat := by
  intro c hc
  rcases List.mem_append.mp hc with hc | hc
  · cases hneg : n.negative <;> rw [hneg] at hc
    · cases hc
    · rw [List.mem_singleton.mp hc]
      decide
  rcases List.mem_append.mp hc with hc | hc
  · exact printable_of_isDigit (n.isRun_whole.isDigit c hc)
  rcases List.mem_append.mp hc with hc | hc
  · cases hf : n.fraction <;> rw [hf] at hc
    · cases hc
    · rcases List.mem_cons.mp hc with rfl | hc
      · decide
      · exact printable_of_isDigit ((n.isRun_fraction _ hf).isDigit c hc)
  · cases hx : n.exponent <;> rw [hx] at hc
    · cases hc
    · rcases List.mem_cons.mp hc with rfl | hc
      · decide
      rcases List.mem_append.mp hc with hc | hc
      · split at hc
        · rw [List.mem_singleton.mp hc]
          decide
        · cases hc
      · exact printable_signed _ c hc

/-- For fixed texts. -/
theorem printable_of_all {cs : List Char} (h : cs.all (0x20 ≤ ·.toNat) = true) :
    ∀ c ∈ cs, 0x20 ≤ c.toNat :=
  fun c hc => of_decide_eq_true (List.all_eq_true.mp h c hc)

mutual
/-- A text that was written has no control characters. -/
theorem printable_render : ∀ (j : Json), ∀ c ∈ j.render, 0x20 ≤ c.toNat
  | .null => printable_of_all rfl
  | .unusable => printable_of_all rfl
  | .bool true => printable_of_all rfl
  | .bool false => printable_of_all rfl
  | .int n => printable_signed n
  | .double d => by
    rw [render, renderDouble]
    split
    · obtain ⟨n, hn⟩ := d.exists_numeral
      rw [← hn]
      exact printable_numeral n
    · exact printable_of_all rfl
  | .str s => printable_quote s
  | .arr [] => printable_of_all rfl
  | .arr (j :: js) => by
    simp only [render, List.forall_mem_cons, List.forall_mem_append]
    exact ⟨by decide, printable_render j, printable_renderItems js⟩
  | .obj [] => printable_of_all rfl
  | .obj ((k, j) :: ps) => by
    simp only [render, List.forall_mem_cons, List.forall_mem_append]
    exact ⟨by decide, printable_quote k, by decide, printable_render j, printable_renderPairs ps⟩

theorem printable_renderItems : ∀ (js : List Json), ∀ c ∈ renderItems js, 0x20 ≤ c.toNat
  | [] => printable_of_all rfl
  | j :: js => by
    simp only [renderItems, List.forall_mem_cons, List.forall_mem_append]
    exact ⟨by decide, printable_render j, printable_renderItems js⟩

theorem printable_renderPairs :
    ∀ (ps : List (String × Json)), ∀ c ∈ renderPairs ps, 0x20 ≤ c.toNat
  | [] => printable_of_all rfl
  | (k, j) :: ps => by
    simp only [renderPairs, List.forall_mem_cons, List.forall_mem_append]
    exact ⟨by decide, printable_quote k, by decide, printable_render j, printable_renderPairs ps⟩
end

/-- The text of a tree is one line. -/
theorem newline_not_mem_text (j : Json) : '\n' ∉ j.text.toList := by
  intro hmem
  rw [text, String.toList_ofList] at hmem
  exact absurd (printable_render j '\n' hmem) (by decide)

end DocQuery.Json
