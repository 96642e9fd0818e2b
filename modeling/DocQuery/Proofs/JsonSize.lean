import DocQuery.Proofs.JsonSteps

/-! # What is read is no larger than its text

Every value of a tree takes up at least one character of the text that it is read from.  So a
tree has no more values than its text has characters (`size_le_of_readFront`), and no more than
there are bytes. -/
namespace DocQuery.Json

mutual
/-- How many values a tree has at any depth, itself included. -/
def size : Json → Nat
  | .arr items => itemsSize items + 1
  | .obj pairs => pairsSize pairs + 1
  | _ => 1

def itemsSize : List Json → Nat
  | [] => 0
  | j :: js => j.size + itemsSize js

def pairsSize : List (String × Json) → Nat
  | [] => 0
  | (_, j) :: ps => j.size + pairsSize ps
end

theorem size_pos (j : Json) : 0 < j.size := by
  cases j <;> simp [size]

theorem length_le_itemsSize (js : List Json) : js.length ≤ itemsSize js := by
  induction js with
  | nil => exact Nat.le_refl 0
  | cons j js ih =>
    have hj := j.size_pos
    rw [List.length_cons, itemsSize]
    omega

theorem size_le_pairsSize {p : String × Json} {ps : List (String × Json)} (hp : p ∈ ps) :
    p.2.size ≤ pairsSize ps := by
  induction ps with
  | nil => cases hp
  | cons q ps ih =>
    rw [pairsSize]
    rcases List.mem_cons.mp hp with rfl | hp
    · exact Nat.le_add_right _ _
    · exact Nat.le_trans (ih hp) (Nat.le_add_left _ _)

theorem size_le_itemsSize {j : Json} {js : List Json} (hj : j ∈ js) : j.size ≤ itemsSize js := by
  induction js with
  | nil => cases hj
  | cons i js ih =>
    rw [itemsSize]
    rcases List.mem_cons.mp hj with rfl | hj
    · exact Nat.le_add_right _ _
    · exact Nat.le_trans (ih hj) (Nat.le_add_left _ _)

/-! ### Tokens -/

theorem length_skip_le (cs : List Char) : (skip cs).length ≤ cs.length :=
  (List.dropWhile_suffix isSpace).length_le

theorem length_of_readPieces {cs : List Char} {ps : List Piece} {rest : List Char}
    (h : readPieces cs = some (ps, rest)) : rest.length < cs.length := by
  fun_induction readPieces cs generalizing ps with
  | case1 | case3 | case5 | case7 => cases h
  | case2 =>
    cases h
    exact Nat.lt_add_one _
  | case4 _ _ _ _ _ _ _ ih | case6 _ _ _ _ _ ih | case8 _ _ _ _ _ _ ih =>
    obtain ⟨_, hps, hpair⟩ := Option.map_eq_some_iff.mp h
    cases hpair
    have hrest := ih hps
    simp only [List.length_cons]
    omega

theorem length_of_readString {cs : List Char} {s : Option String} {rest : List Char}
    (h : readString cs = some (s, rest)) : rest.length < cs.length := by
  obtain ⟨⟨ps, _⟩, hps, hpair⟩ := Option.map_eq_some_iff.mp h
  cases hpair
  exact length_of_readPieces hps

theorem length_span_le (cs : List Char) : (Digits.span cs).2.length ≤ cs.length :=
  (List.dropWhile_suffix Char.isDigit).length_le

theorem length_of_readFraction {cs : List Char} {f : Option (List Char)} {rest : List Char}
    (h : readFraction cs = some (f, rest)) : rest.length ≤ cs.length := by
  unfold readFraction at h
  split at h
  · rename_i cs
    dsimp only at h
    split at h
    · cases h
    · cases h
      exact Nat.le_succ_of_le (length_span_le cs)
  · cases h
    exact Nat.le_refl _

theorem length_readSign_le (cs : List Char) : (readSign cs).2.length ≤ cs.length := by
  unfold readSign
  split
  · exact Nat.le_succ _
  · exact Nat.le_refl _

theorem length_readEitherSign_le (cs : List Char) : (readEitherSign cs).2.length ≤ cs.length := by
  unfold readEitherSign
  split
  · exact Nat.le_succ _
  · exact length_readSign_le _

theorem length_of_readPower {cs : List Char} {n : Int} {rest : List Char}
    (h : readPower cs = some (n, rest)) : rest.length ≤ cs.length := by
  unfold readPower at h
  dsimp only at h
  split at h
  · cases h
  · cases h
    exact Nat.le_trans (length_span_le _) (length_readEitherSign_le cs)

theorem length_of_readExponent {cs : List Char} {e : Option Int} {rest : List Char}
    (h : readExponent cs = some (e, rest)) : rest.length ≤ cs.length := by
  have hpower {cs : List Char}
      (h : ((readPower cs).map fun p => (some p.1, p.2)) = some (e, rest)) :
      rest.length ≤ cs.length + 1 := by
    obtain ⟨⟨n, _⟩, hn, hpair⟩ := Option.map_eq_some_iff.mp h
    cases hpair
    exact Nat.le_succ_of_le (length_of_readPower hn)
  unfold readExponent at h
  split at h
  · exact hpower h
  · exact hpower h
  · cases h
    exact Nat.le_refl _

theorem size_of_isNumber {j : Json} (h : IsNumber j) : j.size = 1 := by
  cases h <;> rfl

/-- A number is one value and has at least one digit. -/
theorem size_of_readNumber {cs : List Char} {j : Json} {rest : List Char}
    (h : readNumber cs = some (j, rest)) : j.size + rest.length ≤ cs.length := by
  have hsize : j.size = 1 := size_of_isNumber (isNumber_of_readNumber h)
  unfold readNumber at h
  dsimp only at h
  split at h
  · cases h
  · rename_i hwhole
    obtain ⟨⟨f, rest₁⟩, hfraction, h⟩ := Option.bind_eq_some_iff.mp h
    obtain ⟨⟨e, rest₂⟩, hexponent, h⟩ := Option.bind_eq_some_iff.mp h
    obtain rfl : rest₂ = rest := congrArg Prod.snd (Option.some.inj h)
    -- a sign, a point and an exponent may be missing, a digit may not
    have hne : 0 < (Digits.span (readSign cs).2).1.length := by
      refine List.length_pos_iff.mpr fun hnil => hwhole (.inl ?_)
      rw [hnil]
      rfl
    have hspan := congrArg List.length (Digits.span_append (readSign cs).2)
    rw [List.length_append] at hspan
    have hsign := length_readSign_le cs
    have hrest₁ : rest₁.length ≤ _ := length_of_readFraction hfraction
    have hrest₂ : rest₂.length ≤ rest₁.length := length_of_readExponent hexponent
    omega

theorem length_of_readName {cs : List Char} {k : Option String} {rest : List Char}
    (h : readName cs = some (k, rest)) : rest.length < cs.length := by
  unfold readName at h
  have hskip := length_skip_le cs
  split at h
  · rename_i rest₁ hcs
    split at h
    · cases h
    · rename_i name rest₂ hname
      have hrest₂ := length_of_readString hname
      have hskip₂ := length_skip_le rest₂
      split at h
      · rename_i hcolon
        cases h
        rw [hcs, List.length_cons] at hskip
        rw [hcolon, List.length_cons] at hskip₂
        omega
      · cases h
  · cases h

/-! ### Values -/

theorem size_ofString (s : Option String) : (ofString s).size = 1 := by
  cases s <;> rfl

theorem size_ofItems_le (room : Nat) (items : List Json) :
    (ofItems room items).size ≤ itemsSize items + 1 := by
  unfold ofItems
  split
  · exact Nat.le_add_left 1 _
  · exact Nat.le_refl _

/-- How many values stand in pairs, of which there may be none for want of a name. -/
def knownSize (ps : Option (List (String × Json))) : Nat := (ps.map pairsSize).getD 0

theorem size_ofPairs_le (room : Nat) (ps : Option (List (String × Json))) :
    (ofPairs room ps).size ≤ knownSize ps + 1 := by
  cases ps with
  | none => exact Nat.le_refl 1
  | some ps =>
    rw [ofPairs]
    split
    · exact Nat.le_add_left 1 _
    · exact Nat.le_refl _

theorem knownSize_consPair_le (k : Option String) (j : Json)
    (ps : Option (List (String × Json))) :
    knownSize (consPair k j ps) ≤ j.size + knownSize ps := by
  cases k with
  | none => exact Nat.zero_le _
  | some k =>
    cases ps with
    | none => exact Nat.zero_le _
    | some ps => exact Nat.le_refl _

/-- A text whose first token has been taken is shorter. -/
theorem length_of_skip {cs rest : List Char} {c : Char} (h : skip cs = c :: rest) :
    rest.length < cs.length := by
  have hskip := length_skip_le cs
  rw [h, List.length_cons] at hskip
  exact hskip

/-- Each value that is read has taken a character, and the bracket that ends an array or an object
has taken one more. -/
theorem keeps_size : Keeps (fun cs j rest => j.size + rest.length ≤ cs.length)
    (fun cs js rest => itemsSize js + rest.length < cs.length)
    (fun cs ps rest => knownSize ps + rest.length < cs.length) where
  word := by
    intro cs rest w j hw hcs
    have hwords : ∀ p ∈ words, 0 < p.1.length ∧ p.2.size = 1 := by decide
    obtain ⟨hlength, hsize⟩ : 0 < w.length ∧ j.size = 1 := hwords _ hw
    have hskip := length_skip_le cs
    rw [hcs, List.length_append] at hskip
    omega
  string := by
    intro cs text rest s hcs hs
    have hopen := length_of_skip hcs
    have hrest := length_of_readString hs
    rw [size_ofString]
    omega
  number := by
    intro cs rest j hj
    exact Nat.le_trans (size_of_readNumber hj) (length_skip_le cs)
  emptyArray := by
    intro cs text rest room hcs hend
    have hopen := length_of_skip hcs
    have hclose := length_of_skip hend
    have hsize : _ ≤ 0 + 1 := size_ofItems_le room []
    omega
  -- the bracket stands for the array itself
  array := by
    intro cs text after rest room j js hcs hj hjs
    have hopen := length_of_skip hcs
    have hskip := length_skip_le text
    have hsize := size_ofItems_le room (j :: js)
    rw [itemsSize] at hsize
    omega
  emptyObject := by
    intro cs text rest room hcs hend
    have hopen := length_of_skip hcs
    have hclose := length_of_skip hend
    have hsize : _ ≤ 0 + 1 := size_ofPairs_le room (some [])
    omega
  object := by
    intro cs text after after' rest room k j ps hcs hk hj hps
    have hopen := length_of_skip hcs
    have hskip := length_skip_le text
    have hname := length_of_readName hk
    -- a name whose surrogates do not pair takes the pairs with it, so only `≤` is known
    have hsize := size_ofPairs_le room (consPair k j ps)
    have hcons := knownSize_consPair_le k j ps
    omega
  lastItem := by
    intro cs rest hcs
    have hclose := length_of_skip hcs
    rw [itemsSize]
    omega
  nextItem := by
    intro cs text after rest j js hcs hj hjs
    have hcomma := length_of_skip hcs
    rw [itemsSize]
    omega
  lastPair := by
    intro cs rest hcs
    have hclose := length_of_skip hcs
    have hsize : knownSize (some []) = 0 := rfl
    omega
  nextPair := by
    intro cs text after after' rest k j ps hcs hk hj hps
    have hcomma := length_of_skip hcs
    have hname := length_of_readName hk
    have hcons := knownSize_consPair_le k j ps
    omega

/-- A tree that is read has no more values than its text has characters. -/
theorem size_le_of_readFront {cs : List Char} {j : Json} {rest : List Char}
    (h : readFront cs = some (j, rest)) : j.size ≤ cs.length := by
  have hsize : j.size + rest.length ≤ cs.length := keeps_size.front h
  omega

/-! ### Bytes -/

theorem length_le_utf8Encode (cs : List Char) : cs.length ≤ cs.utf8Encode.size := by
  rw [List.utf8Encode, List.size_toByteArray]
  induction cs with
  | nil => exact Nat.le_refl 0
  | cons c cs ih =>
    have hc := c.utf8Size_pos
    rw [List.flatMap_cons, List.length_append, String.length_utf8EncodeChar, List.length_cons]
    omega

theorem size_toUTF8_text (j : Json) :
    j.text.toUTF8.size = (j.render.flatMap String.utf8EncodeChar).length := by
  change (String.ofList j.render).toByteArray.size = _
  rw [String.toByteArray_ofList, List.utf8Encode, List.size_toByteArray]

/-- A text has no more characters than bytes. -/
theorem length_le_of_fromUTF8? {input : ByteArray} {s : String}
    (h : String.fromUTF8? input = some s) : s.toList.length ≤ input.size := by
  have hbytes : s.toList.utf8Encode = input := by
    rw [← String.toByteArray_ofList, String.ofList_toList]
    unfold String.fromUTF8? at h
    split at h
    · cases h
      rfl
    · cases h
  rw [← hbytes]
  exact length_le_utf8Encode _

end DocQuery.Json
