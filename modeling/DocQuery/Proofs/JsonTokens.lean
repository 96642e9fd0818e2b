import DocQuery.Json.Reader

/-! # Reading back strings and numbers

What the writer of JSON produces for a string or a number is taken off the front of a text as a
whole, whatever follows.  For a string nothing has to be said about what follows, since the
closing quote ends it.  A number has no end of its own: it is read as a whole only if what
follows does not continue it (`Json.Stops`).

`Json.Numeral` is a number in its parts.  Every number that is written is the text of a numeral,
and every text of a numeral is read as its value (`Json.readNumber_numeral`). -/
namespace DocQuery

/-! ### Runs of digits -/

namespace Digits

/-- A run of digits, at least one. -/
structure IsRun (ds : List Char) : Prop where
  ne_nil : ds ≠ []
  isDigit : ∀ c ∈ ds, c.isDigit = true

theorem isRun_decimal (n : Nat) : IsRun (decimal n) where
  ne_nil := Nat.toDigits_ne_nil
  isDigit _ hc := Nat.isDigit_of_mem_toDigits (by decide) (by decide) hc

/-- Digits taken from a run are a run, if there are any. -/
theorem IsRun.subset {ds es : List Char} (hds : IsRun ds) (hes : es ≠ []) (hsub : es ⊆ ds) :
    IsRun es where
  ne_nil := hes
  isDigit c hc := hds.isDigit c (hsub hc)

theorem isRun_zero : IsRun ['0'] := ⟨List.cons_ne_nil _ _, List.forall_mem_singleton.mpr rfl⟩

theorem isDigit_zeros (n : Nat) : ∀ c ∈ List.replicate n '0', c.isDigit = true := by
  intro c hc
  rw [List.eq_of_mem_replicate hc]
  rfl

/-- Only zero is written with a zero in front. -/
theorem head?_decimal {n : Nat} (hn : 0 < n) : (decimal n).head? ≠ some '0' := by
  unfold decimal
  induction n using Nat.strongRecOn with
  | ind n ih =>
    rw [Nat.toDigits_eq_if (by decide)]
    split
    · intro h
      have hzero := Nat.digitChar_eq_zero.mp (Option.some.inj h)
      omega
    · -- the first digit is that of the quotient, which is smaller and still positive
      have hfirst := ih (n / 10) (by omega) (by omega)
      cases hquot : Nat.toDigits 10 (n / 10) with
      | nil => exact absurd hquot Nat.toDigits_ne_nil
      | cons c cs =>
        rw [hquot] at hfirst
        exact hfirst

theorem span_eq {ds rest : List Char} (hds : ∀ c ∈ ds, c.isDigit = true)
    (hrest : ∀ c ∈ rest.head?, c.isDigit = false) : span (ds ++ rest) = (ds, rest) := by
  have htake : rest.takeWhile Char.isDigit = [] := by
    cases rest with
    | nil => rfl
    | cons c cs => rw [List.takeWhile_cons, hrest c rfl]; rfl
  have hdrop : rest.dropWhile Char.isDigit = rest := by
    cases rest with
    | nil => rfl
    | cons c cs => rw [List.dropWhile_cons, hrest c rfl]; rfl
  unfold span
  rw [List.takeWhile_append_of_pos hds, List.dropWhile_append_of_pos hds, htake, hdrop,
    List.append_nil]

end Digits

namespace Json

/-! ### Strings -/

/-- The forms in which a character stands inside quotes. -/
inductive Escaped (c : Char) : List Char → Prop where
  | plain (hprint : 0x20 ≤ c.toNat) (hquote : c ≠ '"') (hbackslash : c ≠ '\\') : Escaped c [c]
  | short (e : Char) (he : shortEscape? e = some c) (hprint : 0x20 ≤ e.toNat) :
      Escaped c ['\\', e]
  | code (hcontrol : c.toNat < 0x20) :
      Escaped c ['\\', 'u', '0', '0', Nat.digitChar (c.toNat / 16), Nat.digitChar (c.toNat % 16)]

theorem escaped_control {c : Char} (hcontrol : c.toNat < 0x20) : Escaped c (control c) := by
  unfold control
  split
  · subst c
    exact .short 'b' rfl (by decide)
  split
  · subst c
    exact .short 't' rfl (by decide)
  split
  · subst c
    exact .short 'n' rfl (by decide)
  split
  · subst c
    exact .short 'f' rfl (by decide)
  split
  · subst c
    exact .short 'r' rfl (by decide)
  · exact .code hcontrol

theorem escaped_escape (c : Char) : Escaped c (escape c) := by
  unfold escape
  split
  · subst c
    exact .short '"' rfl (by decide)
  split
  · subst c
    exact .short '\\' rfl (by decide)
  split
  · rename_i hcontrol
    exact escaped_control hcontrol
  · rename_i hquote hbackslash hcontrol
    exact .plain (Nat.le_of_not_lt hcontrol) hquote hbackslash

/-- The code of a control character has two leading zeros, and its other digits spell it. -/
theorem four?_digitChar {c : Char} (hcontrol : c.toNat < 0x20) :
    Hex.four? '0' '0' (Nat.digitChar (c.toNat / 16)) (Nat.digitChar (c.toNat % 16)) =
      some c.toNat := by
  have hhigh := Hex.digit?_digitChar (c.toNat / 16) (by omega)
  have hlow := Hex.digit?_digitChar (c.toNat % 16) (by omega)
  have hzero : Hex.digit? '0' = some 0 := by decide
  simp only [Hex.four?, hzero, hhigh, hlow, Option.bind_eq_bind, Option.bind_some]
  congr 1
  omega

/-- A character inside quotes is read back, whatever follows. -/
theorem readPieces_escaped {c : Char} {cs : List Char} (hcs : Escaped c cs) (rest : List Char) :
    readPieces (cs ++ rest) = (readPieces rest).map fun (ps, rest) => (.char c :: ps, rest) := by
  cases hcs with
  | plain hprint hquote hbackslash =>
    rw [List.singleton_append, readPieces.eq_def]
    split
    · contradiction
    · simp_all
    · simp_all
    · simp_all
    · rename_i heq
      cases heq
      rw [if_neg (Nat.not_lt_of_le hprint)]
  | short e he hprint =>
    have hu : e ≠ 'u' := by
      rintro rfl
      cases he
    simp [readPieces, he, hu]
  | code hcontrol =>
    have hpiece : Piece.ofCode c.toNat = .char c := by
      unfold Piece.ofCode
      rw [if_pos (by omega), Char.ofNat_toNat]
    simp only [List.cons_append, List.nil_append, readPieces, four?_digitChar hcontrol, hpiece]

theorem readPieces_quoted (cs rest : List Char) :
    readPieces (cs.flatMap escape ++ '"' :: rest) = some (cs.map .char, rest) := by
  induction cs with
  | nil => rfl
  | cons c cs ih =>
    rw [List.flatMap_cons, List.append_assoc, readPieces_escaped (escaped_escape c), ih]
    rfl

theorem join?_chars (cs : List Char) : join? (cs.map .char) = some cs := by
  induction cs with
  | nil => rfl
  | cons c cs ih => rw [List.map_cons, join?, ih]; rfl

/-- A string in quotes is read back from behind its opening quote. -/
theorem readString_quoted (s : String) (rest : List Char) :
    readString (s.toList.flatMap escape ++ '"' :: rest) = some (some s, rest) := by
  unfold readString
  rw [readPieces_quoted]
  simp only [Option.map_some, join?_chars, String.ofList_toList]

/-! ### Numerals -/

/-- A number in its parts, as JSON takes it: no zeros in front, and digits on both sides of a
point. -/
structure Numeral where
  negative : Bool
  whole : List Char
  fraction : Option (List Char) := none
  exponent : Option Int := none
  isRun_whole : Digits.IsRun whole
  length_whole : whole.head? = some '0' → whole.length = 1
  isRun_fraction : ∀ ds ∈ fraction, Digits.IsRun ds

/-- What cannot be read as more of a number. -/
def Stops (rest : List Char) : Prop :=
  ∀ c ∈ rest.head?, c.isDigit = false ∧ c ≠ '.' ∧ c ≠ 'e' ∧ c ≠ 'E'

namespace Numeral

def signText (negative : Bool) : List Char := if negative then ['-'] else []

def fractionText : Option (List Char) → List Char
  | none => []
  | some ds => '.' :: ds

/-- An exponent has a sign in any case. -/
def exponentText : Option Int → List Char
  | none => []
  | some x => 'e' :: ((if 0 ≤ x then ['+'] else []) ++ Digits.signed x)

def text (n : Numeral) : List Char :=
  signText n.negative ++ (n.whole ++ (fractionText n.fraction ++ exponentText n.exponent))

/-- An integer if there is neither a point nor an exponent, and a double otherwise. -/
def value (n : Numeral) : Json :=
  match n.fraction, n.exponent with
  | none, none => ofInteger n.negative n.whole
  | fraction, exponent => ofDecimal n.negative n.whole (fraction.getD []) (exponent.getD 0)

end Numeral

theorem stops_nil : Stops [] := by
  intro c hc
  cases hc

theorem stops_cons {c : Char} {rest : List Char}
    (h : c.isDigit = false ∧ c ≠ '.' ∧ c ≠ 'e' ∧ c ≠ 'E') : Stops (c :: rest) := by
  intro c' hc'
  cases hc'
  exact h

open Numeral

theorem readFraction_numeral {fraction : Option (List Char)} {rest : List Char}
    (hfraction : ∀ ds ∈ fraction, Digits.IsRun ds)
    (hrest : ∀ c ∈ rest.head?, c.isDigit = false ∧ c ≠ '.') :
    readFraction (fractionText fraction ++ rest) = some (fraction, rest) := by
  cases fraction with
  | none =>
    rw [fractionText, List.nil_append, readFraction.eq_def]
    split
    · exact absurd rfl (hrest '.' rfl).2
    · rfl
  | some ds =>
    have hrun := hfraction ds rfl
    have hspan := Digits.span_eq hrun.isDigit fun c hc => (hrest c hc).1
    rw [fractionText, List.cons_append, readFraction]
    simp only [hspan, List.isEmpty_iff, hrun.ne_nil, if_false]

theorem readExponent_numeral (exponent : Option Int) {rest : List Char} (hrest : Stops rest) :
    readExponent (exponentText exponent ++ rest) = some (exponent, rest) := by
  cases exponent with
  | none =>
    rw [exponentText, List.nil_append, readExponent.eq_def]
    split
    · exact absurd rfl (hrest 'e' rfl).2.2.1
    · exact absurd rfl (hrest 'E' rfl).2.2.2
    · rfl
  | some x =>
    have hspan (n : Nat) : Digits.span (Digits.decimal n ++ rest) = (Digits.decimal n, rest) :=
      Digits.span_eq (Digits.isRun_decimal n).isDigit fun c hc => (hrest c hc).1
    have hne (n : Nat) : (Digits.decimal n).isEmpty = false :=
      List.isEmpty_eq_false_iff.mpr (Digits.isRun_decimal n).ne_nil
    cases x with
    | ofNat n =>
      simp [exponentText, readExponent, readPower, readEitherSign, Digits.signed, hspan, hne,
        Digits.number_decimal]
    | negSucc n =>
      have hneg : ¬ (0 : Int) ≤ Int.negSucc n := by omega
      simp [exponentText, readExponent, readPower, readEitherSign, readSign, Digits.signed, hneg,
        hspan, hne, Digits.number_decimal]
      omega

theorem readSign_numeral (n : Numeral) (rest : List Char) :
    readSign (signText n.negative ++ (n.whole ++ rest)) = (n.negative, n.whole ++ rest) := by
  cases n.negative with
  | true => rfl
  | false =>
    cases hwhole : n.whole with
    | nil => exact absurd hwhole n.isRun_whole.ne_nil
    | cons c cs =>
      have hdigit : c.isDigit = true :=
        n.isRun_whole.isDigit c (by rw [hwhole]; exact List.mem_cons_self)
      change readSign (c :: (cs ++ rest)) = _
      rw [readSign.eq_def]
      split
      · rename_i heq
        cases heq
        contradiction
      · rfl

/-- The text of a numeral is read as its value. -/
theorem readNumber_numeral (n : Numeral) {rest : List Char} (hrest : Stops rest) :
    readNumber (n.text ++ rest) = some (n.value, rest) := by
  have hexponent : ∀ c ∈ (exponentText n.exponent ++ rest).head?, c.isDigit = false ∧ c ≠ '.' := by
    intro c hc
    cases hx : n.exponent with
    | none =>
      rw [hx] at hc
      exact ⟨(hrest c hc).1, (hrest c hc).2.1⟩
    | some x =>
      rw [hx] at hc
      cases hc
      decide
  have hfraction : ∀ c ∈ (fractionText n.fraction ++ (exponentText n.exponent ++ rest)).head?,
      c.isDigit = false := by
    intro c hc
    cases hf : n.fraction with
    | none =>
      rw [hf] at hc
      exact (hexponent c hc).1
    | some ds =>
      rw [hf] at hc
      cases hc
      rfl
  have hspan := Digits.span_eq n.isRun_whole.isDigit hfraction
  have hwhole : ¬ (n.whole.isEmpty = true ∨ (n.whole.head? = some '0' ∧ 1 < n.whole.length)) := by
    rintro (hempty | ⟨hzero, hlong⟩)
    · exact n.isRun_whole.ne_nil (List.isEmpty_iff.mp hempty)
    · rw [n.length_whole hzero] at hlong
      exact Nat.lt_irrefl 1 hlong
  unfold readNumber
  rw [Numeral.text, List.append_assoc, List.append_assoc, List.append_assoc, readSign_numeral n]
  simp only [hspan, hwhole, if_false, readFraction_numeral n.isRun_fraction hexponent,
    readExponent_numeral n.exponent hrest, Option.bind_eq_bind, Option.bind_some]
  rw [Numeral.value]
  cases n.fraction <;> cases n.exponent <;> rfl

end Json
end DocQuery
