import DocQuery.Proofs.DocumentKeys
import DocQuery.Proofs.FilterRules

/-! # Filters mean what their conditions mean

A condition and the filter document planned for it are read here in two ways that do not
know of each other.  `Store.Meets` reads a condition as a predicate on records, connective by
connective.  `Store.Matches` reads a document the way the store does: all of its pairs have
to hold, `$and`, `$or` and `$not` combine documents, `$where` runs code, and any other key
names a field, whose value is tested by the operator beside it or, without an operator, for
equality.  What the comparisons are does not matter: a `Store` gives them as it likes.

The two readings agree (`Store.matches_filter`) unless a document could be read in more than
one way, which `Scope.Unambiguous` rules out: names that look like operators, and equality
with a document that looks like a test. -/
namespace DocQuery

/-- What a store knows about records: the value that a record has under a key, how such a
value compares with one of a query, and whether code accepts a record. -/
structure Store (ρ α : Type) where
  get : ρ → String → α
  eq : α → Value → Prop
  gt : α → Value → Prop
  gte : α → Value → Prop
  lt : α → Value → Prop
  lte : α → Value → Prop
  isIn : α → Value → Prop
  code : ρ → String → Prop

namespace Store
variable {ρ α : Type} (S : Store ρ α)

/-! ### Reading documents -/

/-- The test that an operator makes, for the operators that test a field. -/
def test? : String → Option (α → Value → Prop)
  | "$ne" => some fun a v => ¬ S.eq a v
  | "$gt" => some S.gt
  | "$gte" => some S.gte
  | "$lt" => some S.lt
  | "$lte" => some S.lte
  | "$in" => some S.isIn
  | "$nin" => some fun a v => ¬ S.isIn a v
  | _ => none

/-- Whether the value of a field passes what stands beside it: a test, which is a document
with one operator, or else a value that it has to equal. -/
def Passes (a : α) : Value → Prop
  | .document (.entries [(op, v)]) =>
      match S.test? op with
      | some test => test a v
      | none => S.eq a (.document (.entries [(op, v)]))
  | v => S.eq a v

mutual
/-- Whether a record matches a document. -/
def Matches (r : ρ) : Document → Prop
  | .empty => True
  | .entries pairs => MatchesPairs r pairs

def MatchesPairs (r : ρ) : List (String × Value) → Prop
  | [] => True
  | (key, v) :: ps => MatchesPair r key v ∧ MatchesPairs r ps

/-- Whether a record matches one pair of a document. -/
def MatchesPair (r : ρ) (key : String) : Value → Prop
  | .array vs =>
      if key = "$and" then MatchesAll r vs
      else if key = "$or" then MatchesAny r vs
      else S.Passes (S.get r key) (.array vs)
  | .document d =>
      if key = "$not" then ¬ Matches r d else S.Passes (S.get r key) (.document d)
  | .native (.scalar (.code source)) =>
      if key = "$where" then S.code r source
      else S.Passes (S.get r key) (.scalar (.code source))
  | .native n => S.Passes (S.get r key) (.native n)

/-- Whether a record matches all documents of an array. -/
def MatchesAll (r : ρ) : List Value → Prop
  | [] => True
  | .document d :: vs => Matches r d ∧ MatchesAll r vs
  | .array _ :: vs => MatchesAll r vs
  | .native _ :: vs => MatchesAll r vs

/-- Whether a record matches some document of an array. -/
def MatchesAny (r : ρ) : List Value → Prop
  | [] => False
  | .document d :: vs => Matches r d ∨ MatchesAny r vs
  | .array _ :: vs => MatchesAny r vs
  | .native _ :: vs => MatchesAny r vs
end

/-! ### Reading conditions -/

/-- What a comparison asks of the value of a field. -/
def compares : CompareOp → α → Value → Prop
  | .eq => S.eq
  | .ne => fun a v => ¬ S.eq a v
  | .gt => S.gt
  | .gte => S.gte
  | .lt => S.lt
  | .lte => S.lte
  | .isIn => S.isIn

mutual
/-- Whether a record meets a condition. -/
def Meets (s : Scope) (r : ρ) : Expr → Prop
  | .and es => MeetsAll s r es
  | .or es => MeetsAny s r es
  | .not e => ¬ Meets s r e
  | .isNil e => ∃ name, e = .field name ∧ S.eq (S.get r (s.key name)) .null
  | .compare op left right =>
      ∃ name v, left = .field name ∧ right.comparand? s.params op = some v ∧
        S.compares op (S.get r (s.key name)) v
  | .param index =>
      ∃ source, s.params[index.toNat]? = some (.scalar (.code source)) ∧ S.code r source
  | _ => False

/-- Whether a record meets all operands of a connective.  An operand that is no condition is
there for its value, which says something about records only if it is a document. -/
def MeetsAll (s : Scope) (r : ρ) : List Expr → Prop
  | [] => True
  | e :: es =>
      (if e.isOperator then Meets s r e
        else ∀ d, e.value? s.params = some (.document d) → S.Matches r d) ∧ MeetsAll s r es

/-- Whether a record meets some operand of a connective. -/
def MeetsAny (s : Scope) (r : ρ) : List Expr → Prop
  | [] => False
  | e :: es =>
      (if e.isOperator then Meets s r e
        else ∃ d, e.value? s.params = some (.document d) ∧ S.Matches r d) ∨ MeetsAny s r es
end

end Store

/-! ### Conditions that can be read in one way only -/

namespace Scope

/-- The node gives a document no second reading: its field is not named like an operator, and
it does not test for equality with a document that has operators of its own. -/
def Plain (s : Scope) : Expr → Prop
  | .field name => isOperatorKey (s.key name) = false
  | .compare .eq _ right =>
      ∀ d, right.value? s.params = some (.document d) → ∀ key ∈ d.keys, isOperatorKey key = false
  | _ => True

/-- No node of the condition gives a document a second reading. -/
abbrev Unambiguous (s : Scope) (e : Expr) : Prop := e.Everywhere s.Plain

end Scope

namespace Store
variable {ρ α : Type} (S : Store ρ α)

/-! ### Reading pairs -/

theorem test?_eq_none {op : String} (h : isOperatorKey op = false) : S.test? op = none := by
  unfold test?
  split
  case h_8 => rfl
  all_goals exact absurd h (by decide)

/-- A value without operators of its own is there to be equal to. -/
theorem passes_iff_eq {a : α} {v : Value}
    (h : ∀ d, v = .document d → ∀ key ∈ d.keys, isOperatorKey key = false) :
    S.Passes a v ↔ S.eq a v := by
  unfold Passes
  split
  · rename_i op w
    have hop : isOperatorKey op = false := h _ rfl op (by simp [Document.keys, Document.pairs])
    rw [S.test?_eq_none hop]
  · rfl

/-- An operator beside a field is the test of its comparison. -/
theorem passes_operator {op : CompareOp} (hop : op ≠ .eq) (a : α) (v : Value) :
    S.Passes a (op.compared v) ↔ S.compares op a v := by
  cases op with
  | eq => exact absurd rfl hop
  | _ => rfl

/-- A key that is no operator names a field. -/
theorem matchesPair_of_field {r : ρ} {key : String} (h : isOperatorKey key = false) (v : Value) :
    S.MatchesPair r key v ↔ S.Passes (S.get r key) v := by
  have hne : ∀ op, isOperatorKey op = true → key ≠ op := by
    rintro op hop rfl
    rw [h] at hop
    cases hop
  unfold MatchesPair
  split
  · rw [if_neg (hne "$and" (by decide)), if_neg (hne "$or" (by decide))]
  · rw [if_neg (hne "$not" (by decide))]
  · rw [if_neg (hne "$where" (by decide))]
  · rfl

theorem matchesPair_and {r : ρ} (vs : List Value) :
    S.MatchesPair r "$and" (.array vs) ↔ S.MatchesAll r vs := by
  simp [MatchesPair]

theorem matchesPair_or {r : ρ} (vs : List Value) :
    S.MatchesPair r "$or" (.array vs) ↔ S.MatchesAny r vs := by
  simp [MatchesPair]

theorem matchesPair_not {r : ρ} (d : Document) :
    S.MatchesPair r "$not" (.document d) ↔ ¬ S.Matches r d := by
  simp [MatchesPair]

theorem matchesPair_where {r : ρ} (source : String) :
    S.MatchesPair r "$where" (.scalar (.code source)) ↔ S.code r source := by
  simp [MatchesPair]

theorem matches_single {r : ρ} (key : String) (v : Value) :
    S.Matches r (.single key v) ↔ S.MatchesPair r key v := by
  simp only [Document.single, Matches, MatchesPairs, and_true]

theorem matches_ofPairs {r : ρ} (ps : List (String × Value)) :
    S.Matches r (.ofPairs ps) ↔ ∀ p ∈ ps, S.MatchesPair r p.1 p.2 := by
  have hpairs : ∀ ps, S.MatchesPairs r ps ↔ ∀ p ∈ ps, S.MatchesPair r p.1 p.2 := by
    intro ps
    induction ps with
    | nil => simp [MatchesPairs]
    | cons p ps ih => rw [MatchesPairs, ih, List.forall_mem_cons]
  cases ps with
  | nil => simp [Document.ofPairs, Matches]
  | cons p ps => exact hpairs (p :: ps)

/-! ### Planned conditions -/

variable {s : Scope} {clause : Clause} {r : ρ}

theorem meets_compare {op : CompareOp} {name : String} {right : Expr} {v : Value}
    (hv : right.comparand? s.params op = some v) :
    S.Meets s r (.compare op (.field name) right) ↔ S.compares op (S.get r (s.key name)) v := by
  simp only [Meets]
  constructor
  · rintro ⟨name', v', hname, hv', h⟩
    cases hname
    rw [hv] at hv'
    cases hv'
    exact h
  · intro h
    exact ⟨name, v, rfl, hv, h⟩

theorem matchesPair_comparison {op : CompareOp} {left right : Expr} {p : String × Value}
    (h : s.comparison clause op left right = .ok p)
    (hplain : s.Unambiguous (.compare op left right)) :
    S.MatchesPair r p.1 p.2 ↔ S.Meets s r (.compare op left right) := by
  obtain ⟨name, v, rfl, hv, rfl⟩ := Scope.of_comparison_eq_ok h
  obtain ⟨hself, hname, -⟩ := Expr.everywhere_compare.mp hplain
  rw [S.matchesPair_of_field (Expr.everywhere_field.mp hname), S.meets_compare hv]
  by_cases hop : op = .eq
  · subst hop
    refine S.passes_iff_eq fun d hd => hself d ?_
    rw [show right.value? s.params = some v from hv, ← hd]
    rfl
  · exact S.passes_operator hop _ v

/-- Negation, pushed into an operator or wrapped around the document, negates the pair. -/
theorem matchesPair_negated {e : Expr} {p : String × Value} (h : s.condition clause e = .ok p)
    (hplain : s.Unambiguous e) :
    S.MatchesPair r (e.negated p).1 (e.negated p).2 ↔ ¬ S.MatchesPair r p.1 p.2 := by
  have hwrap : S.MatchesPair r "$not" (.document (.single p.1 p.2)) ↔
      ¬ S.MatchesPair r p.1 p.2 := by
    rw [S.matchesPair_not, S.matches_single]
  cases e with
  | isNil operand =>
    obtain ⟨key, hkey, rfl⟩ := map_eq_ok.mp (Scope.condition_isNil s clause operand ▸ h)
    obtain ⟨name, rfl, rfl⟩ := Scope.field_eq_ok.mp hkey
    have hname := Expr.everywhere_field.mp (Expr.everywhere_isNil.mp hplain).2
    change S.MatchesPair r (s.key name) (.document (.single "$ne" .null)) ↔ _
    rw [S.matchesPair_of_field hname, S.matchesPair_of_field hname]
    rfl
  | compare op left right =>
    rw [Scope.condition_compare] at h
    have hpair := S.matchesPair_comparison (r := r) h hplain
    obtain ⟨name, v, rfl, hv, rfl⟩ := Scope.of_comparison_eq_ok h
    have hname := Expr.everywhere_field.mp (Expr.everywhere_compare.mp hplain).2.1
    rw [S.meets_compare hv] at hpair
    cases op with
    -- these two have an opposite operator, which tests the same field
    | eq | isIn =>
      rw [hpair]
      exact S.matchesPair_of_field hname _
    | _ => exact hwrap
  | _ => exact hwrap

/-- The array of a conjunction, operand by operand. -/
theorem matchesAll_operands {es : List Expr} {vs : List Value}
    (h : List.Forall₂ (fun e v => s.operand clause e = .ok v) es vs)
    (hes : ∀ e ∈ es, ∀ p, s.condition clause e = .ok p →
      (S.MatchesPair r p.1 p.2 ↔ S.Meets s r e)) :
    S.MatchesAll r vs ↔ S.MeetsAll s r es := by
  induction h with
  | nil => simp [MatchesAll, MeetsAll]
  | @cons e v es vs hev _ ih =>
    have ih := ih fun e' he' => hes e' (List.mem_cons_of_mem e he')
    rcases Scope.of_operand_eq_ok hev with ⟨he, p, hp, rfl⟩ | ⟨he, hv⟩
    · rw [MeetsAll, if_pos he, ← hes e List.mem_cons_self p hp, ← ih, ← S.matches_single]
      rfl
    · rw [MeetsAll, if_neg (by simp [he]), hv, ← ih]
      cases v <;> simp [MatchesAll]

/-- The array of a disjunction, operand by operand. -/
theorem matchesAny_operands {es : List Expr} {vs : List Value}
    (h : List.Forall₂ (fun e v => s.operand clause e = .ok v) es vs)
    (hes : ∀ e ∈ es, ∀ p, s.condition clause e = .ok p →
      (S.MatchesPair r p.1 p.2 ↔ S.Meets s r e)) :
    S.MatchesAny r vs ↔ S.MeetsAny s r es := by
  induction h with
  | nil => simp [MatchesAny, MeetsAny]
  | @cons e v es vs hev _ ih =>
    have ih := ih fun e' he' => hes e' (List.mem_cons_of_mem e he')
    rcases Scope.of_operand_eq_ok hev with ⟨he, p, hp, rfl⟩ | ⟨he, hv⟩
    · rw [MeetsAny, if_pos he, ← hes e List.mem_cons_self p hp, ← ih, ← S.matches_single]
      rfl
    · rw [MeetsAny, if_neg (by simp [he]), hv, ← ih]
      cases v <;> simp [MatchesAny]

/-- A planned condition and its pair say the same of every record. -/
theorem matchesPair_condition {e : Expr} {p : String × Value}
    (h : s.condition clause e = .ok p) (hplain : s.Unambiguous e) :
    S.MatchesPair r p.1 p.2 ↔ S.Meets s r e := by
  induction e generalizing p with
  | and es ih =>
    obtain ⟨vs, hvs, rfl⟩ := map_eq_ok.mp (Scope.condition_and s clause es ▸ h)
    have hes := (Expr.everywhere_and.mp hplain).2
    rw [S.matchesPair_and, Meets]
    exact S.matchesAll_operands (mapM_eq_ok.mp hvs) fun e he p hp => ih e he hp (hes e he)
  | or es ih =>
    obtain ⟨vs, hvs, rfl⟩ := map_eq_ok.mp (Scope.condition_or s clause es ▸ h)
    have hes := (Expr.everywhere_or.mp hplain).2
    rw [S.matchesPair_or, Meets]
    exact S.matchesAny_operands (mapM_eq_ok.mp hvs) fun e he p hp => ih e he hp (hes e he)
  | not e ih =>
    obtain ⟨q, hq, rfl⟩ := map_eq_ok.mp (Scope.condition_not s clause e ▸ h)
    have hplain' := (Expr.everywhere_not.mp hplain).2
    rw [S.matchesPair_negated hq hplain', ih hq hplain', Meets]
  | isNil operand =>
    obtain ⟨key, hkey, rfl⟩ := map_eq_ok.mp (Scope.condition_isNil s clause operand ▸ h)
    obtain ⟨name, rfl, rfl⟩ := Scope.field_eq_ok.mp hkey
    have hname := Expr.everywhere_field.mp (Expr.everywhere_isNil.mp hplain).2
    rw [S.matchesPair_of_field hname]
    simp [Meets, Passes]
  | compare op left right =>
    rw [Scope.condition_compare] at h
    exact S.matchesPair_comparison h hplain
  | param index =>
    obtain ⟨source, hsource, rfl⟩ := Scope.of_code_eq_ok (Scope.condition_param s clause index ▸ h)
    rw [S.matchesPair_where]
    simp [Meets, hsource]
  | _ =>
    simp only [Scope.condition] at h
    cases h

/-- **Filters mean what their conditions mean.**  A record matches the filter that is planned
for conditions exactly if it meets all of them, whatever the store, the record and the
parameters are. -/
theorem matches_filter {conditions : List Expr} {d : Document}
    (h : s.filter clause conditions = .ok d)
    (hplain : ∀ e ∈ conditions, s.Unambiguous e) (r : ρ) :
    S.Matches r d ↔ ∀ e ∈ conditions, S.Meets s r e := by
  obtain ⟨ps, hmap, rfl⟩ := map_eq_ok.mp h
  have hps := mapM_eq_ok.mp hmap
  rw [S.matches_ofPairs]
  clear h hmap
  induction hps with
  | nil => simp
  | @cons e p es ps hep _ ih =>
    obtain ⟨he, hes⟩ := List.forall_mem_cons.mp hplain
    rw [List.forall_mem_cons, List.forall_mem_cons]
    exact and_congr (S.matchesPair_condition hep he) (ih hes)

/-- A negated range, a disjunction and a double negation, with the primary key renamed. -/
theorem matches_filter_of_negations :
    ∃ (s : Scope) (conditions : List Expr) (d : Document),
      d.keys = ["_id", "$or"] ∧ s.filter .filter conditions = .ok d ∧
      (∀ e ∈ conditions, s.Unambiguous e) ∧
      ∀ (S : Store (String → Value) Value) (r : String → Value),
        S.Matches r d ↔ ∀ e ∈ conditions, S.Meets s r e := by
  let s : Scope := { params := [.int 3, .int 4], primaryKey := some "id", identityKey := "_id" }
  let conditions : List Expr :=
    [.not (.compare .isIn (.field "id") (.paramRange 0 2)),
      .or [.compare .eq (.field "age") (.param 1), .not (.not (.isNil (.field "name")))]]
  let operands : List Value :=
    [.document (.single "age" (.int 4)),
      .document (.single "$not" (.document (.single "name" (.document (.single "$ne" .null)))))]
  have hplan : s.filter .filter conditions =
      .ok (.ofPairs [("_id", .document (.single "$nin" (.array [.int 3, .int 4]))),
        ("$or", .array operands)]) := rfl
  have hid : isOperatorKey (s.key "id") = false := by decide
  have hage : isOperatorKey (s.key "age") = false := by decide
  have hname : isOperatorKey (s.key "name") = false := by decide
  have hplain : ∀ e ∈ conditions, s.Unambiguous e := by
    simp [conditions, Scope.Plain, hid, hage, hname, Expr.value?, s]
  exact ⟨s, conditions, _, rfl, hplan, hplain, fun S r => S.matches_filter hplan hplain r⟩

end Store
end DocQuery
