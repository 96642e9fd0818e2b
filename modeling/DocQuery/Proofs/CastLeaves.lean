import DocQuery.Proofs.Resolution

/-! # Casts, leaf by leaf

A cast goes through arrays, however deep, and stops with nothing as soon as one member does not
fit.  Read from the outside, a value is its shape, which is how arrays are nested in it, and the
list of its leaves, which is everything else in order.  A cast keeps the shape and acts on each
leaf for itself (`Cast.value?_eq_some_iff`).  Leaves that were cast have the type of the cast, and
a cast leaves what has its type alone, so that casting twice is casting once. -/
namespace DocQuery

/-! ### Shapes and leaves -/

namespace Value

mutual
/-- What a value holds when all arrays are opened, in order. -/
def leaves : Value → List Value
  | .array items => leavesOf items
  | .native n => [.native n]
  | .document d => [.document d]

def leavesOf : List Value → List Value
  | [] => []
  | v :: vs => v.leaves ++ leavesOf vs
end

mutual
/-- How arrays are nested in a value: the value with null for every leaf. -/
def shape : Value → Value
  | .array items => .array (shapes items)
  | .native _ => .null
  | .document _ => .null

def shapes : List Value → List Value
  | [] => []
  | v :: vs => v.shape :: shapes vs
end

mutual
theorem leaves_shape : ∀ v : Value, v.shape.leaves = v.leaves.map fun _ => .null
  | .array items => leavesOf_shapes items
  | .native _ => rfl
  | .document _ => rfl

theorem leavesOf_shapes : ∀ vs : List Value,
    leavesOf (shapes vs) = (leavesOf vs).map fun _ => .null
  | [] => rfl
  | v :: vs => by
    rw [shapes, leavesOf, leavesOf, List.map_append, leaves_shape v, leavesOf_shapes vs]
end

/-- Values of one shape have equally many leaves. -/
theorem length_leaves_eq {v w : Value} (h : w.shape = v.shape) :
    v.leaves.length = w.leaves.length := by
  have hleaves := congrArg (List.length ∘ leaves) h
  simpa [leaves_shape] using hleaves.symm

/-- A value of the shape of a leaf is a leaf. -/
theorem leaves_of_shape_null {w : Value} (h : w.shape = .null) : w.leaves = [w] := by
  cases w with
  | array items => cases h
  | native n => rfl
  | document d => rfl

theorem exists_array_of_shape {w : Value} {items : List Value} (h : w.shape = .array items) :
    ∃ ws, w = .array ws ∧ shapes ws = items := by
  cases w with
  | array ws => exact ⟨ws, rfl, Value.array.inj h⟩
  | native n => cases h
  | document d => cases h

theorem shapes_eq_cons {ws shapes' : List Value} {shape' : Value} :
    shapes ws = shape' :: shapes' ↔
      ∃ w ws', ws = w :: ws' ∧ w.shape = shape' ∧ shapes ws' = shapes' := by
  cases ws with
  | nil => simp [shapes]
  | cons w ws => simp [shapes]

end Value

/-! ### Casts of leaves -/

namespace Cast
variable {cast : Cast}

/-- The scalars that have the type of a cast. -/
def IsTarget : Cast → Scalar → Prop
  | .objectId, .objectId _ => True
  | .uuid, .binary subtype _ => subtype = uuidSubtype
  | .binary, .binary _ _ => True
  | .dateTime, .date _ => True
  | .float, .double _ => True
  | _, _ => False

/-- What a cast gives has its type, whether it was read, converted or left alone. -/
theorem isTarget_of_scalar? {s t : Scalar} (h : cast.scalar? s = some t) : cast.IsTarget t := by
  cases cast with
  | objectId =>
    cases s with
    | string text =>
      obtain ⟨id, -, rfl⟩ := Option.map_eq_some_iff.mp h
      trivial
    | objectId id => cases h; trivial
    | _ => cases h
  | uuid =>
    cases s with
    | string text =>
      obtain ⟨bytes, -, rfl⟩ := Option.map_eq_some_iff.mp h
      rfl
    | binary subtype bytes =>
      obtain ⟨hsubtype, ht⟩ := Option.ite_none_right_eq_some.mp h
      cases ht
      exact hsubtype
    | _ => cases h
  | binary =>
    cases s with
    | string text => cases h; trivial
    | binary subtype bytes => cases h; trivial
    | _ => cases h
  | dateTime =>
    cases s with
    | string text =>
      obtain ⟨millis, -, rfl⟩ := Option.map_eq_some_iff.mp h
      trivial
    | int64 n => cases h; trivial
    | date millis => cases h; trivial
    | _ => cases h
  | float =>
    cases s with
    | int64 n => cases h; trivial
    | int32 n => cases h; trivial
    | double d => cases h; trivial
    | _ => cases h

/-- A scalar that has the type of the cast is left alone. -/
theorem scalar?_of_isTarget {t : Scalar} (h : cast.IsTarget t) : cast.scalar? t = some t := by
  cases cast with
  | objectId =>
    cases t with
    | objectId id => rfl
    | _ => exact h.elim
  | uuid =>
    cases t with
    | binary subtype bytes => exact if_pos h
    | _ => exact h.elim
  | binary =>
    cases t with
    | binary subtype bytes => rfl
    | _ => exact h.elim
  | dateTime =>
    cases t with
    | date millis => rfl
    | _ => exact h.elim
  | float =>
    cases t with
    | double d => rfl
    | _ => exact h.elim

/-- The cast takes one leaf to another. -/
def TakesLeaf (cast : Cast) (leaf leaf' : Value) : Prop :=
  ∃ s t, leaf = .scalar s ∧ leaf' = .scalar t ∧ cast.scalar? s = some t

/-- The leaf is a scalar that the cast fits. -/
def FitsLeaf (cast : Cast) (leaf : Value) : Prop :=
  ∃ s t, leaf = .scalar s ∧ cast.scalar? s = some t

/-- The leaf has the type of the cast. -/
def IsTargetLeaf (cast : Cast) (leaf : Value) : Prop :=
  ∃ t, leaf = .scalar t ∧ cast.IsTarget t

theorem TakesLeaf.isTargetLeaf {leaf leaf' : Value} (h : cast.TakesLeaf leaf leaf') :
    cast.IsTargetLeaf leaf' := by
  obtain ⟨s, t, -, rfl, ht⟩ := h
  exact ⟨t, rfl, isTarget_of_scalar? ht⟩

theorem IsTargetLeaf.takesLeaf {leaf : Value} (h : cast.IsTargetLeaf leaf) :
    cast.TakesLeaf leaf leaf := by
  obtain ⟨t, rfl, ht⟩ := h
  exact ⟨t, t, rfl, rfl, scalar?_of_isTarget ht⟩

/-! ### Casts of values -/

/-- Two lists of leaves are related if their halves are, provided that these are equally long. -/
theorem forall₂_append_iff {α β : Type} {R : α → β → Prop} {as as' : List α} {bs bs' : List β}
    (h : as.length = bs.length) :
    List.Forall₂ R (as ++ as') (bs ++ bs') ↔ List.Forall₂ R as bs ∧ List.Forall₂ R as' bs' := by
  constructor
  · intro hall
    have htake := List.forall₂_take_append _ bs bs' hall
    have hdrop := List.forall₂_drop_append _ bs bs' hall
    rw [← h, List.take_left] at htake
    rw [← h, List.drop_left] at hdrop
    exact ⟨htake, hdrop⟩
  · rintro ⟨hfirst, hrest⟩
    exact List.rel_append hfirst hrest

theorem values?_cons_eq_some {v : Value} {vs ws : List Value} :
    values? cast (v :: vs) = some ws ↔
      ∃ w ws', ws = w :: ws' ∧ value? cast v = some w ∧ values? cast vs = some ws' := by
  simp only [values?, Option.bind_eq_bind, Option.bind_eq_some_iff, Option.some.injEq]
  constructor
  · rintro ⟨w, hw, ws', hws', rfl⟩
    exact ⟨w, ws', rfl, hw, hws'⟩
  · rintro ⟨w, ws', rfl, hw, hws'⟩
    exact ⟨w, hw, ws', hws', rfl⟩

/-- A cast of a leaf is a cast of a scalar; documents and sealed containers have none. -/
theorem value?_leaf {leaf w : Value} (h : leaf.shape = .null) :
    cast.value? leaf = some w ↔ cast.TakesLeaf leaf w := by
  cases leaf with
  | array items => cases h
  | native n =>
    cases n with
    | scalar s =>
      rw [value?, Option.map_eq_some_iff]
      constructor
      · rintro ⟨t, ht, rfl⟩
        exact ⟨s, t, rfl, rfl, ht⟩
      · rintro ⟨_, t, ⟨⟩, rfl, ht⟩
        exact ⟨t, ht, rfl⟩
    | array items => exact iff_of_false (by rintro ⟨⟩) (by rintro ⟨s, t, ⟨⟩, -⟩)
    | document pairs => exact iff_of_false (by rintro ⟨⟩) (by rintro ⟨s, t, ⟨⟩, -⟩)
    | scopedCode code scope => exact iff_of_false (by rintro ⟨⟩) (by rintro ⟨s, t, ⟨⟩, -⟩)
  | document d => exact iff_of_false (by rintro ⟨⟩) (by rintro ⟨s, t, ⟨⟩, -⟩)

theorem takesLeaf_iff {leaf w : Value} (h : leaf.shape = .null) :
    cast.TakesLeaf leaf w ↔
      w.shape = leaf.shape ∧ List.Forall₂ cast.TakesLeaf leaf.leaves w.leaves := by
  rw [Value.leaves_of_shape_null h, h]
  constructor
  · intro htakes
    obtain ⟨s, t, -, rfl, -⟩ := id htakes
    exact ⟨rfl, .cons htakes .nil⟩
  · rintro ⟨hshape, hleaves⟩
    rw [Value.leaves_of_shape_null hshape] at hleaves
    exact (List.forall₂_cons.mp hleaves).1

mutual
/-- One value is the cast of another exactly if it has the same shape and its leaves are the casts
of the other's leaves. -/
theorem value?_eq_some_iff : ∀ {v w : Value}, cast.value? v = some w ↔
    w.shape = v.shape ∧ List.Forall₂ cast.TakesLeaf v.leaves w.leaves
  | .array items, w => by
    rw [value?, Option.map_eq_some_iff, Value.shape, Value.leaves]
    constructor
    · rintro ⟨ws, hws, rfl⟩
      obtain ⟨hshapes, hleaves⟩ := values?_eq_some_iff.mp hws
      exact ⟨congrArg Value.array hshapes, hleaves⟩
    · rintro ⟨hshape, hleaves⟩
      obtain ⟨ws, rfl, hshapes⟩ := Value.exists_array_of_shape hshape
      exact ⟨ws, values?_eq_some_iff.mpr ⟨hshapes, hleaves⟩, rfl⟩
  | .native _, _ => (value?_leaf rfl).trans (takesLeaf_iff rfl)
  | .document _, _ => (value?_leaf rfl).trans (takesLeaf_iff rfl)

theorem values?_eq_some_iff : ∀ {vs ws : List Value}, cast.values? vs = some ws ↔
    Value.shapes ws = Value.shapes vs ∧
      List.Forall₂ cast.TakesLeaf (Value.leavesOf vs) (Value.leavesOf ws)
  | [], ws => by
    cases ws with
    | nil => simp [values?, Value.shapes, Value.leavesOf]
    | cons w ws => simp [values?, Value.shapes]
  | v :: vs, ws => by
    rw [values?_cons_eq_some, Value.shapes, Value.shapes_eq_cons]
    constructor
    · rintro ⟨w, ws', rfl, hw, hws'⟩
      obtain ⟨hshape, hleaves⟩ := value?_eq_some_iff.mp hw
      obtain ⟨hshapes, hrest⟩ := values?_eq_some_iff.mp hws'
      exact ⟨⟨w, ws', rfl, hshape, hshapes⟩, List.rel_append hleaves hrest⟩
    · rintro ⟨⟨w, ws', rfl, hshape, hshapes⟩, hall⟩
      obtain ⟨hleaves, hrest⟩ := (forall₂_append_iff (Value.length_leaves_eq hshape)).mp hall
      exact ⟨w, ws', rfl, value?_eq_some_iff.mpr ⟨hshape, hleaves⟩,
        values?_eq_some_iff.mpr ⟨hshapes, hrest⟩⟩
end

theorem exists_leaf_iff {leaf : Value} (h : leaf.shape = .null) :
    (∃ w, cast.value? leaf = some w) ↔ ∀ leaf' ∈ leaf.leaves, cast.FitsLeaf leaf' := by
  rw [Value.leaves_of_shape_null h, List.forall_mem_singleton]
  constructor
  · rintro ⟨w, hw⟩
    obtain ⟨s, t, hs, -, ht⟩ := (value?_leaf h).mp hw
    exact ⟨s, t, hs, ht⟩
  · rintro ⟨s, t, hs, ht⟩
    exact ⟨.scalar t, (value?_leaf h).mpr ⟨s, t, hs, rfl, ht⟩⟩

mutual
/-- A value has a cast exactly if each of its leaves has. -/
theorem exists_value?_iff : ∀ {v : Value},
    (∃ w, cast.value? v = some w) ↔ ∀ leaf ∈ v.leaves, cast.FitsLeaf leaf
  | .array items => by
    rw [Value.leaves, ← exists_values?_iff, value?]
    constructor
    · rintro ⟨w, hw⟩
      obtain ⟨ws, hws, -⟩ := Option.map_eq_some_iff.mp hw
      exact ⟨ws, hws⟩
    · rintro ⟨ws, hws⟩
      exact ⟨.array ws, Option.map_eq_some_iff.mpr ⟨ws, hws, rfl⟩⟩
  | .native _ => exists_leaf_iff rfl
  | .document _ => exists_leaf_iff rfl

theorem exists_values?_iff : ∀ {vs : List Value},
    (∃ ws, cast.values? vs = some ws) ↔ ∀ leaf ∈ Value.leavesOf vs, cast.FitsLeaf leaf
  | [] => iff_of_true ⟨[], rfl⟩ (List.forall_mem_nil _)
  | v :: vs => by
    rw [Value.leavesOf, List.forall_mem_append, ← exists_value?_iff, ← exists_values?_iff]
    constructor
    · rintro ⟨ws, hws⟩
      obtain ⟨w, ws', -, hw, hws'⟩ := values?_cons_eq_some.mp hws
      exact ⟨⟨w, hw⟩, ws', hws'⟩
    · rintro ⟨⟨w, hw⟩, ws', hws'⟩
      exact ⟨w :: ws', values?_cons_eq_some.mpr ⟨w, ws', rfl, hw, hws'⟩⟩
end

/-- The leaves of a cast value have the type of the cast. -/
theorem isTargetLeaf_of_value? {v w : Value} (h : cast.value? v = some w) :
    ∀ leaf ∈ w.leaves, cast.IsTargetLeaf leaf := by
  obtain ⟨-, hleaves⟩ := value?_eq_some_iff.mp h
  have htargets : List.Forall₂
      (fun leaf' leaf => cast.IsTargetLeaf leaf' ∧ cast.TakesLeaf leaf leaf') w.leaves v.leaves :=
    (hleaves.imp fun leaf leaf' h => ⟨h.isTargetLeaf, h⟩).flip
  exact ((List.forall₂_and_left _ _).mp htargets).1

/-- A value with leaves of the type of the cast is left alone. -/
theorem value?_of_isTargetLeaf {w : Value} (h : ∀ leaf ∈ w.leaves, cast.IsTargetLeaf leaf) :
    cast.value? w = some w := by
  refine value?_eq_some_iff.mpr ⟨rfl, List.forall₂_same.mpr fun leaf hleaf => ?_⟩
  exact (h leaf hleaf).takesLeaf

theorem value?_idem {v w : Value} (h : cast.value? v = some w) : cast.value? w = some w :=
  value?_of_isTargetLeaf (isTargetLeaf_of_value? h)

/-- Under a cast, the same cast changes nothing. -/
theorem value?_tagged_tagged (params : List Value) (e : Expr) :
    (Expr.tagged (.tagged e cast) cast).value? params = (Expr.tagged e cast).value? params := by
  change ((e.value? params).bind cast.value?).bind cast.value? = (e.value? params).bind cast.value?
  cases hcast : (e.value? params).bind cast.value? with
  | none => rfl
  | some w =>
    obtain ⟨v, -, hw⟩ := Option.bind_eq_some_iff.mp hcast
    exact value?_idem hw

/-- **A cast acts on each leaf for itself, and once.**  A value has a cast exactly if all its
leaves are scalars that the cast fits.  The cast value is the one of the same shape whose leaves
are the casts of the leaves, one by one; they have the type of the cast, and casting it again gives
it back.  So an expression with the same cast twice has the value of the expression with the cast
once. -/
theorem value?_leafwise (cast : Cast) :
    (∀ v, (∃ w, cast.value? v = some w) ↔ ∀ leaf ∈ v.leaves, cast.FitsLeaf leaf) ∧
    (∀ v w, cast.value? v = some w ↔
      w.shape = v.shape ∧ List.Forall₂ cast.TakesLeaf v.leaves w.leaves) ∧
    (∀ v w, cast.value? v = some w →
      (∀ leaf ∈ w.leaves, cast.IsTargetLeaf leaf) ∧ cast.value? w = some w) ∧
    ∀ params e w, (Expr.tagged (.tagged e cast) cast).eval params = .ok w ↔
      (Expr.tagged e cast).eval params = .ok w := by
  refine ⟨fun v => exists_value?_iff, fun v w => value?_eq_some_iff,
    fun v w h => ⟨isTargetLeaf_of_value? h, value?_idem h⟩, fun params e w => ?_⟩
  rw [Expr.eval_eq_ok, Expr.eval_eq_ok, value?_tagged_tagged]

/-- Moments as numbers and as moments, nested unevenly and with an empty array between them.  A
single null among them leaves nothing. -/
theorem value?_leafwise_of_moments :
    ∃ v w : Value, v.leaves = [.int 5, .scalar (.date 7)] ∧
      w.leaves = [.scalar (.date 5), .scalar (.date 7)] ∧
      Cast.dateTime.value? v = some w ∧ Cast.dateTime.value? w = some w ∧
      ¬ ∃ u, Cast.dateTime.value? (.array [v, .null]) = some u := by
  let v : Value := .array [.array [.int 5], .array [], .scalar (.date 7)]
  let w : Value := .array [.array [.scalar (.date 5)], .array [], .scalar (.date 7)]
  obtain ⟨hexists, hcasts, htwice, -⟩ := value?_leafwise .dateTime
  have hw : Cast.dateTime.value? v = some w := by
    refine (hcasts v w).mpr ⟨rfl, .cons ⟨_, _, rfl, rfl, rfl⟩ (.cons ⟨_, _, rfl, rfl, rfl⟩ .nil)⟩
  refine ⟨v, w, rfl, rfl, hw, (htwice v w hw).2, fun hnull => ?_⟩
  have hmem : Value.null ∈ (Value.array [v, .null]).leaves :=
    List.mem_append_right v.leaves List.mem_cons_self
  obtain ⟨s, t, hs, ht⟩ := (hexists _).mp hnull .null hmem
  cases hs
  cases ht

end Cast
end DocQuery
