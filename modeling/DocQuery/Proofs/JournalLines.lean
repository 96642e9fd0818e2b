import DocQuery.Journal
import DocQuery.Proofs.JsonRoundTrip
import DocQuery.Value.Json
import Mathlib.Data.List.Nodup

/-! # Lines of the journal

Names and texts of an event come from outside and may hold anything: quotes, line feeds, halves of
what looks like a field.  None of it can break a line in two or add a field to it.  The line of an
event is one line, and what is read from it are the name, the severity and the fields as they were
given, in the order of their keys (`Journal.line_is_event`).  Lines are put together piece by piece; that this comes to the text of
one tree (`Journal.line_eq`) is what the rest of the argument is about.

Fields are sorted by key only.  The order in which they were given shows where keys repeat
(`Journal.StablySorted`), and not at all where they are distinct. -/
namespace DocQuery.Journal

/-! ### Sorted fields -/

/-- The same fields in the order of their keys, those with one key in the order given. -/
structure StablySorted (fields ordered : List (String × String)) : Prop where
  perm : ordered.Perm fields
  increasing : ordered.Pairwise fun a b => a.1 ≤ b.1
  stable : ∀ key, ordered.filter (·.1 = key) = fields.filter (·.1 = key)

section Sorting
variable (fields : List (String × String))

theorem keyLe_trans (a b c : String × String) (hab : decide (a.1 ≤ b.1) = true)
    (hbc : decide (b.1 ≤ c.1) = true) : decide (a.1 ≤ c.1) = true :=
  decide_eq_true (String.le_trans (of_decide_eq_true hab) (of_decide_eq_true hbc))

theorem keyLe_total (a b : String × String) :
    (decide (a.1 ≤ b.1) || decide (b.1 ≤ a.1)) = true := by
  rw [Bool.or_eq_true, decide_eq_true_eq, decide_eq_true_eq]
  exact String.le_total a.1 b.1

theorem sorted_pairwise : (sorted fields).Pairwise fun a b => a.1 ≤ b.1 :=
  (List.pairwise_mergeSort keyLe_trans keyLe_total fields).imp of_decide_eq_true

/-- Fields with one key are sorted already, so sorting leaves them in their order. -/
theorem filter_sorted (key : String) :
    (sorted fields).filter (·.1 = key) = fields.filter (·.1 = key) := by
  have hperm : (sorted fields).Perm fields := List.mergeSort_perm fields _
  have hsorted : (fields.filter (·.1 = key)).Pairwise fun a b => decide (a.1 ≤ b.1) = true := by
    refine List.pairwise_iff_forall_sublist.mpr fun {a b} hab => decide_eq_true ?_
    have ha := List.mem_filter.mp (hab.subset List.mem_cons_self)
    have hb := List.mem_filter.mp (hab.subset (List.mem_cons_of_mem a List.mem_cons_self))
    have hkeys : a.1 = b.1 := (of_decide_eq_true ha.2).trans (of_decide_eq_true hb.2).symm
    exact hkeys ▸ String.le_refl a.1
  have hsublist : (fields.filter (·.1 = key)).Sublist (sorted fields) :=
    List.sublist_mergeSort keyLe_trans keyLe_total hsorted List.filter_sublist
  -- sorting adds no field with the key, so the sublist is all of them
  have hfiltered := hsublist.filter (·.1 = key)
  rw [List.filter_filter] at hfiltered
  simp only [Bool.and_self] at hfiltered
  exact (hfiltered.eq_of_length ((hperm.filter _).length_eq.symm)).symm

theorem stablySorted_sorted : StablySorted fields (sorted fields) where
  perm := List.mergeSort_perm fields _
  increasing := sorted_pairwise fields
  stable := filter_sorted fields

variable {fields}

/-- Where keys are distinct, the order given makes no difference. -/
theorem sorted_of_perm {fields' : List (String × String)} (hperm : fields'.Perm fields)
    (hkeys : (fields.map Prod.fst).Nodup) : sorted fields' = sorted fields := by
  have hsame : (sorted fields').Perm (sorted fields) :=
    (List.mergeSort_perm fields' _).trans (hperm.trans (List.mergeSort_perm fields _).symm)
  refine List.Perm.eq_of_pairwise ?_ (sorted_pairwise fields') (sorted_pairwise fields) hsame
  intro a b ha hb hab hba
  -- only keys are compared: a tie is one field, since no other has its key
  have ha' : a ∈ fields := hperm.subset (List.mem_mergeSort.mp ha)
  have hb' : b ∈ fields := List.mem_mergeSort.mp hb
  exact List.inj_on_of_nodup_map hkeys ha' hb' (String.le_antisymm hab hba)

end Sorting

/-! ### Lines as texts of trees -/

theorem pairsDepth_texts (fields : List (String × String)) :
    Json.pairsDepth (fields.map fun f => (f.1, .str f.2)) = 0 := by
  induction fields with
  | nil => rfl
  | cons f fields ih =>
    rw [List.map_cons, Json.pairsDepth, ih]
    rfl

theorem pairsOfJson?_texts (fields : List (String × String)) :
    pairsOfJson? (fields.map fun f => (f.1, .str f.2)) =
      some (fields.map fun f => (f.1, .string f.2)) := by
  induction fields with
  | nil => rfl
  | cons f fields ih =>
    rw [List.map_cons, pairsOfJson?, ih]
    rfl

/-- The fields of an event: its name, its severity, and then those given. -/
def eventFields (severity : Severity) (name : String) (fields : List (String × String)) :
    List (String × String) :=
  ("event", name) :: ("severity", severity.word) :: fields

/-- The tree of an event. -/
def event (severity : Severity) (name : String) (fields : List (String × String)) : Json :=
  .obj ((eventFields severity name (sorted fields)).map fun f => (f.1, .str f.2))

theorem toList_quoted (s : String) : (quoted s).toList = Json.quote s := String.toList_ofList

theorem toList_addField (line : String) (f : String × String) :
    (addField line f).toList = line.toList ++ ',' :: (Json.quote f.1 ++ ':' :: Json.quote f.2) := by
  simp only [addField, String.toList_append, toList_quoted, List.append_assoc]
  rfl

/-- The loop writes after what is there already what a tree with the fields ends in. -/
theorem toList_foldl_addField (fields : List (String × String)) (start : String) :
    (fields.foldl addField start).toList ++ ['}'] =
      start.toList ++ Json.renderPairs (fields.map fun f => (f.1, .str f.2)) := by
  induction fields generalizing start with
  | nil => rfl
  | cons f fields ih =>
    rw [List.foldl_cons, ih, toList_addField, List.map_cons, Json.renderPairs, Json.render]
    simp only [List.append_assoc, List.cons_append]

/-- The words for severities have nothing to escape. -/
theorem quote_word (severity : Severity) :
    Json.quote severity.word = '"' :: (severity.word.toList ++ ['"']) := by
  cases severity <;> rfl

/-- A line put together from quoted pieces is the text of the event. -/
theorem line_eq (severity : Severity) (name : String) (fields : List (String × String)) :
    line severity name fields = (event severity name fields).text ++ "\n" := by
  have hend : r"}".toList = ['}'] := rfl
  have hname : r#"{"event":"#.toList = '{' :: (Json.quote "event" ++ [':']) := rfl
  have hseverity : r#","severity":""#.toList = ',' :: (Json.quote "severity" ++ [':', '"']) := rfl
  have hquote : "\"".toList = ['"'] := rfl
  unfold line
  dsimp only
  refine congrArg (· ++ "\n") (String.toList_inj.mp ?_)
  rw [String.toList_append, hend, toList_foldl_addField, Json.text, String.toList_ofList]
  simp only [event, eventFields, List.map_cons, Json.render, Json.renderPairs, quote_word,
    String.toList_append, toList_quoted, hname, hseverity, hquote, List.append_assoc,
    List.cons_append, List.nil_append]

/-- An event is read back from its line as it was written. -/
theorem parse?_line (severity : Severity) (name : String) (fields : List (String × String)) :
    Json.parse? (line severity name fields) = some (event severity name fields) := by
  have hexact : (event severity name fields).isExact = true := by
    rw [event, Json.isExact_obj]
    refine List.forall_mem_map.mpr fun f _ => ?_
    exact Json.isExact_str f.2
  have hdepth : (event severity name fields).depth ≤ Json.nestingLimit := by
    rw [event, Json.depth, pairsDepth_texts]
    decide
  rw [line_eq, Json.parse?_line, Json.reread_of_isExact _ _ hexact hdepth]

/-! ### Lines -/

/-- **A line of the journal is one event, and says it faithfully.**  It ends in a line feed and
holds no other.  Read as a value it is a document with the name, the severity and the fields, sorted
by key, every text as it was given.  With distinct keys, the order of the fields does not show. -/
theorem line_is_event (severity : Severity) (name : String) (fields : List (String × String)) :
    (∃ body, (line severity name fields).toList = body ++ ['\n'] ∧ '\n' ∉ body) ∧
    (StablySorted fields (sorted fields) ∧
      Value.parse? (line severity name fields) = some (.document (.entries
        (("event", .string name) :: ("severity", .string severity.word) ::
          (sorted fields).map fun f => (f.1, .string f.2))))) ∧
    ∀ fields', fields'.Perm fields → (fields.map Prod.fst).Nodup →
      line severity name fields' = line severity name fields := by
  refine ⟨?_, ?_, ?_⟩
  · refine ⟨(event severity name fields).text.toList, ?_, Json.newline_not_mem_text _⟩
    rw [line_eq, String.toList_append]
    rfl
  · refine ⟨stablySorted_sorted fields, ?_⟩
    rw [Value.parse?, parse?_line, Option.bind_some, event, Value.ofJson?, pairsOfJson?_texts]
    rfl
  · intro fields' hperm hkeys
    rw [line, line, sorted_of_perm hperm hkeys]

/-- A text with quotes and line feeds that would forge a line, and a key that comes twice. -/
theorem line_is_event_of_forgery :
    ∃ (severity : Severity) (name : String) (fields fields' : List (String × String))
      (body : List Char),
      (line severity name fields).toList = body ++ ['\n'] ∧ '\n' ∉ body ∧
      Value.parse? (line severity name fields) = some (.document (.entries
        [("event", .string (r#"a"}"# ++ "\n" ++ r#"{"event":"b"#)), ("severity", .string "WARN"),
          ("code", .string "\u0000é"), ("kind", .string "2"), ("kind", .string "1")])) ∧
      fields'.Perm (fields.drop 1) ∧ fields' ≠ fields.drop 1 ∧
      line severity name fields' = line severity name (fields.drop 1) := by
  let name := r#"a"}"# ++ "\n" ++ r#"{"event":"b"#
  let fields := [("kind", "2"), ("kind", "1"), ("code", "\u0000é")]
  obtain ⟨⟨body, hbody, hnewline⟩, ⟨-, hparse⟩, -⟩ := line_is_event .warn name fields
  obtain ⟨-, -, hperm⟩ := line_is_event .warn name (fields.drop 1)
  refine ⟨.warn, name, fields, [("code", "\u0000é"), ("kind", "1")], body, hbody, hnewline, ?_,
    List.Perm.swap _ _ _, by decide, hperm _ (List.Perm.swap _ _ _) (by decide)⟩
  have hsorted : sorted fields = [("code", "\u0000é"), ("kind", "2"), ("kind", "1")] := by
    simp [fields, sorted, List.mergeSort, List.MergeSort.Internal.splitInTwo, List.splitAt,
      List.splitAt.go]
  rw [hparse, hsorted]
  rfl

end DocQuery.Journal
