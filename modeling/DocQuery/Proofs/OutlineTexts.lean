import DocQuery.Plan.Outline
import DocQuery.Proofs.JsonRoundTrip
import Mathlib.Data.List.Induction

/-! # What an outline tells apart

An outline prints the name of the collection as it is, and a name may hold line feeds and whatever
else an outline is made of.  So an outline cannot be read from its start: where the name ends is
not to be seen there.  It can be read from its end.  The lines below the name hold documents, whose
texts have no line feed, and the first of them is the only one about the filter.  Taken off one by
one from the last to the line of the filter, they leave the name
(`Outline.below_unique`).  Two plans with one outline are therefore of one kind and agree in
everything that outlines show (`Plan.outline_tells_apart`). -/
namespace DocQuery

/-! ### Separators -/

section Separators
variable {α : Type} {c : α} {l m x y : List α}

/-- A text before the first separator is given by the whole. -/
theorem append_separator_unique (hl : c ∉ l) (hm : c ∉ m) (h : l ++ c :: x = m ++ c :: y) :
    l = m ∧ x = y := by
  rcases List.append_eq_append_iff.mp h with ⟨a, rfl, ha⟩ | ⟨a, rfl, ha⟩
  · cases a with
    | nil => exact ⟨(List.append_nil l).symm, (List.cons.inj ha).2⟩
    | cons b a =>
      obtain ⟨rfl, -⟩ := List.cons.inj ha
      exact absurd (List.mem_append_right l List.mem_cons_self) hm
  · cases a with
    | nil => exact ⟨List.append_nil m, (List.cons.inj ha).2.symm⟩
    | cons b a =>
      obtain ⟨rfl, -⟩ := List.cons.inj ha
      exact absurd (List.mem_append_right m List.mem_cons_self) hl

/-- A text after the last separator is given by the whole. -/
theorem separator_append_unique (hl : c ∉ l) (hm : c ∉ m) (h : x ++ c :: l = y ++ c :: m) :
    x = y ∧ l = m := by
  have hreverse : l.reverse ++ c :: x.reverse = m.reverse ++ c :: y.reverse := by
    simpa using congrArg List.reverse h
  obtain ⟨hlm, hxy⟩ := append_separator_unique (mt List.mem_reverse.mp hl)
    (mt List.mem_reverse.mp hm) hreverse
  exact ⟨List.reverse_injective hxy, List.reverse_injective hlm⟩

end Separators

namespace Outline

/-! ### Lines below the collection -/

/-- The lines that can stand below the name of the collection. -/
inductive Label where
  | filter
  | order
  | projection
  | command
  | options
  deriving DecidableEq

def Label.name : Label → String
  | .filter => "Filter"
  | .order => "Order"
  | .projection => "Projection"
  | .command => "Command"
  | .options => "Options"

theorem Label.name_injective : Function.Injective name := by
  intro a b h
  cases a <;> cases b <;> simp [name] at h ⊢

/-- A label and the text behind it. -/
abbrev Line := Label × String

/-- A line without its line feed. -/
def body (l : Line) : List Char := l.1.name.toList ++ ':' :: ' ' :: l.2.toList

/-- Lines, each after a line feed. -/
def below (ls : List Line) : List Char := ls.flatMap fun l => '\n' :: body l

theorem below_concat (ls : List Line) (l : Line) :
    below (ls ++ [l]) = below ls ++ '\n' :: body l := by
  simp [below]

theorem colon_not_mem_name (label : Label) : ':' ∉ label.name.toList := by
  cases label <;> decide

theorem newline_not_mem_body {l : Line} (h : '\n' ∉ l.2.toList) : '\n' ∉ body l := by
  have hname : '\n' ∉ l.1.name.toList := by
    cases l.1 <;> decide
  simp [body, hname, h]

theorem body_injective : Function.Injective body := by
  rintro ⟨label, text⟩ ⟨label', text'⟩ h
  obtain ⟨hname, htext⟩ :=
    append_separator_unique (colon_not_mem_name label) (colon_not_mem_name label') h
  have hlabel := Label.name_injective (String.toList_injective hname)
  exact Prod.ext hlabel (String.toList_injective (List.cons.inj htext).2)

/-- One line off the end of two texts: it is the same, and what stands before it is. -/
theorem below_concat_unique {x y : List Char} (ls ms : List Line) {l m : Line}
    (hl : '\n' ∉ l.2.toList) (hm : '\n' ∉ m.2.toList)
    (h : x ++ below (ls ++ [l]) = y ++ below (ms ++ [m])) :
    l = m ∧ x ++ below ls = y ++ below ms := by
  rw [below_concat, below_concat, ← List.append_assoc, ← List.append_assoc] at h
  obtain ⟨hbefore, hbody⟩ :=
    separator_append_unique (newline_not_mem_body hl) (newline_not_mem_body hm) h
  exact ⟨body_injective hbody, hbefore⟩

/-- What stands before the lines may be anything.  The line of the filter shows where the lines
begin, since no other has its label: going up from the end, both texts come to it at once. -/
theorem below_unique {x y : List Char} {t u : String} {ls ms : List Line}
    (hls : ∀ l ∈ ls, l.1 ≠ .filter) (hms : ∀ m ∈ ms, m.1 ≠ .filter)
    (htexts : ∀ l ∈ (.filter, t) :: ls, '\n' ∉ l.2.toList)
    (htexts' : ∀ m ∈ (.filter, u) :: ms, '\n' ∉ m.2.toList)
    (h : x ++ below ((.filter, t) :: ls) = y ++ below ((.filter, u) :: ms)) :
    x = y ∧ t = u ∧ ls = ms := by
  have ht := htexts _ List.mem_cons_self
  have hu := htexts' _ List.mem_cons_self
  induction ls using List.reverseRecOn generalizing ms with
  | nil =>
    rcases List.eq_nil_or_concat' ms with rfl | ⟨ms, m, rfl⟩
    · obtain ⟨hline, hbefore⟩ := below_concat_unique [] [] ht hu h
      exact ⟨by simpa [below] using hbefore, congrArg Prod.snd hline, rfl⟩
    · -- the other text has a line below the filter's, so the label there is another
      have hm : m ∈ ms ++ [m] := List.mem_append_right ms List.mem_cons_self
      obtain ⟨hline, -⟩ :=
        below_concat_unique [] ((.filter, u) :: ms) ht (htexts' m (List.mem_cons_of_mem _ hm)) h
      exact absurd (congrArg Prod.fst hline.symm) (hms m hm)
  | append_singleton ls l ih =>
    have hl : l ∈ ls ++ [l] := List.mem_append_right ls List.mem_cons_self
    have hltext := htexts l (List.mem_cons_of_mem _ hl)
    rcases List.eq_nil_or_concat' ms with rfl | ⟨ms, m, rfl⟩
    · obtain ⟨hline, -⟩ := below_concat_unique ((.filter, t) :: ls) [] hltext hu h
      exact absurd (congrArg Prod.fst hline) (hls l hl)
    · have hm : m ∈ ms ++ [m] := List.mem_append_right ms List.mem_cons_self
      obtain ⟨rfl, hbefore⟩ := below_concat_unique ((.filter, t) :: ls) ((.filter, u) :: ms)
        hltext (htexts' m (List.mem_cons_of_mem _ hm)) h
      rw [← List.cons_append, List.forall_mem_append] at htexts htexts'
      obtain ⟨hxy, htu, hlsms⟩ := ih (List.forall_mem_append.mp hls).1
        (List.forall_mem_append.mp hms).1 htexts.1 htexts'.1 hbefore
      exact ⟨hxy, htu, by rw [hlsms]⟩

end Outline

/-! ### What outlines show -/

namespace Plan

inductive Kind where
  | find
  | count
  | write
  deriving DecidableEq

/-- What an outline shows of a plan.  Documents are shown by their texts; some plans have no order,
projection or command. -/
@[ext] structure Shown where
  kind : Kind
  coll : String
  filter : String
  order : Option String
  projection : Option String
  command : Option String
  options : String

def shown : Plan → Shown
  | .find f =>
      { kind := .find, coll := f.coll, filter := f.filter.text,
        order := f.order?.map Document.text, projection := some f.projection.text,
        command := none, options := f.paging.toDocument.text }
  | .count c =>
      { kind := .count, coll := c.coll, filter := c.filter.text, order := none, projection := none,
        command := none, options := c.paging.toDocument.text }
  | .write w =>
      { kind := .write, coll := w.coll, filter := w.filter.text, order := none, projection := none,
        command := w.command.map Document.text, options := w.options.text }

open Outline

/-- The lines below the filter's. -/
def Shown.rest (s : Shown) : List Line :=
  (s.order.map (Prod.mk Label.order)).toList ++
    (s.projection.map (Prod.mk Label.projection)).toList ++
    (s.command.map (Prod.mk Label.command)).toList ++ [(.options, s.options)]

theorem Shown.lookup_rest (s : Shown) :
    s.rest.lookup .order = s.order ∧ s.rest.lookup .projection = s.projection ∧
      s.rest.lookup .command = s.command ∧ s.rest.lookup .options = some s.options := by
  obtain ⟨kind, coll, filter, order, projection, command, options⟩ := s
  cases order <;> cases projection <;> cases command <;> exact ⟨rfl, rfl, rfl, rfl⟩

/-- Each line is found by its label, so the lines are of one outline only. -/
theorem Shown.eq_of_rest {s t : Shown} (h : s.rest = t.rest) :
    s.order = t.order ∧ s.projection = t.projection ∧ s.command = t.command ∧
      s.options = t.options := by
  obtain ⟨horder, hprojection, hcommand, hoptions⟩ := s.lookup_rest
  obtain ⟨horder', hprojection', hcommand', hoptions'⟩ := t.lookup_rest
  rw [h] at horder hprojection hcommand hoptions
  exact ⟨horder.symm.trans horder', hprojection.symm.trans hprojection',
    hcommand.symm.trans hcommand', Option.some.inj (hoptions.symm.trans hoptions')⟩

theorem Shown.label_rest (s : Shown) : ∀ l ∈ s.rest, l.1 ≠ .filter := by
  obtain ⟨kind, coll, filter, order, projection, command, options⟩ := s
  cases order <;> cases projection <;> cases command <;> simp [rest]

/-- What stands before the name of the collection. -/
def heading : List Char := (title ++ line "Status" "ACCEPTED" ++ "Collection: ").toList

/-- An outline is made of what it shows. -/
theorem toList_outline (p : Plan) :
    p.outline.toList = heading ++ p.shown.coll.toList ++
      below ((.filter, p.shown.filter) :: p.shown.rest) ++ ['\n'] := by
  cases p with
  | find f =>
    cases horder : f.order? <;>
      simp [outline, Find.outline, accepted, line, line?, heading, shown, Shown.rest, below, body,
        Label.name, horder]
  | count c =>
    simp [outline, Count.outline, accepted, line, heading, shown, Shown.rest, below, body,
      Label.name]
  | write w =>
    cases hcommand : w.command <;>
      simp [outline, Write.outline, accepted, line, line?, heading, shown, Shown.rest, below, body,
        Label.name, hcommand]

/-- Below the name of the collection there are texts of documents only. -/
theorem exists_document_of_mem (p : Plan) :
    ∀ l ∈ (Label.filter, p.shown.filter) :: p.shown.rest, ∃ d : Document, l.2 = d.text := by
  cases p with
  | find f => cases horder : f.order? <;> simp [shown, Shown.rest, horder]
  | count c => simp [shown, Shown.rest]
  | write w => cases hcommand : w.command <;> simp [shown, Shown.rest, hcommand]

theorem newline_not_mem_line (p : Plan) :
    ∀ l ∈ (Label.filter, p.shown.filter) :: p.shown.rest, '\n' ∉ l.2.toList := by
  intro l hl
  obtain ⟨d, hd⟩ := p.exists_document_of_mem l hl
  rw [hd]
  exact Json.newline_not_mem_text d.toJson

/-- The options of a read start with the size of its page, which no write has. -/
theorem paging_text_ne_options_text (paging : Paging) (w : Write) :
    paging.toDocument.text ≠ w.options.text := by
  intro h
  have hpaging : paging.toDocument.text.toList.take 3 = ['{', '"', 'n'] := by
    rw [Document.text, Json.text, String.toList_ofList]
    rfl
  have hwrite : w.options.text.toList.take 3 ≠ ['{', '"', 'n'] := by
    unfold Write.options
    cases w.multi <;> decide
  rw [h] at hpaging
  exact hwrite hpaging

/-- Projection and options tell the kind of a plan. -/
theorem kind_eq_of_shown {p q : Plan} (hprojection : p.shown.projection = q.shown.projection)
    (hoptions : p.shown.options = q.shown.options) : p.shown.kind = q.shown.kind := by
  cases p <;> cases q
  case find.find | count.count | write.write => rfl
  case find.count | find.write | count.find | write.find => cases hprojection
  case count.write c w => exact absurd hoptions (paging_text_ne_options_text c.paging w)
  case write.count w c => exact absurd hoptions.symm (paging_text_ne_options_text c.paging w)

theorem shown_eq_of_outline {p q : Plan} (h : p.outline = q.outline) : p.shown = q.shown := by
  have hlists := congrArg String.toList h
  rw [toList_outline, toList_outline] at hlists
  obtain ⟨hhead, hfilter, hrest⟩ := below_unique p.shown.label_rest q.shown.label_rest
    p.newline_not_mem_line q.newline_not_mem_line (List.append_cancel_right hlists)
  have hcoll := String.toList_injective (List.append_cancel_left hhead)
  obtain ⟨horder, hprojection, hcommand, hoptions⟩ := Shown.eq_of_rest hrest
  have hkind := kind_eq_of_shown hprojection hoptions
  exact Shown.ext hkind hcoll hfilter horder hprojection hcommand hoptions

/-- Plans and refusals differ in the line of the status. -/
theorem outline_ne_refusal (p : Plan) (r : Refusal) : p.outline ≠ r.outline := by
  intro h
  have hlists := congrArg String.toList h
  rw [toList_outline] at hlists
  simp [heading, Refusal.outline, line] at hlists

/-- **An outline identifies what it shows.**  Two plans have the same outline if and only if they
are of one kind and agree in the name of the collection and in the texts of filter, order,
projection, command and options, with nothing shown of one that the other does not have.  No
refusal has the outline of a plan. -/
theorem outline_tells_apart :
    (∀ p q : Plan, p.outline = q.outline ↔ p.shown = q.shown) ∧
      ∀ (p : Plan) (r : Refusal), p.outline ≠ r.outline := by
  refine ⟨fun p q => ⟨shown_eq_of_outline, fun h => ?_⟩, outline_ne_refusal⟩
  apply String.toList_injective
  rw [toList_outline, toList_outline, h]

end Plan
end DocQuery
