import Mathlib
import XmlView.Conversion.Item
import XmlView.Text.Basic
/-! The children of an element, read off the text and tails of its nodes, are its sibling
slots: each maximal run of non-empty text, and each other node, in order. -/
namespace XmlView.Text

def join (ts : List Text) : Text := ⟨ts.flatMap Text.points⟩

@[simp] theorem join_nil : join [] = Text.empty := rfl

@[simp] theorem join_cons (t : Text) (ts : List Text) : join (t :: ts) = t ++ join ts := rfl

theorem join_append (ts us : List Text) : join (ts ++ us) = join ts ++ join us := by
  simp only [join, List.flatMap_append]
  rfl

theorem ofString_append (s t : String) : ofString (s ++ t) = ofString s ++ ofString t := by
  simp only [ofString, String.toList_append, List.map_append]
  rfl

@[simp] theorem ofString_empty : ofString "" = Text.empty := rfl

@[simp] theorem empty_append (t : Text) : Text.empty ++ t = t := rfl

theorem append_assoc (a b c : Text) : a ++ b ++ c = a ++ (b ++ c) :=
  congrArg Text.mk (List.append_assoc a.points b.points c.points)

theorem ofString_ne_empty {s : String} (h : s ≠ "") : ofString s ≠ Text.empty := by
  intro he
  have hl : s.toList.map Char.toNat = [] := congrArg Text.points he
  exact h (String.toList_eq_nil_iff.mp (List.map_eq_nil_iff.mp hl))

end XmlView.Text

namespace XmlView.Conversion
open Markup

def sameRun (a b : Node) : Bool := a.isText && b.isText

def slotOf (scope : Scope) : List Node → Option Item
  | c :: cs =>
    if !c.isText then some (.node c scope)
    else if (joinText (c :: cs)).isEmpty then none else some (.text (joinText (c :: cs)))
  | [] => none

/-- The sibling slots of an element's content, in the scope of the element: each maximal run
of adjacent text nodes whose text is not empty, and each other node. -/
def siblingSlots (scope : Scope) (cs : List Node) : List Item :=
  (cs.splitBy sameRun).filterMap (slotOf scope)

def runOf (ns : List Node) : List (List Node) := if ns = [] then [] else [ns]

theorem textRuns_cons_text {c : Node} (cs : List Node) (h : c.isText) :
    textRuns (c :: cs) = (c :: (textRuns cs).1, (textRuns cs).2) := by
  simp [textRuns, h]

theorem textRuns_cons_other {c : Node} (cs : List Node) (h : c.isText = false) :
    textRuns (c :: cs) = ([], (c, (textRuns cs).1) :: (textRuns cs).2) := by
  simp [textRuns, h]

theorem textRuns_flatten (cs : List Node) :
    (textRuns cs).1 ++ (textRuns cs).2.flatMap (fun p => p.1 :: p.2) = cs := by
  induction cs with
  | nil => rfl
  | cons c cs ih =>
    cases h : c.isText
    · simp [textRuns_cons_other cs h, ih]
    · simp [textRuns_cons_text cs h, ih]

theorem isText_of_mem_textRuns_fst {n : Node} {cs : List Node} (h : n ∈ (textRuns cs).1) :
    n.isText := by
  induction cs with
  | nil => simp [textRuns] at h
  | cons c cs ih =>
    cases hc : c.isText
    · simp [textRuns_cons_other cs hc] at h
    · rw [textRuns_cons_text cs hc, List.mem_cons] at h
      rcases h with rfl | h
      · exact hc
      · exact ih h

theorem textRuns_snd_run {p : Node × List Node} {cs : List Node} (h : p ∈ (textRuns cs).2) :
    p.1.isText = false ∧ ∀ n ∈ p.2, n.isText := by
  induction cs with
  | nil => simp [textRuns] at h
  | cons c cs ih =>
    cases hc : c.isText
    · rw [textRuns_cons_other cs hc, List.mem_cons] at h
      rcases h with rfl | h
      · exact ⟨hc, fun _ => isText_of_mem_textRuns_fst⟩
      · exact ih h
    · rw [textRuns_cons_text cs hc] at h
      exact ih h

theorem splitBy_run {ns : List Node} (h : ∀ n ∈ ns, n.isText) :
    ns.splitBy sameRun = runOf ns := by
  by_cases hne : ns = []
  · simp [hne, runOf]
  · rw [List.splitBy_of_isChain hne, runOf, if_neg hne]
    exact (List.pairwise_of_forall_mem_list fun a ha b hb => by
      simp [sameRun, h a ha, h b hb]).isChain

theorem splitBy_append_of_other {l r : List Node}
    (h : (∀ x ∈ l.getLast?, x.isText = false) ∨ ∀ y ∈ r.head?, y.isText = false) :
    (l ++ r).splitBy sameRun = l.splitBy sameRun ++ r.splitBy sameRun := by
  apply List.splitBy_append
  intro x hx y hy
  rcases h with h | h
  · simp [sameRun, h x hx]
  · simp [sameRun, h y hy]

theorem splitBy_tails {ps : List (Node × List Node)}
    (h : ∀ p ∈ ps, p.1.isText = false ∧ ∀ n ∈ p.2, n.isText) :
    (ps.flatMap fun p => p.1 :: p.2).splitBy sameRun =
      ps.flatMap fun p => [p.1] :: runOf p.2 := by
  induction ps with
  | nil => rfl
  | cons p ps ih =>
    have hp := h p List.mem_cons_self
    have hrest := ih fun q hq => h q (List.mem_cons_of_mem _ hq)
    have hhead : ∀ y ∈ (ps.flatMap fun p => p.1 :: p.2).head?, y.isText = false := by
      cases ps with
      | nil => simp
      | cons q qs => simpa using (h q (by simp)).1
    rw [List.flatMap_cons, List.flatMap_cons, ← List.singleton_append, List.append_assoc,
      splitBy_append_of_other (.inl (by simpa using hp.1)),
      splitBy_append_of_other (.inr hhead), splitBy_run hp.2, hrest,
      List.splitBy_of_isChain (List.cons_ne_nil _ _) (List.isChain_singleton _)]
    rfl

theorem splitBy_textRuns (cs : List Node) :
    cs.splitBy sameRun =
      runOf (textRuns cs).1 ++ (textRuns cs).2.flatMap fun p => [p.1] :: runOf p.2 := by
  have hhead : ∀ y ∈ ((textRuns cs).2.flatMap fun p => p.1 :: p.2).head?, y.isText = false := by
    cases h : (textRuns cs).2 with
    | nil => simp
    | cons q qs => simpa using (textRuns_snd_run (h ▸ List.mem_cons_self : q ∈ (textRuns cs).2)).1
  conv_lhs => rw [← textRuns_flatten cs]
  rw [splitBy_append_of_other (.inr hhead), splitBy_run (fun _ => isText_of_mem_textRuns_fst),
    splitBy_tails (fun _ => textRuns_snd_run)]

theorem filterMap_runOf (scope : Scope) {ns : List Node} (h : ∀ n ∈ ns, n.isText) :
    (runOf ns).filterMap (slotOf scope) = textItem (joinText ns) := by
  cases ns with
  | nil => simp [runOf, joinText, textItem]
  | cons c cs =>
    simp only [runOf, reduceCtorEq, if_false, List.filterMap_cons, List.filterMap_nil, slotOf,
      h c List.mem_cons_self, Bool.not_true, Bool.false_eq_true, textItem]
    cases (joinText (c :: cs)).isEmpty <;> rfl

/-- An element's children, read off its text and tails, are the sibling slots of its
content: the maximal runs of text that are not empty and the other nodes, in order. -/
theorem children_eq_slots (pre name uri decls attrs cs) (outer : Scope) :
    (Item.node (.element pre name uri decls attrs cs) outer).children =
      siblingSlots (outer.extend decls) cs := by
  rw [siblingSlots, splitBy_textRuns, List.filterMap_append,
    filterMap_runOf _ (fun _ => isText_of_mem_textRuns_fst), List.filterMap_flatMap]
  simp only [Item.children]
  congr 1
  apply List.flatMap_congr
  intro p hp
  have hrun := textRuns_snd_run hp
  simp [slotOf, hrun.1, filterMap_runOf _ hrun.2]

namespace Item

def slots : Item → List Item
  | .node (.element _ _ _ decls _ cs) outer => siblingSlots (outer.extend decls) cs
  | _ => []

theorem children_eq_slots (item : Item) : item.children = item.slots := by
  match item with
  | .node (.element pre name uri decls attrs cs) outer =>
    exact Conversion.children_eq_slots pre name uri decls attrs cs outer
  | .node (.text _) _ | .node (.comment _) _ | .node (.instruction _ _) _
  | .node (.reference _) _ | .text _ | .nothing => rfl

theorem size_lt_of_mem_slots {c : Item} {n : Node} {outer : Scope}
    (h : c ∈ (Item.node n outer).slots) : c.size < (Item.node n outer).size :=
  size_lt_of_mem_children ((children_eq_slots _).symm ▸ h)

def isText : Item → Bool
  | .text _ => true
  | _ => false

def textWith (f : Node → Text) : Item → Text
  | .text s => Text.ofString s
  | .node c _ => f c
  | .nothing => Text.empty

end Item

@[simp] theorem joinText_nil : joinText [] = "" := rfl

theorem joinText_cons (c : Node) (cs : List Node) :
    joinText (c :: cs) = c.charData ++ joinText cs := by
  simp [joinText, String.join_cons]

theorem join_textItem (f : Node → Text) (s : String) :
    Text.join ((textItem s).map (Item.textWith f)) = Text.ofString s := by
  unfold textItem
  split
  · simp_all [String.isEmpty_iff]
  · simp [Item.textWith, Text.join, Text.ofString]

/-- The children of an element hold its character data in order: each run of text once,
and what each other node holds in its place. -/
theorem join_children (f : Node → Text) (hf : ∀ s, f (.text s) = Text.ofString s)
    (pre name uri decls attrs) (outer : Scope) (cs : List Node) :
    Text.join ((Item.node (.element pre name uri decls attrs cs) outer).children.map
      (Item.textWith f)) = Text.join (cs.map f) := by
  simp only [Item.children]
  induction cs with
  | nil => simp [textRuns, joinText, join_textItem]
  | cons c cs ih =>
    simp only [List.map_append, Text.join_append, join_textItem] at ih
    cases hc : c.isText
    · simp [textRuns_cons_other cs hc, List.map_append, Text.join_append, join_textItem,
        Item.textWith, ← ih]
    · cases c with
      | text s =>
        simp [textRuns_cons_text _ hc, List.map_append, Text.join_append, join_textItem,
          joinText_cons, Node.charData, Text.ofString_append, ← ih, hf, Text.append_assoc]
      | _ => simp [Node.isText] at hc

theorem mem_textItem {x : Item} {s : String} : x ∈ textItem s ↔ x = .text s ∧ s ≠ "" := by
  unfold textItem
  split <;> simp_all [String.isEmpty_iff]

def Item.Apart (a b : Item) : Prop := a.isText = false ∨ b.isText = false

theorem isChain_textItem_append {s : String} {l : List Item} (hl : l.IsChain Item.Apart)
    (hhead : ∀ y ∈ l.head?, y.isText = false) : (textItem s ++ l).IsChain Item.Apart := by
  unfold textItem
  split
  · exact hl
  · simpa [List.isChain_cons, Item.Apart] using ⟨fun y hy => by simp [hhead y hy], hl⟩

theorem isChain_tails (scope : Scope) (ps : List (Node × List Node)) :
    (ps.flatMap fun p => Item.node p.1 scope :: textItem (joinText p.2)).IsChain Item.Apart ∧
      ∀ y ∈ (ps.flatMap fun p => Item.node p.1 scope :: textItem (joinText p.2)).head?,
        y.isText = false := by
  induction ps with
  | nil => simp
  | cons p ps ih =>
    refine ⟨?_, by simp [Item.isText]⟩
    rw [List.flatMap_cons, List.cons_append, List.isChain_cons]
    exact ⟨fun y _ => by simp [Item.Apart, Item.isText],
      isChain_textItem_append ih.1 ih.2⟩

theorem children_isChain (item : Item) : item.children.IsChain Item.Apart := by
  match item with
  | .node (.element _ _ _ decls _ cs) outer =>
    simp only [Item.children]
    have h := isChain_tails (outer.extend decls) (textRuns cs).2
    exact isChain_textItem_append h.1 h.2
  | .node (.text _) _ | .node (.comment _) _ | .node (.instruction _ _) _
  | .node (.reference _) _ | .text _ | .nothing => simp [Item.children]

theorem ne_empty_of_text_mem_children {item : Item} {s : String}
    (h : Item.text s ∈ item.children) : s ≠ "" := by
  match item, h with
  | .node (.element _ _ _ decls _ cs) outer, h =>
    simp only [Item.children, List.mem_append, List.mem_flatMap, List.mem_cons,
      reduceCtorEq, false_or, mem_textItem] at h
    rcases h with ⟨⟨rfl⟩, hs⟩ | ⟨_, _, ⟨rfl⟩, hs⟩ <;> exact hs

end XmlView.Conversion
