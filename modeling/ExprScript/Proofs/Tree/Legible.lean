import ExprScript.Proofs.Tree.Canonical
import ExprScript.Tree.Text

/-!
# Legible trees

The text of a tree marks neither names nor types.  The symbol `nothing` is written like the leaf
that stands for nothing, and the symbol `block` like the head of a block.  They are told apart by
where they stand: a head comes first after an opening parenthesis, and the leaf that stands for
nothing is only ever the alternative of a conditional, where no other leaf is.

A tree is legible at a place when its leaves and heads stand where they are told apart in this way,
and the text of each leaf is the word of a token that is the leaf again.  The text of a legible tree
tells the tree and where the text ends (`Legible.toldByText`).
-/

namespace ExprScript

open ExprScript.Tree (Place)

/-! ### Characters -/

namespace Text

/-- Whether the character separates the words in the text of a tree. -/
def isDelimiter (c : Char) : Bool :=
  c == ' ' || c == '(' || c == ')'

/-- Whether the characters may stand after the text of a tree in a longer one: there are none, or
they begin with a space or a closing parenthesis. -/
def Follows (rest : List Char) : Prop :=
  ∀ c ∈ rest.head?, c = ' ' ∨ c = ')'

theorem follows_space (rest : List Char) :
  Follows (' ' :: rest)
  := by
  rintro _ ⟨⟩
  exact .inl rfl

theorem follows_close (rest : List Char) :
  Follows (')' :: rest)
  := by
  rintro _ ⟨⟩
  exact .inr rfl

/-- No opening parenthesis follows the text of a tree. -/
theorem not_follows_open (rest : List Char) :
  ¬ Follows ('(' :: rest)
  := by
  intro h
  rcases h '(' rfl with hc | hc <;> cases hc

/-- No character of a word follows the text of a tree. -/
theorem not_follows_cons {c : Char} (h : isDelimiter c = false) (rest : List Char) :
  ¬ Follows (c :: rest)
  := by
  intro hfollows
  rcases hfollows c rfl with rfl | rfl <;> cases h

/-- A word ends where the first delimiter stands. -/
theorem word_append_inj
    {v w rest rest' : List Char} (hv : ∀ c ∈ v, isDelimiter c = false)
    (hw : ∀ c ∈ w, isDelimiter c = false) (hrest : Follows rest) (hrest' : Follows rest')
    (h : v ++ rest = w ++ rest') :
  v = w ∧ rest = rest'
  := by
  induction v generalizing w with
  | nil =>
      cases w with
      | nil => exact ⟨rfl, h⟩
      | cons d w =>
          obtain rfl : rest = d :: (w ++ rest') := h
          exact absurd hrest (not_follows_cons (hw d List.mem_cons_self) _)
  | cons c v ih =>
      cases w with
      | nil =>
          obtain rfl : c :: (v ++ rest) = rest' := h
          exact absurd hrest' (not_follows_cons (hv c List.mem_cons_self) _)
      | cons d w =>
          obtain ⟨rfl, hmore⟩ := List.cons.inj h
          rw [List.forall_mem_cons] at hv hw
          obtain ⟨rfl, hrests⟩ := ih hv.2 hw.2 hmore
          exact ⟨rfl, hrests⟩

/-- No word goes on with an opening parenthesis. -/
theorem word_append_ne_open
    {v rest : List Char} (hv : ∀ c ∈ v, isDelimiter c = false) (hrest : Follows rest)
    (more : List Char) :
  v ++ rest ≠ '(' :: more
  := by
  intro h
  cases v with
  | nil =>
      obtain rfl : rest = '(' :: more := h
      exact not_follows_open more hrest
  | cons c v =>
      obtain ⟨rfl, -⟩ := List.cons.inj h
      cases hv '(' List.mem_cons_self

/-- Characters of a class without delimiters make a word. -/
theorem isDelimiter_of_isRun
    {accepts : Char → Bool}
    (hclass : [' ', '(', ')'].all (fun c => !accepts c) = true)
    {cs : List Char} (h : Token.isRun accepts cs = true) :
  ∀ c ∈ cs, isDelimiter c = false
  := by
  intro c hc
  rw [Token.isRun, Bool.and_eq_true, List.all_eq_true] at h
  rw [Bool.eq_false_iff]
  intro hdelimiter
  have hmem : c ∈ [' ', '(', ')'] := by simpa [isDelimiter, or_assoc] using hdelimiter
  have hno := List.all_eq_true.mp hclass c hmem
  rw [h.2 c hc] at hno
  cases hno

end Text

/-! ### Atoms -/

/-- Whether the text of the atom is a word whose token is the atom again. -/
structure Atom.ReadsBack (a : Atom) : Prop where
  isWord : ∀ c ∈ a.text.toList, Text.isDelimiter c = false
  toAtom : (Token.classify a.text).toAtom = .ok a

/-- Atoms that read back are told apart by their texts. -/
theorem Atom.ReadsBack.eq_of_text {a b : Atom} (ha : a.ReadsBack) (hb : b.ReadsBack)
    (h : a.text = b.text) :
  a = b
  := by
  have hatom := ha.toAtom
  rw [h, hb.toAtom] at hatom
  exact (Except.ok.inj hatom).symm

/-- The kinds have different names. -/
theorem AtomKind.name_injective :
  Function.Injective AtomKind.name
  := by
  intro k l h
  have hall : ∀ k ∈ all, ∀ l ∈ all, k.name = l.name → k = l := by decide +kernel
  apply hall k _ l _ h
  · cases k <;> decide
  · cases l <;> decide

theorem AtomKind.isDelimiter_name (kind : AtomKind) :
  ∀ c ∈ kind.name.toList, Text.isDelimiter c = false
  := by
  have hall : kind.name.toList.all (fun c => !Text.isDelimiter c) = true := by
    cases kind <;> decide +kernel
  intro c hc
  simpa using List.all_eq_true.mp hall c hc

/-- An atom that is no leaf is written by its kind. -/
theorem Atom.text_of_not_isLeaf {a : Atom} (h : a.kind.isLeaf = false) :
  a.text = a.kind.name
  := by
  obtain ⟨kind, datum⟩ := a
  cases kind <;> first | rfl | cases h

/-- The place of the operand with the given index, under a head of the kind. -/
def AtomKind.placeOf (kind : AtomKind) (i : Nat) : Place :=
  match kind, i with
  | .conditional, 2 | .orConditional, 2 => .alternative
  | _, _ => .expression

namespace Tree

/-! ### Legibility -/

/-- The legible trees at each place. -/
inductive Legible : Place → Tree → Prop
  | leaf {a : Atom} :
      a.ReadsBack → Legible .expression (.atom a)
  | nothing :
      Legible .alternative (.atom (.ofKind .nothing))
  | node {place : Place} {head : Atom} {tail : List Tree} :
      head.datum = none → head.kind.isLeaf = false →
      (∀ i t, tail[i]? = some t → Legible (head.kind.placeOf i) t) →
      Legible place (.node head tail)

/-- Under a head other than that of a conditional all operands are expressions. -/
theorem Legible.operation
    {kind : AtomKind} (hleaf : kind.isLeaf = false) (hplace : ∀ i, kind.placeOf i = .expression)
    {tail : List Tree} (h : ∀ t ∈ tail, Legible .expression t) (place : Place) :
  Legible place (.node (.ofKind kind) tail)
  := by
  apply Legible.node rfl hleaf
  intro i t ht
  rw [show (Atom.ofKind kind).kind = kind from rfl, hplace]
  exact h t (List.mem_of_getElem? ht)

theorem Legible.conditional
    {kind : AtomKind} (hkind : kind = .conditional ∨ kind = .orConditional) {c b r : Tree}
    (hc : Legible .expression c) (hb : Legible .expression b) (hr : Legible .alternative r)
    (place : Place) :
  Legible place (.node (.ofKind kind) [c, b, r])
  := by
  obtain ⟨hleaf, hfirst, hsecond, hthird⟩ : kind.isLeaf = false ∧
      kind.placeOf 0 = .expression ∧ kind.placeOf 1 = .expression ∧
        kind.placeOf 2 = .alternative := by
    rcases hkind with rfl | rfl <;> exact ⟨rfl, rfl, rfl, rfl⟩
  apply Legible.node rfl hleaf
  change ∀ i t, [c, b, r][i]? = some t → Legible (kind.placeOf i) t
  rintro (_ | _ | _ | i) t ht
  · cases ht
    rwa [hfirst]
  · cases ht
    rwa [hsecond]
  · cases ht
    rwa [hthird]
  · cases ht

/-! ### Unique readability -/

theorem toList_text_node (head : Atom) (tail : List Tree) :
  (text (.node head tail)).toList = '(' :: (head.text.toList ++ ((textAll tail).toList ++ [')']))
  := by
  simp [text]

theorem toList_textAll_cons (t : Tree) (ts : List Tree) :
  (textAll (t :: ts)).toList = ' ' :: (t.text.toList ++ (textAll ts).toList)
  := by
  simp [textAll]

/-- A space or the closing parenthesis of the node follows a head and each of its operands. -/
theorem follows_textAll (ts : List Tree) (rest : List Char) :
  Text.Follows ((textAll ts).toList ++ ')' :: rest)
  := by
  cases ts with
  | nil => apply Text.follows_close
  | cons t ts =>
      rw [toList_textAll_cons]
      apply Text.follows_space

/-- Whether a longer text that begins with the text of the tree tells the tree, among those legible
at the place, and what follows it. -/
def ToldByText (place : Place) (t : Tree) : Prop :=
  ∀ {u : Tree} {rest rest' : List Char}, Legible place u → Text.Follows rest → Text.Follows rest' →
    t.text.toList ++ rest = u.text.toList ++ rest' → t = u ∧ rest = rest'

/-- Operands that are told by their texts are told by the text of them all. -/
theorem textAll_append_inj
    {ts us : List Tree} {place : Nat → Place}
    (hts : ∀ i t, ts[i]? = some t → ToldByText (place i) t)
    (hus : ∀ i u, us[i]? = some u → Legible (place i) u) {rest rest' : List Char}
    (h : (textAll ts).toList ++ ')' :: rest = (textAll us).toList ++ ')' :: rest') :
  ts = us ∧ rest = rest'
  := by
  induction ts generalizing us place with
  | nil =>
      cases us with
      | nil => exact ⟨rfl, (List.cons.inj h).2⟩
      | cons u us =>
          rw [toList_textAll_cons] at h
          cases (List.cons.inj h).1
  | cons t ts ih =>
      cases us with
      | nil =>
          rw [toList_textAll_cons] at h
          cases (List.cons.inj h).1
      | cons u us =>
          rw [toList_textAll_cons, toList_textAll_cons, List.cons_append, List.cons_append,
            List.append_assoc, List.append_assoc] at h
          obtain ⟨rfl, hmore⟩ := hts 0 t rfl (hus 0 u rfl) (follows_textAll ts rest)
            (follows_textAll us rest') (List.cons.inj h).2
          obtain ⟨rfl, hrests⟩ := @ih us (fun i => place (i + 1)) (fun i => hts (i + 1))
            (fun i => hus (i + 1)) hmore
          exact ⟨rfl, hrests⟩

/-- A legible leaf is written as a word. -/
theorem Legible.isWord_leaf {place : Place} {a : Atom} (h : Legible place (.atom a)) :
  ∀ c ∈ a.text.toList, Text.isDelimiter c = false
  := by
  cases h with
  | leaf ha => exact ha.isWord
  | nothing => exact AtomKind.isDelimiter_name .nothing

/-- Legible leaves at one place are told apart by their words. -/
theorem Legible.leaf_eq_of_text {place : Place} {a b : Atom} (ha : Legible place (.atom a))
    (hb : Legible place (.atom b)) (h : a.text = b.text) :
  a = b
  := by
  cases ha with
  | leaf ha =>
      cases hb with
      | leaf hb => exact ha.eq_of_text hb h
  | nothing =>
      cases hb with
      | nothing => rfl

theorem Legible.toldByText_leaf {place : Place} {a : Atom} (h : Legible place (.atom a)) :
  ToldByText place (.atom a)
  := by
  intro u rest rest' hu hrest hrest' htext
  cases u with
  | atom b =>
      rw [text, text] at htext
      obtain ⟨hword, hrests⟩ :=
        Text.word_append_inj h.isWord_leaf hu.isWord_leaf hrest hrest' htext
      obtain rfl := h.leaf_eq_of_text hu (String.toList_inj.mp hword)
      exact ⟨rfl, hrests⟩
  | node head tail =>
      rw [text, toList_text_node] at htext
      exact absurd htext (Text.word_append_ne_open h.isWord_leaf hrest _)

/-- The text of a legible tree tells the tree, and where in a longer text its own ends. -/
theorem Legible.toldByText {place : Place} {t : Tree} (h : Legible place t) :
  ToldByText place t
  := by
  induction h with
  | leaf ha => exact (Legible.leaf ha).toldByText_leaf
  | nothing => exact Legible.nothing.toldByText_leaf
  | @node place head tail hdatum hleaf _ ih =>
      intro u rest rest' hu hrest hrest' htext
      cases u with
      | atom b =>
          rw [toList_text_node, text] at htext
          exact absurd htext.symm (Text.word_append_ne_open hu.isWord_leaf hrest' _)
      | node head' tail' =>
          obtain _ | _ | ⟨hdatum', hleaf', htail'⟩ := hu
          rw [toList_text_node, toList_text_node, Atom.text_of_not_isLeaf hleaf,
            Atom.text_of_not_isLeaf hleaf'] at htext
          simp only [List.cons_append, List.append_assoc, List.nil_append, List.cons.injEq,
            true_and] at htext
          -- the head ends where the operands or the end of the node begin
          obtain ⟨hname, htails⟩ := Text.word_append_inj (AtomKind.isDelimiter_name _)
            (AtomKind.isDelimiter_name _) (follows_textAll tail rest)
            (follows_textAll tail' rest') htext
          have hkind := AtomKind.name_injective (String.toList_inj.mp hname)
          obtain ⟨kind, datum⟩ := head
          obtain ⟨kind', datum'⟩ := head'
          obtain rfl : kind = kind' := hkind
          obtain rfl : datum = none := hdatum
          obtain rfl : datum' = none := hdatum'
          obtain ⟨rfl, hrests⟩ := textAll_append_inj ih htail' htails
          exact ⟨rfl, hrests⟩

/-- Legible trees at one place are told apart by their texts. -/
theorem Legible.eq_of_text
    {place : Place} {t u : Tree} (ht : Legible place t) (hu : Legible place u)
    (h : t.text = u.text) :
  t = u
  := by
  have hnothing : Text.Follows [] := by rintro _ ⟨⟩
  exact (ht.toldByText hu hnothing hnothing (by rw [h])).1

theorem text_of_text? {t : Tree} {limit : Nat} {written : String}
    (h : t.text? limit = some written) :
  t.text = written
  := Option.some.inj (Option.ite_none_right_eq_some.mp h).2

end Tree

end ExprScript
