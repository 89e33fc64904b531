import ExprScript.Proofs.Grammar.Completeness
import ExprScript.Proofs.Grammar.Respelling
import ExprScript.Proofs.Program.Reading

/-!
# Which programs are accepted

A source with lexemes is read exactly when its tokens are derived from the grammar and nest no
deeper than the limit (`read_accepts_exactly_grammar`).  Otherwise reading stops with an error
of syntax.

How tightly operators bind decides which tree is read but not whether there is one: exchanging
operators that stand after operands takes an accepted source to an accepted source, or to one
that nests too deeply.
-/

open ExprScript.Parser

namespace ExprScript.Program

/-- Whether a source is read as a tree. -/
def Accepts (limit : Nat) (source : String) : Prop :=
  ∃ tree, ReadsAs limit source tree

/-- Whether reading a source stops because it nests too deeply. -/
def NestsTooDeeply (limit : Nat) (source : String) : Prop :=
  ∀ log, ∃ log', (read limit source).run log = .error (.parse .tooDeep) log'

/-- With a smaller limit a program is read in the same way, or nests too deeply. -/
theorem read_approximates {limit larger : Nat} (h : limit ≤ larger) (source : String) :
  Approximates (.parse .tooDeep) (read limit source) (read larger source)
  := by
  intro log
  cases hsource : Lexeme.split source with
  | error cause =>
      left
      rw [run_read_of_error limit hsource, run_read_of_error larger hsource]
  | ok texts =>
      rw [run_read limit hsource, run_read larger hsource]
      rcases parseProgram_approximates h
        ⟨Token.ofLexemes texts, 0, log.push (.tokenized texts.length)⟩ with heq | ⟨s, hdeep⟩
      · left
        rw [heq]
      · right
        rw [hdeep]
        exact ⟨s.log, rfl⟩

/-- What is read with a limit is read in the same way with a larger one. -/
theorem read_ok_mono
    {limit larger : Nat} (hlimit : limit ≤ larger) {source : String} {log log' : Array Event}
    {tree : Tree} (h : (read limit source).run log = .ok tree log') :
  (read larger source).run log = .ok tree log'
  := by
  rcases read_approximates hlimit source log with heq | ⟨s, hdeep⟩
  · rwa [← heq]
  · rw [h] at hdeep
    cases hdeep

section Lexemes

variable {source : String} {texts : List String} (hsource : Lexeme.split source = .ok texts)
include hsource

/-- The tokens of an accepted source are derived from the grammar. -/
theorem derives_of_accepts {limit : Nat} (h : Accepts limit source) :
  Derives .statements (Token.ofLexemes texts)
  := by
  obtain ⟨tree, hread⟩ := h
  obtain ⟨texts', trees, hsource', hblock, -⟩ := (readsAs_iff limit source tree).mp hread
  obtain rfl : texts = texts' := by
    rw [hsource] at hsource'
    apply Except.ok.inj hsource'
  obtain ⟨used, hused, hderives⟩ := hblock.derives reads_derives
  rwa [hused, List.append_nil]

/-- A source whose tokens are derived from the grammar is accepted with a limit that is large
enough. -/
theorem exists_accepts_of_derives (h : Derives .statements (Token.ofLexemes texts)) :
  ∃ limit, Accepts limit source
  := by
  have htyped : AllTyped (Token.ofLexemes texts ++ []) := by
    rw [List.append_nil]
    intro token htoken
    apply Token.isTyped_of_mem_ofLexemes htoken
  obtain ⟨limit, trees, hblock⟩ := h.readsBlock htyped rfl
  rw [List.append_nil] at hblock
  use limit, .node (.ofKind .block) trees
  apply (readsAs_iff limit source _).mpr
  exact ⟨texts, trees, hsource, hblock, rfl⟩

end Lexemes

/-- A source that is read with one limit is read as the same tree with any limit, or nests too
deeply. -/
theorem ReadsAs.or_nestsTooDeeply
    {limit : Nat} {source : String} {tree : Tree} (h : ReadsAs limit source tree) (limit' : Nat) :
  ReadsAs limit' source tree ∨ NestsTooDeeply limit' source
  := by
  by_cases hreads : ReadsAs limit' source tree
  · exact .inl hreads
  right
  intro log
  obtain ⟨log', hrun⟩ := h log
  rcases read_approximates (Nat.le_max_right limit limit') source log with heq | hdeep
  · have hlarger := read_ok_mono (Nat.le_max_left limit limit') hrun
    apply absurd (readsAs_of_read (heq.trans hlarger)) hreads
  · exact hdeep

/-- For every source with lexemes, let `ts` be its tokens.

* If the source is read as a tree, then `ts` is derived from the grammar.
* If `ts` is derived, then the source is read as a tree or nests too deeply, and with a limit
  that is large enough it is read.
* If `ts` is not derived, then reading stops with an error of syntax.
* If `ts` comes from the tokens of an accepted source by exchanging operators for operators,
  then the source is accepted or nests too deeply. -/
theorem read_accepts_exactly_grammar
    {source : String} {texts : List String} (hsource : Lexeme.split source = .ok texts) :
  (∀ limit log tree log', (read limit source).run log = .ok tree log' →
      Derives .statements (Token.ofLexemes texts)) ∧
    (Derives .statements (Token.ofLexemes texts) →
      (∀ limit, Accepts limit source ∨ NestsTooDeeply limit source) ∧
        ∃ enough, ∀ limit, enough ≤ limit → Accepts limit source) ∧
    (¬ Derives .statements (Token.ofLexemes texts) →
      ∀ limit log, ∃ cause log',
        (read limit source).run log = .error (.parse cause) log' ∧ cause.IsSyntax) ∧
    (∀ limit source' texts', Lexeme.split source' = .ok texts' → Accepts limit source' →
      Respelled false (Token.ofLexemes texts') (Token.ofLexemes texts) →
      ∀ limit', Accepts limit' source ∨ NestsTooDeeply limit' source)
  := by
  have haccepted : Derives .statements (Token.ofLexemes texts) →
      ∀ limit, Accepts limit source ∨ NestsTooDeeply limit source := by
    intro hderives
    obtain ⟨limit, tree, hreads⟩ := exists_accepts_of_derives hsource hderives
    intro limit'
    rcases hreads.or_nestsTooDeeply limit' with hreads' | hdeep
    · exact .inl ⟨tree, hreads'⟩
    · exact .inr hdeep
  refine ⟨?_, fun hderives => ⟨haccepted hderives, ?_⟩, ?_, ?_⟩
  · intro limit log tree log' hread
    apply derives_of_accepts hsource ⟨tree, readsAs_of_read hread⟩
  · obtain ⟨enough, tree, hread⟩ := exists_accepts_of_derives hsource hderives
    use enough
    intro limit hlimit
    obtain ⟨log', hrun⟩ := hread #[]
    exact ⟨tree, readsAs_of_read (read_ok_mono hlimit hrun)⟩
  · intro hderives limit log
    cases hrun : (read limit source).run log with
    | ok tree log' =>
        apply absurd (derives_of_accepts hsource ⟨tree, readsAs_of_read hrun⟩) hderives
    | error e log' =>
        obtain ⟨cause, rfl, hcause⟩ := read_error_isSyntax hsource hrun
        exact ⟨cause, log', rfl, hcause⟩
  · intro limit source' texts' hsource' haccepts hrespelled
    apply haccepted
    apply (derives_of_accepts hsource' haccepts).respell hrespelled

/-- The tokens of `( x == 1 ) - y` are derived from the grammar, so it is accepted with a limit
that is large enough. -/
theorem read_accepts_difference_of_parentheses :
  Lexeme.split "( x == 1 ) - y" = .ok ["(", "x", "==", "1", ")", "-", "y"] ∧
    ∃ enough, ∀ limit, enough ≤ limit → Accepts limit "( x == 1 ) - y"
  := by
  have hsource : Lexeme.split "( x == 1 ) - y" = .ok ["(", "x", "==", "1", ")", "-", "y"] := by
    cbv
  have hequation : Derives .expression (Token.ofLexemes ["x", "==", "1"]) :=
    .joined (u := [Token.classify "x"]) (.unsigned (.literal (.inr (.inl rfl)))) rfl
      (.ofPrimary (.literal (.inl rfl)))
  have hdifference : Derives .expression (Token.ofLexemes ["(", "x", "==", "1", ")", "-", "y"]) :=
    .joined (u := Token.ofLexemes ["(", "x", "==", "1", ")"])
      (.unsigned (.parentheses rfl hequation rfl)) rfl
      (.ofPrimary (.literal (.inr (.inl rfl))))
  refine ⟨hsource, ((read_accepts_exactly_grammar hsource).2.1 ?_).2⟩
  rw [← List.append_nil (Token.ofLexemes _)]
  apply Derives.more (.statement hdifference _) .none
  rintro (h | h) <;> cases h

end ExprScript.Program
