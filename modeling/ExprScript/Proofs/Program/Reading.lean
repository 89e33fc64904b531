import ExprScript.Program
import ExprScript.Proofs.Grammar.Derivation
import ExprScript.Proofs.Grammar.Failure
import ExprScript.Proofs.Grammar.Occurrence
import Mathlib.Data.List.Basic

/-!
# Reading a program

A program is read exactly when its source has lexemes whose tokens are read as a block to the
end (`readsAs_iff`).  The events reported before have no part in it.  Otherwise the source
has an invalid character, or reading stops with an error of syntax (`read_error_isSyntax`).
Everything in the tree of a program is made by the rules of the parser (`ReadsAs.everywhere`).
-/

open ExprScript.Parser

namespace ExprScript.Program

/-- Reading a source whose lexemes are known is parsing their tokens. -/
theorem run_read
    (limit : Nat) {source : String} {texts : List String}
    (hsource : Lexeme.split source = .ok texts) (log : Array Event) :
  (read limit source).run log =
    match (parseProgram limit).run
      ⟨Token.ofLexemes texts, 0, log.push (.tokenized texts.length)⟩ with
    | .ok tree s => .ok tree s.log
    | .error cause s => .error (.parse cause) s.log
  := by
  have hlexemes : (lexemes source).run log = .ok texts (log.push (.tokenized texts.length)) := by
    rw [lexemes, hsource]
    rfl
  unfold read
  apply Eq.trans (run_bind_of_ok hlexemes)
  rfl

/-- Reading a source with an invalid character reports it. -/
theorem run_read_of_error
    (limit : Nat) {source : String} {cause : Source.InvalidCharacter}
    (hsource : Lexeme.split source = .error cause) (log : Array Event) :
  (read limit source).run log = .error (.character cause) log
  := by
  have hlexemes : (lexemes source).run log = .error (.character cause) log := by
    rw [lexemes, hsource]
    rfl
  apply run_bind_of_error hlexemes

/-- Tokens of lexemes that go on with the end of the input are at their end. -/
theorem eq_nil_of_upcoming
    {texts : List String} {used rest : List Token}
    (htokens : Token.ofLexemes texts = used ++ rest) (h : (upcoming rest).kind = .finish) :
  rest = []
  := by
  cases rest with
  | nil => rfl
  | cons token rest =>
      have hmem : token ∈ Token.ofLexemes texts := by simp [htokens]
      apply absurd h (Token.kind_ne_finish_of_mem_ofLexemes hmem)

/-- A source is read as a tree exactly when it has lexemes and their tokens are read as a
block to the end. -/
theorem read_eq_ok_iff (limit : Nat) (source : String) (tree : Tree) (log : Array Event) :
  (∃ log', (read limit source).run log = .ok tree log') ↔
    ∃ texts trees, Lexeme.split source = .ok texts ∧
      BlockReading (Reads limit) (Token.ofLexemes texts) trees [] ∧
      tree = .node (.ofKind .block) trees
  := by
  cases hsource : Lexeme.split source with
  | error cause =>
      simp [run_read_of_error limit hsource log]
  | ok texts =>
      rw [run_read limit hsource log]
      constructor
      · rintro ⟨log', h⟩
        split at h
        · next tree' s hrun =>
            cases h
            obtain ⟨⟨trees, hblock, hfinish, rfl⟩, -⟩ := (parseProgram_realizes limit).sound hrun
            obtain ⟨used, hused, -⟩ := hblock.derives reads_derives
            have hnil : s.rest = [] := eq_nil_of_upcoming hused hfinish
            rw [hnil] at hblock
            exact ⟨texts, trees, rfl, hblock, rfl⟩
        · cases h
      · rintro ⟨_, trees, ⟨⟩, hblock, rfl⟩
        obtain ⟨log', hrun⟩ := (parseProgram_realizes limit).complete
          ⟨trees, hblock, rfl, rfl⟩ 0 (log.push (.tokenized texts.length))
        use log'
        rw [hrun]

/-- Whether a source is read as a tree, whatever has been reported before. -/
def ReadsAs (limit : Nat) (source : String) (tree : Tree) : Prop :=
  ∀ log, ∃ log', (read limit source).run log = .ok tree log'

theorem readsAs_iff (limit : Nat) (source : String) (tree : Tree) :
  ReadsAs limit source tree ↔
    ∃ texts trees, Lexeme.split source = .ok texts ∧
      BlockReading (Reads limit) (Token.ofLexemes texts) trees [] ∧
      tree = .node (.ofKind .block) trees
  := by
  constructor
  · intro h
    apply (read_eq_ok_iff limit source tree #[]).mp (h #[])
  · intro h log
    apply (read_eq_ok_iff limit source tree log).mpr h

/-- A source that is read with some events before it is read whatever has been reported. -/
theorem readsAs_of_read
    {limit : Nat} {source : String} {tree : Tree} {log log' : Array Event}
    (h : (read limit source).run log = .ok tree log') :
  ReadsAs limit source tree
  := by
  apply (readsAs_iff limit source tree).mpr
  apply (read_eq_ok_iff limit source tree log).mp ⟨log', h⟩

/-- What holds of the trees that the rules make holds everywhere in a tree as which a source is
read. -/
theorem ReadsAs.everywhere
    {P : Tree → Prop} (hmade : ∀ {depth t}, MadeByRule (Reads depth) t → P t) {limit : Nat}
    {source : String} {tree : Tree} (h : ReadsAs limit source tree) :
  tree.Everywhere P
  := by
  obtain ⟨texts, trees, -, hblock, rfl⟩ := (readsAs_iff limit source tree).mp h
  have hprogram : MadeByRule (Reads limit) (.node (.ofKind .block) trees) := .block
  rw [Tree.everywhere_node]
  constructor
  · apply hmade hprogram
  · apply hblock.everywhere (reads_everywhere hmade)

/-- Reading a source with lexemes stops with errors of syntax only. -/
theorem read_error_isSyntax
    {limit : Nat} {source : String} {texts : List String}
    (hsource : Lexeme.split source = .ok texts) {log log' : Array Event} {e : Error}
    (h : (read limit source).run log = .error e log') :
  ∃ cause, e = .parse cause ∧ cause.IsSyntax
  := by
  have htyped : Stream.IsTyped
      ⟨Token.ofLexemes texts, 0, log.push (.tokenized texts.length)⟩ :=
    fun token htoken => Token.isTyped_of_mem_ofLexemes htoken
  rw [run_read limit hsource] at h
  split at h
  · cases h
  · next cause s hrun =>
      cases h
      obtain ⟨-, hcause⟩ := (parseProgram_respects limit).of_error htyped hrun
      exact ⟨cause, rfl, hcause⟩

/-! ### Running -/

/-- Running a source that is read is evaluating its tree. -/
theorem run_of_read
    {limit : Nat} {source : String} {m : Machine} {tree : Tree} {log : Array Event}
    (h : (read limit source).run m.log = .ok tree log) :
  (run limit source).run m = (evaluate limit tree).run { m with log := log }
  := by
  have hreading : (ofReading (read limit source)).run m = .ok tree { m with log := log } := by
    rw [EStateM.run, ofReading, h]
  apply run_bind_of_ok hreading

/-- Running a source that is not read stops with the error of reading it. -/
theorem run_of_read_error
    {limit : Nat} {source : String} {m : Machine} {e : Error} {log : Array Event}
    (h : (read limit source).run m.log = .error e log) :
  (run limit source).run m = .error e { m with log := log }
  := by
  have hreading : (ofReading (read limit source)).run m = .error e { m with log := log } := by
    rw [EStateM.run, ofReading, h]
  apply run_bind_of_error hreading

end ExprScript.Program
