import ExprScript.Proofs.Grammar.Legible
import ExprScript.Proofs.Program.Reading

/-!
# Programs are told apart by the texts of their trees

A source is read as a legible tree if all its numbers are finite (`ReadsAs.legible`).  So sources
whose trees are written alike have the same tree (`trees_written_alike_eq`).
-/

open ExprScript.Parser

namespace ExprScript.Program

/-- Whether every run of digits among the lexemes of a source denotes a finite number. -/
def LiteralsFinite (source : String) : Prop :=
  ∀ texts, Lexeme.split source = .ok texts → ∀ text ∈ texts, Token.DenotesFinite text

/-- The tree of a source with finite numbers is legible. -/
theorem ReadsAs.legible
    {limit : Nat} {source : String} {tree : Tree} (h : ReadsAs limit source tree)
    (hfinite : LiteralsFinite source) :
  tree.Legible .expression
  := by
  obtain ⟨texts, trees, hsource, hblock, rfl⟩ := (readsAs_iff limit source tree).mp h
  have htokens := Token.readsBack_of_mem_ofLexemes (hfinite texts hsource)
  exact (hblock.legible reads_legible htokens).1

/-- Let two sources whose numbers are all finite be read as the trees `s` and `t`, each within some
limit.  If both trees are low enough to be written, and are written alike, then they are equal. -/
theorem trees_written_alike_eq
    {limit limit' : Nat} {source source' : String} {s t : Tree}
    (hs : ReadsAs limit source s) (ht : ReadsAs limit' source' t)
    (hfinite : LiteralsFinite source) (hfinite' : LiteralsFinite source')
    {height height' : Nat} {written : String}
    (hswritten : s.text? height = some written) (htwritten : t.text? height' = some written) :
  s = t
  := by
  apply (hs.legible hfinite).eq_of_text (ht.legible hfinite')
  rw [Tree.text_of_text? hswritten, Tree.text_of_text? htwritten]

/-- The sources `if nothing then 01 end` and `( if + nothing then ( 1 ) end )` have the same tree.
In its text the condition, which is a symbol, and the absent alternative look alike. -/
theorem trees_written_alike_eq_nothing :
  ∃ s t, ReadsAs 6 "if nothing then 01 end" s ∧
    ReadsAs 7 "( if + nothing then ( 1 ) end )" t ∧
    s.text? 4 = some "(block (if nothing (block 1) nothing))" ∧
    t.text? 5 = some "(block (if nothing (block 1) nothing))" ∧ s = t
  := by
  obtain ⟨hplain, hspelled⟩ :
      Lexeme.split "if nothing then 01 end" = .ok ["if", "nothing", "then", "01", "end"] ∧
        Lexeme.split "( if + nothing then ( 1 ) end )" =
          .ok ["(", "if", "+", "nothing", "then", "(", "1", ")", "end", ")"] :=
    ⟨by cbv, by cbv⟩
  obtain ⟨s, hs, hswritten⟩ : ∃ s, ReadsAs 6 "if nothing then 01 end" s ∧
      s.text? 4 = some "(block (if nothing (block 1) nothing))" :=
    ⟨_, readsAs_of_read ((run_read 6 hplain #[]).trans rfl), by decide +kernel⟩
  obtain ⟨t, ht, htwritten⟩ : ∃ t, ReadsAs 7 "( if + nothing then ( 1 ) end )" t ∧
      t.text? 5 = some "(block (if nothing (block 1) nothing))" :=
    ⟨_, readsAs_of_read ((run_read 7 hspelled #[]).trans rfl), by decide +kernel⟩
  have hsfinite : LiteralsFinite "if nothing then 01 end" := by
    intro texts h
    rw [hplain] at h
    cases h
    decide +kernel
  have htfinite : LiteralsFinite "( if + nothing then ( 1 ) end )" := by
    intro texts h
    rw [hspelled] at h
    cases h
    decide +kernel
  exact ⟨s, t, hs, ht, hswritten, htwritten,
    trees_written_alike_eq hs ht hsfinite htfinite hswritten htwritten⟩

end ExprScript.Program
