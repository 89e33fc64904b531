import ExprScript.Proofs.Grammar.Progress
import Mathlib.Data.List.GetD

/-!
# Parsing from a cursor

The parser may start at any index of a list of tokens, and it leaves the cursor where it has read
to.  If expressions may nest deeper than there are tokens left, then it ends in one and the same
outcome, and it moves the cursor on as it does so (`Cursor.parse_progress`).

What is read as an expression depends on what follows it only by whether that binds tighter
(`Cursor.parse_before_any`).
-/

open ExprScript.Parser

namespace ExprScript.Cursor

/-- Whether reading from the cursor has the given outcome, with any depth beyond the number of
tokens left. -/
def EndsIn {α : Type} (c : Cursor) (reader : Nat → ParseM α)
    (outcome : Except ParseError α × Cursor) : Prop :=
  ∀ depth, c.remaining.length < depth → c.parse (reader depth) = outcome

/-! ### Where the cursor is left -/

section Parse

variable {α : Type} {c : Cursor}

theorem parse_of_ok {reader : ParseM α} {a : α} {s : Stream}
    (h : reader.run (c.stream #[]) = .ok a s) :
  c.parse reader = (.ok a, c.resume s)
  := by
  rw [parse, h]

theorem parse_of_error {reader : ParseM α} {e : ParseError} {s : Stream}
    (h : reader.run (c.stream #[]) = .error e s) :
  c.parse reader = (.error e, c.resume s)
  := by
  rw [parse, h]

theorem parse_congr {reader reader' : ParseM α}
    (h : reader.run (c.stream #[]) = reader'.run (c.stream #[])) :
  c.parse reader = c.parse reader'
  := by
  rw [parse, parse, h]

/-- The cursor stands before the tokens that are left. -/
theorem head_resume
    {s : Stream} (hrest : s.rest <:+ c.tokens) (hoverrun : s.overrun = 0) :
  (c.resume s).head = upcoming s.rest
  := by
  obtain ⟨front, hfront⟩ := hrest
  rw [head, resume, hoverrun, ← hfront, List.length_append, Nat.add_sub_cancel, Nat.add_zero,
    List.getD_append_right _ _ _ _ (Nat.le_refl _), Nat.sub_self]
  cases s.rest <;> rfl

/-- A reader that with less depth does the same or lacks depth, and lacks no depth beyond the number
of tokens, has one outcome. -/
theorem endsIn_parse
    {reader : Nat → ParseM α}
    (happroximates : ∀ {depth deeper}, depth ≤ deeper →
      Approximates .tooDeep (reader depth) (reader deeper))
    (hproceeds : ∀ depth, Proceeds depth (reader depth)) (c : Cursor) :
  c.EndsIn reader (c.parse (reader (c.remaining.length + 1)))
  := by
  intro depth hdepth
  apply parse_congr
  rcases happroximates hdepth (c.stream #[]) with heq | ⟨s, hdeep⟩
  · exact heq.symm
  · have herror := (hproceeds _ (c.stream #[]) (Nat.lt_succ_self _)).of_error hdeep
    exact absurd rfl herror.2.2

end Parse

/-! ### Progress -/

/-- A block is closed by the end of the input, `end`, `else` or `elseif`. -/
theorem mem_of_closesBlock {kind : TokenKind} (h : closesBlock kind = true) :
  kind ∈ [TokenKind.finish, .endWord, .elseWord, .elseifWord]
  := by
  cases kind <;> first | decide | cases h

section Progress

variable {c : Cursor} (htyped : ∀ token ∈ c.tokens, token.IsTyped)
  (hindex : c.index ≤ c.tokens.length)

include htyped in
theorem stream_isTyped :
  Stream.IsTyped (c.stream #[])
  := fun token htoken => htyped token (List.mem_of_mem_drop htoken)

include hindex in
/-- Before the end of the input is read, the tokens left tell the index. -/
theorem length_stream :
  (c.stream #[]).overrun = 0 ∧ (c.stream #[]).rest.length + c.index = c.tokens.length
  := by
  constructor
  · apply Nat.sub_eq_zero_of_le hindex
  · rw [stream, remaining, List.length_drop, Nat.sub_add_cancel hindex]

include htyped hindex

/-- Reading an expression ends.  It moves the cursor on, to the number of tokens at most and to one
beyond it if it stops with an error. -/
theorem parseAt_outcome (bound : Int) :
  ∃ outcome index, c.EndsIn (fun depth => parseAt depth bound) (outcome, ⟨c.tokens, index⟩) ∧
    match outcome with
    | .ok _ => 0 ≤ bound ∧ c.index < index ∧ index ≤ c.tokens.length
    | .error e => e.IsReport ∧ e ≠ .tooDeep ∧ c.index < index ∧ index ≤ c.tokens.length + 1
  := by
  have hends := endsIn_parse (fun h => parseAt_approximates h bound)
    (fun depth => parseAt_proceeds depth bound) c
  have hproceeds := parseAt_proceeds (c.remaining.length + 1) bound (c.stream #[])
    (Nat.lt_succ_self _)
  obtain ⟨hoverrun, hlength⟩ := length_stream hindex
  cases hrun : (parseAt (c.remaining.length + 1) bound).run (c.stream #[]) with
  | ok tree s =>
      have hoverrun' := (hproceeds.of_ok hrun).2
      have hlength' := length_lt_of_parseAt hrun
      rw [parse_of_ok hrun] at hends
      refine ⟨_, _, hends, (parseAt_ok hrun).1, ?_, ?_⟩
      · omega
      · omega
  | error e s =>
      obtain ⟨-, hoverrun', hdeep⟩ := hproceeds.of_error hrun
      have hadvances := parseAt_advances hrun
      have hreport := ((parseAt_reports _ bound).of_error (stream_isTyped htyped) hrun).2
      rw [parse_of_error hrun] at hends
      refine ⟨_, _, hends, hreport, hdeep, ?_, ?_⟩
      · omega
      · omega

/-- Reading a block ends.  It leaves the cursor before the end of the input or a word that closes
the block, unless it stops with an error. -/
theorem parseBlock_outcome :
  ∃ outcome index, c.EndsIn parseBlock (outcome, ⟨c.tokens, index⟩) ∧
    match outcome with
    | .ok _ => c.index ≤ index ∧ index ≤ c.tokens.length ∧
        (Cursor.mk c.tokens index).head.kind ∈ [.finish, .endWord, .elseWord, .elseifWord]
    | .error e => e.IsReport ∧ e ≠ .tooDeep ∧ c.index ≤ index ∧ index ≤ c.tokens.length + 1
  := by
  have happroximates : ∀ {depth deeper}, depth ≤ deeper →
      Approximates .tooDeep (parseBlock depth) (parseBlock deeper) :=
    fun h => block_approximates (parseAt_approximates h)
  have hends := endsIn_parse happroximates parseBlock_proceeds c
  have hproceeds := parseBlock_proceeds (c.remaining.length + 1) (c.stream #[]) (Nat.lt_succ_self _)
  obtain ⟨hoverrun, hlength⟩ := length_stream hindex
  cases hrun : (parseBlock (c.remaining.length + 1)).run (c.stream #[]) with
  | ok tree s =>
      obtain ⟨hrest, hoverrun'⟩ := hproceeds.of_ok hrun
      have hlength' := hrest.length_le
      obtain ⟨⟨trees, hblock, -⟩, -⟩ := (parseBlock_realizes _).sound hrun
      have hhead : (c.resume s).head = upcoming s.rest :=
        head_resume (hrest.trans (List.drop_suffix _ _)) (hoverrun'.trans hoverrun)
      rw [parse_of_ok hrun] at hends
      refine ⟨_, _, hends, ?_, ?_, ?_⟩
      · omega
      · omega
      · exact mem_of_closesBlock (hhead ▸ hblock.closesBlock)
  | error e s =>
      obtain ⟨hrest, hoverrun', hdeep⟩ := hproceeds.of_error hrun
      have hlength' := hrest.length_le
      have hsyntax := ((block_respects fun _ => parseAt_respects _).of_error
        (stream_isTyped htyped) hrun).2
      rw [parse_of_error hrun] at hends
      refine ⟨_, _, hends, hsyntax.isReport, hdeep, ?_, ?_⟩
      · omega
      · omega

end Progress

/-- Let a cursor stand at an index up to the number of tokens of any lexemes, and let expressions
nest as deep as they may.

* Reading an expression ends.  If it gives a tree, then the bound is not negative, and the cursor has
  moved on to an index up to the number of tokens.  If it stops with an error, then the error is a
  report, and the cursor has moved on to an index up to one beyond the number of tokens.
* Reading a block ends.  If it gives a tree, then the cursor has not moved back, and it stands before
  the end of the input, `end`, `else` or `elseif`.  If it stops with an error, then the error is a
  report, and the index is up to one beyond the number of tokens.
* The loops of both end: they do the same with any fuel beyond the number of tokens left. -/
theorem parse_progress
    {lexemes : List String} {index : Nat} (hindex : index ≤ (Token.ofLexemes lexemes).length) :
  let tokens := Token.ofLexemes lexemes
  let c : Cursor := ⟨tokens, index⟩
  (∀ bound, ∃ outcome index', c.EndsIn (fun depth => parseAt depth bound)
      (outcome, ⟨tokens, index'⟩) ∧
    match outcome with
    | .ok _ => 0 ≤ bound ∧ index < index' ∧ index' ≤ tokens.length
    | .error e => e.IsReport ∧ e ≠ .tooDeep ∧ index < index' ∧ index' ≤ tokens.length + 1) ∧
  (∃ outcome index', c.EndsIn parseBlock (outcome, ⟨tokens, index'⟩) ∧
    match outcome with
    | .ok _ => index ≤ index' ∧ index' ≤ tokens.length ∧
        (Cursor.mk tokens index').head.kind ∈ [.finish, .endWord, .elseWord, .elseifWord]
    | .error e => e.IsReport ∧ e ≠ .tooDeep ∧ index ≤ index' ∧ index' ≤ tokens.length + 1) ∧
  ∀ depth fuel fuel', c.remaining.length < fuel → c.remaining.length < fuel' →
    (∀ bound left, c.parse (continuation (parseAt depth) bound fuel left) =
      c.parse (continuation (parseAt depth) bound fuel' left)) ∧
    ∀ done, c.parse (expressions (parseAt depth) fuel done) =
      c.parse (expressions (parseAt depth) fuel' done)
  := by
  intro tokens c
  have htyped : ∀ token ∈ c.tokens, token.IsTyped := fun _ => Token.isTyped_of_mem_ofLexemes
  refine ⟨parseAt_outcome htyped hindex, parseBlock_outcome htyped hindex, ?_⟩
  intro depth fuel fuel' hfuel hfuel'
  constructor
  · intro bound left
    apply parse_congr (continuation_run_eq depth bound hfuel hfuel' left)
  · intro done
    apply parse_congr (expressions_run_eq depth hfuel hfuel' done)

/-- The operand of a sign that is the last token is looked for at the end of the input, which leaves
the cursor one beyond the number of tokens. -/
theorem parse_progress_past_end :
  1 ≤ (Token.ofLexemes ["x", "\n", "-"]).length ∧
    (Cursor.mk (Token.ofLexemes ["x", "\n", "-"]) 1).EndsIn (fun depth => parseAt depth 0)
      (.error .unexpectedEnd, ⟨Token.ofLexemes ["x", "\n", "-"], 3⟩)
  := by
  have hindex : 1 ≤ (Token.ofLexemes ["x", "\n", "-"]).length := by decide +kernel
  have hparse : (Cursor.mk (Token.ofLexemes ["x", "\n", "-"]) 1).parse (parseAt 2 0) =
      (.error .unexpectedEnd, ⟨Token.ofLexemes ["x", "\n", "-"], 3⟩) := by
    rfl
  obtain ⟨outcome, index, hends, -⟩ := (parse_progress hindex).1 0
  rw [← hends 2 (by decide +kernel), hparse] at hends
  exact ⟨hindex, hends⟩

/-! ### What follows an expression -/

theorem stream_ofTokens (tokens : List Token) :
  (ofTokens tokens).stream #[] = ⟨tokens, 0, #[]⟩
  := by
  simp [ofTokens, stream, remaining]

/-- A cursor at the first of the tokens reads `used` as an expression exactly if `rest` is what is
left of the tokens. -/
theorem parse_ofTokens_eq_ok_iff
    {used rest : List Token} {depth : Nat} {bound : Int} {tree : Tree} :
  (ofTokens (used ++ rest)).parse (parseAt depth bound) = (.ok tree, ⟨used ++ rest, used.length⟩) ↔
    Reads depth bound (used ++ rest) tree rest
  := by
  rw [parse, stream_ofTokens]
  constructor
  · intro h
    cases hrun : (parseAt depth bound).run ⟨used ++ rest, 0, #[]⟩ with
    | error e s =>
        rw [hrun] at h
        cases h
    | ok tree' s =>
        obtain ⟨hreads, hoverrun⟩ : Reads depth bound (used ++ rest) tree' s.rest ∧ s.overrun = 0 :=
          (parseAt_realizes depth bound).sound hrun
        rw [hrun] at h
        obtain ⟨hresult, hcursor⟩ := Prod.mk.inj h
        obtain rfl := Except.ok.inj hresult
        -- the index tells how many tokens are left
        have hindex : (used ++ rest).length - s.rest.length + s.overrun = used.length :=
          (Cursor.mk.inj hcursor).2
        obtain ⟨used', -, htokens, -⟩ := reads_exchanges depth hreads
        rw [htokens, hoverrun, List.length_append, Nat.add_sub_cancel, Nat.add_zero] at hindex
        obtain ⟨-, rfl⟩ := List.append_inj htokens hindex.symm
        exact hreads
  · intro hreads
    obtain ⟨log, hrun⟩ := (parseAt_realizes depth bound).complete hreads 0 #[]
    rw [hrun]
    simp [ofTokens, resume]

/-- If a cursor at the first of the tokens of some lexemes, none of them a newline, reads exactly
these as a tree, then it reads exactly these as the same tree before any other lexemes, provided
that the others do not begin with an operator. -/
theorem parse_before_any
    {lexemes rest : List String} (hlexemes : "\n" ∉ lexemes) {depth : Nat} {bound : Int}
    {tree : Tree}
    (h : (ofTokens (Token.ofLexemes (lexemes ++ rest))).parse (parseAt depth bound) =
      (.ok tree, ⟨Token.ofLexemes (lexemes ++ rest), lexemes.length⟩))
    {rest' : List String}
    (hrest' : ∀ token ∈ (Token.ofLexemes rest').head?, token.precedence = 0) :
  (ofTokens (Token.ofLexemes (lexemes ++ rest'))).parse (parseAt depth bound) =
    (.ok tree, ⟨Token.ofLexemes (lexemes ++ rest'), lexemes.length⟩)
  := by
  have hlength : lexemes.length = (Token.ofLexemes lexemes).length := by
    rw [Token.ofLexemes_of_newline_notMem hlexemes, List.length_map]
  have hupcoming : (upcoming (Token.ofLexemes rest')).precedence = 0 := by
    cases hhead : Token.ofLexemes rest' with
    | nil => rfl
    | cons token _ => exact hrest' token (by rw [hhead, List.head?_cons, Option.mem_some])
  rw [hlength, Token.ofLexemes_append, parse_ofTokens_eq_ok_iff] at h ⊢
  obtain ⟨used, -, hused, hbefore⟩ := reads_exchanges depth h
  obtain rfl := List.append_cancel_right hused
  exact hbefore _ (noTighter_of_precedence hupcoming _)

/-- A sign in the exponent is read up to a sum, and hence also before a word or a newline and a
name. -/
theorem parse_before_any_signed :
  let lexemes := ["x", "^", "-", "y"]
  let tree : Tree := .node (.ofKind .power) [.atom ⟨.symbol, some (.text "x")⟩,
    .node (.ofKind .negate) [.atom ⟨.symbol, some (.text "y")⟩]]
  "\n" ∉ lexemes ∧
    (ofTokens (Token.ofLexemes (lexemes ++ ["+", "z"]))).parse (parseAt 3 20) =
      (.ok tree, ⟨Token.ofLexemes (lexemes ++ ["+", "z"]), 4⟩) ∧
    ∀ rest' ∈ [["then", "z", "end"], ["\n", "z"], []],
      (ofTokens (Token.ofLexemes (lexemes ++ rest'))).parse (parseAt 3 20) =
        (.ok tree, ⟨Token.ofLexemes (lexemes ++ rest'), 4⟩)
  := by
  intro lexemes tree
  have hlexemes : "\n" ∉ lexemes := by decide
  have hparse : (ofTokens (Token.ofLexemes (lexemes ++ ["+", "z"]))).parse (parseAt 3 20) =
      (.ok tree, ⟨Token.ofLexemes (lexemes ++ ["+", "z"]), 4⟩) := by
    rfl
  have hrest : ∀ rest' ∈ [["then", "z", "end"], ["\n", "z"], []],
      ∀ token ∈ (Token.ofLexemes rest').head?, token.precedence = 0 := by
    decide +kernel
  exact ⟨hlexemes, hparse, fun rest' hmem => parse_before_any hlexemes hparse (hrest rest' hmem)⟩

end ExprScript.Cursor
