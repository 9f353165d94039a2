import Mathlib.Data.List.TakeWhile
import Tally.Library.Lines
import Tally.Model.Migrate

/-!
# Scripts of migrations

A script is a sequence of plain characters, strings with doubled quotes, quoted identifiers and
comments. The scanner reads one of them at a time and is then outside again, so it cuts behind the
semicolons that are plain characters and nowhere else, and the statements it returns are the script
but for white space between them.
-/

set_option autoImplicit false

namespace Tally.Analysis.SqlScripts
open Library Library.Lines Tally.Model.Migrate

/-! ## Scripts -/

/-- A part of a script; a last line comment ends with the script. -/
inductive Token where
  | plain (c : Char)
  | single (body : List Char)
  | double (body : List Char)
  | lineComment (body : List Char)
  | lastComment (body : List Char)
  | blockComment (body : List Char)
deriving DecidableEq

/-- A body with its quotes doubled. -/
def doubled (quote : Char) (body : List Char) : List Char :=
  body.flatMap fun c => if c = quote then [quote, quote] else [c]

def Token.text : Token → List Char
  | plain c => [c]
  | single body => apostrophe :: (doubled apostrophe body ++ [apostrophe])
  | double body => quotationMark :: (doubled quotationMark body ++ [quotationMark])
  | lineComment body => '-' :: '-' :: (body ++ [newline])
  | lastComment body => '-' :: '-' :: body
  | blockComment body => '/' :: '*' :: (body ++ ['*', '/'])

def render (tokens : List Token) : List Char := tokens.flatMap Token.text

/-- The token stands ahead of this text: a plain character opens nothing with what follows it, and
a comment does not end early. -/
def Token.Fits (following : List Char) : Token → Prop
  | plain c => c ≠ apostrophe ∧ c ≠ quotationMark ∧ (c = '-' → following.head? ≠ some '-') ∧
      (c = '/' → following.head? ≠ some '*')
  | single _ => True
  | double _ => True
  | lineComment body => newline ∉ body
  | lastComment body => newline ∉ body ∧ following = []
  | blockComment body => ¬ ['*', '/'] <:+: body

/-- The grammar of scripts. -/
def Script : List Token → Prop
  | [] => True
  | token :: tokens => token.Fits (render tokens) ∧ Script tokens

theorem render_cons (token : Token) (tokens : List Token) :
    render (token :: tokens) = token.text ++ render tokens := List.flatMap_cons

theorem render_append (xs ys : List Token) : render (xs ++ ys) = render xs ++ render ys :=
  List.flatMap_append

/-! ## One token -/

/-- A character that begins no pair is read alone. -/
theorem scanPieces_alone {scan : Scan} {c : Char} {rest : List Char} (current : List Char)
    (hcut : ¬(scan = .plain ∧ c = ';'))
    (hpair : ∀ following, rest.head? = some following → scan.pair c following = none) :
    scanPieces scan current (c :: rest) = scanPieces (scan.next c) (c :: current) rest := by
  cases rest with
  | nil =>
      have hlast : scanPieces scan current [c] = [(c :: current).reverse] := by
        show (if scan = .plain ∧ c = ';' then _ else _) = _
        rw [if_neg hcut]
      rw [hlast]
      cases scan.next c <;> rfl
  | cons following rest =>
      rw [scanPieces, hpair following rfl]
      dsimp only
      rw [if_neg hcut]

/-- A semicolon outside quotes and comments ends a piece. -/
theorem scanPieces_semicolon (current rest : List Char) :
    scanPieces .plain current (';' :: rest) =
      (';' :: current).reverse :: scanPieces .plain [] rest := by
  cases rest with
  | nil => rfl
  | cons following rest => rfl

/-- Within quotes, two of them are read as one, and a single one leaves. -/
structure Quotes (scan : Scan) (quote : Char) : Prop where
  within : scan ≠ .plain
  pair : ∀ c following, scan.pair c following =
    if c = quote ∧ following = quote then some scan else none
  next : ∀ c, scan.next c = if c = quote then .plain else scan
  opens : Scan.plain.next quote = scan
  alone : ∀ following, Scan.plain.pair quote following = none
  noCut : quote ≠ ';'

theorem quotes_single : Quotes .single apostrophe where
  within := by decide
  pair _ _ := rfl
  next _ := rfl
  opens := rfl
  alone _ := rfl
  noCut := by decide

theorem quotes_double : Quotes .double quotationMark where
  within := by decide
  pair _ _ := rfl
  next _ := rfl
  opens := rfl
  alone _ := rfl
  noCut := by decide

section Quoted

variable {scan : Scan} {quote : Char}

theorem Quotes.opening (h : Quotes scan quote) (current rest : List Char) :
    scanPieces .plain current (quote :: rest) = scanPieces scan (quote :: current) rest := by
  rw [scanPieces_alone current (fun hcut => h.noCut hcut.2) fun following _ => h.alone following,
    h.opens]

/-- A body with doubled quotes is read within them. -/
theorem Quotes.body (h : Quotes scan quote) (current body rest : List Char) :
    scanPieces scan current (doubled quote body ++ rest) =
      scanPieces scan ((doubled quote body).reverse ++ current) rest := by
  induction body generalizing current with
  | nil => rfl
  | cons c body ih =>
      have hcons : doubled quote (c :: body) =
          (if c = quote then [quote, quote] else [c]) ++ doubled quote body := List.flatMap_cons
      rw [hcons, List.append_assoc, List.reverse_append, List.append_assoc]
      by_cases hc : c = quote
      · rw [if_pos hc]
        show scanPieces scan current (quote :: quote :: (doubled quote body ++ rest)) = _
        rw [scanPieces, h.pair, if_pos ⟨rfl, rfl⟩]
        exact ih (quote :: quote :: current)
      · rw [if_neg hc]
        show scanPieces scan current (c :: (doubled quote body ++ rest)) = _
        rw [scanPieces_alone current (fun hcut => h.within hcut.1)
          fun following _ => by rw [h.pair, if_neg fun hquotes => hc hquotes.1],
          h.next, if_neg hc]
        exact ih (c :: current)

/-- A quote behind the body leaves, or doubles as the first of the quotes that follow. -/
theorem Quotes.closing (h : Quotes scan quote) (current rest : List Char) :
    scanPieces scan current (quote :: rest) = scanPieces .plain (quote :: current) rest := by
  by_cases hfollows : rest.head? = some quote
  · obtain ⟨rest, rfl⟩ := List.head?_eq_some_iff.mp hfollows
    rw [h.opening, scanPieces, h.pair, if_pos ⟨rfl, rfl⟩]
  · rw [scanPieces_alone current (fun hcut => h.within hcut.1), h.next, if_pos rfl]
    intro following hfollowing
    rw [h.pair, if_neg]
    rintro ⟨_, rfl⟩
    exact hfollows hfollowing

/-- A quoted text is read from outside to outside. -/
theorem Quotes.token (h : Quotes scan quote) (current body rest : List Char) :
    scanPieces .plain current (quote :: (doubled quote body ++ [quote]) ++ rest) =
      scanPieces .plain ((quote :: (doubled quote body ++ [quote])).reverse ++ current) rest := by
  have htext : quote :: (doubled quote body ++ [quote]) ++ rest =
      quote :: (doubled quote body ++ quote :: rest) := by simp
  rw [htext, h.opening, h.body, h.closing]
  simp

end Quoted

/-- A line comment is read to the end of its line, or of the script. -/
theorem scanPieces_line (current body rest : List Char) (hbody : newline ∉ body) :
    scanPieces .lineComment current (body ++ rest) =
      scanPieces .lineComment (body.reverse ++ current) rest := by
  induction body generalizing current with
  | nil => rfl
  | cons c body ih =>
      rw [List.mem_cons, not_or] at hbody
      obtain ⟨hc, hbody⟩ := hbody
      have hnext : Scan.lineComment.next c = .lineComment := if_neg (Ne.symm hc)
      rw [List.cons_append, scanPieces_alone current (by simp) fun _ _ => rfl, hnext, ih _ hbody]
      simp

/-- A block comment is read to the first end of one. -/
theorem scanPieces_block (current body rest : List Char) (hbody : ¬ ['*', '/'] <:+: body) :
    scanPieces .blockComment current (body ++ '*' :: '/' :: rest) =
      scanPieces .plain ('/' :: '*' :: (body.reverse ++ current)) rest := by
  induction body generalizing current with
  | nil => rfl
  | cons c body ih =>
      have hlater : ¬ ['*', '/'] <:+: body := fun h =>
        hbody (h.trans (List.suffix_cons c body).isInfix)
      have hnext : Scan.blockComment.next c = .blockComment := rfl
      rw [List.cons_append, scanPieces_alone current (by simp), hnext, ih _ hlater]
      · simp
      · intro following hfollowing
        refine if_neg ?_
        rintro ⟨rfl, rfl⟩
        cases body with
        | nil => exact absurd (Option.some.inj hfollowing) (by decide)
        | cons d body =>
            obtain rfl := Option.some.inj hfollowing
            exact hbody ⟨[], body, rfl⟩

/-- The scanner reads a token and is outside again; behind a semicolon a piece ends. -/
theorem scanPieces_token {token : Token} {rest : List Char} (h : token.Fits rest)
    (current : List Char) :
    scanPieces .plain current (token.text ++ rest) =
      if token = .plain ';' then (';' :: current).reverse :: scanPieces .plain [] rest
      else scanPieces .plain (token.text.reverse ++ current) rest := by
  cases token with
  | plain c =>
      obtain ⟨hsingle, hdouble, hdash, hslash⟩ := h
      by_cases hcut : c = ';'
      · subst hcut
        rw [if_pos rfl]
        exact scanPieces_semicolon current rest
      · rw [if_neg fun heq => hcut (Token.plain.inj heq)]
        show scanPieces .plain current (c :: rest) = scanPieces .plain (c :: current) rest
        have hnext : Scan.plain.next c = .plain := by
          simp [Scan.next, hsingle, hdouble]
        rw [scanPieces_alone current (fun h => hcut h.2), hnext]
        intro following hfollowing
        have hcomment : ¬(c = '-' ∧ following = '-') := fun hpair =>
          hdash hpair.1 (hpair.2 ▸ hfollowing)
        have hblock : ¬(c = '/' ∧ following = '*') := fun hpair =>
          hslash hpair.1 (hpair.2 ▸ hfollowing)
        show (if _ then _ else if _ then _ else _) = _
        rw [if_neg hcomment, if_neg hblock]
  | single body => exact quotes_single.token current body rest
  | double body => exact quotes_double.token current body rest
  | lineComment body =>
      rw [if_neg (by simp)]
      have hnewline : Scan.lineComment.next newline = .plain := rfl
      show scanPieces .lineComment ('-' :: '-' :: current) (body ++ [newline] ++ rest) = _
      rw [List.append_assoc, scanPieces_line _ _ _ h, List.singleton_append,
        scanPieces_alone _ (by simp) fun _ _ => rfl, hnewline]
      simp [Token.text]
  | lastComment body =>
      obtain ⟨hbody, rfl⟩ := h
      rw [if_neg (by simp)]
      show scanPieces .lineComment ('-' :: '-' :: current) (body ++ []) = _
      rw [scanPieces_line _ _ _ hbody]
      simp [Token.text, scanPieces]
  | blockComment body =>
      rw [if_neg (by simp)]
      show scanPieces .blockComment ('*' :: '/' :: current) (body ++ ['*', '/'] ++ rest) = _
      rw [List.append_assoc]
      show scanPieces .blockComment _ (body ++ '*' :: '/' :: rest) = _
      rw [scanPieces_block _ _ _ h]
      simp [Token.text]

/-! ## Statements -/

def semicolon (token : Token) : Bool := token = .plain ';'

/-- The parts between the semicolons that are tokens. -/
def bodies (tokens : List Token) : List (List Token) := tokens.splitOnP semicolon

/-- Bodies with the semicolons behind them; the last one has none. -/
def closed : List (List Token) → List (List Token)
  | [] => []
  | [last] => [last]
  | body :: next :: rest => (body ++ [.plain ';']) :: closed (next :: rest)

theorem closed_cons {body : List Token} {rest : List (List Token)} (h : rest ≠ []) :
    closed (body :: rest) = (body ++ [.plain ';']) :: closed rest := by
  cases rest with
  | nil => exact absurd rfl h
  | cons next rest => rfl

theorem closed_modifyHead (token : Token) (parts : List (List Token)) :
    closed (parts.modifyHead (token :: ·)) = (closed parts).modifyHead (token :: ·) := by
  cases parts with
  | nil => rfl
  | cons body rest =>
      cases rest with
      | nil => rfl
      | cons next rest => rfl

/-- The scanner cuts a script into its bodies and their semicolons. -/
theorem scanPieces_render (tokens : List Token) (h : Script tokens) (current : List Char) :
    scanPieces .plain current (render tokens) =
      ((closed (bodies tokens)).map render).modifyHead (current.reverse ++ ·) := by
  induction tokens generalizing current with
  | nil => simp [render, scanPieces, bodies, closed]
  | cons token tokens ih =>
      rw [render_cons, scanPieces_token h.1]
      unfold bodies at ih ⊢
      rw [List.splitOnP_cons_eq_if_modifyHead]
      by_cases hcut : token = .plain ';'
      · have hsemicolon : semicolon token = true := decide_eq_true hcut
        rw [if_pos hcut, if_pos hsemicolon, closed_cons (List.splitOnP_ne_nil _ _), ih h.2]
        have hnothing (parts : List (List Char)) :
            parts.modifyHead (([] : List Char).reverse ++ ·) = parts := by
          cases parts <;> rfl
        rw [hnothing]
        simp [render, Token.text]
      · have hplain : ¬ semicolon token = true := fun heq => hcut (of_decide_eq_true heq)
        rw [if_neg hcut, if_neg hplain, closed_modifyHead, ih h.2]
        cases closed (tokens.splitOnP semicolon) with
        | nil => rfl
        | cons first rest => simp [render_cons]

/-- The bodies joined by semicolons are the script. -/
theorem render_bodies (tokens : List Token) :
    [';'].intercalate ((bodies tokens).map render) = render tokens := by
  unfold bodies
  induction tokens with
  | nil => rfl
  | cons token tokens ih =>
      obtain ⟨first, rest, hsplit⟩ := List.exists_cons_of_ne_nil
        (List.splitOnP_ne_nil semicolon tokens)
      rw [List.splitOnP_cons_eq_if_modifyHead]
      rw [hsplit] at ih ⊢
      rw [render_cons, ← ih]
      by_cases hcut : semicolon token = true
      · rw [if_pos hcut, of_decide_eq_true hcut]
        rfl
      · rw [if_neg hcut]
        cases rest with
        | nil => simp [render_cons]
        | cons next rest => simp [render_cons, List.intercalate_cons_cons]

/-! ## White space between statements -/

/-- The text is the pieces in their order, with white space ahead, between and behind. -/
inductive Spaced : List (List Char) → List Char → Prop
  | nil {blank : List Char} (hblank : ∀ c ∈ blank, isSpace c = true) : Spaced [] blank
  | cons {blank piece text : List Char} {pieces : List (List Char)}
      (hblank : ∀ c ∈ blank, isSpace c = true) (h : Spaced pieces text) :
      Spaced (piece :: pieces) (blank ++ piece ++ text)

theorem Spaced.blank {pieces : List (List Char)} {blank text : List Char}
    (hblank : ∀ c ∈ blank, isSpace c = true) (h : Spaced pieces text) :
    Spaced pieces (blank ++ text) := by
  have hall {first : List Char} (hfirst : ∀ c ∈ first, isSpace c = true) :
      ∀ c ∈ blank ++ first, isSpace c = true := by
    intro c hc
    rcases List.mem_append.mp hc with hc | hc
    · exact hblank c hc
    · exact hfirst c hc
  cases h with
  | nil hfirst => exact .nil (hall hfirst)
  | cons hfirst h =>
      rw [← List.append_assoc, ← List.append_assoc]
      exact .cons (hall hfirst) h

/-- A text is what `strip` leaves of it between white space. -/
theorem strip_between (text : List Char) :
    ∃ front back, text = front ++ strip text ++ back ∧ (∀ c ∈ front, isSpace c = true) ∧
      ∀ c ∈ back, isSpace c = true := by
  have hfront := List.takeWhile_append_dropWhile (p := isSpace) (l := text)
  have hback := congrArg List.reverse (List.takeWhile_append_dropWhile
    (p := isSpace) (l := (text.dropWhile isSpace).reverse))
  rw [List.reverse_append, List.reverse_reverse] at hback
  refine ⟨text.takeWhile isSpace,
    ((text.dropWhile isSpace).reverse.takeWhile isSpace).reverse, ?_, ?_, ?_⟩
  · unfold strip
    rw [List.append_assoc, hback, hfront]
  · intro c hc
    exact List.mem_takeWhile_imp hc
  · intro c hc
    exact List.mem_takeWhile_imp (List.mem_reverse.mp hc)

/-- Stripped pieces that are not empty make up the text but for white space. -/
theorem spaced_pieces (pieces : List (List Char)) :
    Spaced ((pieces.map strip).filter fun piece => !piece.isEmpty) pieces.flatten := by
  induction pieces with
  | nil => exact .nil fun _ hc => absurd hc List.not_mem_nil
  | cons piece pieces ih =>
      obtain ⟨front, back, htext, hfront, hback⟩ := strip_between piece
      rw [List.flatten_cons, List.map_cons]
      cases hstrip : strip piece with
      | nil =>
          rw [htext, hstrip, List.append_nil, List.append_assoc]
          exact (ih.blank hback).blank hfront
      | cons c rest =>
          rw [htext, hstrip, List.append_assoc]
          exact .cons hfront (ih.blank hback)

/-! ## Splitting -/

/-- The statements of a script: its bodies with their semicolons, stripped, without the empty
ones. -/
def statements (tokens : List Token) : List (List Char) :=
  ((closed (bodies tokens)).map fun body => strip (render body)).filter fun piece => !piece.isEmpty

/-- A script is split exactly at the semicolons outside quotes and comments: the statements are
its bodies with the semicolons behind them; the bodies joined by semicolons are the script; and
the statements are the script but for white space between them.
SOURCE: src/external/migrate.py:85-139 -/
theorem split_exact (tokens : List Token) (h : Script tokens) :
    splitSqlStatements (String.ofList (render tokens)) = (statements tokens).map String.ofList ∧
      [';'].intercalate ((bodies tokens).map render) = render tokens ∧
      (∀ body ∈ bodies tokens, Token.plain ';' ∉ body) ∧
      Spaced (statements tokens) (render tokens) := by
  have hnothing (parts : List (List Char)) :
      parts.modifyHead (([] : List Char).reverse ++ ·) = parts := by
    cases parts <;> rfl
  have hpieces : scanPieces .plain [] (render tokens) = (closed (bodies tokens)).map render := by
    rw [scanPieces_render tokens h, hnothing]
  have hstatements : statements tokens =
      ((scanPieces .plain [] (render tokens)).map strip).filter fun piece => !piece.isEmpty := by
    unfold statements
    rw [hpieces, List.map_map]
    rfl
  refine ⟨?_, render_bodies tokens, ?_, ?_⟩
  · unfold splitSqlStatements
    rw [String.toList_ofList, hstatements]
  · intro body hbody hmem
    exact absurd (clean_of_mem_splitOnP hbody _ hmem) (by decide)
  · have hflatten := scanPieces_flatten .plain [] (render tokens)
    rw [List.reverse_nil, List.nil_append] at hflatten
    rw [hstatements]
    conv => rhs; rw [← hflatten]
    exact spaced_pieces _

/-- A quoted and a commented semicolon, and one between statements. -/
def quotedScript : List Token :=
  [.single [';'], .plain ';', .lineComment [';'], .plain 'b', .blockComment [';'], .lastComment [';']]

theorem split_exact_quoted :
    splitSqlStatements (String.ofList (render quotedScript)) =
        (statements quotedScript).map String.ofList ∧
      [';'].intercalate ((bodies quotedScript).map render) = render quotedScript ∧
      (∀ body ∈ bodies quotedScript, Token.plain ';' ∉ body) ∧
      Spaced (statements quotedScript) (render quotedScript) := by
  have hline : newline ∉ [';'] := by decide
  have hblock : ¬ ['*', '/'] <:+: [';'] := by decide
  exact split_exact quotedScript ⟨trivial, ⟨by decide, by decide, by decide, by decide⟩, hline,
    ⟨by decide, by decide, by decide, by decide⟩, hblock, ⟨hline, rfl⟩, trivial⟩

end Tally.Analysis.SqlScripts
