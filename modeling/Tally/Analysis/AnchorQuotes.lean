import Tally.Analysis.Claims

/-!
# Quotes of whole words

A quote is cut at its white space and loses the pieces that normalise to nothing; the words of a
page keep their places, whatever is left of them. Words quoted as they stand are found where a run
of the page has just the pieces that are left, and a quote with a colon or a dash between two of
its words is not.
-/

set_option autoImplicit false

namespace Tally.Analysis.AnchorQuotes
open Library Library.Calendar Library.Sha256 Model Model.IntakeClaims Analysis.Claims

section Quotes

variable [Interpreter]

open Interpreter

/-! ## The tokens of joined words -/

/-- A blank ends a word and begins the next. -/
theorem splitWords_blank (hblank : isSpace ' ' = true) (left right : List Char) :
    splitWords (left ++ ' ' :: right) = splitWords left ++ splitWords right := by
  unfold splitWords
  rw [List.splitOnP_append_cons left right hblank, List.filter_append]

theorem tokens_blank (hblank : isSpace ' ' = true) (left right : List Char) :
    tokens (left ++ ' ' :: right) = tokens left ++ tokens right := by
  unfold tokens
  rw [splitWords_blank hblank, List.map_append, List.filter_append]

theorem tokens_nil : tokens [] = [] := rfl

/-- The tokens of words joined by blanks are those of the words. -/
theorem tokens_intercalate (hblank : isSpace ' ' = true) (words : List (List Char)) :
    tokens ([' '].intercalate words) = words.flatMap tokens := by
  induction words with
  | nil => rfl
  | cons word words ih =>
      cases words with
      | nil => simp
      | cons next words =>
          rw [List.intercalate_cons_cons, List.append_assoc, List.singleton_append,
            tokens_blank hblank, ih]
          exact List.flatMap_cons.symm

variable {K : Type}

/-- The tokens that are left of a run of words when it is quoted. -/
def quotedTokens (run : List (PageWord K)) : List (List Char) :=
  run.flatMap fun word => tokens word.text.toList

theorem tokens_joinedWords (hblank : isSpace ' ' = true) (run : List (PageWord K)) :
    tokens (joinedWords run).toList = quotedTokens run := by
  unfold joinedWords quotedTokens
  rw [String.toList_intercalate]
  have hblanks : " ".toList = [' '] := rfl
  rw [hblanks, tokens_intercalate hblank, List.map_map, List.flatMap_map]
  rfl

/-! ## Words that leave a token -/

/-- The word holds a letter or a digit. -/
def Alphanumeric (word : PageWord K) : Prop :=
  ∃ c ∈ word.text.toList, isSpace c = false ∧ ∃ u ∈ upper c, (isLetter u || isDigit u) = true

theorem mem_splitWords {text : List Char} {c : Char} (hmem : c ∈ text) (hc : isSpace c = false) :
    ∃ piece ∈ splitWords text, c ∈ piece := by
  have hpiece : ∃ piece ∈ text.splitOnP isSpace, c ∈ piece := by
    induction text with
    | nil => exact absurd hmem List.not_mem_nil
    | cons d text ih =>
        rw [List.splitOnP_cons_eq_if_modifyHead]
        obtain ⟨first, others, hcut⟩ := List.exists_cons_of_ne_nil
          (List.splitOnP_ne_nil isSpace text)
        rw [hcut] at ih ⊢
        rcases List.mem_cons.mp hmem with rfl | hlater
        · rw [if_neg (by rw [hc]; exact Bool.false_ne_true)]
          exact ⟨c :: first, List.mem_cons_self, List.mem_cons_self⟩
        · obtain ⟨piece, hpiece, hwithin⟩ := ih hlater
          split
          · exact ⟨piece, List.mem_cons_of_mem _ hpiece, hwithin⟩
          · rcases List.mem_cons.mp hpiece with rfl | hother
            · exact ⟨d :: piece, List.mem_cons_self, List.mem_cons_of_mem _ hwithin⟩
            · exact ⟨piece, List.mem_cons_of_mem _ hother, hwithin⟩
  obtain ⟨piece, hmem, hwithin⟩ := hpiece
  refine ⟨piece, List.mem_filter.mpr ⟨hmem, ?_⟩, hwithin⟩
  cases piece with
  | nil => exact absurd hwithin List.not_mem_nil
  | cons _ _ => rfl

/-- A word with a letter or a digit leaves a token. -/
theorem tokens_ne_nil {word : PageWord K} (h : Alphanumeric word) :
    tokens word.text.toList ≠ [] := by
  obtain ⟨c, hmem, hspace, u, hu, halnum⟩ := h
  obtain ⟨piece, hpiece, hc⟩ := mem_splitWords hmem hspace
  have hanchor : anchorChar u = true := by
    unfold anchorChar
    rw [halnum, Bool.true_or]
  have htoken : u ∈ token piece := by
    unfold token upperText
    exact List.mem_filter.mpr ⟨List.mem_flatMap.mpr ⟨c, hc, hu⟩, hanchor⟩
  have hkept : token piece ∈ tokens word.text.toList := by
    refine List.mem_filter.mpr ⟨List.mem_map_of_mem hpiece, ?_⟩
    cases hempty : token piece with
    | nil => exact absurd (hempty ▸ htoken) List.not_mem_nil
    | cons _ _ => rfl
  exact List.ne_nil_of_mem hkept

theorem quotedTokens_ne_nil {run : List (PageWord K)} (h : ∃ word ∈ run, Alphanumeric word) :
    quotedTokens run ≠ [] := by
  obtain ⟨word, hword, halnum⟩ := h
  obtain ⟨part, hpart⟩ := List.exists_mem_of_ne_nil _ (tokens_ne_nil halnum)
  exact List.ne_nil_of_mem (List.mem_flatMap.mpr ⟨word, hword, hpart⟩)

/-! ## Runs of a page -/

/-- A run of the page that normalises, word by word, to these tokens. -/
def HasRun (words : List (PageWord K)) (parts : List (List Char)) (run : List (PageWord K)) :
    Prop :=
  run <:+: words ∧ run.map (fun word => token word.text.toList) = parts

/-- Where a run has the tokens, one is found. -/
theorem findRun_of_hasRun {words run : List (PageWord K)} {parts : List (List Char)}
    (hne : parts ≠ []) (h : HasRun words parts run) : ∃ found, findRun parts words = some found := by
  obtain ⟨hwithin, htokens⟩ := h
  induction words with
  | nil =>
      obtain rfl := List.infix_nil.mp hwithin
      exact absurd htokens.symm hne
  | cons word words ih =>
      rw [findRun]
      by_cases hhere : ((word :: words).take parts.length).map
          (fun w => token w.text.toList) = parts
      · exact ⟨_, if_pos hhere⟩
      · rw [if_neg hhere]
        rcases List.infix_cons_iff.mp hwithin with hstart | hlater
        · have hlength : parts.length = run.length := by rw [← htokens, List.length_map]
          have htake : (word :: words).take parts.length = run := by
            rw [hlength]
            exact (List.prefix_iff_eq_take.mp hstart).symm
          exact absurd (by rw [htake]; exact htokens) hhere
        · exact ih hlater

variable [Min K] [Max K] [Div K] [Sha256]

/-- The quoted run is found on its page: the anchor's excerpt joins a run of the page, whose words
normalise to the tokens of the quote. -/
def Located (pages : List (Page K)) (number : Int) (page : Page K) (run : List (PageWord K)) :
    Prop :=
  ∃ anchor found, locatePdfAnchor pages (some (.int number)) (joinedWords run) = some anchor ∧
    anchor.pageNumber = number ∧ anchor.textExcerpt = joinedWords found ∧
    HasRun page.words (quotedTokens run) found

/-- A quoted run of words is found exactly when the page has a run, this or another, that leaves
a token for each word and those of the quote.
SOURCE: src/core/intake_claims.py:121-155, 211-216 -/
theorem located_iff (hblank : isSpace ' ' = true) (pages : List (Page K)) (number : Int)
    (hnumber : 1 ≤ number) (page : Page K) (hpage : pages[(number - 1).toNat]? = some page)
    (run : List (PageWord K)) (hworded : ∃ word ∈ run, Alphanumeric word) :
    Located pages number page run ↔ ∃ whole, HasRun page.words (quotedTokens run) whole := by
  constructor
  · rintro ⟨_, found, _, _, _, hfound⟩
    exact ⟨found, hfound⟩
  · rintro ⟨whole, hwhole⟩
    have hne := quotedTokens_ne_nil hworded
    obtain ⟨found, hfound⟩ := findRun_of_hasRun hne hwhole
    obtain ⟨hwithin, htokens⟩ := findRun_some hfound
    have hrange : ¬(number < 1 ∨ pages.length < number) := by
      have hlt := (List.getElem?_eq_some_iff.mp hpage).1
      omega
    cases found with
    | nil => exact absurd htokens.symm hne
    | cons word words =>
        refine ⟨⟨number, boundingBox page word words, joinedWords (word :: words),
          hexdigest (encode (joinedWords (word :: words)))⟩, word :: words, ?_, rfl, rfl, hwithin,
          htokens⟩
        unfold locatePdfAnchor
        dsimp only
        rw [if_neg hrange, hpage]
        dsimp only
        rw [tokens_joinedWords hblank, if_neg hne, hfound]

/-- The word is quoted as one token: it has no white space and keeps a character. -/
def Plain (word : PageWord K) : Prop :=
  (∀ c ∈ word.text.toList, isSpace c = false) ∧ token word.text.toList ≠ []

omit [Min K] [Max K] [Div K] [Sha256] in
theorem tokens_plain {word : PageWord K} (h : Plain word) :
    tokens word.text.toList = [token word.text.toList] := by
  have hword : word.text.toList ≠ [] := by
    intro hnil
    exact h.2 (by rw [hnil]; rfl)
  unfold tokens splitWords
  rw [List.splitOnP_eq_singleton h.1]
  simp only [List.filter_cons, List.isEmpty_eq_false_iff.mpr hword, Bool.not_false, if_true,
    List.filter_nil, List.map_cons, List.map_nil, List.isEmpty_eq_false_iff.mpr h.2]

omit [Min K] [Max K] [Div K] [Sha256] in
/-- Plain words are a run of their own tokens, wherever they stand on the page. -/
theorem hasRun_of_plain {page : Page K} {run : List (PageWord K)} (hrun : run <:+: page.words)
    (h : ∀ word ∈ run, Plain word) : HasRun page.words (quotedTokens run) run := by
  refine ⟨hrun, ?_⟩
  clear hrun
  induction run with
  | nil => rfl
  | cons word run ih =>
      have hrest := ih fun w hw => h w (List.mem_cons_of_mem _ hw)
      unfold quotedTokens at hrest ⊢
      rw [List.map_cons, List.flatMap_cons, hrest, tokens_plain (h word List.mem_cons_self),
        List.singleton_append]

end Quotes

/-! ## A quote with a colon -/

section Case

local instance caseInterpreter : Interpreter := asciiInterpreter
local instance caseSha : Sha256 := .standard

def totalLine : Page ℚ := pageOf ["TOTAL", ":", "$350.00"]

theorem totalLine_alphanumeric : ∃ word ∈ totalLine.words, Alphanumeric word :=
  ⟨⟨"TOTAL", 72, 72, 144, 84⟩, .head _, 'T', by decide, by decide, 'T', by decide, by decide⟩

/-- A line of a page, quoted as it stands, is not found. -/
theorem totalLine_not_located :
    ¬ ((∃ word ∈ totalLine.words, Alphanumeric word) →
      Located [totalLine] 1 totalLine totalLine.words) := by
  intro h
  obtain ⟨anchor, found, hlocated, _⟩ := h totalLine_alphanumeric
  have hnone : locatePdfAnchor [totalLine] (some (.int 1)) (joinedWords totalLine.words) = none := by
    decide +kernel
  rw [hnone] at hlocated
  exact absurd hlocated (by simp)

theorem located_iff_totalLine :
    Located [totalLine] 1 totalLine (totalLine.words.drop 2) ↔
      ∃ whole, HasRun totalLine.words (quotedTokens (totalLine.words.drop 2)) whole :=
  located_iff (by decide) [totalLine] 1 (by decide) totalLine rfl (totalLine.words.drop 2)
    ⟨⟨"$350.00", 72, 72, 144, 84⟩, List.mem_singleton.mpr rfl,
      '3', by decide, by decide, '3', by decide, by decide⟩

end Case

end Tally.Analysis.AnchorQuotes
