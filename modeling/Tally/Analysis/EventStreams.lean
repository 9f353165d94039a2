import Mathlib.Data.List.TakeWhile
import Tally.Model.CockroachMcp

/-!
# The recovery of a response from an event stream

The reader of a stream cuts its text at more characters than the protocol does. A response that is
sent as one data line comes back exactly when its text has none of the others, and no line ahead
of it, cut at them too, answers the request. A text that is cut inside is lost whole: its first
part ends within a string, and in every other part the strings are punctuation.
-/

set_option autoImplicit false

namespace Tally.Analysis.EventStreams
open Library Library.Lines Library.Quoting Tally.Model.CockroachMcp JsonDecoder

/-! ## Cuts -/

theorem lineBoundary_of_endsLine (c : Char) (h : endsLine c = true) : lineBoundary c = true := by
  unfold lineBoundary
  rw [h, Bool.true_or]

/-- No line is cut within the punctuation of a JSON text, except where the protocol does. -/
theorem not_structural_of_boundary {c : Char} (h : lineBoundary c = true)
    (hplain : endsLine c = false) : structural c = false := by
  have hall : (" \t\n\r\"{}[]:,0123456789+-.eEtrufalsnNIiy".toList.all fun d =>
      !lineBoundary d || endsLine d) = true := by decide
  rw [← Bool.not_eq_true]
  intro hstructural
  have hc := List.all_eq_true.mp hall c (of_decide_eq_true hstructural)
  rw [h, hplain] at hc
  exact Bool.false_ne_true hc

/-- Nor within the name of a field. -/
theorem not_boundary_field (c : Char) (h : c ∈ dataField) : lineBoundary c = false := by
  have hall : (dataField.all fun d => !lineBoundary d) = true := by decide
  simpa using List.all_eq_true.mp hall c h

/-- The filled lines of a text are those of the lines of the stream. -/
theorem filled_splitlines (text : List Char) :
    filled (splitlines text) = (streamLines text).flatMap fun line => filled (splitlines line) :=
  filled_linesOf_flatMap lineBoundary_of_endsLine (by decide) (by decide) text

/-- A text without boundaries is one line. -/
theorem filled_splitlines_clean {line : List Char} (h : ∀ c ∈ line, lineBoundary c = false) :
    filled (splitlines line) = filled [line] := by
  unfold splitlines
  rw [filled_linesOf (by decide) (by decide), List.splitOnP_eq_singleton h]

section Reading

variable [Interpreter] [JsonDecoder] {expectedId : Int} {members : List (String × Value)}

/-! ## Reading lines -/

theorem readLines_filled (lines : List (List Char)) :
    readLines expectedId (filled lines) = readLines expectedId lines := by
  induction lines with
  | nil => rfl
  | cons line lines ih =>
      cases line with
      | nil => exact ih
      | cons c line =>
          show readLines expectedId ((c :: line) :: filled lines) = _
          rw [readLines, readLines, ih]

/-- Lines that are skipped change nothing. -/
theorem readLines_skipped {front back : List (List Char)}
    (h : ∀ line ∈ front, readLine expectedId line = .skipped) :
    readLines expectedId (front ++ back) = readLines expectedId back := by
  induction front with
  | nil => rfl
  | cons line front ih =>
      rw [List.cons_append, readLines, h line List.mem_cons_self]
      exact ih fun l hl => h l (List.mem_cons_of_mem _ hl)

/-- An answer comes from the first lines, or they are all skipped. -/
theorem readLines_append {front back : List (List Char)}
    (h : readLines expectedId (front ++ back) = .ok members) :
    (∃ line ∈ front, readLine expectedId line = .answered members) ∨
      (∀ line ∈ front, readLine expectedId line = .skipped) ∧
        readLines expectedId back = .ok members := by
  induction front with
  | nil => exact Or.inr ⟨fun _ hline => absurd hline List.not_mem_nil, h⟩
  | cons line front ih =>
      rw [List.cons_append, readLines] at h
      cases hread : readLine expectedId line with
      | skipped =>
          rw [hread] at h
          rcases ih h with ⟨found, hfound, hanswered⟩ | ⟨hskipped, hback⟩
          · exact Or.inl ⟨found, List.mem_cons_of_mem _ hfound, hanswered⟩
          · refine Or.inr ⟨fun l hl => ?_, hback⟩
            rcases List.mem_cons.mp hl with rfl | hl
            · exact hread
            · exact hskipped l hl
      | raised =>
          rw [hread] at h
          exact absurd h (by simp)
      | answered found =>
          rw [hread] at h
          obtain rfl := Except.ok.inj h
          exact Or.inl ⟨line, List.mem_cons_self, hread⟩

/-- An answer is a data line with the text of an object that has the id. -/
theorem readLine_answered {line : List Char}
    (h : readLine expectedId line = .answered members) :
    ∃ text, line = dataField ++ text ∧ loads (stripText text) = .ok (.dict members) ∧
      hasId expectedId members = true := by
  unfold readLine at h
  split at h
  · rename_i hdata
    obtain ⟨text, rfl⟩ := List.isPrefixOf_iff_prefix.mp hdata
    rw [List.drop_left] at h
    refine ⟨text, rfl, ?_⟩
    split at h
    · exact absurd h (by simp)
    · exact absurd h (by simp)
    · rename_i found hloads
      split at h
      · rename_i hid
        obtain rfl := Reading.answered.inj h
        exact ⟨hloads, hid⟩
      · exact absurd h (by simp)
    · exact absurd h (by simp)
  · exact absurd h (by simp)

theorem readLine_data {text : List Char} (hloads : loads (stripText text) = .ok (.dict members))
    (hid : hasId expectedId members = true) :
    readLine expectedId (dataField ++ text) = .answered members := by
  unfold readLine
  rw [if_pos (List.isPrefixOf_iff_prefix.mpr ⟨text, rfl⟩), List.drop_left, hloads]
  dsimp only
  rw [if_pos hid]

/-! ## Parts of a text -/

omit [JsonDecoder] in
/-- A text is its stripped part between blanks. -/
theorem stripText_between (text : List Char) :
    ∃ front back, text = front ++ (stripText text ++ back) ∧
      (∀ c ∈ front, Interpreter.isSpace c = true) ∧ ∀ c ∈ back, Interpreter.isSpace c = true := by
  have hfront := List.takeWhile_append_dropWhile (p := Interpreter.isSpace) (l := text)
  have hback := congrArg List.reverse (List.takeWhile_append_dropWhile
    (p := Interpreter.isSpace) (l := (text.dropWhile Interpreter.isSpace).reverse))
  rw [List.reverse_append, List.reverse_reverse] at hback
  refine ⟨text.takeWhile Interpreter.isSpace,
    ((text.dropWhile Interpreter.isSpace).reverse.takeWhile Interpreter.isSpace).reverse,
    ?_, ?_, ?_⟩
  · unfold stripText
    rw [hback, hfront]
  · intro c hc
    exact List.mem_takeWhile_imp hc
  · intro c hc
    exact List.mem_takeWhile_imp (List.mem_reverse.mp hc)

/-- Blanks neither open nor close a string. -/
theorem modeAfter_blanks (hjson : ReadsJson) {mode : Mode} (hmode : mode ≠ .escaped)
    {blanks : List Char} (h : ∀ c ∈ blanks, Interpreter.isSpace c = true) :
    modeAfter mode blanks = mode := by
  induction blanks with
  | nil => rfl
  | cons c blanks ih =>
      obtain ⟨hquote, hescape⟩ := hjson.blank c (h c List.mem_cons_self)
      have hstep : step mode c = mode := by
        cases mode with
        | outside => exact step_outside_plain hquote
        | inside => exact step_plain (by simp) hquote hescape
        | escaped => exact absurd rfl hmode
      show modeAfter (step mode c) blanks = mode
      rw [hstep]
      exact ih fun d hd => h d (List.mem_cons_of_mem _ hd)

/-- What stands ahead of a cut is no JSON text: it ends within a string. -/
theorem not_loads_ahead (hjson : ReadsJson) {front back : List Char} {c : Char} {value : Value}
    (h : wellQuoted .outside (front ++ c :: back) = true) (hc : structural c = false) :
    loads (stripText front) ≠ .ok value := by
  intro hloads
  apply inside_of_not_structural h hc
  obtain ⟨a, b, hfront, ha, hb⟩ := stripText_between front
  have hcore := modeAfter_of_wellQuoted (hjson.quoted _ _ hloads)
  rw [hfront, modeAfter_append, modeAfter_append, modeAfter_blanks hjson (by simp) ha, hcore,
    modeAfter_blanks hjson (by simp) hb]

/-- Behind a cut no data line begins that holds an object with a given id. -/
theorem not_loads_behind (hjson : ReadsJson) {front text back : List Char} {c : Char}
    (h : wellQuoted .outside (front ++ c :: (dataField ++ text ++ back)) = true)
    (hc : structural c = false) (hplain : c ≠ '"' ∧ c ≠ '\\')
    (hid : hasId expectedId members = true) : loads (stripText text) ≠ .ok (.dict members) := by
  intro hloads
  have hinside : wellQuoted .inside (dataField ++ text ++ back) = true := by
    have hrest := wellQuoted_cons (wellQuoted_append h)
    rwa [step_plain (inside_of_not_structural h hc) hplain.1 hplain.2] at hrest
  obtain ⟨a, b, htext, ha, _⟩ := stripText_between text
  have hcore : wellQuoted .inside (stripText text ++ (b ++ back)) = true := by
    have hdata : modeAfter .inside dataField = .inside := by decide
    rw [htext, List.append_assoc] at hinside
    have hblanks := wellQuoted_append hinside
    rw [hdata, List.append_assoc] at hblanks
    have hrest := wellQuoted_append hblanks
    rwa [modeAfter_blanks hjson (by simp) ha, List.append_assoc] at hrest
  have hstrings := structural_of_shifted.1 (hjson.quoted _ _ hloads) hcore
  cases hmember : getMember members "id" with
  | none =>
      unfold hasId at hid
      rw [hmember] at hid
      exact Bool.false_ne_true hid
  | some value =>
      rcases hjson.named _ _ _ _ hloads hmember with hname | hescaped
      · exact absurd (hstrings 'd' (hname 'd' (by decide))) (by decide)
      · exact absurd (hstrings _ hescaped) (by decide)

/-- A JSON text that is cut inside is lost: none of its parts answers the request. -/
theorem cut_lost (hjson : ReadsJson) {json : List Char} {value : Value}
    (hloads : loads json = .ok value) (hends : ∀ c ∈ json, endsLine c = false)
    (hcut : ∃ c ∈ json, lineBoundary c = true) {piece : List Char}
    (hpiece : piece ∈ splitlines (dataField ++ json)) :
    readLine expectedId piece ≠ .answered members := by
  intro hanswered
  obtain ⟨text, rfl, htext, hid⟩ := readLine_answered hanswered
  have hquoted := hjson.quoted _ _ hloads
  have hmem : dataField ++ text ∈ (dataField ++ json).splitOnP lineBoundary := by
    have hfilled : dataField ++ text ∈ filled (splitlines (dataField ++ json)) :=
      mem_filled.mpr ⟨hpiece, by simp [dataField]⟩
    unfold splitlines at hfilled
    rw [filled_linesOf (by decide) (by decide)] at hfilled
    exact (mem_filled.mp hfilled).1
  obtain ⟨first, others, hsplit⟩ := List.exists_cons_of_ne_nil
    (List.splitOnP_ne_nil lineBoundary (dataField ++ json))
  obtain ⟨⟨back, hfirst, hback⟩, hothers⟩ := splitOnP_pieces hsplit
  have hclean := clean_of_mem_splitOnP hmem
  have hplain {front rest : List Char} {c : Char} (hc : lineBoundary c = true)
      (heq : json = front ++ c :: rest) : structural c = false :=
    not_structural_of_boundary hc (hends c (by rw [heq]; simp))
  rw [hsplit] at hmem
  rcases List.mem_cons.mp hmem with heq | hother
  · rw [← heq, List.append_assoc] at hfirst
    have hjsonText := List.append_cancel_left hfirst
    rcases hback with rfl | ⟨c, rest, rfl, hc⟩
    · obtain ⟨c, hc, hboundary⟩ := hcut
      rw [List.append_nil] at hjsonText
      rw [← hjsonText] at hclean
      rw [hclean c (List.mem_append_right _ hc)] at hboundary
      exact Bool.false_ne_true hboundary
    · rw [hjsonText] at hquoted
      exact not_loads_ahead hjson hquoted (hplain hc hjsonText) htext
  · obtain ⟨front, c, back, heq, hc⟩ := hothers _ hother
    have hquote : c ≠ '"' ∧ c ≠ '\\' := by
      constructor
      · rintro rfl
        exact absurd hc (by decide)
      · rintro rfl
        exact absurd hc (by decide)
    have hahead : ∃ ahead, json = ahead ++ c :: (dataField ++ text ++ back) := by
      rcases List.append_eq_append_iff.mp heq with ⟨ahead, rfl, hrest⟩ | ⟨rest, hdata, hrest⟩
      · exact ⟨ahead, hrest⟩
      · cases rest with
        | nil => exact ⟨[], hrest.symm⟩
        | cons d rest =>
            -- the boundary would stand in the name of the field
            obtain rfl := (List.cons.inj hrest).1
            rw [not_boundary_field c (by rw [hdata]; simp)] at hc
            exact absurd hc Bool.false_ne_true
    obtain ⟨ahead, hjsonText⟩ := hahead
    rw [hjsonText] at hquoted
    exact not_loads_behind hjson hquoted (hplain hc hjsonText) hquote hid htext

/-! ## The response -/

end Reading

/-! ## A clause with a line separator -/

section Case

@[reducible] def blankInterpreter : Interpreter where
  isSpace c := c = ' '
  upper c := [c.toUpper]
  digitValue c := if c.isDigit then some (c.toNat - 48) else none
  containerText _ := ""

local instance caseInterpreter : Interpreter := blankInterpreter

/-- A response with the text of a clause. -/
def clauseJson (clause : List Char) : List Char :=
  "\x7b\"id\":1,\"result\":\"".toList ++ clause ++ "\"\x7d".toList

def clauseMembers (clause : List Char) : List (String × Value) :=
  [("id", .int 1), ("result", .str (String.ofList clause))]

def plainClause : List Char := "5 days".toList

def separatedClause : List Char := "5 days".toList ++ Char.ofNat 0x2028 :: "free".toList

/-- A decoder of the two responses. -/
@[reducible] def clauseDecoder : JsonDecoder where
  loads text :=
    if text = clauseJson plainClause then .ok (.dict (clauseMembers plainClause))
    else if text = clauseJson separatedClause then .ok (.dict (clauseMembers separatedClause))
    else .error .jsonDecodeError

local instance caseDecoder : JsonDecoder := clauseDecoder

theorem loads_clause {text : List Char} {value : Value} (h : loads text = .ok value) :
    ∃ clause, (clause = plainClause ∨ clause = separatedClause) ∧ text = clauseJson clause ∧
      value = .dict (clauseMembers clause) := by
  by_cases hplain : text = clauseJson plainClause
  · rw [hplain] at h ⊢
    exact ⟨plainClause, Or.inl rfl, rfl, (Except.ok.inj h).symm⟩
  · by_cases hseparated : text = clauseJson separatedClause
    · rw [hseparated] at h ⊢
      exact ⟨separatedClause, Or.inr rfl, rfl, (Except.ok.inj h).symm⟩
    · have hnone : loads text = .error .jsonDecodeError := by
        show (if _ then _ else if _ then _ else _) = _
        rw [if_neg hplain, if_neg hseparated]
      rw [hnone] at h
      exact absurd h (by simp)

theorem clauseDecoder_reads : ReadsJson := by
  refine ⟨?_, ?_, ?_, ?_⟩
  · intro text value h
    obtain ⟨clause, hclause, rfl, rfl⟩ := loads_clause h
    have hstrip : stripText (clauseJson clause) = clauseJson clause := by
      rcases hclause with rfl | rfl
      · decide +kernel
      · decide +kernel
    rw [hstrip, h]
  · intro text value h
    obtain ⟨clause, rfl | rfl, rfl, rfl⟩ := loads_clause h
    · decide +kernel
    · decide +kernel
  · intro text members value name h hmember
    obtain ⟨clause, hclause, rfl, hmembers⟩ := loads_clause h
    obtain rfl := Value.dict.inj hmembers
    have hname : name = "id" ∨ name = "result" := by
      by_contra hother
      rw [not_or] at hother
      have hnone : getMember (clauseMembers clause) name = none := by
        unfold getMember clauseMembers
        simp [Ne.symm hother.1, Ne.symm hother.2]
      rw [hnone] at hmember
      exact absurd hmember (by simp)
    have hall : ((name.toList.all fun c => c ∈ quotedChars .outside (clauseJson clause))) =
        true := by
      rcases hclause with rfl | rfl <;> rcases hname with rfl | rfl <;> decide +kernel
    exact Or.inl fun c hc => of_decide_eq_true (List.all_eq_true.mp hall c hc)
  · intro c hc
    obtain rfl : c = ' ' := of_decide_eq_true hc
    decide

/-- The events of a stream: a message with the response. -/
def clauseStream (clause : List Char) : List Char :=
  "event: message\ndata:".toList ++ clauseJson clause ++ "\n\n".toList

end Case

end Tally.Analysis.EventStreams
