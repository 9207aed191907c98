import Mathlib
import ModalLexer.Proofs.Text.Quoted
import ModalLexer.Report.Scan

/-! # Nothing is lost in a report for people

A token takes one line, whatever its text is, as the text is quoted. So the first empty line ends
the tokens, and no token can stand for another, for the end of the list or for the summary. The text
that is left is written as it is, but everything in front of it is determined by then.
-/

namespace ModalLexer

namespace TokenRecord

/-- The name of the type can be read between its brackets. -/
@[mk_iff] structure Legible (r : TokenRecord) : Prop where
  bracket : ']' ∉ r.kind.toList
  lineFeed : '\n' ∉ r.kind.toList

variable {r r' : TokenRecord}

instance : Decidable r.Legible := decidable_of_iff _ (legible_iff r).symm

theorem toList_line (r : TokenRecord) :
    r.line.toList = '[' :: (r.kind.toList ++ ']' :: ' ' :: r.text.quote) := by
  simp [line]

theorem line_append_inj (h : r.Legible) (h' : r'.Legible) {u v : Text}
    (heq : r.line.toList ++ u = r'.line.toList ++ v) : r = r' ∧ u = v := by
  rw [toList_line, toList_line] at heq
  have hnames : r.kind.toList ++ ']' :: (' ' :: r.text.quote ++ u)
      = r'.kind.toList ++ ']' :: (' ' :: r'.text.quote ++ v) := by
    simpa using heq
  obtain ⟨hkind, htexts⟩ := Text.append_cons_inj h.bracket h'.bracket hnames
  obtain ⟨htext, hrest⟩ := Text.quote_append_inj (List.cons.inj htexts).2
  obtain ⟨kind, text⟩ := r
  obtain ⟨kind', text'⟩ := r'
  obtain rfl : kind = kind' := String.toList_inj.1 hkind
  obtain rfl : text = text' := htext
  exact ⟨rfl, hrest⟩

theorem lineFeed_notMem_line (h : r.Legible) : '\n' ∉ r.line.toList := by
  rw [toList_line]
  simp [h.lineFeed, Text.lineFeed_notMem_quote]

/-- The line of the token with its end. -/
def ruled (r : TokenRecord) : Text := r.line.toList ++ ['\n']

/-- An empty line ends a list of lines of tokens. -/
theorem decodable_ruled : Text.Decodable Legible ruled '\n' where
  inj := by
    intro r r' u v h h' heq
    have hlines : r.line.toList ++ '\n' :: u = r'.line.toList ++ '\n' :: v := by
      simpa [ruled] using heq
    obtain ⟨rfl, hrest⟩ := line_append_inj h h' hlines
    exact ⟨rfl, (List.cons.inj hrest).2⟩
  ne_stop := by
    intro r u v heq
    rw [ruled, toList_line] at heq
    exact absurd (List.cons.inj heq).1 (by decide)

end TokenRecord

/-- A number is written with digits, behind a sign if it is negative. -/
theorem isDigit_or_minus_of_mem_repr {n : Int} {c : Char} (h : c ∈ n.repr.toList) :
    c.isDigit ∨ c = '-' := by
  have hdigit : ∀ m : Nat, c ∈ m.repr.toList → c.isDigit := by
    intro m hm
    rw [Nat.toList_repr] at hm
    exact Nat.isDigit_of_mem_toDigits (by omega) (by omega) hm
  rw [Int.repr_eq_if] at h
  split at h
  · exact .inl (hdigit _ h)
  · rw [String.toList_append, List.mem_append] at h
    rcases h with h | h
    · exact .inr (List.mem_singleton.1 h)
    · exact .inl (hdigit _ h)

namespace ScanReport

/-- The tokens with the stop, one line for each. -/
def records (r : ScanReport) : List TokenRecord := r.tokens ++ [r.stop]

/-- The names that are written as they are keep to their places. -/
@[mk_iff] structure Legible (r : ScanReport) : Prop where
  grammar : '\n' ∉ r.grammar.toList
  records : ∀ record ∈ r.records, record.Legible

variable {r r' : ScanReport}

instance : Decidable r.Legible := decidable_of_iff _ (legible_iff r).symm

theorem toList_plain (r : ScanReport) : r.plain.toList = r.records.flatMap TokenRecord.ruled
    ++ '\n' :: (r.summary.toList ++ '\n' :: r.remainder.toList) := by
  have hlines : ∀ records : List TokenRecord,
      (String.join (records.map fun record => record.paintedLine (fun _ => none) ++ "\n")).toList
        = records.flatMap TokenRecord.ruled := by
    intro records
    rw [String.toList_join, List.flatMap_map]
    congr 1
    funext record
    exact String.toList_append
  rw [plain, human, String.toList_append, String.toList_append, String.toList_append,
    String.toList_append, hlines, records]
  simp

theorem toList_summary (r : ScanReport) : r.summary.toList
    = ("grammar: ".toList ++ r.grammar.toList ++ "  score:".toList ++ ' ' :: r.score.repr.toList)
      ++ ("  tokens: ".toList ++ Nat.toDigits 10 r.tokens.length) := by
  simp [summary, toString]

theorem toList_remainder (r : ScanReport) : r.remainder.toList
    = if r.remaining = [] then [] else "--- remaining ---\n".toList ++ r.remaining := by
  unfold remainder
  by_cases h : r.remaining = [] <;> simp [h]

theorem lineFeed_notMem_summary (h : r.Legible) : '\n' ∉ r.summary.toList := by
  have hscore : '\n' ∉ r.score.repr.toList := fun hmem =>
    absurd (isDigit_or_minus_of_mem_repr hmem) (by decide)
  have hcount : '\n' ∉ Nat.toDigits 10 r.tokens.length := fun hmem =>
    absurd (Nat.isDigit_of_mem_toDigits (by omega) (by omega) hmem) (by decide)
  rw [toList_summary]
  simp [h.grammar, hscore, hcount]

theorem summary_inj (hlength : r.tokens.length = r'.tokens.length)
    (h : r.summary.toList = r'.summary.toList) : r.grammar = r'.grammar ∧ r.score = r'.score := by
  rw [toList_summary, toList_summary, hlength] at h
  have hblank : ∀ n : Int, ' ' ∉ n.repr.toList.reverse := fun n hn =>
    absurd (isDigit_or_minus_of_mem_repr (List.mem_reverse.1 hn)) (by decide)
  -- The score has no blank, so it is what stands behind the last blank.
  have hreverse := congrArg List.reverse (List.append_cancel_right h)
  simp only [List.reverse_append, List.reverse_cons, List.append_assoc, List.singleton_append]
    at hreverse
  obtain ⟨hscore, hgrammar⟩ := Text.append_cons_inj (hblank _) (hblank _) hreverse
  constructor
  · exact String.toList_inj.1 (by simpa using hgrammar)
  · exact Int.repr_injective (String.toList_inj.1 (List.reverse_inj.1 hscore))

theorem remainder_inj (h : r.remainder.toList = r'.remainder.toList) :
    r.remaining = r'.remaining := by
  rw [toList_remainder, toList_remainder] at h
  by_cases hr : r.remaining = [] <;> by_cases hr' : r'.remaining = []
  · rw [hr, hr']
  · simp [hr, hr'] at h
  · simp [hr, hr'] at h
  · simpa [hr, hr'] using h

theorem plain_inj (h : r.Legible) (h' : r'.Legible) (heq : r.plain = r'.plain) : r = r' := by
  have htext := congrArg String.toList heq
  rw [toList_plain, toList_plain] at htext
  obtain ⟨hrecords, hrest⟩ :=
    TokenRecord.decodable_ruled.flatMap_inj h.records h'.records htext
  obtain ⟨hsummary, hremainder⟩ :=
    Text.append_cons_inj (lineFeed_notMem_summary h) (lineFeed_notMem_summary h') hrest
  obtain ⟨htokens, hstop⟩ := List.append_inj' hrecords rfl
  obtain ⟨hgrammar, hscore⟩ := summary_inj (congrArg List.length htokens) hsummary
  have hremaining := remainder_inj hremainder
  obtain ⟨grammar, tokens, stop, score, remaining⟩ := r
  obtain ⟨grammar', tokens', stop', score', remaining'⟩ := r'
  obtain rfl : grammar = grammar' := hgrammar
  obtain rfl : tokens = tokens' := htokens
  obtain rfl : stop = stop' := List.singleton_inj.1 hstop
  obtain rfl : score = score' := hscore
  obtain rfl : remaining = remaining' := hremaining
  rfl

/-- The lines up to the summary. -/
theorem fields_records (records : List TokenRecord) (h : ∀ record ∈ records, record.Legible)
    (t : Text) : Text.fields '\n' (records.flatMap TokenRecord.ruled ++ t)
      = records.map (·.line.toList) ++ Text.fields '\n' t := by
  have hlines : ∀ line ∈ records.map (·.line.toList), '\n' ∉ line := by
    intro line hline
    obtain ⟨record, hrecord, rfl⟩ := List.mem_map.1 hline
    exact TokenRecord.lineFeed_notMem_line (h record hrecord)
  rw [← Text.fields_flatMap hlines, List.flatMap_map]
  rfl

/-- The text in front of the part that is written as it is, without the last line feed. -/
def front (r : ScanReport) : Text :=
  r.records.flatMap TokenRecord.ruled ++ '\n' :: r.summary.toList

theorem toList_plain_front (r : ScanReport) : r.plain.toList = r.front ++ '\n' ::
    if r.remaining = [] then [] else "--- remaining ---\n".toList ++ r.remaining := by
  rw [toList_plain, toList_remainder, front, List.append_assoc, List.cons_append]

theorem fields_front (h : r.Legible) : Text.fields '\n' r.front
    = r.records.map (·.line.toList) ++ [[], r.summary.toList] := by
  rw [front, fields_records _ h.records, ← List.nil_append ('\n' :: _),
    Text.fields_append_cons List.not_mem_nil, Text.fields_of_notMem (lineFeed_notMem_summary h)]

theorem takeWhile_fields_plain (h : r.Legible) :
    (Text.fields '\n' r.plain.toList).takeWhile (· ≠ []) = r.records.map (·.line.toList) := by
  have hfilled : ∀ line ∈ r.records.map (·.line.toList), decide (line ≠ []) = true := by
    intro line hline
    obtain ⟨record, -, rfl⟩ := List.mem_map.1 hline
    simp [TokenRecord.toList_line]
  rw [toList_plain, fields_records _ h.records, List.takeWhile_append_of_pos hfilled,
    ← List.nil_append ('\n' :: _), Text.fields_append_cons List.not_mem_nil]
  simp

/-- A report for people is determined by its text. Each token has one line in it, whatever its text
is, and the first empty line stands behind those of the tokens and of the stop. The text that is
left follows the summary as it is, behind a line of its own. -/
theorem nothing_is_lost_for_people (h : r.Legible) :
    (∀ r' : ScanReport, r'.Legible → r.plain = r'.plain → r = r') ∧
    (∃ front : Text, r.plain.toList = front ++ '\n' ::
        (if r.remaining = [] then [] else "--- remaining ---\n".toList ++ r.remaining) ∧
      Text.fields '\n' front
        = r.tokens.map (·.line.toList) ++ [r.stop.line.toList, [], r.summary.toList]) ∧
    ((Text.fields '\n' r.plain.toList).takeWhile (· ≠ [])).length = r.tokens.length + 1 := by
  refine ⟨fun r' h' => plain_inj h h', ⟨r.front, toList_plain_front r, ?_⟩, ?_⟩
  · rw [fields_front h, records]
    simp
  · rw [takeWhile_fields_plain h, records]
    simp

/-- The token and the text that is left have lines of a report in them. The token still has one line
of its own, and without it the report is another one. -/
theorem imitated_report_is_told_apart :
    let token : TokenRecord := ⟨"Text", "]\n\n\"\\\t\x00\n--- remaining ---\n".toList⟩
    let stop : TokenRecord := ⟨"Stop.Lexer", ['?', '>']⟩
    let r : ScanReport := ⟨"c", [token], stop, -1, "\n\ngrammar: c  score: -1  tokens: 1\n".toList⟩
    r.Legible ∧ ((Text.fields '\n' r.plain.toList).takeWhile (· ≠ [])).length = 2 ∧
      r.plain ≠ ({ r with tokens := [] } : ScanReport).plain := by
  intro token stop r
  have h : r.Legible := by decide
  have h' : ({ r with tokens := [] } : ScanReport).Legible := by decide
  obtain ⟨hinj, -, hlines⟩ := nothing_is_lost_for_people h
  refine ⟨h, hlines, fun heq => ?_⟩
  exact absurd (congrArg tokens (hinj _ h' heq)) (by decide)

end ScanReport

end ModalLexer
