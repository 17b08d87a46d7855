import PrefixCalc.Proofs.CanonicalText
import PrefixCalc.Proofs.ExactArithmetic
import PrefixCalc.Proofs.ServiceLimits

/-!
# Spacing

What blanks may change in the answer to an expression: the columns of its tokens, the expression
that a result names, and nothing else. The reader looks at lexemes and never at columns, so a
reader without columns comes to the same tree or to the same complaint at the same lexeme
(`Reader.walk`), and a column is only what the place of that lexeme comes to in one text
(`Halt.inText`). Two expressions with the same lexemes are therefore answered alike
(`Service.Alike`), as long as neither is too long.

Trimming an expression takes blanks from its ends, and these stand around its tokens; so they
count neither toward the limit nor toward a column. The trimmed text is empty exactly when there
are no tokens, and then the reader is not called: whatever a reader says of a text without tokens,
no caller of the service hears of it (`Service.readBy`).

## Main results

* `Reader.run_eq_walk`, `Tree.parse_trim`: reading is reading lexemes, and finding a column.
* `Text.trimEnds_append`, `lexemes_trim`: blanks at the ends.
* `Service.answers_alike`: expressions with the same lexemes are answered alike.
-/

namespace PrefixCalc

/-! ### Reading without columns -/

/-- Why a sequence of lexemes is no line, and how many lexemes stand before the one that is
refused. Behind the last lexeme these are all. -/
structure Halt where
  complaint : Complaint
  place : Nat

/-- The column of the token that so many others stand before in a text, or the column behind the
text. -/
def Token.columnAt (text : String) (place : Nat) : Nat :=
  ((scan text)[place]?).elim (text.length + 1) column

/-- What the reader reports of a text when it halts at one of its lexemes. -/
def Halt.inText (h : Halt) (text : String) : ReadError where
  complaint := h.complaint
  column := Token.columnAt text h.place

namespace Reader

variable {parenthesised : Bool}

/-- The tree of a sequence of lexemes that so many others stand before, from where the reader
stands. -/
def walk (parenthesised : Bool) : State → Nat → List Lexeme → Except Halt Tree
  | s, place, [] => (finish parenthesised s).mapError (⟨·, place⟩)
  | s, place, l :: ls =>
    match step parenthesised s l with
    | .ok s => walk parenthesised s (place + 1) ls
    | .error c => .error ⟨c, place⟩

/-- **A run over tokens is a walk over their lexemes**, and a column is looked up where it
halts. -/
theorem run_eq_walk {s : State} {text : String} {place : Nat} {ts : List Token}
    (h : (Token.scan text).drop place = ts) :
    run parenthesised (text.length + 1) s ts =
      (walk parenthesised s place (ts.map Token.lexeme)).mapError fun h => h.inText text := by
  induction ts generalizing s place with
  | nil =>
      have hnone : (Token.scan text)[place]? = none :=
        List.getElem?_eq_none (List.drop_eq_nil_iff.mp h)
      rw [run, List.map_nil, walk]
      cases finish parenthesised s with
      | ok t => rfl
      | error c => simp [Except.mapError, Halt.inText, Token.columnAt, hnone]
  | cons t ts ih =>
      have hsome : (Token.scan text)[place]? = some t := by
        rw [← List.head?_drop, h, List.head?_cons]
      have hrest : (Token.scan text).drop (place + 1) = ts := by
        rw [← List.tail_drop, h, List.tail_cons]
      rw [run, List.map_cons, walk]
      cases step parenthesised s t.lexeme with
      | ok later => exact ih hrest
      | error c => simp [Except.mapError, Halt.inText, Token.columnAt, hsome]

end Reader

/-- The tree of a sequence of lexemes. -/
def Tree.ofLexemes (ls : List Lexeme) : Except Halt Tree :=
  if ls.isEmpty then .error ⟨.expectedOperator, 0⟩
  else
    let parenthesised := isParenthesised ls
    let place := if parenthesised then 1 else 0
    Reader.walk parenthesised (.opening []) place (ls.drop place)

/-- A text with lexemes is read by its lexemes. -/
theorem Tree.parse_eq_ofLexemes {text : String} (h : lexemes text ≠ []) :
    parse text = (ofLexemes (lexemes text)).mapError fun h => h.inText text := by
  have hplace : (if isParenthesised (lexemes text) then (Token.scan text).drop 1
      else Token.scan text) =
      (Token.scan text).drop (if isParenthesised (lexemes text) then 1 else 0) := by
    split <;> rfl
  have hnonempty : ¬ (lexemes text).isEmpty = true := by rwa [List.isEmpty_iff]
  rw [parse_eq_run h, hplace, Reader.run_eq_walk rfl, ofLexemes, if_neg hnonempty, List.map_drop]
  rfl

/-! ### Blanks at the ends of a text -/

namespace Text

/-- A text of blanks alone. -/
def Blank (s : String) : Prop :=
  ∀ c ∈ s.toList, isBlank c = true

instance (s : String) : Decidable (Blank s) :=
  decidable_of_iff (s.toList.all isBlank = true) List.all_eq_true

variable {p : Char → Bool} {before cs behind : List Char}

/-- What is trimmed may be put to the ends of a text before it is trimmed. -/
theorem trimEnds_append (hbefore : ∀ c ∈ before, p c = true) (hbehind : ∀ c ∈ behind, p c = true) :
    trimEnds p (before ++ cs ++ behind) = trimEnds p cs := by
  have hreverse : ∀ c ∈ behind.reverse, p c = true := fun c hc =>
    hbehind c (List.mem_reverse.mp hc)
  rw [trimEnds, trimEnds, List.append_assoc, List.dropWhile_append_of_pos hbefore,
    List.dropWhile_append]
  split
  · next hnone =>
      rw [List.isEmpty_iff] at hnone
      have hall : behind.dropWhile p = [] := List.dropWhile_eq_nil_iff.mpr hbehind
      rw [hnone, hall]
  · rw [List.reverse_append, List.dropWhile_append_of_pos hreverse]

/-- What is trimmed stands at the ends of a text. -/
theorem exists_append_trimEnds (p : Char → Bool) (cs : List Char) :
    ∃ before behind, (∀ c ∈ before, p c = true) ∧ (∀ c ∈ behind, p c = true) ∧
      cs = before ++ trimEnds p cs ++ behind := by
  refine ⟨cs.takeWhile p, ((cs.dropWhile p).reverse.takeWhile p).reverse, ?_, ?_, ?_⟩
  · exact fun c hc => List.mem_takeWhile_imp hc
  · exact fun c hc => List.mem_takeWhile_imp (List.mem_reverse.mp hc)
  · rw [trimEnds, List.append_assoc, ← List.reverse_append, List.takeWhile_append_dropWhile,
      List.reverse_reverse, List.takeWhile_append_dropWhile]

theorem trim_append {before text behind : String} (hbefore : Blank before)
    (hbehind : Blank behind) : trim (before ++ text ++ behind) = trim text := by
  rw [trim, trim, String.toList_append, String.toList_append, trimEnds_append hbefore hbehind]

theorem length_trim_le (text : String) : (trim text).length ≤ text.length := by
  obtain ⟨before, behind, -, -, heq⟩ := exists_append_trimEnds isBlank text.toList
  have hlength := congrArg List.length heq
  rw [List.length_append, List.length_append, ← toList_trim, String.length_toList,
    String.length_toList] at hlength
  omega

end Text

/-! ### Tokens and blanks -/

theorem lexemesOf_blanks_append {before : List Char} (h : ∀ c ∈ before, Text.isBlank c = true)
    (cs : List Char) : lexemesOf (before ++ cs) = lexemesOf cs := by
  induction before with
  | nil => rfl
  | cons c before ih =>
      rw [List.forall_mem_cons] at h
      rw [List.cons_append, lexemesOf_blank h.1, ih h.2]

namespace Token

variable {reversed : List Char} {column : Nat} {cs : List Char}

/-- There are no tokens in blanks. -/
theorem scanFrom_blanks {behind : List Char} (h : ∀ c ∈ behind, Text.isBlank c = true)
    (reversed : List Char) (column : Nat) :
    scanFrom reversed column behind = endAtom reversed column := by
  induction behind generalizing reversed column with
  | nil => rfl
  | cons c behind ih =>
      rw [List.forall_mem_cons] at h
      rw [scanFrom_blank h.1, ih h.2, endAtom_nil, List.append_nil]

/-- Blanks behind a text make no tokens. -/
theorem scanFrom_append_blanks {behind : List Char} (h : ∀ c ∈ behind, Text.isBlank c = true)
    (reversed : List Char) (column : Nat) (cs : List Char) :
    scanFrom reversed column (cs ++ behind) = scanFrom reversed column cs := by
  induction cs generalizing reversed column with
  | nil => exact scanFrom_blanks h reversed column
  | cons c cs ih =>
      rw [List.cons_append]
      rcases char_cases c with rfl | rfl | hc | hc
      · rw [scanFrom_opening, scanFrom_opening, ih]
      · rw [scanFrom_closing, scanFrom_closing, ih]
      · rw [scanFrom_blank hc, scanFrom_blank hc, ih]
      · rw [scanFrom_atomChar hc, scanFrom_atomChar hc, ih]

/-- A text without tokens is blank. -/
theorem forall_isBlank_of_scanFrom_eq_nil (h : scanFrom reversed column cs = []) :
    reversed = [] ∧ ∀ c ∈ cs, Text.isBlank c = true := by
  have hend : ∀ {reversed column}, endAtom reversed column = [] → reversed = [] := by
    intro reversed column h
    by_contra hne
    rw [endAtom_of_ne_nil hne] at h
    cases h
  induction cs generalizing reversed column with
  | nil => exact ⟨hend h, fun c hc => by cases hc⟩
  | cons c cs ih =>
      rcases char_cases c with rfl | rfl | hc | hc
      · rw [scanFrom_opening] at h
        exact absurd h (by simp)
      · rw [scanFrom_closing] at h
        exact absurd h (by simp)
      · rw [scanFrom_blank hc, List.append_eq_nil_iff] at h
        exact ⟨hend h.1, List.forall_mem_cons.mpr ⟨hc, (ih h.2).2⟩⟩
      · rw [scanFrom_atomChar hc] at h
        exact absurd (ih h).1 (by simp)

end Token

/-- **Trimming a text leaves its lexemes.** -/
theorem lexemes_trim (text : String) : lexemes (Text.trim text) = lexemes text := by
  obtain ⟨before, behind, hbefore, hbehind, heq⟩ :=
    Text.exists_append_trimEnds Text.isBlank text.toList
  rw [lexemes_eq_lexemesOf, lexemes_eq_lexemesOf text, heq, List.append_assoc,
    lexemesOf_blanks_append hbefore, lexemesOf, lexemesOf, Token.scanFrom_append_blanks hbehind,
    Text.toList_trim]

theorem lexemes_eq_nil_iff {text : String} : lexemes text = [] ↔ Token.scan text = [] := by
  rw [lexemes, List.map_eq_nil_iff]

/-- **Nothing is left of a trimmed text exactly when there are no tokens in it.** -/
theorem trim_isEmpty_iff {text : String} :
    (Text.trim text).isEmpty = true ↔ Token.scan text = [] := by
  rw [String.isEmpty_iff]
  constructor
  · intro h
    rw [← lexemes_eq_nil_iff, ← lexemes_trim, h]
    rfl
  · intro h
    have hblank := (Token.forall_isBlank_of_scanFrom_eq_nil h).2
    have hnone := @Text.trimEnds_append Text.isBlank text.toList [] [] hblank (by simp)
    rw [List.append_nil, List.append_nil] at hnone
    rw [Text.trim, hnone]
    rfl

/-- **A trimmed text is read by its lexemes**, and a column is looked up in the trimmed text. -/
theorem Tree.parse_trim (text : String) (h : Token.scan text ≠ []) :
    parse (Text.trim text) =
      (ofLexemes (lexemes text)).mapError fun h => h.inText (Text.trim text) := by
  have hne : lexemes (Text.trim text) ≠ [] := by rwa [lexemes_trim, Ne, lexemes_eq_nil_iff]
  rw [parse_eq_ofLexemes hne, lexemes_trim]

/-! ### Answers to expressions with the same lexemes -/

namespace Service

variable {s : Service} {text : String}

/-- What a service with some reader in place of its own says of an expression. -/
def readBy (reader : String → Except ReadError Tree) (s : Service) (expression : String) :
    Except Fault Tree :=
  let cleaned := Text.trim expression
  if cleaned.isEmpty then .error (.failure emptyExpression)
  else if s.limit < cleaned.length then
    match Decimal.write s.limit with
    | .ok limit =>
      .error (.failure (.ofText .parse ("Expression exceeds " ++ limit ++ " characters.")))
    | .error u => .error (.ofUnwritable u)
  else (reader cleaned).mapError fun e => .failure (.ofReadError source e)

theorem read_eq_readBy (s : Service) (text : String) :
    s.read text = s.readBy Tree.parse text := by
  cases hwrite : Decimal.write s.limit <;> simp only [read, readBy, hwrite]

/-- **What a reader says of a text without tokens is never heard**: a service reads alike with
every reader that knows what to say of the others. -/
theorem readBy_eq_read {reader : String → Except ReadError Tree}
    (h : ∀ text, Token.scan text ≠ [] → reader text = Tree.parse text) (s : Service)
    (text : String) : s.readBy reader text = s.read text := by
  rw [read_eq_readBy, readBy, readBy]
  by_cases hempty : (Text.trim text).isEmpty = true
  · rw [if_pos hempty, if_pos hempty]
  · have hscan : Token.scan (Text.trim text) ≠ [] := by
      rw [Ne, ← trim_isEmpty_iff, Text.trim_trim]
      exact hempty
    rw [h _ hscan]

theorem read_of_scan_eq_nil (h : Token.scan text = []) :
    s.read text = .error (.failure emptyExpression) := by
  rw [read, if_pos (trim_isEmpty_iff.mpr h)]

/-- A text that is not too long is read by its lexemes. -/
theorem read_of_length_le (h : Token.scan text ≠ []) (hshort : (Text.trim text).length ≤ s.limit) :
    s.read text = (Tree.ofLexemes (lexemes text)).mapError fun h =>
      .failure (.ofReadError source (h.inText (Text.trim text))) := by
  rw [read, if_neg (by rwa [trim_isEmpty_iff]), if_neg (Int.not_lt.mpr hshort),
    Tree.parse_trim text h]
  cases Tree.ofLexemes (lexemes text) <;> rfl

/-- Blanks around an expression show only in the expression that a result names. -/
theorem answer_append {before behind : String} (hbefore : Text.Blank before)
    (hbehind : Text.Blank behind) (s : Service) (text : String) :
    (s.evaluate (before ++ text ++ behind)).answer =
      (s.evaluate text).answer.map fun r => { r with expression := before ++ text ++ behind } := by
  refine answer_of_read_eq ?_
  rw [read, read, Text.trim_append hbefore hbehind]

/-- The message for an expression without tokens is the answer to no other expression. -/
theorem message_eq_empty_iff :
    (∃ f, (s.evaluate text).answer = .error (.failure f) ∧
      f.message = .text "Expression cannot be empty.") ↔ Token.scan text = [] := by
  constructor
  · rintro ⟨f, hanswer, hmessage⟩
    rw [← trim_isEmpty_iff]
    by_contra hempty
    rcases evaluate_cases s text with ⟨g, hread, heq⟩ | ⟨t, v, -, heq⟩
    · rw [heq] at hanswer
      cases hanswer
      rw [read, if_neg hempty] at hread
      by_cases hlong : s.limit < (Text.trim text).length
      · rw [if_pos hlong] at hread
        cases hwrite : Decimal.write s.limit <;> rw [hwrite] at hread <;> cases hread
        have hchars := congrArg String.toList (Json.text.inj hmessage)
        simp at hchars
      · rw [if_neg hlong] at hread
        cases hparse : Tree.parse (Text.trim text) <;> rw [hparse] at hread <;> cases hread
        have hchars := congrArg String.toList (Json.text.inj hmessage)
        simp [ReadError.message, source] at hchars
    · rw [heq] at hanswer
      cases hvalue : Evaluation.ofValue text v <;> rw [hvalue] at hanswer <;> cases hanswer
  · intro h
    exact ⟨_, answer_of_read_error (read_of_scan_eq_nil h), rfl⟩

/-- The answers to two expressions when layout is all that tells them apart. -/
inductive Alike (s : Service) (a b : String) :
    Except Fault Evaluation → Except Fault Evaluation → Prop
  /-- Both are results, which differ in the expression that they name. -/
  | result (r : Evaluation) :
      Alike s a b (.ok { r with expression := a }) (.ok { r with expression := b })
  /-- Both are refused, for the same reason and at the same token, and each failure gives the
  column that this token has in the trimmed expression. -/
  | refused (h : Halt) :
      Alike s a b (.error (.failure (.ofReadError source (h.inText (Text.trim a)))))
        (.error (.failure (.ofReadError source (h.inText (Text.trim b)))))
  /-- Both are without tokens. -/
  | empty : Alike s a b (.error (.failure emptyExpression)) (.error (.failure emptyExpression))
  /-- Both come to the same number, which has too many digits to be written. -/
  | unwritten (n : Int) (hlimit : (Decimal.maxDigits : Int) + 2 < s.limit)
      (hdigits : Decimal.maxDigits < Decimal.digitCount n)
      (ha : ∃ t, s.read a = .ok t ∧ t.evaluate = .ok (.number n))
      (hb : ∃ t, s.read b = .ok t ∧ t.evaluate = .ok (.number n)) :
      Alike s a b (.error (.escape (.unwritable .tooManyDigits)))
        (.error (.escape (.unwritable .tooManyDigits)))

/-- **Expressions with the same lexemes are answered alike**, if neither is too long. -/
theorem answers_alike {a b : String} (h : lexemes a = lexemes b)
    (ha : (Text.trim a).length ≤ s.limit) (hb : (Text.trim b).length ≤ s.limit) :
    s.Alike a b (s.evaluate a).answer (s.evaluate b).answer := by
  have hscan : Token.scan a = [] ↔ Token.scan b = [] := by
    rw [← lexemes_eq_nil_iff, h, lexemes_eq_nil_iff]
  by_cases hnone : Token.scan a = []
  · rw [answer_of_read_error (read_of_scan_eq_nil hnone),
      answer_of_read_error (read_of_scan_eq_nil (hscan.mp hnone))]
    exact .empty
  · have hreada := read_of_length_le hnone ha
    have hreadb := read_of_length_le (mt hscan.mpr hnone) hb
    rw [← h] at hreadb
    cases htree : Tree.ofLexemes (lexemes a) with
    | error halt =>
        rw [htree] at hreada hreadb
        rw [answer_of_read_error hreada, answer_of_read_error hreadb]
        exact .refused halt
    | ok t =>
        rw [htree] at hreada hreadb
        change s.read a = .ok t at hreada
        change s.read b = .ok t at hreadb
        rw [answer_of_read_eq (hreadb.trans hreada.symm)]
        cases hanswer : (s.evaluate a).answer with
        | ok r =>
            obtain rfl := expression_of_answer hanswer
            exact .result r
        | error f =>
            obtain ⟨v, hv⟩ := exists_evaluate_of_read hreada
            obtain ⟨n, rfl, hdigits, rfl⟩ := number_of_answer_error hreada hv hanswer
            refine .unwritten n (Int.not_le.mp fun hlimit => ?_) hdigits ⟨t, hreada, hv⟩
              ⟨t, hreadb, hv⟩
            exact absurd (digitCount_le_of_parse (read_eq_ok_iff.mp hreada).2 hv ha hlimit)
              (Nat.not_le.mpr hdigits)

end Service

/-! ### Lines of literals -/

/-- An operator and literals in a line without parentheses, with a gap before each literal. -/
def flatLine (gap operator : String) (literals : List String) : String :=
  String.ofList (operator.toList ++ literals.flatMap fun l => gap.toList ++ l.toList)

section FlatLine

variable {gap operator : String} {literals : List String}

theorem lexemesOf_gaps (hgap : Text.Blank gap) (hne : gap.toList ≠ [])
    (h : ∀ l ∈ literals, Tree.isAtomText l = true) :
    EndsAtom (literals.flatMap fun l => gap.toList ++ l.toList) ∧
      lexemesOf (literals.flatMap fun l => gap.toList ++ l.toList) = literals.map .atom := by
  induction literals with
  | nil => exact ⟨endsAtom_nil, rfl⟩
  | cons l literals ih =>
      rw [List.forall_mem_cons] at h
      obtain ⟨hends, hlexemes⟩ := ih h.2
      rw [List.flatMap_cons, List.append_assoc]
      constructor
      · obtain ⟨c, rest, hcons⟩ := List.exists_cons_of_ne_nil hne
        have hc : Text.isBlank c = true := hgap c (by rw [hcons]; exact List.mem_cons_self)
        rw [hcons]
        exact endsAtom_cons (by simp [isAtomChar, hc]) _
      · rw [lexemesOf_blanks_append hgap, lexemesOf_atom_append h.1 hends, hlexemes]
        rfl

theorem lexemes_flatLine (hgap : Text.Blank gap) (hne : gap.toList ≠ [])
    (hoperator : Tree.isAtomText operator = true)
    (h : ∀ l ∈ literals, Tree.isAtomText l = true) :
    lexemes (flatLine gap operator literals) = .atom operator :: literals.map .atom := by
  obtain ⟨hends, hlexemes⟩ := lexemesOf_gaps hgap hne h
  rw [lexemes_eq_lexemesOf, flatLine, String.toList_ofList,
    lexemesOf_atom_append hoperator hends, hlexemes]

theorem yieldAll_map_leaf (literals : List String) :
    Tree.yieldAll (literals.map .leaf) = literals.map .atom := by
  induction literals with
  | nil => rw [List.map_nil, List.map_nil, Tree.yieldAll_nil]
  | cons l literals ih =>
      rw [List.map_cons, List.map_cons, Tree.yieldAll_cons, Tree.yield_leaf, ih,
        List.singleton_append]

/-- A line of literals is read as the application of its operator to them. -/
theorem parse_flatLine (hgap : Text.Blank gap) (hne : gap.toList ≠ [])
    (hoperator : Tree.isOperatorText operator = true) (hsome : literals ≠ [])
    (h : ∀ l ∈ literals, Tree.isAtomText l = true) :
    Tree.parse (Text.trim (flatLine gap operator literals)) =
      .ok (.application operator (literals.map .leaf)) := by
  refine Tree.parse_eq_ok_iff.mpr ⟨Tree.wellFormed_application.mpr ⟨hoperator, ?_, ?_, ?_⟩, .inl ?_⟩
  · simpa using hsome
  · intro t ht
    obtain ⟨l, hl, rfl⟩ := List.mem_map.mp ht
    rw [Tree.isProper]
    exact h l hl
  · intro t ht
    obtain ⟨l, -, rfl⟩ := List.mem_map.mp ht
    rw [Tree.depth_leaf]
    exact Nat.zero_le _
  · rw [lexemes_trim, lexemes_flatLine hgap hne (Tree.isAtomText_of_isOperatorText hoperator) h,
      Tree.line, yieldAll_map_leaf]

end FlatLine

/-! ### A product with too many digits -/

/-- The greatest literal, multiplied with itself until 230 of them are taken. -/
def longProduct (gap : String) : String :=
  flatLine gap "*" (List.replicate 230 "9223372036854775807")

section LongProduct

variable {gap : String}

theorem lexemes_longProduct (hgap : Text.Blank gap) (hne : gap.toList ≠ []) :
    lexemes (longProduct gap) =
      .atom "*" :: (List.replicate 230 "9223372036854775807").map .atom := by
  refine lexemes_flatLine hgap hne (by decide) fun l hl => ?_
  rw [List.eq_of_mem_replicate hl]
  decide

theorem parse_longProduct (hgap : Text.Blank gap) (hne : gap.toList ≠ []) :
    Tree.parse (Text.trim (longProduct gap)) =
      .ok (.application "*" (List.replicate 230 (.leaf "9223372036854775807"))) := by
  have h := @parse_flatLine gap "*" (List.replicate 230 "9223372036854775807") hgap hne
    (by decide) (by simp) fun l hl => by rw [List.eq_of_mem_replicate hl]; decide
  rwa [List.map_replicate] at h

theorem length_longProduct (gap : String) :
    (longProduct gap).length = 1 + 230 * (gap.length + 19) := by
  have hoperator : "*".length = 1 := rfl
  have hliteral : "9223372036854775807".length = 19 := rfl
  rw [longProduct, flatLine, String.length_ofList, List.length_append, List.length_flatMap,
    List.map_replicate, List.sum_replicate_nat, List.length_append]
  simp only [String.length_toList, hoperator, hliteral]

theorem length_trim_longProduct_le (hgap : gap.length = 1) :
    (Text.trim (longProduct gap)).length ≤ 5000 := by
  have htrim := Text.length_trim_le (longProduct gap)
  rw [length_longProduct, hgap] at htrim
  omega

/-- The product of that many numbers has more than 4300 digits. -/
theorem evaluate_longProduct :
    ∃ n, (Tree.application "*" (List.replicate 230 (.leaf "9223372036854775807"))).evaluate =
      .ok (.number n) ∧ Decimal.maxDigits < Decimal.digitCount n := by
  have hleaves : ∀ k, Tree.EvaluateTo (List.replicate k (.leaf "9223372036854775807"))
      (List.replicate k 9223372036854775807) := by
    intro k
    induction k with
    | zero => exact .nil
    | succ k ih => exact .cons rfl ih
  have hevaluate := Tree.evaluate_application_numbers (hleaves 230) (by simp) "*"
  refine ⟨_, hevaluate, Nat.not_le.mp ?_⟩
  rw [Decimal.digitCount_le_iff (by decide), List.prod_replicate, ← pow_succ', Int.natAbs_pow]
  refine Nat.not_lt.mpr ?_
  have hten : 10 ^ 189 ≤ 9223372036854775807 ^ 10 := by decide
  calc 10 ^ Decimal.maxDigits ≤ 10 ^ (189 * 23) := Nat.pow_le_pow_right (by decide) (by decide)
    _ = (10 ^ 189) ^ 23 := pow_mul _ _ _
    _ ≤ (9223372036854775807 ^ 10) ^ 23 := Nat.pow_le_pow_left hten 23
    _ = 9223372036854775807 ^ (10 * 23) := (pow_mul _ _ _).symm

end LongProduct

namespace Service

/-- A service that accepts the product has no result for it, and no failure. -/
theorem answer_longProduct {s : Service} {gap : String} (hgap : Text.Blank gap)
    (hne : gap.toList ≠ []) (hlimit : (Text.trim (longProduct gap)).length ≤ s.limit) :
    (s.evaluate (longProduct gap)).answer = .error (.escape (.unwritable .tooManyDigits)) := by
  obtain ⟨n, hevaluate, hdigits⟩ := evaluate_longProduct
  have hread := read_eq_ok_iff.mpr ⟨hlimit, parse_longProduct hgap hne⟩
  exact answer_of_tooManyDigits hread hevaluate hdigits

/-! ### Layout -/

/-- **Layout changes no meaning.** Two expressions with the same lexemes, neither of them too long,
are answered alike: with results that differ in the expression only, with failures at the same
token in its own column of each trimmed expression, with the failure for an expression without
tokens, or with the escape of a number that has too many digits, which takes a limit of more than
4302. Blanks around an expression, of any number, count toward no limit and no column. The failure
for an empty expression answers the expressions without tokens and no others, so it does not
matter what the reader has to say of them. -/
theorem layout_changes_no_meaning (s : Service) :
    (∀ a b, lexemes a = lexemes b → (Text.trim a).length ≤ s.limit →
      (Text.trim b).length ≤ s.limit →
        s.Alike a b (s.evaluate a).answer (s.evaluate b).answer) ∧
      (∀ before text behind, Text.Blank before → Text.Blank behind →
        (s.evaluate (before ++ text ++ behind)).answer =
          (s.evaluate text).answer.map fun r =>
            { r with expression := before ++ text ++ behind }) ∧
      (∀ text, (∃ f, (s.evaluate text).answer = .error (.failure f) ∧
        f.message = .text "Expression cannot be empty.") ↔ Token.scan text = []) ∧
      ∀ reader : String → Except ReadError Tree,
        (∀ text, Token.scan text ≠ [] → reader text = Tree.parse text) →
          ∀ text, s.readBy reader text = s.read text :=
  ⟨fun _ _ => answers_alike, fun _ text _ hbefore hbehind => answer_append hbefore hbehind s text,
    fun _ => message_eq_empty_iff, fun _ h => readBy_eq_read h s⟩

/-- A missing operand is reported at the same parenthesis, in the seventh column and in the third;
and it does not matter that a reader is wrong about texts without tokens. -/
theorem layout_changes_no_meaning_of_missing_operand :
    let s : Service := {}
    let a := " (\u3000/ \t\n)\u2028"
    let reader text := if Token.scan text = [] then .ok (.leaf "0") else Tree.parse text
    lexemes a = lexemes "(/)" ∧ s.Alike a "(/)" (s.evaluate a).answer (s.evaluate "(/)").answer ∧
      (s.evaluate ("\t" ++ "(/)" ++ " ")).answer = (s.evaluate "(/)").answer.map (fun r =>
        { r with expression := "\t" ++ "(/)" ++ " " }) ∧
      s.readBy reader " \n" = s.read " \n" := by
  intro s a reader
  obtain ⟨halike, happend, -, hreader⟩ := layout_changes_no_meaning s
  have hlexemes : lexemes a = lexemes "(/)" := by decide
  refine ⟨hlexemes, halike _ _ hlexemes (by decide) (by decide), ?_, ?_⟩
  · exact happend "\t" "(/)" " " (by decide) (by decide)
  · exact hreader reader (fun text h => if_neg h) " \n"

/-- With a limit of 5000, a product of 230 numbers has neither a result nor a failure, whether its
numbers stand behind blanks or behind tabs. -/
theorem no_answer_to_long_products :
    let s : Service := { limit := 5000 }
    let a := longProduct " "
    let b := longProduct "\t"
    lexemes a = lexemes b ∧ (Text.trim a).length ≤ s.limit ∧ (Text.trim b).length ≤ s.limit ∧
      (∀ r, (s.evaluate a).answer ≠ .ok r) ∧ (∀ r, (s.evaluate b).answer ≠ .ok r) ∧
      (∀ f, (s.evaluate a).answer ≠ .error (.failure f)) ∧
      ∀ f, (s.evaluate b).answer ≠ .error (.failure f) := by
  intro s a b
  have hlength : ∀ {gap : String}, gap.length = 1 →
      (Text.trim (longProduct gap)).length ≤ s.limit := fun hgap =>
    Int.ofNat_le.mpr (length_trim_longProduct_le hgap)
  have hblank : Text.Blank " " := by decide
  have htab : Text.Blank "\t" := by decide
  have ha := answer_longProduct hblank (by decide) (hlength rfl)
  have hb := answer_longProduct htab (by decide) (hlength rfl)
  refine ⟨?_, hlength rfl, hlength rfl, ?_, ?_, ?_, ?_⟩
  · rw [lexemes_longProduct hblank (by decide), lexemes_longProduct htab (by decide)]
  · simp [a, ha]
  · simp [b, hb]
  · simp [a, ha]
  · simp [b, hb]

end Service

end PrefixCalc
