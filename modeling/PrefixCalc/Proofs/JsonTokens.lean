import Mathlib.Data.List.TakeWhile
import PrefixCalc.Json.Text
import PrefixCalc.Proofs.Growth
import PrefixCalc.Proofs.RealFormat
import PrefixCalc.Proofs.RealTexts

/-!
# Tokens of JSON Are Scanned as They Are Written

The scanner finds in the concatenated texts of tokens the tokens themselves. Marks and texts end
where they end, so nothing has to be known of what follows them. A word ends only at a character
that no word holds, so the text behind it must start with one at which the scanner goes on
(`EndsWord`); that is so when no word stands directly before another (`Readable`).

A floating-point number may be scanned as another one (`Token.reread`): which number its text stands
for is not looked at. A broken text has no text, so that it is never scanned.

## Main results

* `Word.ofChars_text`: an integer is read from its digits.
* `scanFrom_quoted`: a text is read from between its quotes, escapes and all.
* `scan_join_of_readable`: readable tokens are scanned from their texts.
-/

namespace PrefixCalc

/-- Two steps come to a value when each does. -/
theorem bind_eq_ok_iff {ε α β : Type} {x : Except ε α} {f : α → Except ε β} {b : β} :
    x >>= f = .ok b ↔ ∃ a, x = .ok a ∧ f a = .ok b := by
  cases x with
  | error e =>
      constructor
      · intro h
        cases h
      · rintro ⟨a, h, -⟩
        cases h
  | ok a => exact ⟨fun h => ⟨a, rfl, h⟩, fun ⟨_, ha, h⟩ => by cases ha; exact h⟩

namespace Json

/-! ### Words -/

namespace Word

/-- No named constant has a digit in it. -/
theorem ofChars_eq_ofNumeral {cs : List Char} (h : ∃ c ∈ cs, c.isDigit = true) :
    ofChars? cs = ofNumeral? cs := by
  have hne : ∀ name : String, name.toList.any Char.isDigit = false → String.ofList cs ≠ name := by
    rintro name hletters rfl
    rw [String.toList_ofList, List.any_eq_false] at hletters
    obtain ⟨c, hc, hdigit⟩ := h
    exact hletters c hc hdigit
  unfold ofChars?
  split
  · next heq => exact absurd heq (hne _ rfl)
  · next heq => exact absurd heq (hne _ rfl)
  · next heq => exact absurd heq (hne _ rfl)
  · next heq => exact absurd heq (hne _ rfl)
  · next heq => exact absurd heq (hne _ rfl)
  · next heq => exact absurd heq (hne _ rfl)
  · rfl

/-- An integer that can be written is read from its text. -/
theorem ofChars_text {n : Int} (h : Decimal.writable n = true) :
    ofChars? (Decimal.text n).toList = some (.int n) := by
  have hdigits : ∀ c ∈ Nat.toDigits 10 n.natAbs, c.isDigit = true :=
    fun c => Decimal.isDigit_of_mem_toDigits
  have hrun : digitRun (Nat.toDigits 10 n.natAbs) = (Nat.toDigits 10 n.natAbs, []) := by
    rw [← digitRun_append hdigits (by simp), List.append_nil]
  have hplain := isWhole_of_noLeadingZero ⟨Nat.toDigits_ne_nil, hdigits⟩
    (Decimal.noLeadingZero_toDigits n.natAbs)
  have hlength : (Nat.toDigits 10 n.natAbs).length ≤ Decimal.maxDigits := by
    have hcount := Decimal.writable_iff.mp h
    rwa [Decimal.digitCount, ← String.length_toList, Nat.toList_repr] at hcount
  have hvalue : Decimal.ofDigits (Nat.toDigits 10 n.natAbs) = n.natAbs :=
    Nat.ofDigitChars_toDigits (by decide) (by decide)
  have hdigit : ∃ c ∈ (Decimal.text n).toList, c.isDigit = true := by
    obtain ⟨c, hc⟩ := List.exists_mem_of_ne_nil _ (Nat.toDigits_ne_nil (b := 10) (n := n.natAbs))
    rw [Decimal.toList_text]
    exact ⟨c, List.mem_append_right _ hc, hdigits c hc⟩
  rw [ofChars_eq_ofNumeral hdigit, ofNumeral?, Decimal.splitSign_text]
  simp only [hrun, hplain, fractionPart, exponentPart, Option.bind_eq_bind, Option.bind_some,
    List.isEmpty_nil, Option.isNone_none, Bool.and_self, if_true, Bool.false_eq_true, if_false,
    if_pos hlength, hvalue, Decimal.signed_natAbs]

/-- The word that the text of a word is read as: only a floating-point number may become another
one. -/
def reread : Word → Word
  | .real x => (ofChars? x.text.toList).getD (.real x)
  | w => w

/-- A floating-point number in the word is in the format. -/
def InFormat : Word → Prop
  | .real x => x.InFormat
  | _ => True

end Word

theorem isWordChar_of_mem_text {n : Int} {c : Char} (h : c ∈ (Decimal.text n).toList) :
    isWordChar c = true := by
  rcases Decimal.mem_text h with rfl | hc
  · decide
  · exact isWordChar_of_isDigit hc

/-- A word is written with word characters, and read from them. -/
theorem Word.ofChars_write {w : Word} (hformat : w.InFormat) {s : String}
    (hs : w.write = .ok s) :
    s.toList ≠ [] ∧ (∀ c ∈ s.toList, isWordChar c = true) ∧ ofChars? s.toList = some w.reread := by
  cases w with
  | null =>
      obtain rfl : "null" = s := by simpa [write] using hs
      exact ⟨by decide, List.all_eq_true.mp rfl, rfl⟩
  | bool b =>
      cases b with
      | true =>
          obtain rfl : "true" = s := by simpa [write] using hs
          exact ⟨by decide, List.all_eq_true.mp rfl, rfl⟩
      | false =>
          obtain rfl : "false" = s := by simpa [write] using hs
          exact ⟨by decide, List.all_eq_true.mp rfl, rfl⟩
  | int n =>
      obtain ⟨hbound, rfl⟩ := Decimal.write_eq_ok_iff.mp hs
      have hwritable : Decimal.writable n = true := decide_eq_true hbound
      exact ⟨Decimal.text_ne_nil n, fun c => isWordChar_of_mem_text, ofChars_text hwritable⟩
  | real x =>
      cases x with
      | finite negative m q =>
          obtain rfl : (Real64.finite negative m q).text = s := by simpa [write] using hs
          obtain ⟨⟨x, hread⟩, hchars, hdigit⟩ := Real64.ofNumeral_text hformat negative q
          have hword := (ofChars_eq_ofNumeral hdigit).trans hread
          exact ⟨List.ne_nil_of_mem hdigit.choose_spec.1, hchars, by rw [reread, hword]; rfl⟩
      | infinite negative => cases hs
      | nan => cases hs

/-! ### Steps of the scanner -/

variable {s next : ScanState} {c : Char} {cs : List Char}

theorem scanFrom_cons_of_step {ts : List Token} (h : scanStep s c = some (ts, next)) :
    scanFrom s (c :: cs) = (ts ++ (scanFrom next cs).1, (scanFrom next cs).2) := by
  rw [scanFrom, h]

/-- A step that completes no token. -/
theorem scanFrom_cons_of_silent (h : scanStep s c = some ([], next)) :
    scanFrom s (c :: cs) = scanFrom next cs := by
  rw [scanFrom_cons_of_step h, List.nil_append]

/-- Behind a text, a word ends: the text is empty, or starts with a character that is in no word
and at which the scanner goes on. -/
def EndsWord (cs : List Char) : Prop :=
  ∀ c ∈ cs.head?, isWordChar c = false ∧ (scanBetween c).isSome = true

theorem scanFrom_word_append {reversed word : List Char}
    (h : ∀ c ∈ word, isWordChar c = true) :
    scanFrom (.word reversed) (word ++ cs) = scanFrom (.word (word.reverse ++ reversed)) cs := by
  induction word generalizing reversed with
  | nil => rfl
  | cons c word ih =>
      rw [List.forall_mem_cons] at h
      have hstep : scanStep (.word reversed) c = some ([], .word (c :: reversed)) := by
        rw [scanStep, if_pos h.1]
      rw [List.cons_append, scanFrom_cons_of_silent hstep, ih h.2, List.reverse_cons,
        List.append_assoc, List.singleton_append]

/-- A word is scanned where it ends. -/
theorem scanFrom_endsWord {reversed : List Char} {w : Word}
    (hw : Word.ofChars? reversed.reverse = some w) (hcs : EndsWord cs) :
    scanFrom (.word reversed) cs =
      (.word w :: (scanFrom .between cs).1, (scanFrom .between cs).2) := by
  cases cs with
  | nil => simp only [scanFrom, hw]
  | cons c cs =>
      obtain ⟨hchar, hgoes⟩ := hcs c rfl
      obtain ⟨⟨ts, next⟩, hbetween⟩ := Option.isSome_iff_exists.mp hgoes
      have hbehind : scanStep (.word reversed) c = some (.word w :: ts, next) := by
        simp [scanStep, hchar, hw, hbetween]
      have hplain : scanStep .between c = some (ts, next) := hbetween
      rw [scanFrom_cons_of_step hbehind, scanFrom_cons_of_step hplain, List.cons_append]

/-- No character of a word is one of those between words. -/
theorem scanBetween_of_isWordChar (h : isWordChar c = true) :
    scanBetween c = some ([], .word [c]) := by
  have hgap : isGap c = false := by
    by_contra hgap
    simp only [Bool.not_eq_false, isGap, Bool.or_eq_true, beq_iff_eq] at hgap
    rcases hgap with ((rfl | rfl) | rfl) | rfl <;> exact absurd h (by decide)
  have hquote : c ≠ '"' := by
    rintro rfl
    exact absurd h (by decide)
  rw [scanBetween, hgap, if_neg (by simp), if_neg hquote, if_pos h]

/-- A word is scanned from its text. -/
theorem scanFrom_word {w : Word} (hformat : w.InFormat) {text : String}
    (htext : w.write = .ok text) (hcs : EndsWord cs) :
    scanFrom .between (text.toList ++ cs) =
      (.word w.reread :: (scanFrom .between cs).1, (scanFrom .between cs).2) := by
  obtain ⟨hne, hchars, hread⟩ := Word.ofChars_write hformat htext
  cases hlist : text.toList with
  | nil => exact absurd hlist hne
  | cons c word =>
      rw [hlist] at hchars hread
      rw [List.forall_mem_cons] at hchars
      have hstep : scanStep .between c = some ([], .word [c]) :=
        scanBetween_of_isWordChar hchars.1
      have hreversed : (word.reverse ++ [c]).reverse = c :: word := by simp
      rw [List.cons_append, scanFrom_cons_of_silent hstep, scanFrom_word_append hchars.2]
      exact scanFrom_endsWord (hreversed ▸ hread) hcs

/-! ### Texts -/

/-- A digit of a code unit that is not the last one. -/
theorem scanStep_unit {reversed : List Nat} {missing value d : Nat} (hd : d < 16)
    (hmissing : 1 < missing) :
    scanStep (.unit reversed missing value) (Text.hexDigit .lower d) =
      some ([], .unit reversed (missing - 1) (value * 16 + d)) := by
  simp [scanStep, Text.hexValue?_hexDigit .lower hd, Nat.not_le.mpr hmissing]

/-- The last digit of a code unit. -/
theorem scanStep_unit_last {reversed : List Nat} {value d : Nat} (hd : d < 16) :
    scanStep (.unit reversed 1 value) (Text.hexDigit .lower d) =
      some ([], .text (pushUnit reversed (value * 16 + d))) := by
  simp [scanStep, Text.hexValue?_hexDigit .lower hd]

/-- A code unit is read from its four digits, which are the last ones of a longer number. -/
theorem scanFrom_unit (reversed : List Nat) (n : Nat) :
    scanFrom (.unit reversed 4 0) (Text.hexNumeral .lower 4 n ++ cs) =
      scanFrom (.text (pushUnit reversed (n % 0x10000))) cs := by
  have hvalue : (((0 * 16 + n / 16 / 16 / 16 % 16) * 16 + n / 16 / 16 % 16) * 16 +
      n / 16 % 16) * 16 + n % 16 = n % 0x10000 := by omega
  simp only [Text.hexNumeral, List.nil_append, List.cons_append]
  rw [scanFrom_cons_of_silent (scanStep_unit (by omega) (by decide)),
    scanFrom_cons_of_silent (scanStep_unit (by omega) (by decide)),
    scanFrom_cons_of_silent (scanStep_unit (by omega) (by decide)),
    scanFrom_cons_of_silent (scanStep_unit_last (by omega)), hvalue]

/-- A code unit is read from its escape. -/
theorem scanFrom_escapedUnit (reversed : List Nat) (n : Nat) :
    scanFrom (.text reversed) ('\\' :: 'u' :: Text.hexNumeral .lower 4 n ++ cs) =
      scanFrom (.text (pushUnit reversed (n % 0x10000))) cs := by
  have hstart : scanStep (.text reversed) '\\' = some ([], .escape reversed) := rfl
  have hunit : scanStep (.escape reversed) 'u' = some ([], .unit reversed 4 0) := rfl
  rw [List.cons_append, List.cons_append, scanFrom_cons_of_silent hstart,
    scanFrom_cons_of_silent hunit, scanFrom_unit]

/-- A code unit that is not the second half of a character is a code point. -/
theorem pushUnit_of_lt {reversed : List Nat} {n : Nat} (h : n < 0xDC00) :
    pushUnit reversed n = n :: reversed := by
  have hhalf : isSecondHalf n = false := by simp [isSecondHalf, Nat.not_le.mpr h]
  cases reversed with
  | nil => rfl
  | cons m rest => simp [pushUnit, hhalf]

/-- A character is read from its escape. -/
theorem scanFrom_escaped (reversed : List Nat) (c : Char) :
    scanFrom (.text reversed) (escaped c ++ cs) = scanFrom (.text (c.toNat :: reversed)) cs := by
  have hstart : scanStep (.text reversed) '\\' = some ([], .escape reversed) := rfl
  have hletter : ∀ {letter d : Char}, letter ≠ 'u' → unescape? letter = some d →
      scanFrom (.text reversed) ('\\' :: letter :: cs) =
        scanFrom (.text (d.toNat :: reversed)) cs := by
    intro letter d hu hd
    have hstep : scanStep (.escape reversed) letter = some ([], .text (d.toNat :: reversed)) := by
      simp [scanStep, hu, hd]
    rw [scanFrom_cons_of_silent hstart, scanFrom_cons_of_silent hstep]
  unfold escaped
  -- seven characters have escapes of one letter
  iterate 7
    split
    · next h =>
      subst h
      exact hletter (by decide) rfl
  split
  · next hcontrol =>
    rw [scanFrom_escapedUnit, Nat.mod_eq_of_lt (by omega), pushUnit_of_lt (by omega)]
  · next hquote hbackslash _ _ _ _ _ hvisible =>
    have hstep : scanStep (.text reversed) c = some ([], .text (c.toNat :: reversed)) := by
      rw [scanStep, if_neg hquote, if_neg hbackslash, if_neg hvisible]
    rw [List.singleton_append, scanFrom_cons_of_silent hstep]

theorem scanFrom_flatMap_escaped (reversed : List Nat) (word : List Char) :
    scanFrom (.text reversed) (word.flatMap escaped ++ cs) =
      scanFrom (.text ((word.map Char.toNat).reverse ++ reversed)) cs := by
  induction word generalizing reversed with
  | nil => rfl
  | cons c word ih =>
      rw [List.flatMap_cons, List.append_assoc, scanFrom_escaped, ih, List.map_cons,
        List.reverse_cons, List.append_assoc, List.singleton_append]

/-- The code points of a text are that text. -/
theorem Token.ofPoints_points (s : String) : ofPoints (Text.points s) = .text s := by
  rw [ofPoints, Text.isWhole_points, if_pos rfl, Text.ofPoints_points]

/-- A text is scanned from between its quotes. -/
theorem scanFrom_quoted (s : String) :
    scanFrom .between ((quotedText s).toList ++ cs) =
      (.text s :: (scanFrom .between cs).1, (scanFrom .between cs).2) := by
  have hopen : scanStep .between '"' = some ([], .text []) := rfl
  have hclose : ∀ reversed, scanStep (.text reversed) '"' =
      some ([.ofPoints reversed.reverse], .between) := fun _ => rfl
  rw [quotedText, String.toList_ofList, List.cons_append, List.cons_append, List.append_assoc,
    scanFrom_cons_of_silent hopen, scanFrom_flatMap_escaped, List.singleton_append,
    scanFrom_cons_of_step (hclose _), List.append_nil, List.reverse_reverse, ← Text.points,
    Token.ofPoints_points, List.singleton_append]

/-! ### Sequences of tokens -/

namespace Token

/-- The token is a number or a named constant. -/
def isWord : Token → Bool
  | .word _ => true
  | _ => false

/-- A floating-point number among the token is in the format. -/
def InFormat : Token → Prop
  | .word w => w.InFormat
  | _ => True

/-- The token that the text of a token is scanned as. -/
def reread : Token → Token
  | .word w => .word w.reread
  | t => t

end Token

/-- Tokens that are read back from their texts: their numbers are in the format, and no word stands
directly before another. -/
inductive Readable : List Token → Prop
  | nil : Readable []
  | cons {t : Token} {ts : List Token} (format : t.InFormat)
      (apart : t.isWord = true → ∀ u ∈ ts.head?, u.isWord = false) (rest : Readable ts) :
      Readable (t :: ts)

/-- A token is scanned from its text, a word where it ends. -/
theorem scanFrom_token {t : Token} (hformat : t.InFormat) {text : String}
    (htext : t.write = .ok text) (hcs : t.isWord = true → EndsWord cs) :
    scanFrom .between (text.toList ++ cs) =
      (t.reread :: (scanFrom .between cs).1, (scanFrom .between cs).2) := by
  have hmark : ∀ {u : Token} {c : Char}, scanStep .between c = some ([u], .between) →
      scanFrom .between ([c] ++ cs) =
        (u :: (scanFrom .between cs).1, (scanFrom .between cs).2) := by
    intro u c hstep
    rw [List.singleton_append, scanFrom_cons_of_step hstep, List.singleton_append]
  cases t with
  | openArray => cases htext; exact hmark rfl
  | closeArray => cases htext; exact hmark rfl
  | openObject => cases htext; exact hmark rfl
  | closeObject => cases htext; exact hmark rfl
  | colon => cases htext; exact hmark rfl
  | comma => cases htext; exact hmark rfl
  | word w => exact scanFrom_word hformat htext (hcs rfl)
  | text s => cases htext; exact scanFrom_quoted s
  | broken points => cases htext

/-- The text of a token that is no word ends the word before it. -/
theorem endsWord_of_write {t : Token} (hword : t.isWord = false) {text : String}
    (htext : t.write = .ok text) : EndsWord (text.toList ++ cs) := by
  have hmark : ∀ c : Char, isWordChar c = false → (scanBetween c).isSome = true →
      ∀ ds, EndsWord (c :: ds) := by
    intro c hchar hgoes ds d hd
    obtain rfl : c = d := by simpa using hd
    exact ⟨hchar, hgoes⟩
  cases t with
  | openArray => cases htext; exact hmark '[' (by decide) rfl _
  | closeArray => cases htext; exact hmark ']' (by decide) rfl _
  | openObject => cases htext; exact hmark '\x7b' (by decide) rfl _
  | closeObject => cases htext; exact hmark '\x7d' (by decide) rfl _
  | colon => cases htext; exact hmark ':' (by decide) rfl _
  | comma => cases htext; exact hmark ',' (by decide) rfl _
  | word w => exact absurd hword (by simp [Token.isWord])
  | text s =>
      cases htext
      rw [quotedText, String.toList_ofList, List.cons_append, List.cons_append]
      exact hmark '"' (by decide) rfl _
  | broken points => cases htext

/-- Texts of tokens in a row start with the text of the first. -/
theorem mapM_write_cons {t : Token} {ts : List Token} {parts : List String}
    (h : (t :: ts).mapM Token.write = .ok parts) :
    ∃ text rest, t.write = .ok text ∧ ts.mapM Token.write = .ok rest ∧ parts = text :: rest := by
  rw [List.mapM_cons] at h
  obtain ⟨text, ht, h⟩ := bind_eq_ok_iff.mp h
  obtain ⟨rest, hrest, h⟩ := bind_eq_ok_iff.mp h
  cases h
  exact ⟨text, rest, ht, hrest, rfl⟩

/-- The token has a text. -/
def Token.Writable (t : Token) : Prop :=
  ∃ text, t.write = .ok text

theorem Token.writable_of_not_word {t : Token} (h : t.isWord = false)
    (hwhole : t.isBroken = false) : t.Writable := by
  cases t with
  | word w => cases h
  | broken points => cases hwhole
  | _ => exact ⟨_, rfl⟩

/-- Tokens in a row have texts when each of them has one. -/
theorem exists_mapM_write_iff {ts : List Token} :
    (∃ parts, ts.mapM Token.write = .ok parts) ↔ ∀ t ∈ ts, t.Writable := by
  induction ts with
  | nil => simp [pure, Except.pure]
  | cons t ts ih =>
      rw [List.forall_mem_cons, ← ih]
      constructor
      · rintro ⟨parts, h⟩
        obtain ⟨text, rest, ht, hts, -⟩ := mapM_write_cons h
        exact ⟨⟨text, ht⟩, rest, hts⟩
      · rintro ⟨⟨text, ht⟩, parts, hts⟩
        exact ⟨text :: parts, by rw [List.mapM_cons, ht, hts]; rfl⟩

/-- **Readable tokens are scanned from their texts.** -/
theorem scan_join_of_readable {ts : List Token} (h : Readable ts) {parts : List String}
    (hparts : ts.mapM Token.write = .ok parts) :
    Token.scan (String.join parts) = (ts.map Token.reread, true) := by
  rw [Token.scan]
  induction h generalizing parts with
  | nil =>
      cases hparts
      rfl
  | @cons t ts format apart rest ih =>
      obtain ⟨text, texts, ht, hts, rfl⟩ := mapM_write_cons hparts
      have hends : t.isWord = true → EndsWord (String.join texts).toList := by
        intro hword
        cases rest with
        | nil =>
            cases hts
            intro c hc
            exact absurd hc (by simp)
        | @cons u us uformat uapart urest =>
            obtain ⟨first, others, hu, -, rfl⟩ := mapM_write_cons hts
            rw [String.join_cons, String.toList_append]
            exact endsWord_of_write (apart hword u rfl) hu
      rw [String.join_cons, String.toList_append, scanFrom_token format ht hends, ih hts,
        List.map_cons]

end Json

end PrefixCalc
