import PrefixCalc.Tree

/-!
# The Lexemes of a Text

What the scanner makes of a text, without the columns. Its atoms are never empty and hold
neither blanks nor parentheses, so that the texts of its lexemes determine the lexemes; and
every sequence of such lexemes is what the scanner makes of some text, since blanks may always
be put between them.

The room that lexemes take is counted by `width`: the characters of each, and one more between
two atoms that stand side by side. No text is shorter than the width of its lexemes, because
the scanner ends an atom only at a blank or a parenthesis.

## Main results

* `isProper_of_mem_lexemes`: every lexeme of a text is proper.
* `map_text_injOn`: proper lexemes are determined by their texts.
* `width_lexemes_le`: a text is at least as long as its lexemes are wide.
* `lexemes_spaced`: proper lexemes are read back when they are written with blanks between
  them.
-/

namespace PrefixCalc

/-- A character that an atom may hold. -/
def isAtomChar (c : Char) : Bool :=
  !Text.isBlank c && c != '(' && c != ')'

/-- The lexemes of a text. -/
def lexemes (text : String) : List Lexeme :=
  (Token.scan text).map Token.lexeme

/-- A lexeme is proper when, as an atom, it has a text that can stand by itself. -/
def Lexeme.isProper : Lexeme → Bool
  | .opening => true
  | .closing => true
  | .atom s => Tree.isAtomText s

theorem isAtomText_iff {s : String} :
    Tree.isAtomText s = true ↔ s.toList ≠ [] ∧ ∀ c ∈ s.toList, isAtomChar c = true := by
  simp [Tree.isAtomText, isAtomChar]

theorem isAtomText_ofList {cs : List Char} (hne : cs ≠ [])
    (h : ∀ c ∈ cs, isAtomChar c = true) : Tree.isAtomText (String.ofList cs) = true := by
  rw [isAtomText_iff, String.toList_ofList]
  exact ⟨hne, h⟩

/-! ### Steps of the scanner -/

namespace Token

variable {reversed : List Char} {column : Nat} {c : Char} {cs : List Char}

theorem scanFrom_blank (h : Text.isBlank c = true) :
    scanFrom reversed column (c :: cs) =
      endAtom reversed column ++ scanFrom [] (column + 1) cs := by
  have hopen : c ≠ '(' := by rintro rfl; exact absurd h (by decide)
  have hclose : c ≠ ')' := by rintro rfl; exact absurd h (by decide)
  rw [scanFrom, if_neg hopen, if_neg hclose, if_pos h]

theorem scanFrom_atomChar (h : isAtomChar c = true) :
    scanFrom reversed column (c :: cs) = scanFrom (c :: reversed) (column + 1) cs := by
  simp only [isAtomChar, Bool.and_eq_true, Bool.not_eq_true', bne_iff_ne] at h
  obtain ⟨⟨hblank, hopen⟩, hclose⟩ := h
  rw [scanFrom, if_neg hopen, if_neg hclose, if_neg (by simp [hblank])]

theorem scanFrom_opening :
    scanFrom reversed column ('(' :: cs) =
      endAtom reversed column ++ ⟨.opening, column⟩ :: scanFrom [] (column + 1) cs := by
  rw [scanFrom, if_pos rfl]

theorem scanFrom_closing :
    scanFrom reversed column (')' :: cs) =
      endAtom reversed column ++ ⟨.closing, column⟩ :: scanFrom [] (column + 1) cs := by
  rw [scanFrom, if_neg (by decide), if_pos rfl]

/-- Every character is of one of the four classes that the scanner tells apart. -/
theorem char_cases (c : Char) :
    c = '(' ∨ c = ')' ∨ Text.isBlank c = true ∨ isAtomChar c = true := by
  by_cases hopen : c = '('
  · exact .inl hopen
  by_cases hclose : c = ')'
  · exact .inr (.inl hclose)
  cases hblank : Text.isBlank c with
  | true => exact .inr (.inr (.inl rfl))
  | false => exact .inr (.inr (.inr (by simp [isAtomChar, hblank, hopen, hclose])))

/-- Characters that an atom may hold are taken into the atom that has not ended yet. -/
theorem scanFrom_append {word : List Char} (h : ∀ c ∈ word, isAtomChar c = true) :
    scanFrom reversed column (word ++ cs) =
      scanFrom (word.reverse ++ reversed) (column + word.length) cs := by
  induction word generalizing reversed column with
  | nil => simp
  | cons c word ih =>
      rw [List.forall_mem_cons] at h
      rw [List.cons_append, scanFrom_atomChar h.1, ih h.2]
      simp only [List.reverse_cons, List.append_assoc, List.singleton_append, List.length_cons]
      rw [Nat.add_right_comm, Nat.add_assoc]

/-- An atom with characters, ended. -/
theorem endAtom_of_ne_nil (h : reversed ≠ []) :
    endAtom reversed column =
      [⟨.atom (String.ofList reversed.reverse), column - reversed.length⟩] := by
  rw [endAtom, if_neg (by simpa using h)]

end Token

/-- An atom that stands before a text ends there: the text is empty, or starts with a blank or a
parenthesis. -/
def EndsAtom (cs : List Char) : Prop :=
  ∀ c ∈ cs.head?, isAtomChar c = false

theorem endsAtom_cons {c : Char} (h : isAtomChar c = false) (cs : List Char) :
    EndsAtom (c :: cs) := by
  intro d hd
  obtain rfl : c = d := by simpa using hd
  exact h

theorem endsAtom_nil : EndsAtom [] := by
  intro c hc
  exact absurd hc (by simp)

/-- Where an atom ends, what has been read of it is a token, and nothing of it is kept. -/
theorem Token.scanFrom_of_endsAtom {cs : List Char} (h : EndsAtom cs) (reversed : List Char)
    (column : Nat) :
    scanFrom reversed column cs = endAtom reversed column ++ scanFrom [] column cs := by
  cases cs with
  | nil => simp
  | cons c cs =>
      rcases char_cases c with rfl | rfl | hblank | hatom
      · rw [scanFrom_opening, scanFrom_opening, endAtom_nil, List.nil_append]
      · rw [scanFrom_closing, scanFrom_closing, endAtom_nil, List.nil_append]
      · rw [scanFrom_blank hblank, scanFrom_blank hblank, endAtom_nil, List.nil_append]
      · rw [h c rfl] at hatom
        exact absurd hatom (by simp)

/-! ### The lexemes of a text are proper -/

theorem isProper_of_mem_endAtom {reversed : List Char} {column : Nat} {k : Token}
    (h : ∀ c ∈ reversed, isAtomChar c = true) (hk : k ∈ Token.endAtom reversed column) :
    k.lexeme.isProper = true := by
  by_cases hne : reversed = []
  · subst hne
    exact absurd hk (by simp)
  · rw [Token.endAtom_of_ne_nil hne, List.mem_singleton] at hk
    subst hk
    exact isAtomText_ofList (by simpa using hne) (by simpa using h)

theorem isProper_of_mem_scanFrom {reversed : List Char} {column : Nat} {cs : List Char}
    {k : Token} (h : ∀ c ∈ reversed, isAtomChar c = true)
    (hk : k ∈ Token.scanFrom reversed column cs) : k.lexeme.isProper = true := by
  induction cs generalizing reversed column with
  | nil => exact isProper_of_mem_endAtom h hk
  | cons c cs ih =>
      have hnil : ∀ c ∈ ([] : List Char), isAtomChar c = true := by simp
      rcases Token.char_cases c with rfl | rfl | hc | hc
      · rw [Token.scanFrom_opening, List.mem_append, List.mem_cons] at hk
        rcases hk with hk | rfl | hk
        · exact isProper_of_mem_endAtom h hk
        · rfl
        · exact ih hnil hk
      · rw [Token.scanFrom_closing, List.mem_append, List.mem_cons] at hk
        rcases hk with hk | rfl | hk
        · exact isProper_of_mem_endAtom h hk
        · rfl
        · exact ih hnil hk
      · rw [Token.scanFrom_blank hc, List.mem_append] at hk
        rcases hk with hk | hk
        · exact isProper_of_mem_endAtom h hk
        · exact ih hnil hk
      · rw [Token.scanFrom_atomChar hc] at hk
        exact ih (List.forall_mem_cons.mpr ⟨hc, h⟩) hk

/-- **Every lexeme of a text is proper.** -/
theorem isProper_of_mem_lexemes {text : String} {l : Lexeme} (h : l ∈ lexemes text) :
    l.isProper = true := by
  obtain ⟨k, hk, rfl⟩ := List.mem_map.mp h
  exact isProper_of_mem_scanFrom (by simp) hk

/-! ### Lexemes and their texts -/

/-- The text of a proper atom is not that of a parenthesis. -/
theorem ne_parenthesis_of_isAtomText {s : String} (h : Tree.isAtomText s = true) :
    s ≠ "(" ∧ s ≠ ")" := by
  constructor <;> rintro rfl <;> exact absurd h (by decide)

/-- Two proper lexemes with the same text are the same. -/
theorem Lexeme.eq_of_text_eq {l m : Lexeme} (hl : l.isProper = true) (hm : m.isProper = true)
    (h : l.text = m.text) : l = m := by
  cases l with
  | opening =>
      cases m with
      | opening => rfl
      | closing => exact absurd h (by decide)
      | atom s => exact absurd h.symm (ne_parenthesis_of_isAtomText hm).1
  | closing =>
      cases m with
      | opening => exact absurd h (by decide)
      | closing => rfl
      | atom s => exact absurd h.symm (ne_parenthesis_of_isAtomText hm).2
  | atom r =>
      cases m with
      | opening => exact absurd h (ne_parenthesis_of_isAtomText hl).1
      | closing => exact absurd h (ne_parenthesis_of_isAtomText hl).2
      | atom s => exact congrArg Lexeme.atom h

/-- **Proper lexemes are determined by their texts.** -/
theorem map_text_injOn {ls ms : List Lexeme} (hl : ∀ l ∈ ls, l.isProper = true)
    (hm : ∀ m ∈ ms, m.isProper = true) (h : ls.map Lexeme.text = ms.map Lexeme.text) :
    ls = ms := by
  induction ls generalizing ms with
  | nil =>
      rw [List.map_nil, eq_comm, List.map_eq_nil_iff] at h
      exact h.symm
  | cons l ls ih =>
      cases ms with
      | nil => exact absurd h (by simp)
      | cons m ms =>
          rw [List.forall_mem_cons] at hl hm
          rw [List.map_cons, List.map_cons, List.cons.injEq] at h
          rw [Lexeme.eq_of_text_eq hl.1 hm.1 h.1, ih hl.2 hm.2 h.2]

/-! ### The room that lexemes take -/

/-- The blank that must stand behind a lexeme: one when it is an atom and another atom
follows. -/
def gap : Lexeme → List Lexeme → Nat
  | .atom _, .atom _ :: _ => 1
  | _, _ => 0

/-- How many characters a text of these lexemes must have. -/
def width : List Lexeme → Nat
  | [] => 0
  | l :: ls => l.text.length + gap l ls + width ls

theorem gap_le_one (l : Lexeme) (ls : List Lexeme) : gap l ls ≤ 1 := by
  unfold gap
  split <;> omega

theorem width_endAtom_append (reversed : List Char) (column : Nat) (ls : List Lexeme) :
    width ((Token.endAtom reversed column).map Token.lexeme ++ ls) ≤
      reversed.length + 1 + width ls := by
  by_cases hne : reversed = []
  · subst hne
    simp only [Token.endAtom_nil, List.map_nil, List.nil_append]
    omega
  · have hgap := gap_le_one (.atom (String.ofList reversed.reverse)) ls
    simp only [Token.endAtom_of_ne_nil hne, List.map_cons, List.map_nil, List.singleton_append,
      width, Lexeme.text, String.length_ofList, List.length_reverse]
    omega

/-- No blank is needed between an atom and what is not an atom. -/
theorem width_endAtom_append_of_gap {ls : List Lexeme} (h : ∀ s, gap (.atom s) ls = 0)
    (reversed : List Char) (column : Nat) :
    width ((Token.endAtom reversed column).map Token.lexeme ++ ls) ≤
      reversed.length + width ls := by
  by_cases hne : reversed = []
  · subst hne
    simp
  · simp only [Token.endAtom_of_ne_nil hne, List.map_cons, List.map_nil, List.singleton_append,
      width, Lexeme.text, String.length_ofList, List.length_reverse, h]
    omega

theorem width_scanFrom_le (reversed : List Char) (column : Nat) (cs : List Char) :
    width ((Token.scanFrom reversed column cs).map Token.lexeme) ≤
      reversed.length + cs.length := by
  induction cs generalizing reversed column with
  | nil =>
      have h := @width_endAtom_append_of_gap [] (fun _ => rfl) reversed column
      simpa [width] using h
  | cons c cs ih =>
      have hrest := ih [] (column + 1)
      rcases Token.char_cases c with rfl | rfl | hc | hc
      · rw [Token.scanFrom_opening, List.map_append, List.map_cons]
        refine Nat.le_trans (width_endAtom_append_of_gap (fun _ => rfl) reversed column) ?_
        simp only [width, gap, Lexeme.text, List.length_cons, List.length_nil] at hrest ⊢
        have hone : "(".length = 1 := rfl
        omega
      · rw [Token.scanFrom_closing, List.map_append, List.map_cons]
        refine Nat.le_trans (width_endAtom_append_of_gap (fun _ => rfl) reversed column) ?_
        simp only [width, gap, Lexeme.text, List.length_cons, List.length_nil] at hrest ⊢
        have hone : ")".length = 1 := rfl
        omega
      · rw [Token.scanFrom_blank hc, List.map_append]
        refine Nat.le_trans (width_endAtom_append reversed column _) ?_
        simp only [List.length_cons, List.length_nil] at hrest ⊢
        omega
      · rw [Token.scanFrom_atomChar hc]
        have h := ih (c :: reversed) (column + 1)
        simp only [List.length_cons] at h ⊢
        omega

/-- **A text is at least as long as its lexemes are wide.** -/
theorem width_lexemes_le (text : String) : width (lexemes text) ≤ text.length := by
  have h := width_scanFrom_le [] 1 text.toList
  rw [List.length_nil, Nat.zero_add, String.length_toList] at h
  exact h

/-! ### A text for every sequence of lexemes -/

/-- Lexemes written out, a blank behind each of them. -/
def spaced (ls : List Lexeme) : List Char :=
  ls.flatMap fun l => l.text.toList ++ [' ']

theorem scanFrom_spaced {ls : List Lexeme} (h : ∀ l ∈ ls, l.isProper = true) (column : Nat) :
    (Token.scanFrom [] column (spaced ls)).map Token.lexeme = ls := by
  induction ls generalizing column with
  | nil => rfl
  | cons l ls ih =>
      rw [List.forall_mem_cons] at h
      obtain ⟨hl, hls⟩ := h
      have hblank : Text.isBlank ' ' = true := by decide
      rw [spaced, List.flatMap_cons, ← spaced, List.append_assoc, List.singleton_append]
      cases l with
      | opening =>
          change (Token.scanFrom [] column ('(' :: ' ' :: spaced ls)).map Token.lexeme = _
          rw [Token.scanFrom_opening, Token.scanFrom_blank hblank]
          simp only [Token.endAtom_nil, List.nil_append, List.map_cons, ih hls]
      | closing =>
          change (Token.scanFrom [] column (')' :: ' ' :: spaced ls)).map Token.lexeme = _
          rw [Token.scanFrom_closing, Token.scanFrom_blank hblank]
          simp only [Token.endAtom_nil, List.nil_append, List.map_cons, ih hls]
      | atom s =>
          obtain ⟨hne, hchars⟩ := isAtomText_iff.mp hl
          have hrev : s.toList.reverse ++ [] ≠ [] := by simpa using hne
          rw [Lexeme.text, Token.scanFrom_append hchars, Token.scanFrom_blank hblank,
            Token.endAtom_of_ne_nil hrev, List.map_append, ih hls]
          simp

/-- **Proper lexemes are read back** when they are written with blanks between them. -/
theorem lexemes_spaced {ls : List Lexeme} (h : ∀ l ∈ ls, l.isProper = true) :
    lexemes (String.ofList (spaced ls)) = ls := by
  rw [lexemes, Token.scan, String.toList_ofList]
  exact scanFrom_spaced h 1

end PrefixCalc
