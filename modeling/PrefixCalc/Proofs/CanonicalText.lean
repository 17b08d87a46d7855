import PrefixCalc.Proofs.Grammar

/-!
# The Canonical Text of a Tree

A tree has a canonical text, with every application in parentheses, one blank behind the operator
and one between operands. The text is read back as the same tree: the scanner finds in it the
lexemes that the tree is written with, and the reader takes these for the tree.

What the scanner finds in the text of a tree does not depend on what follows, as long as the last
atom ends there (`EndsAtom`): the text of a leaf is an atom, which the blank or the parenthesis
behind it ends, and the text of an application ends itself. So the texts of operands side by side
are scanned one after the other, and induction over the tree carries the rest of the text along.

## Main results

* `Tree.lexemes_sexpr`: the lexemes of the canonical text are those of the tree.
* `Tree.parse_sexpr`: the canonical text of an expression is read as the expression.
* `Tree.canonical_text_reads_back`: every tree that the reader makes has a canonical text, which is
  read as the same tree and determines it.
-/

namespace PrefixCalc

/-! ### Scanning on -/

namespace Token

/-- Where a text starts does not change its lexemes. -/
theorem map_lexeme_scanFrom (reversed : List Char) (i j : Nat) (cs : List Char) :
    (scanFrom reversed i cs).map lexeme = (scanFrom reversed j cs).map lexeme := by
  have hend : ∀ (reversed : List Char) (i j : Nat),
      (endAtom reversed i).map lexeme = (endAtom reversed j).map lexeme := by
    intro reversed i j
    unfold endAtom
    split <;> rfl
  induction cs generalizing reversed i j with
  | nil => exact hend reversed i j
  | cons c cs ih =>
      rcases char_cases c with rfl | rfl | hc | hc
      · simp only [scanFrom_opening, List.map_append, List.map_cons, hend reversed i j,
          ih [] (i + 1) (j + 1)]
      · simp only [scanFrom_closing, List.map_append, List.map_cons, hend reversed i j,
          ih [] (i + 1) (j + 1)]
      · simp only [scanFrom_blank hc, List.map_append, hend reversed i j, ih [] (i + 1) (j + 1)]
      · simp only [scanFrom_atomChar hc, ih (c :: reversed) (i + 1) (j + 1)]

end Token

/-- The lexemes of characters. -/
def lexemesOf (cs : List Char) : List Lexeme :=
  (Token.scanFrom [] 1 cs).map Token.lexeme

theorem lexemes_eq_lexemesOf (text : String) : lexemes text = lexemesOf text.toList := rfl

theorem map_lexeme_scanFrom_nil (column : Nat) (cs : List Char) :
    (Token.scanFrom [] column cs).map Token.lexeme = lexemesOf cs :=
  Token.map_lexeme_scanFrom [] column 1 cs

theorem lexemesOf_opening (cs : List Char) : lexemesOf ('(' :: cs) = .opening :: lexemesOf cs := by
  rw [lexemesOf, Token.scanFrom_opening, Token.endAtom_nil, List.nil_append, List.map_cons,
    map_lexeme_scanFrom_nil]

theorem lexemesOf_closing (cs : List Char) : lexemesOf (')' :: cs) = .closing :: lexemesOf cs := by
  rw [lexemesOf, Token.scanFrom_closing, Token.endAtom_nil, List.nil_append, List.map_cons,
    map_lexeme_scanFrom_nil]

theorem lexemesOf_blank {c : Char} (h : Text.isBlank c = true) (cs : List Char) :
    lexemesOf (c :: cs) = lexemesOf cs := by
  rw [lexemesOf, Token.scanFrom_blank h, Token.endAtom_nil, List.nil_append,
    map_lexeme_scanFrom_nil]

/-- An atom is scanned as one lexeme where it ends. -/
theorem lexemesOf_atom_append {s : String} (h : Tree.isAtomText s = true) {cs : List Char}
    (hcs : EndsAtom cs) : lexemesOf (s.toList ++ cs) = .atom s :: lexemesOf cs := by
  obtain ⟨hne, hchars⟩ := isAtomText_iff.mp h
  have hrev : s.toList.reverse ++ [] ≠ [] := by simpa using hne
  have hname : String.ofList (s.toList.reverse ++ []).reverse = s := by simp
  rw [lexemesOf, Token.scanFrom_append hchars, Token.scanFrom_of_endsAtom hcs, List.map_append,
    map_lexeme_scanFrom_nil, Token.endAtom_of_ne_nil hrev, hname]
  rfl

namespace Tree

/-! ### Canonical texts -/

@[simp] theorem sexpr_leaf (literal : String) : (leaf literal).sexpr? = some literal := by
  simp only [sexpr?]

theorem sexprs_nil : sexprs? [] = some [] := by
  simp only [sexprs?]

theorem sexprs_cons_eq_some_iff {t : Tree} {ts : List Tree} {parts : List String} :
    sexprs? (t :: ts) = some parts ↔
      ∃ s rest, t.sexpr? = some s ∧ sexprs? ts = some rest ∧ parts = s :: rest := by
  simp only [sexprs?, Option.pure_def, Option.bind_eq_bind, Option.bind_eq_some_iff,
    Option.some.injEq]
  constructor
  · rintro ⟨s, hs, rest, hrest, rfl⟩
    exact ⟨s, rest, hs, hrest, rfl⟩
  · rintro ⟨s, rest, hs, hrest, rfl⟩
    exact ⟨s, hs, rest, hrest, rfl⟩

theorem sexpr_application_eq_some_iff {operator : String} {operands : List Tree} {text : String} :
    (application operator operands).sexpr? = some text ↔
      ∃ parts, sexprs? operands = some parts ∧
        text = "(" ++ operator ++ " " ++ Json.joined " " parts ++ ")" := by
  simp only [sexpr?, Option.map_eq_some_iff]
  constructor
  · rintro ⟨parts, hparts, rfl⟩
    exact ⟨parts, hparts, rfl⟩
  · rintro ⟨parts, hparts, rfl⟩
    exact ⟨parts, hparts, rfl⟩

/-- Only a value that is no node has no canonical text, so a proper tree has one. -/
theorem exists_sexpr {t : Tree} (h : t.isProper = true) : ∃ text, t.sexpr? = some text := by
  have hall : ∀ ts : List Tree, (∀ t ∈ ts, ∃ text, t.sexpr? = some text) →
      ∃ parts, sexprs? ts = some parts := by
    intro ts hts
    induction ts with
    | nil => exact ⟨[], sexprs_nil⟩
    | cons t ts ih =>
        rw [List.forall_mem_cons] at hts
        obtain ⟨⟨s, hs⟩, hts⟩ := hts
        obtain ⟨rest, hrest⟩ := ih hts
        exact ⟨s :: rest, sexprs_cons_eq_some_iff.mpr ⟨s, rest, hs, hrest, rfl⟩⟩
  induction t using inductionOn with
  | leaf literal => exact ⟨literal, sexpr_leaf literal⟩
  | application operator operands ih =>
      obtain ⟨-, -, hoperands⟩ := isProper_application.mp h
      obtain ⟨parts, hparts⟩ := hall operands fun t ht => ih t ht (hoperands t ht)
      exact ⟨_, sexpr_application_eq_some_iff.mpr ⟨parts, hparts, rfl⟩⟩
  | foreign value => exact absurd h (by simp [isProper])

/-- The characters of the texts of operands, a blank between each two. -/
theorem toList_joined_cons (s r : String) (rest : List String) :
    (Json.joined " " (s :: r :: rest)).toList =
      s.toList ++ ' ' :: (Json.joined " " (r :: rest)).toList := by
  simp [Json.joined]

/-! ### Scanning canonical texts -/

/-- What is said of the text of each operand holds of their texts side by side. -/
theorem lexemesOf_joined_append {ts : List Tree} (hne : ts ≠ [])
    (h : ∀ t ∈ ts, ∀ s, t.sexpr? = some s → ∀ cs, EndsAtom cs →
      lexemesOf (s.toList ++ cs) = t.yield ++ lexemesOf cs)
    {parts : List String} (hparts : sexprs? ts = some parts) {cs : List Char}
    (hcs : EndsAtom cs) :
    lexemesOf ((Json.joined " " parts).toList ++ cs) = yieldAll ts ++ lexemesOf cs := by
  induction ts generalizing parts with
  | nil => exact absurd rfl hne
  | cons t ts ih =>
      rw [List.forall_mem_cons] at h
      obtain ⟨s, rest, hs, hrest, rfl⟩ := sexprs_cons_eq_some_iff.mp hparts
      cases ts with
      | nil =>
          rw [sexprs_nil, Option.some.injEq] at hrest
          subst hrest
          have hjoined : Json.joined " " [s] = s := rfl
          rw [hjoined, h.1 s hs cs hcs, yieldAll_cons, yieldAll_nil, List.append_nil]
      | cons u us =>
          obtain ⟨r, rest', hr, hrest', rfl⟩ := sexprs_cons_eq_some_iff.mp hrest
          rw [toList_joined_cons, List.append_assoc, List.cons_append,
            h.1 s hs _ (endsAtom_cons (by decide) _), lexemesOf_blank (by decide),
            ih (by simp) h.2 hrest, yieldAll_cons t, List.append_assoc]

/-- The text of a proper tree is scanned as the yield of the tree, whatever comes behind it, as
long as it ends an atom. -/
theorem lexemesOf_sexpr_append {t : Tree} (hproper : t.isProper = true) {text : String}
    (htext : t.sexpr? = some text) {cs : List Char} (hcs : EndsAtom cs) :
    lexemesOf (text.toList ++ cs) = t.yield ++ lexemesOf cs := by
  induction t using inductionOn generalizing text cs with
  | leaf literal =>
      rw [sexpr_leaf, Option.some.injEq] at htext
      subst htext
      rw [isProper] at hproper
      rw [yield_leaf, List.singleton_append, lexemesOf_atom_append hproper hcs]
  | application operator operands ih =>
      obtain ⟨hoperator, hne, hoperands⟩ := isProper_application.mp hproper
      obtain ⟨parts, hparts, rfl⟩ := sexpr_application_eq_some_iff.mp htext
      have hinside := lexemesOf_joined_append hne
        (fun t ht s hs cs hcs => ih t ht (hoperands t ht) hs hcs) hparts
        (endsAtom_cons (by decide) cs : EndsAtom (')' :: cs))
      have hchars : ("(" ++ operator ++ " " ++ Json.joined " " parts ++ ")").toList ++ cs =
          '(' :: (operator.toList ++ ' ' :: ((Json.joined " " parts).toList ++ ')' :: cs)) := by
        simp
      rw [hchars, lexemesOf_opening,
        lexemesOf_atom_append (isAtomText_of_isOperatorText hoperator)
          (endsAtom_cons (by decide) _),
        lexemesOf_blank (by decide), hinside, lexemesOf_closing, yield_application, line]
      simp only [List.cons_append, List.append_assoc, List.nil_append]
  | foreign value => exact absurd hproper (by simp [isProper])

/-- **The lexemes of the canonical text** of a proper tree are those that the tree is written
with. -/
theorem lexemes_sexpr {t : Tree} (hproper : t.isProper = true) {text : String}
    (htext : t.sexpr? = some text) : lexemes text = t.yield := by
  have h := lexemesOf_sexpr_append hproper htext endsAtom_nil
  rw [List.append_nil] at h
  rw [lexemes_eq_lexemesOf, h]
  exact List.append_nil _

/-! ### Reading canonical texts -/

/-- **The canonical text of an expression is read as the expression.** -/
theorem parse_sexpr {t : Tree} (h : t.WellFormed) {text : String} (htext : t.sexpr? = some text) :
    parse text = .ok t :=
  parse_eq_ok_iff.mpr ⟨h, .inr (lexemes_sexpr h.proper htext)⟩

/-- **Canonical texts read back.** Every well-formed tree has a canonical text, and it is read as
that tree. Every tree that the reader makes is well-formed, so its canonical text is accepted, is
read as the same tree, and is the canonical text of whatever it is read as. Two well-formed trees
with the same canonical text are equal. -/
theorem canonical_text_reads_back :
    (∀ t : Tree, t.WellFormed → ∃ canonical, t.sexpr? = some canonical ∧
      parse canonical = .ok t) ∧
    (∀ (text : String) (t : Tree), parse text = .ok t → t.WellFormed ∧
      ∃ canonical, t.sexpr? = some canonical ∧ parse canonical = .ok t ∧
        ∀ u, parse canonical = .ok u → u.sexpr? = some canonical) ∧
    ∀ t u : Tree, t.WellFormed → u.WellFormed → t.sexpr? = u.sexpr? → t = u := by
  have hreads : ∀ t : Tree, t.WellFormed → ∃ canonical, t.sexpr? = some canonical ∧
      parse canonical = .ok t := by
    intro t ht
    obtain ⟨canonical, hcanonical⟩ := exists_sexpr ht.proper
    exact ⟨canonical, hcanonical, parse_sexpr ht hcanonical⟩
  refine ⟨hreads, ?_, ?_⟩
  · intro text t hparse
    have ht : t.WellFormed := (parse_eq_ok_iff.mp hparse).1
    obtain ⟨canonical, hcanonical, hagain⟩ := hreads t ht
    refine ⟨ht, canonical, hcanonical, hagain, ?_⟩
    intro u hu
    rw [hagain, Except.ok.injEq] at hu
    exact hu ▸ hcanonical
  · intro t u ht hu hsame
    obtain ⟨canonical, hcanonical, hparse⟩ := hreads t ht
    have hother := parse_sexpr hu (hsame ▸ hcanonical)
    rw [hparse, Except.ok.injEq] at hother
    exact hother

/-- A tree with an operator and literals that mean nothing is read back all the same. -/
theorem canonical_text_of_unknown_operator :
    let t : Tree := .application "%" [.leaf "-x", .application "*" [.leaf "007", .leaf "\u200b"]]
    t.WellFormed ∧ t.sexpr? = some "(% -x (* 007 \u200b))" ∧
      parse "(% -x (* 007 \u200b))" = .ok t := by
  intro t
  have ht : t.WellFormed := ⟨⟨_, _, rfl⟩, by decide, by decide⟩
  obtain ⟨canonical, hcanonical, hparse⟩ := canonical_text_reads_back.1 t ht
  have htext : t.sexpr? = some "(% -x (* 007 \u200b))" := by decide
  rw [htext, Option.some.injEq] at hcanonical
  subst hcanonical
  exact ⟨ht, htext, hparse⟩

end Tree

end PrefixCalc
