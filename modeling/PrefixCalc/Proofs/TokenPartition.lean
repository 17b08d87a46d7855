import Mathlib.Data.List.Basic
import Mathlib.Data.List.Pairwise
import PrefixCalc.Proofs.Lexemes

/-!
# Tokens Partition a Text

A token comes with the column that it was found in. That columns and texts belong together is
said here of pieces of any kind and text, in columns of any kind: `Partition` lists what a
partition of a text into lexemes has to meet, with no mention of the scanner.

There is one way to meet it. What stands first in a text decides what a partition starts with: a
blank is left over, a parenthesis is a piece by itself, and an atom goes on to the first character
that no atom holds, since behind a shorter one there would have to be another one at once. Taking
this off leaves a partition of the rest (`Partition.behind`), and putting it back in front of one
is a partition again (`Partition.append`). The scanner takes off the same, so that the tokens are
the pieces of the one partition.

## Main results

* `partition_blank_cons_iff` and `partition_piece_append_iff`: what a partition starts with.
* `Partition.exists_between`: two atoms are kept apart by a character that no atom holds.
* `partition_scanFrom_iff`: the scanner finds the one partition of the characters that are left.
* `tokens_are_the_partition`: the tokens of a text are its one partition.
-/

namespace PrefixCalc

/-! ### Pieces of a text -/

/-- The kinds of lexeme. -/
inductive Lexeme.Kind where
  | opening
  | closing
  | atom
  deriving DecidableEq

/-- The kind of a lexeme. -/
def Lexeme.kind : Lexeme → Lexeme.Kind
  | .opening => .opening
  | .closing => .closing
  | .atom _ => .atom

/-- A piece of a text: what it is taken for, its characters, and the column that it starts in.
Nothing is said of whether these belong together. -/
@[ext]
structure Piece where
  kind : Lexeme.Kind
  text : String
  column : Nat
  deriving DecidableEq

/-- A token as a piece of the text that it was found in. -/
def Token.piece (k : Token) : Piece :=
  ⟨k.lexeme.kind, k.lexeme.text, k.column⟩

namespace Piece

/-- The column behind a piece. -/
def stop (p : Piece) : Nat :=
  p.column + p.text.length

/-- A piece takes up a column. -/
def Covers (p : Piece) (column : Nat) : Prop :=
  p.column ≤ column ∧ column < p.stop

/-- A piece has a text of its kind. -/
def Fits (p : Piece) : Prop :=
  match p.kind with
  | .opening => p.text = "("
  | .closing => p.text = ")"
  | .atom => Tree.isAtomText p.text = true

end Piece

/-- Pieces partition characters that stand in the columns from `start` on. -/
structure Partition (start : Nat) (cs : List Char) (ps : List Piece) : Prop where
  /-- The pieces are given in the order of their columns. -/
  increasing : ps.Pairwise fun p q => p.column < q.column
  /-- The text of a piece is what stands in its columns. -/
  slice : ∀ p ∈ ps, start ≤ p.column ∧
    (cs.drop (p.column - start)).take p.text.length = p.text.toList
  /-- No column is taken up twice. -/
  disjoint : ps.Pairwise fun p q => ∀ column, ¬ (p.Covers column ∧ q.Covers column)
  /-- What is blank, and nothing else, is left over. -/
  blank_iff : ∀ i c, cs[i]? = some c →
    (Text.isBlank c = true ↔ ∀ p ∈ ps, ¬ p.Covers (start + i))
  /-- The text of a piece is one of its kind. -/
  fits : ∀ p ∈ ps, p.Fits
  /-- No atom ends where another one starts. -/
  apart : ∀ p ∈ ps, ∀ q ∈ ps, p.kind = .atom → q.kind = .atom → p.stop ≠ q.column

/-! ### Texts of a kind -/

/-- The kind of a piece that a character may stand in. -/
def Lexeme.Kind.ofChar (c : Char) : Lexeme.Kind :=
  if c = '(' then .opening else if c = ')' then .closing else .atom

theorem isAtomChar_iff {c : Char} :
    isAtomChar c = true ↔ Text.isBlank c = false ∧ Lexeme.Kind.ofChar c = .atom := by
  unfold isAtomChar Lexeme.Kind.ofChar
  by_cases hopen : c = '(' <;> by_cases hclose : c = ')' <;> simp [hopen, hclose]

namespace Piece.Fits

variable {p q : Piece}

/-- Every character of a piece tells its kind, and none is blank. -/
theorem of_mem (h : p.Fits) {c : Char} (hc : c ∈ p.text.toList) :
    p.kind = Lexeme.Kind.ofChar c ∧ Text.isBlank c = false := by
  unfold Fits at h
  cases hkind : p.kind with
  | opening =>
      rw [hkind] at h
      have hopen : c = '(' := by simpa [show p.text = "(" from h] using hc
      subst hopen
      exact ⟨rfl, by decide⟩
  | closing =>
      rw [hkind] at h
      have hclose : c = ')' := by simpa [show p.text = ")" from h] using hc
      subst hclose
      exact ⟨rfl, by decide⟩
  | atom =>
      rw [hkind] at h
      obtain ⟨hblank, hatom⟩ := isAtomChar_iff.mp ((isAtomText_iff.mp h).2 c hc)
      exact ⟨hatom.symm, hblank⟩

theorem isAtomChar_of_mem (h : p.Fits) (hkind : p.kind = .atom) {c : Char}
    (hc : c ∈ p.text.toList) : isAtomChar c = true := by
  obtain ⟨hchar, hblank⟩ := h.of_mem hc
  exact isAtomChar_iff.mpr ⟨hblank, hchar.symm.trans hkind⟩

theorem length_pos (h : p.Fits) : 0 < p.text.length := by
  unfold Fits at h
  split at h
  · rw [h]; decide
  · rw [h]; decide
  · rw [← String.length_toList]
    exact List.length_pos_iff.mpr (isAtomText_iff.mp h).1

theorem column_lt_stop (h : p.Fits) : p.column < p.stop :=
  Nat.lt_add_of_pos_right h.length_pos

/-- A piece takes up the column that it starts in. -/
theorem covers_column (h : p.Fits) : p.Covers p.column :=
  ⟨Nat.le_refl _, h.column_lt_stop⟩

/-- A parenthesis has the text of its kind. -/
theorem text_eq_of_kind_ne_atom (hp : p.Fits) (hq : q.Fits) (hkind : p.kind = q.kind)
    (hne : p.kind ≠ .atom) : p.text = q.text := by
  unfold Fits at hp hq
  rw [← hkind] at hq
  cases h : p.kind with
  | opening =>
      rw [h] at hp hq
      exact hp.trans hq.symm
  | closing =>
      rw [h] at hp hq
      exact hp.trans hq.symm
  | atom => exact absurd h hne

end Piece.Fits

/-! ### Columns and characters -/

namespace Partition

variable {start : Nat} {word cs : List Char} {p q : Piece} {lead ps : List Piece}

/-- The characters of a piece stand in its columns. -/
theorem getElem?_eq (h : Partition start cs ps) (hp : p ∈ ps) {j : Nat}
    (hj : j < p.text.length) : cs[p.column - start + j]? = p.text.toList[j]? := by
  rw [← (h.slice p hp).2, List.getElem?_take_of_lt hj, List.getElem?_drop]

/-- The character in a column that a piece takes up is one of the piece. -/
theorem mem_of_covers (h : Partition start cs ps) (hp : p ∈ ps) {i : Nat} {c : Char}
    (hcovers : p.Covers (start + i)) (hc : cs[i]? = some c) : c ∈ p.text.toList := by
  obtain ⟨hle, hlt⟩ := hcovers
  have hstart := (h.slice p hp).1
  rw [Piece.stop] at hlt
  have hget := h.getElem?_eq hp (j := start + i - p.column) (by omega)
  have hi : p.column - start + (start + i - p.column) = i := by omega
  rw [hi, hc] at hget
  exact List.mem_of_getElem? hget.symm

/-- A character that is not blank stands in a column that a piece takes up. -/
theorem exists_covers (h : Partition start cs ps) {i : Nat} {c : Char} (hc : cs[i]? = some c)
    (hblank : Text.isBlank c = false) : ∃ p ∈ ps, p.Covers (start + i) := by
  by_contra hnone
  have hall : ∀ p ∈ ps, ¬ p.Covers (start + i) := fun p hp hcovers => hnone ⟨p, hp, hcovers⟩
  rw [(h.blank_iff i c hc).mpr hall] at hblank
  exact absurd hblank (by simp)

/-- One of two pieces ends before the other one starts. -/
theorem stop_le_of_ne (h : Partition start cs ps) (hp : p ∈ ps) (hq : q ∈ ps) (hne : p ≠ q)
    (hle : p.column ≤ q.column) : p.stop ≤ q.column := by
  have hsymm : Std.Symm fun p q : Piece => ∀ column, ¬ (p.Covers column ∧ q.Covers column) :=
    ⟨fun _ _ hdisjoint column hboth => hdisjoint column hboth.symm⟩
  by_contra hlt
  exact h.disjoint.forall hp hq hne q.column
    ⟨⟨hle, Nat.lt_of_not_le hlt⟩, (h.fits q hq).covers_column⟩

/-- Pieces behind the first start behind it. -/
theorem stop_le (h : Partition start cs (p :: ps)) (hq : q ∈ ps) : p.stop ≤ q.column := by
  have hlt := (List.pairwise_cons.mp h.increasing).1 q hq
  have hne : p ≠ q := by
    rintro rfl
    exact Nat.lt_irrefl _ hlt
  exact h.stop_le_of_ne (List.mem_cons_self ..) (List.mem_cons_of_mem _ hq) hne (Nat.le_of_lt hlt)

/-- What stands in the column behind an atom is no character of an atom. -/
theorem isAtomChar_stop (h : Partition start cs ps) (hp : p ∈ ps) (hatom : p.kind = .atom)
    {i : Nat} {c : Char} (hi : p.stop = start + i) (hc : cs[i]? = some c) :
    isAtomChar c = false := by
  rw [← Bool.not_eq_true]
  intro hchar
  obtain ⟨hblank, hkind⟩ := isAtomChar_iff.mp hchar
  obtain ⟨q, hq, hcovers⟩ := h.exists_covers hc hblank
  have hqatom : q.kind = .atom :=
    ((h.fits q hq).of_mem (h.mem_of_covers hq hcovers hc)).1.trans hkind
  -- the piece with this character would be an atom that touches `p`, or overlap with it
  have htouch := h.apart p hp q hq hatom hqatom
  have hpos := (h.fits p hp).column_lt_stop
  obtain ⟨hle, hlt⟩ := hi ▸ hcovers
  have hne : p ≠ q := by
    rintro rfl
    exact Nat.lt_irrefl _ hlt
  rcases Nat.le_total p.column q.column with hpq | hqp
  · exact htouch (Nat.le_antisymm (h.stop_le_of_ne hp hq hne hpq) hle)
  · have hstop := h.stop_le_of_ne hq hp hne.symm hqp
    omega

/-- A piece that starts where the characters start has the first of them. -/
theorem exists_mem_head? (h : Partition start cs ps) (hp : p ∈ ps) (hcolumn : p.column = start) :
    ∃ c ∈ cs.head?, c ∈ p.text.toList := by
  have hpos := (h.fits p hp).length_pos
  have hget := h.getElem?_eq hp hpos
  rw [hcolumn, Nat.sub_self, Nat.zero_add, ← List.head?_eq_getElem?] at hget
  rw [← String.length_toList] at hpos
  exact ⟨_, hget.trans (List.getElem?_eq_getElem hpos), List.getElem_mem hpos⟩

/-- A piece ends where the characters end, or before. -/
theorem stop_le_add_length (h : Partition start cs ps) (hp : p ∈ ps) :
    p.stop ≤ start + cs.length := by
  obtain ⟨hstart, hslice⟩ := h.slice p hp
  have hlength := congrArg List.length hslice
  have hpos := (h.fits p hp).length_pos
  rw [List.length_take, List.length_drop, String.length_toList] at hlength
  rw [Piece.stop]
  omega

/-- Between two atoms there is a character that is none of an atom. -/
theorem exists_between (h : Partition start cs ps) (hp : p ∈ ps) (hq : q ∈ ps)
    (hatom : p.kind = .atom) (hqatom : q.kind = .atom) (hlt : p.column < q.column) :
    ∃ i c, p.stop ≤ start + i ∧ start + i < q.column ∧ cs[i]? = some c ∧
      isAtomChar c = false := by
  have hne : p ≠ q := by
    rintro rfl
    exact Nat.lt_irrefl _ hlt
  have hle := h.stop_le_of_ne hp hq hne (Nat.le_of_lt hlt)
  have hstop : p.stop < q.column := Nat.lt_of_le_of_ne hle (h.apart p hp q hq hatom hqatom)
  have hstart : start ≤ p.stop :=
    Nat.le_trans (h.slice p hp).1 (Nat.le_of_lt (h.fits p hp).column_lt_stop)
  have hend := Nat.lt_of_lt_of_le (h.fits q hq).column_lt_stop (h.stop_le_add_length hq)
  obtain ⟨i, hi⟩ := Nat.exists_eq_add_of_le hstart
  have hlength : i < cs.length := by omega
  have hget := List.getElem?_eq_getElem hlength
  exact ⟨i, cs[i], Nat.le_of_eq hi, hi ▸ hstop, hget, h.isAtomChar_stop hp hatom hi hget⟩

/-- Characters in front of those that a piece stands in are passed over. -/
theorem drop_append_of_le {column : Nat} (h : start + word.length ≤ column) :
    (word ++ cs).drop (column - start) = cs.drop (column - (start + word.length)) := by
  rw [List.drop_append, List.drop_eq_nil_of_le (by omega), List.nil_append, Nat.sub_sub]

/-- Of pieces before and behind a place, those behind it partition what is behind it. -/
theorem behind (h : Partition start (word ++ cs) (lead ++ ps))
    (hlead : ∀ p ∈ lead, p.stop ≤ start + word.length)
    (hps : ∀ p ∈ ps, start + word.length ≤ p.column) :
    Partition (start + word.length) cs ps where
  increasing := (List.pairwise_append.mp h.increasing).2.1
  slice p hp := by
    have hslice := (h.slice p (List.mem_append_right _ hp)).2
    rw [drop_append_of_le (hps p hp)] at hslice
    exact ⟨hps p hp, hslice⟩
  disjoint := (List.pairwise_append.mp h.disjoint).2.1
  blank_iff i c hc := by
    have hget : (word ++ cs)[word.length + i]? = some c := by
      rw [List.getElem?_append_right (Nat.le_add_right ..), Nat.add_sub_cancel_left, hc]
    rw [h.blank_iff _ c hget, List.forall_mem_append, Nat.add_assoc]
    refine and_iff_right fun p hp hcovers => ?_
    have hle := hlead p hp
    have hlt := hcovers.2
    omega
  fits p hp := h.fits p (List.mem_append_right _ hp)
  apart p hp q hq := h.apart p (List.mem_append_right _ hp) q (List.mem_append_right _ hq)

/-- Pieces of what stands in front end before those of what stands behind start. -/
theorem stop_le_column (hlead : Partition start word lead)
    (h : Partition (start + word.length) cs ps) (hp : p ∈ lead) (hq : q ∈ ps) :
    p.stop ≤ q.column :=
  Nat.le_trans (hlead.stop_le_add_length hp) (h.slice q hq).1

/-- A piece keeps its slice when more characters follow. -/
theorem slice_append (h : Partition start word lead) (hp : p ∈ lead) (cs : List Char) :
    start ≤ p.column ∧
      ((word ++ cs).drop (p.column - start)).take p.text.length = p.text.toList := by
  obtain ⟨hstart, hslice⟩ := h.slice p hp
  have hle := h.stop_le_add_length hp
  rw [Piece.stop] at hle
  refine ⟨hstart, ?_⟩
  rw [List.drop_append_of_le_length (by omega),
    List.take_append_of_le_length (by rw [List.length_drop]; omega), hslice]

/-- A piece keeps its slice when more characters stand in front. -/
theorem slice_prepend (h : Partition (start + word.length) cs ps) (hp : p ∈ ps) :
    start ≤ p.column ∧
      ((word ++ cs).drop (p.column - start)).take p.text.length = p.text.toList := by
  obtain ⟨hstart, hslice⟩ := h.slice p hp
  refine ⟨Nat.le_of_add_right_le hstart, ?_⟩
  rw [drop_append_of_le hstart, hslice]

/-- An atom that ends at the seam is not touched by one behind it. -/
theorem stop_ne_column (hlead : Partition start word lead)
    (h : Partition (start + word.length) cs ps) (hends : EndsAtom cs) (hp : p ∈ lead)
    (hq : q ∈ ps) (hatom : q.kind = .atom) : p.stop ≠ q.column := by
  intro heq
  have hcolumn : q.column = start + word.length :=
    Nat.le_antisymm (heq ▸ hlead.stop_le_add_length hp) (h.slice q hq).1
  -- the atom behind would start with the first character behind the seam
  obtain ⟨c, hc, hmem⟩ := h.exists_mem_head? hq hcolumn
  have hchar := (h.fits q hq).isAtomChar_of_mem hatom hmem
  rw [hends c hc] at hchar
  exact absurd hchar (by simp)

/-- The pieces of two texts side by side partition both together, when no atom can go on from the
first one into the second. -/
theorem append (hlead : Partition start word lead) (h : Partition (start + word.length) cs ps)
    (hseam : ∀ p ∈ lead, p.kind = .atom → EndsAtom cs) :
    Partition start (word ++ cs) (lead ++ ps) where
  increasing := by
    refine List.pairwise_append.mpr ⟨hlead.increasing, h.increasing, fun p hp q hq => ?_⟩
    exact Nat.lt_of_lt_of_le (hlead.fits p hp).column_lt_stop (hlead.stop_le_column h hp hq)
  slice := by
    rw [List.forall_mem_append]
    exact ⟨fun p hp => hlead.slice_append hp cs, fun q hq => h.slice_prepend hq⟩
  disjoint := by
    refine List.pairwise_append.mpr ⟨hlead.disjoint, h.disjoint, fun p hp q hq column => ?_⟩
    rintro ⟨⟨-, hlt⟩, hle, -⟩
    exact absurd (Nat.le_trans (hlead.stop_le_column h hp hq) hle) (Nat.not_le_of_lt hlt)
  blank_iff i c hc := by
    rw [List.forall_mem_append]
    rcases Nat.lt_or_ge i word.length with hi | hi
    · rw [List.getElem?_append_left hi] at hc
      rw [hlead.blank_iff i c hc]
      refine (and_iff_left fun q hq hcovers => ?_).symm
      have hstart := (h.slice q hq).1
      have hle := hcovers.1
      omega
    · obtain ⟨j, rfl⟩ := Nat.exists_eq_add_of_le hi
      rw [List.getElem?_append_right hi, Nat.add_sub_cancel_left] at hc
      rw [h.blank_iff j c hc, Nat.add_assoc]
      refine (and_iff_right fun p hp hcovers => ?_).symm
      have hstop := hlead.stop_le_add_length hp
      have hlt := hcovers.2
      omega
  fits := List.forall_mem_append.mpr ⟨hlead.fits, h.fits⟩
  apart p hp q hq hkind hkind' := by
    rcases List.mem_append.mp hp with hp | hp <;> rcases List.mem_append.mp hq with hq | hq
    · exact hlead.apart p hp q hq hkind hkind'
    · exact hlead.stop_ne_column h (hseam p hp hkind) hp hq hkind'
    · have hle := hlead.stop_le_column h hq hp
      have hq' := (hlead.fits q hq).column_lt_stop
      have hp' := (h.fits p hp).column_lt_stop
      omega
    · exact h.apart p hp q hq hkind hkind'

end Partition

/-! ### Blanks, pieces, and the end -/

/-- There is no piece of nothing. -/
theorem partition_nil_iff {start : Nat} {ps : List Piece} : Partition start [] ps ↔ ps = [] := by
  constructor
  · intro h
    cases ps with
    | nil => rfl
    | cons p ps =>
        have hslice := (h.slice p (List.mem_cons_self ..)).2
        have hlength := (h.fits p (List.mem_cons_self ..)).length_pos
        rw [List.drop_nil, List.take_nil, eq_comm, ← List.length_eq_zero_iff,
          String.length_toList] at hslice
        omega
  · rintro rfl
    exact ⟨.nil, by simp, .nil, by simp, by simp, by simp⟩

/-- A blank is left over. -/
theorem partition_blank_cons_iff {start : Nat} {c : Char} (hc : Text.isBlank c = true)
    {cs : List Char} {ps : List Piece} :
    Partition start (c :: cs) ps ↔ Partition (start + 1) cs ps := by
  constructor
  · intro h
    have hnone := (h.blank_iff 0 c rfl).mp hc
    have hparts : Partition start ([c] ++ cs) ([] ++ ps) := h
    refine hparts.behind (by simp) fun p hp => ?_
    have hstart := (h.slice p hp).1
    have hne : p.column ≠ start := by
      rintro rfl
      exact hnone p hp (h.fits p hp).covers_column
    simp only [List.length_singleton]
    omega
  · intro h
    have hblank : Partition start [c] [] := by
      refine ⟨.nil, by simp, .nil, fun i d hd => ?_, by simp, by simp⟩
      obtain rfl : d = c := List.mem_singleton.mp (List.mem_of_getElem? hd)
      simp [hc]
    exact hblank.append h (by simp)

/-- A piece of its own characters. -/
theorem partition_piece {p : Piece} (hp : p.Fits) :
    Partition p.column p.text.toList [p] := by
  refine ⟨List.pairwise_singleton .., ?_, List.pairwise_singleton .., ?_, by simpa using hp, ?_⟩
  · rw [List.forall_mem_singleton, Nat.sub_self, List.drop_zero, ← String.length_toList,
      List.take_length]
    exact ⟨Nat.le_refl _, rfl⟩
  · intro i c hc
    have hlt := (List.getElem?_eq_some_iff.mp hc).1
    rw [String.length_toList] at hlt
    rw [List.forall_mem_singleton, (hp.of_mem (List.mem_of_getElem? hc)).2]
    refine iff_of_false (by simp) (not_not.mpr ⟨Nat.le_add_right .., ?_⟩)
    exact Nat.add_lt_add_left hlt _
  · rintro q hq r hr - -
    obtain rfl := List.mem_singleton.mp hq
    obtain rfl := List.mem_singleton.mp hr
    exact Nat.ne_of_gt hp.column_lt_stop

/-- An atom that starts with the characters of another one ends with them, when no character of
an atom follows. -/
theorem Partition.text_eq_of_atom {p q : Piece} {cs : List Char} {ps : List Piece} (hp : p.Fits)
    (hatom : p.kind = .atom) (hends : EndsAtom cs)
    (h : Partition p.column (p.text.toList ++ cs) (q :: ps)) (hcolumn : q.column = p.column)
    (hqatom : q.kind = .atom) : q.text = p.text := by
  have hq : q ∈ q :: ps := List.mem_cons_self ..
  have hlength : p.text.toList.length = p.text.length := String.length_toList
  rcases Nat.lt_trichotomy q.text.length p.text.length with hlt | heq | hgt
  · -- the character behind `q` is one of `p`
    rw [← hlength] at hlt
    have hget := @List.getElem?_append_left _ _ cs _ hlt
    rw [List.getElem?_eq_getElem hlt] at hget
    have hchar := hp.isAtomChar_of_mem hatom (List.getElem_mem hlt)
    rw [h.isAtomChar_stop hq hqatom (congrArg (· + q.text.length) hcolumn) hget] at hchar
    exact absurd hchar (by simp)
  · have hslice := (h.slice q hq).2
    rw [hcolumn, Nat.sub_self, List.drop_zero, heq, ← hlength, List.take_left] at hslice
    exact String.toList_injective hslice.symm
  · -- the character behind `p` would be one of `q`
    have hinside : p.text.toList.length < q.text.toList.length := by
      rw [hlength, String.length_toList]
      exact hgt
    have hget := h.getElem?_eq hq (hlength ▸ hgt)
    rw [hcolumn, Nat.sub_self, Nat.zero_add, List.getElem?_append_right (Nat.le_refl _),
      Nat.sub_self, List.getElem?_eq_getElem hinside, ← List.head?_eq_getElem?] at hget
    have hchar := (h.fits q hq).isAtomChar_of_mem hqatom (List.getElem_mem hinside)
    rw [hends _ hget] at hchar
    exact absurd hchar (by simp)

/-- The first piece is the one that the characters start with, and it ends where they end. -/
theorem Partition.exists_eq_cons {p : Piece} {cs : List Char} {ps : List Piece} (hp : p.Fits)
    (hends : p.kind = .atom → EndsAtom cs)
    (h : Partition p.column (p.text.toList ++ cs) ps) : ∃ rest, ps = p :: rest := by
  obtain ⟨c, w, hcw⟩ : ∃ c w, p.text.toList = c :: w :=
    List.exists_cons_of_length_pos (by rw [String.length_toList]; exact hp.length_pos)
  have hc : c ∈ p.text.toList := by simp [hcw]
  obtain ⟨hkind, hblank⟩ := hp.of_mem hc
  have hget : (p.text.toList ++ cs)[0]? = some c := by rw [hcw]; rfl
  obtain ⟨r, hr, hcovers⟩ := h.exists_covers hget hblank
  cases ps with
  | nil => exact absurd hr (by simp)
  | cons q rest =>
      have hq : q ∈ q :: rest := List.mem_cons_self ..
      have hfits := h.fits q hq
      have hcolumn : q.column = p.column := by
        have hge := (h.slice q hq).1
        have hle := hcovers.1
        rcases List.mem_cons.mp hr with rfl | hr
        · omega
        · have hlt := (List.pairwise_cons.mp h.increasing).1 r hr
          omega
      have hqcovers : q.Covers (p.column + 0) :=
        hcolumn ▸ hfits.covers_column
      have hqkind : q.kind = p.kind := by
        rw [hkind, (hfits.of_mem (h.mem_of_covers hq hqcovers hget)).1]
      have htext : q.text = p.text := by
        by_cases hatom : p.kind = .atom
        · exact h.text_eq_of_atom hp hatom (hends hatom) hcolumn (hqkind.trans hatom)
        · exact hfits.text_eq_of_kind_ne_atom hp hqkind (hqkind ▸ hatom)
      exact ⟨rest, by rw [Piece.ext hqkind htext hcolumn]⟩

/-- A piece that ends where its characters end is taken off. -/
theorem partition_piece_append_iff {p : Piece} {cs : List Char} {ps : List Piece} (hp : p.Fits)
    (hends : p.kind = .atom → EndsAtom cs) :
    Partition p.column (p.text.toList ++ cs) ps ↔
      ∃ rest, ps = p :: rest ∧ Partition p.stop cs rest := by
  have hstop : p.stop = p.column + p.text.toList.length := by
    rw [Piece.stop, String.length_toList]
  constructor
  · intro h
    obtain ⟨rest, rfl⟩ := h.exists_eq_cons hp hends
    refine ⟨rest, rfl, ?_⟩
    rw [hstop]
    have hparts : Partition p.column (p.text.toList ++ cs) ([p] ++ rest) := h
    refine hparts.behind (by simp [hstop]) fun q hq => ?_
    rw [← hstop]
    exact h.stop_le hq
  · rintro ⟨rest, rfl, h⟩
    rw [hstop] at h
    exact (partition_piece hp).append h (by simpa using hends)

/-! ### The scanner -/

/-- A parenthesis is taken off. -/
theorem partition_parenthesis_cons_iff {p : Piece} {c : Char} (hp : p.Fits)
    (hkind : p.kind ≠ .atom) (hc : p.text.toList = [c]) {cs : List Char} {ps : List Piece} :
    Partition p.column (c :: cs) ps ↔
      ∃ rest, ps = p :: rest ∧ Partition (p.column + 1) cs rest := by
  have hstop : p.stop = p.column + 1 := by
    rw [Piece.stop, ← String.length_toList, hc, List.length_singleton]
  rw [← hstop, ← List.singleton_append, ← hc]
  exact partition_piece_append_iff hp fun h => absurd h hkind

/-- What has been read of an atom is taken off where it ends. -/
theorem partition_endAtom_append_iff {reversed : List Char}
    (h : ∀ c ∈ reversed, isAtomChar c = true) {start : Nat} {cs : List Char} {ps : List Piece}
    (hends : EndsAtom cs) :
    Partition start (reversed.reverse ++ cs) ps ↔
      ∃ rest, ps = (Token.endAtom reversed (start + reversed.length)).map Token.piece ++ rest ∧
        Partition (start + reversed.length) cs rest := by
  by_cases hne : reversed = []
  · subst hne
    simp
  · have hfits : (Token.piece ⟨.atom (String.ofList reversed.reverse), start⟩).Fits :=
      isAtomText_ofList (by simpa using hne) (by simpa using h)
    have hpiece := @partition_piece_append_iff _ cs ps hfits fun _ => hends
    rw [Token.endAtom_of_ne_nil hne, Nat.add_sub_cancel]
    simpa [Token.piece, Lexeme.text, Piece.stop] using hpiece

/-- Where an atom ends, the scanner has to be right about what follows only. -/
theorem partition_scanFrom_iff_of_endsAtom {reversed : List Char}
    (h : ∀ c ∈ reversed, isAtomChar c = true) {cs : List Char} (hends : EndsAtom cs)
    (hfresh : ∀ start ps, Partition start cs ps ↔
      ps = (Token.scanFrom [] start cs).map Token.piece) (start : Nat) (ps : List Piece) :
    Partition start (reversed.reverse ++ cs) ps ↔
      ps = (Token.scanFrom reversed (start + reversed.length) cs).map Token.piece := by
  rw [partition_endAtom_append_iff h hends, Token.scanFrom_of_endsAtom hends, List.map_append]
  simp only [hfresh, exists_eq_right]

/-- **The scanner finds the one partition** of the characters that are left, together with those
of an atom that has not ended yet. -/
theorem partition_scanFrom_iff {reversed : List Char} (h : ∀ c ∈ reversed, isAtomChar c = true)
    {cs : List Char} (start : Nat) (ps : List Piece) :
    Partition start (reversed.reverse ++ cs) ps ↔
      ps = (Token.scanFrom reversed (start + reversed.length) cs).map Token.piece := by
  induction cs generalizing reversed start ps with
  | nil => exact partition_scanFrom_iff_of_endsAtom h endsAtom_nil (fun _ _ => partition_nil_iff) ..
  | cons c cs ih =>
      have hrest : ∀ start ps, Partition start cs ps ↔
          ps = (Token.scanFrom [] start cs).map Token.piece := @ih [] (by simp)
      rcases Token.char_cases c with rfl | rfl | hblank | hatom
      · refine partition_scanFrom_iff_of_endsAtom h (endsAtom_cons (by decide) cs) ?_ ..
        intro start ps
        rw [@partition_parenthesis_cons_iff ⟨.opening, "(", start⟩ _ rfl nofun (by simp),
          Token.scanFrom_opening]
        simp only [hrest, exists_eq_right]
        rfl
      · refine partition_scanFrom_iff_of_endsAtom h (endsAtom_cons (by decide) cs) ?_ ..
        intro start ps
        rw [@partition_parenthesis_cons_iff ⟨.closing, ")", start⟩ _ rfl nofun (by simp),
          Token.scanFrom_closing]
        simp only [hrest, exists_eq_right]
        rfl
      · refine partition_scanFrom_iff_of_endsAtom h (endsAtom_cons ?_ cs) ?_ ..
        · simp [isAtomChar, hblank]
        · intro start ps
          rw [partition_blank_cons_iff hblank, Token.scanFrom_blank hblank, hrest]
          rfl
      · have hread := @ih (c :: reversed) (List.forall_mem_cons.mpr ⟨hatom, h⟩) start ps
        rw [List.reverse_cons, List.append_assoc, List.singleton_append] at hread
        rw [Token.scanFrom_atomChar hatom]
        exact hread

/-- A token starts in a column of its text. -/
theorem Token.column_le_of_mem_scan {text : String} {k : Token} (h : k ∈ scan text) :
    k.column ≤ text.length := by
  have htokens : Partition 1 text.toList ((scan text).map piece) :=
    (@partition_scanFrom_iff [] (by simp) text.toList 1 _).mpr rfl
  have hpiece : k.piece ∈ (scan text).map piece := List.mem_map_of_mem h
  have hstart := (htokens.fits _ hpiece).column_lt_stop
  have hend := htokens.stop_le_add_length hpiece
  rw [String.length_toList, Nat.add_comm] at hend
  exact Nat.le_of_lt_succ (Nat.lt_of_lt_of_le hstart hend)

/-- **The tokens of a text are its one partition**: their columns ascend, each has the text that
stands in its columns and is of its kind, no two take up the same column, what they leave over is
what is blank, no two atoms touch; and no other pieces are so. Between two atoms there is a blank
or a parenthesis. -/
theorem tokens_are_the_partition (text : String) :
    (∀ ps : List Piece,
      Partition 1 text.toList ps ↔ ps = (Token.scan text).map Token.piece) ∧
    ∀ p ∈ (Token.scan text).map Token.piece, ∀ q ∈ (Token.scan text).map Token.piece,
      p.kind = .atom → q.kind = .atom → p.column < q.column →
        ∃ i c, p.stop ≤ 1 + i ∧ 1 + i < q.column ∧ text.toList[i]? = some c ∧
          (Text.isBlank c = true ∨ c = '(' ∨ c = ')') := by
  have hiff : ∀ ps : List Piece,
      Partition 1 text.toList ps ↔ ps = (Token.scan text).map Token.piece := fun ps =>
    @partition_scanFrom_iff [] (by simp) text.toList 1 ps
  refine ⟨hiff, fun p hp q hq hatom hqatom hlt => ?_⟩
  have htokens := (hiff _).mpr rfl
  obtain ⟨i, c, hstop, hcolumn, hget, hchar⟩ := htokens.exists_between hp hq hatom hqatom hlt
  refine ⟨i, c, hstop, hcolumn, hget, ?_⟩
  rcases Token.char_cases c with hopen | hclose | hblank | hatomChar
  · exact .inr (.inl hopen)
  · exact .inr (.inr hclose)
  · exact .inl hblank
  · rw [hchar] at hatomChar
    exact absurd hatomChar (by simp)

/-- A line end is a blank like others, and takes up a column. -/
example : (Token.scan "(+\n x1)").map Token.piece =
    [⟨.opening, "(", 1⟩, ⟨.atom, "+", 2⟩, ⟨.atom, "x1", 5⟩, ⟨.closing, ")", 7⟩] := by
  decide

end PrefixCalc
