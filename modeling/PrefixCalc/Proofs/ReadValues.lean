import PrefixCalc.Proofs.JsonValues

/-!
# What Is Read Can Be Shown

A value that is read is put together by the reader of tokens, from the words and texts between the
marks. So a property of these that containers inherit from what they hold (`Json.Inherited`) is a
property of the value. The invariant of the reader is that every value in its state has the
property: a step keeps it, and by induction so does a run over any tokens.

A message shows any value but an integer with too many digits, and such an integer is no word. So
every value that is read can be shown, and so can what a remote evaluator explains its failure by.

## Main results

* `Json.inherited_of_read`: what holds of every value that is read.
* `Json.inFormat_of_read`: its floating-point numbers are in the 64-bit format.
* `Json.exists_shown_array_iff`, `Json.exists_shown_object_iff`: which containers can be shown.
* `Json.exists_shown_of_read`: a value that is read can be shown.
-/

namespace PrefixCalc.Json

/-! ### Words of a text -/

/-- A character outside words and texts completes no word. -/
theorem word_notMem_of_scanBetween {c : Char} {ts : List Token} {next : ScanState}
    (h : scanBetween c = some (ts, next)) (w : Word) : .word w ∉ ts := by
  unfold scanBetween at h
  split_ifs at h
  · cases h
    exact List.not_mem_nil
  · cases h
    exact List.not_mem_nil
  · cases h
    exact List.not_mem_nil
  · obtain ⟨t, ht, heq⟩ := Option.map_eq_some_iff.mp h
    cases heq
    rw [List.mem_singleton]
    rintro rfl
    unfold mark? at ht
    split at ht <;> cases ht

/-- A word that a character completes is read from characters. -/
theorem exists_ofChars_of_mem_step {s next : ScanState} {c : Char} {ts : List Token} {w : Word}
    (h : scanStep s c = some (ts, next)) (hw : .word w ∈ ts) :
    ∃ cs, Word.ofChars? cs = some w := by
  cases s with
  | between => exact absurd hw (word_notMem_of_scanBetween h w)
  | word reversed =>
      rw [scanStep] at h
      split_ifs at h
      · cases h
        cases hw
      · obtain ⟨v, hv, h⟩ := Option.bind_eq_some_iff.mp h
        obtain ⟨⟨rest, _⟩, hrest, h⟩ := Option.bind_eq_some_iff.mp h
        cases h
        -- the character behind a word ends it, and may complete a mark besides
        rcases List.mem_cons.mp hw with heq | hmem
        · cases heq
          exact ⟨_, hv⟩
        · exact absurd hmem (word_notMem_of_scanBetween hrest w)
  | text reversed =>
      rw [scanStep] at h
      split_ifs at h <;> cases h
      · rcases Token.ofPoints_cases reversed.reverse with ⟨s, hs, -⟩ | hs <;>
          rw [List.mem_singleton, hs] at hw <;> cases hw
      · cases hw
      · cases hw
  | escape reversed =>
      rw [scanStep] at h
      split_ifs at h
      · cases h
        cases hw
      · obtain ⟨d, -, heq⟩ := Option.map_eq_some_iff.mp h
        cases heq
        cases hw
  | unit reversed missing value =>
      obtain ⟨d, -, h⟩ := Option.bind_eq_some_iff.mp h
      dsimp only at h
      split_ifs at h <;> cases h <;> cases hw

/-- **The words of a text** are read from its characters. -/
theorem exists_ofChars_of_mem_scanFrom {s : ScanState} {cs : List Char} {w : Word}
    (h : .word w ∈ (scanFrom s cs).1) : ∃ ds, Word.ofChars? ds = some w := by
  induction cs generalizing s with
  | nil =>
      cases s with
      | word reversed =>
          rw [scanFrom] at h
          split at h
          · next v hv =>
              rw [List.mem_singleton] at h
              cases h
              exact ⟨_, hv⟩
          · cases h
      | _ => cases h
  | cons c cs ih =>
      cases hstep : scanStep s c with
      | none =>
          rw [scanFrom, hstep] at h
          cases h
      | some step =>
          obtain ⟨ts, next⟩ := step
          rw [scanFrom_cons_of_step hstep, List.mem_append] at h
          rcases h with hnow | hlater
          · exact exists_ofChars_of_mem_step hstep hnow
          · exact ih hlater

/-- A numeral is an integer with no more digits than may be written, or a rounded fraction. -/
theorem Word.ofNumeral_cases {cs : List Char} {w : Word} (h : ofNumeral? cs = some w) :
    (∃ n, w = .int n ∧ Decimal.writable n = true) ∨
      ∃ negative coefficient e, w = .real (Real64.ofDecimal negative coefficient e) := by
  have hdigits : ∀ c ∈ (digitRun (Decimal.splitSign cs).2).1, c.isDigit = true :=
    fun c hc => List.mem_takeWhile_imp hc
  unfold ofNumeral? at h
  dsimp only at h
  split at h
  · cases h
  · obtain ⟨⟨fraction, rest⟩, -, h⟩ := Option.bind_eq_some_iff.mp h
    obtain ⟨exponent, -, h⟩ := Option.bind_eq_some_iff.mp h
    split_ifs at h with hbare hlength
    · cases h
      refine .inl ⟨_, rfl, ?_⟩
      rw [Decimal.writable, Decimal.natAbs_signed, Decimal.writeBound_eq, decide_eq_true_eq]
      exact (Decimal.ofDigits_lt hdigits).trans_le (Nat.pow_le_pow_right (by decide) hlength)
    · cases h
      exact .inr ⟨_, _, _, rfl⟩

/-- An integer in a text has no more digits than may be written. -/
theorem writable_of_ofChars {cs : List Char} {n : Int} (h : Word.ofChars? cs = some (.int n)) :
    Decimal.writable n = true := by
  -- the named constants are no integers, so a numeral is left
  have hnumeral : Word.ofNumeral? cs = some (.int n) := by
    unfold Word.ofChars? at h
    split at h <;> first | exact h | cases h
  rcases Word.ofNumeral_cases hnumeral with ⟨m, heq, hm⟩ | ⟨_, _, _, heq⟩
  · cases heq
    exact hm
  · cases heq

/-- A floating-point number in a text is in the format. -/
theorem Word.inFormat_of_ofChars {cs : List Char} {w : Word} (h : ofChars? cs = some w) :
    w.InFormat := by
  unfold ofChars? at h
  split at h
  iterate 6
    · cases h
      trivial
  · rcases ofNumeral_cases h with ⟨n, rfl, -⟩ | ⟨negative, coefficient, e, rfl⟩
    · trivial
    · exact Real64.inFormat_ofDecimal negative coefficient e

/-! ### Properties of what is read -/

/-- A property that all texts have, and that containers inherit from what they hold. -/
structure Inherited (P : Json → Prop) : Prop where
  text : ∀ s, P (.text s)
  broken : ∀ points, P (.broken points)
  array : ∀ items, (∀ j ∈ items, P j) → P (.array items)
  object : ∀ members, (∀ m ∈ members, P m.2) → P (.object members)
  brokenObject : ∀ members, (∀ m ∈ members, P m.2) → P (.brokenObject members)

/-- An object has the property whatever its names are. -/
theorem Inherited.ofMembers {P : Json → Prop} (hP : Inherited P) {members : List (List Nat × Json)}
    (h : ∀ m ∈ members, P m.2) : P (Json.ofMembers members) := by
  unfold Json.ofMembers
  split
  · exact hP.object _ (List.forall_mem_map.mpr h)
  · exact hP.brokenObject _ h

/-- The values that the expected token may complete. -/
def Expecting.values : Expecting → List Json
  | .name before => before.map Prod.snd
  | .colon before _ => before.map Prod.snd
  | .next done => [done]
  | _ => []

/-- The values that an open container holds. -/
def Frame.values : Frame → List Json
  | .array before => before
  | .object before _ => before.map Prod.snd

/-- The values that the reader has. -/
def ReadState.values (s : ReadState) : List Json :=
  s.expecting.values ++ s.outer.flatMap Frame.values

variable {P : Json → Prop} {t : Token} {s s' : ReadState}

/-- Every value that the reader has is one with the property. -/
def ReadState.Holds (P : Json → Prop) (s : ReadState) : Prop :=
  ∀ j ∈ s.values, P j

/-- Members whose values have the property still do with one more such value. -/
theorem forall_put {members : List (List Nat × Json)} (h : ∀ j ∈ members.map Prod.snd, P j)
    {name : List Nat} {value : Json} (hvalue : P value) :
    ∀ j ∈ (put members name value).map Prod.snd, P j := by
  rw [List.forall_mem_map] at h ⊢
  unfold put
  split_ifs
  · rw [List.forall_mem_map]
    intro m hm
    split_ifs
    · exact hvalue
    · exact h m hm
  · rw [List.forall_mem_append, List.forall_mem_singleton]
    exact ⟨h, hvalue⟩

/-- The property of a state, for what is expected and for the open containers. -/
theorem holds_mk_iff {expecting : Expecting} {outer : List Frame} :
    ReadState.Holds P ⟨expecting, outer⟩ ↔
      (∀ j ∈ expecting.values, P j) ∧ ∀ j ∈ outer.flatMap Frame.values, P j :=
  List.forall_mem_append

theorem forall_values_cons_iff {f : Frame} {outer : List Frame} :
    (∀ j ∈ (f :: outer).flatMap Frame.values, P j) ↔
      (∀ j ∈ f.values, P j) ∧ ∀ j ∈ outer.flatMap Frame.values, P j := by
  rw [List.flatMap_cons, List.forall_mem_append]

/-! ### Steps of the reader -/

variable {outer : List Frame}

theorem holds_of_readValue (hP : Inherited P) (ht : ∀ w, t = .word w → P w.value)
    (houter : ∀ j ∈ outer.flatMap Frame.values, P j) (h : readValue outer t = .ok s') :
    s'.Holds P := by
  have hopen : ∀ {expecting : Expecting}, expecting.values = [] →
      openIn outer expecting = .ok s' → s'.Holds P := by
    intro expecting hnone h
    unfold openIn at h
    split_ifs at h
    cases h
    rw [holds_mk_iff, hnone]
    exact ⟨List.forall_mem_nil _, houter⟩
  have hdone : ∀ {j : Json}, P j →
      (.ok ⟨.next j, outer⟩ : Except ReadFault ReadState) = .ok s' → s'.Holds P := by
    intro j hj h
    cases h
    exact holds_mk_iff.mpr ⟨List.forall_mem_singleton.mpr hj, houter⟩
  cases t with
  | word w => exact hdone (ht w rfl) h
  | text text => exact hdone (hP.text text) h
  | broken points => exact hdone (hP.broken points) h
  | openArray => exact hopen rfl h
  | openObject => exact hopen rfl h
  | _ => cases h

theorem holds_of_readName {before : List (List Nat × Json)}
    (hbefore : ∀ j ∈ before.map Prod.snd, P j) (houter : ∀ j ∈ outer.flatMap Frame.values, P j)
    (h : readName before outer t = .ok s') : s'.Holds P := by
  unfold readName at h
  split at h
  · cases h
    exact holds_mk_iff.mpr ⟨hbefore, houter⟩
  · cases h

theorem holds_of_readNext (hP : Inherited P) {done : Json} (hdone : P done)
    (houter : ∀ j ∈ outer.flatMap Frame.values, P j) (h : readNext done outer t = .ok s') :
    s'.Holds P := by
  unfold readNext at h
  split at h <;> cases h <;> rw [forall_values_cons_iff] at houter <;>
    obtain ⟨hbefore, houter⟩ := houter
  · refine holds_mk_iff.mpr ⟨List.forall_mem_nil _, forall_values_cons_iff.mpr ⟨?_, houter⟩⟩
    exact List.forall_mem_append.mpr ⟨hbefore, List.forall_mem_singleton.mpr hdone⟩
  · refine holds_mk_iff.mpr ⟨List.forall_mem_singleton.mpr (hP.array _ ?_), houter⟩
    exact List.forall_mem_append.mpr ⟨hbefore, List.forall_mem_singleton.mpr hdone⟩
  · exact holds_mk_iff.mpr ⟨forall_put hbefore hdone, houter⟩
  · refine holds_mk_iff.mpr ⟨List.forall_mem_singleton.mpr (hP.ofMembers ?_), houter⟩
    exact List.forall_mem_map.mp (forall_put hbefore hdone)

/-- **A step of the reader** keeps the property of its values, if the word that it may take has
it. -/
theorem holds_of_readStep (hP : Inherited P) (ht : ∀ w, t = .word w → P w.value)
    (hs : s.Holds P) (h : readStep s t = .ok s') : s'.Holds P := by
  obtain ⟨expecting, outer⟩ := s
  obtain ⟨hexpecting, houter⟩ := holds_mk_iff.mp hs
  have hnext : ∀ {j : Json}, P j → ReadState.Holds P ⟨.next j, outer⟩ := fun hj =>
    holds_mk_iff.mpr ⟨List.forall_mem_singleton.mpr hj, houter⟩
  cases expecting with
  | value => exact holds_of_readValue hP ht houter h
  | firstItem =>
      -- only the end of an empty container is not read as a first item or a first name
      by_cases hclose : t = .closeArray
      · subst hclose
        cases h
        exact hnext (hP.array _ (List.forall_mem_nil _))
      · have hvalue : readValue (.array [] :: outer) t = .ok s' := by
          cases t <;> first | exact h | exact absurd rfl hclose
        exact holds_of_readValue hP ht
          (forall_values_cons_iff.mpr ⟨List.forall_mem_nil _, houter⟩) hvalue
  | firstName =>
      by_cases hclose : t = .closeObject
      · subst hclose
        cases h
        exact hnext (hP.object _ (List.forall_mem_nil _))
      · have hname : readName [] outer t = .ok s' := by
          cases t <;> first | exact h | exact absurd rfl hclose
        exact holds_of_readName (List.forall_mem_nil _) houter hname
  | name before => exact holds_of_readName hexpecting houter h
  | colon before name =>
      by_cases hcolon : t = .colon
      · subst hcolon
        cases h
        exact holds_mk_iff.mpr
          ⟨List.forall_mem_nil _, forall_values_cons_iff.mpr ⟨hexpecting, houter⟩⟩
      · cases t <;> first | exact absurd rfl hcolon | cases h
  | next done => exact holds_of_readNext hP (List.forall_mem_singleton.mp hexpecting) houter h

/-- **A run of the reader** keeps the property of its values, if all words have it. -/
theorem holds_of_readSteps (hP : Inherited P) {ts : List Token}
    (hts : ∀ w, .word w ∈ ts → P w.value) (hs : s.Holds P) (h : readSteps s ts = .ok s') :
    s'.Holds P := by
  induction ts generalizing s with
  | nil =>
      cases h
      exact hs
  | cons t ts ih =>
      rw [readSteps] at h
      split at h
      · next next hstep =>
          have hnext : next.Holds P :=
            holds_of_readStep hP (fun w hw => hts w (hw ▸ List.mem_cons_self)) hs hstep
          exact ih (fun w hw => hts w (List.mem_cons_of_mem _ hw)) hnext h
      · cases h

/-- **A value that is read has every inherited property that words have.** -/
theorem inherited_of_read (hP : Inherited P)
    (hwords : ∀ cs w, Word.ofChars? cs = some w → P w.value) {text : String} {j : Json}
    (h : read text = .ok j) : P j := by
  unfold read at h
  dsimp only at h
  split at h
  · cases h
  · next state hsteps =>
    have hheld : state.Holds P := by
      refine holds_of_readSteps hP ?_
        (holds_mk_iff.mpr ⟨List.forall_mem_nil _, List.forall_mem_nil _⟩) hsteps
      intro w hw
      obtain ⟨cs, hcs⟩ := exists_ofChars_of_mem_scanFrom hw
      exact hwords cs w hcs
    split at h
    · next hdone =>
      cases h
      unfold ReadState.done? at hdone
      split at hdone
      · cases hdone
        exact hheld _ List.mem_cons_self
      · cases hdone
    · cases h

/-- **The floating-point numbers in a value that is read are in the format.** -/
theorem inFormat_of_read {text : String} {j : Json} (h : read text = .ok j) : j.InFormat := by
  refine inherited_of_read
    ⟨.text, .broken, fun _ => .array, fun _ => .object, fun _ => .brokenObject⟩ ?_ h
  intro cs w hw
  have hformat := Word.inFormat_of_ofChars hw
  cases w with
  | null => exact .null
  | bool b => exact .bool b
  | int n => exact .int n
  | real x => exact .real hformat

/-! ### Values that can be shown -/

/-- Two computations in a row come to something when each of them does. -/
theorem exists_bind_pure_iff {ε α β γ : Type} {x : Except ε α} {y : Except ε β}
    {f : α → β → γ} :
    (∃ c, (do return f (← x) (← y)) = Except.ok c) ↔ (∃ a, x = .ok a) ∧ ∃ b, y = .ok b := by
  constructor
  · rintro ⟨c, h⟩
    obtain ⟨a, ha, h⟩ := bind_eq_ok_iff.mp h
    obtain ⟨b, hb, -⟩ := bind_eq_ok_iff.mp h
    exact ⟨⟨a, ha⟩, b, hb⟩
  · rintro ⟨⟨a, rfl⟩, b, rfl⟩
    exact ⟨_, rfl⟩

theorem exists_map_pure_iff {ε α β : Type} {x : Except ε α} {f : α → β} :
    (∃ b, (do return f (← x)) = Except.ok b) ↔ ∃ a, x = .ok a := by
  constructor
  · rintro ⟨b, h⟩
    obtain ⟨a, ha, -⟩ := bind_eq_ok_iff.mp h
    exact ⟨a, ha⟩
  · rintro ⟨a, rfl⟩
    exact ⟨_, rfl⟩

theorem exists_shownItems_iff {items : List Json} :
    (∃ texts, shownItems items = .ok texts) ↔ ∀ j ∈ items, ∃ text, j.shown = .ok text := by
  induction items with
  | nil => exact ⟨fun _ => List.forall_mem_nil _, fun _ => ⟨[], rfl⟩⟩
  | cons j items ih => rw [List.forall_mem_cons, ← ih, shownItems, exists_bind_pure_iff]

theorem exists_shownBrokenMembers_iff {members : List (List Nat × Json)} :
    (∃ texts, shownBrokenMembers members = .ok texts) ↔
      ∀ m ∈ members, ∃ text, m.2.shown = .ok text := by
  induction members with
  | nil => exact ⟨fun _ => List.forall_mem_nil _, fun _ => ⟨[], rfl⟩⟩
  | cons m members ih =>
      obtain ⟨name, j⟩ := m
      rw [List.forall_mem_cons, ← ih, shownBrokenMembers, exists_bind_pure_iff]

/-- An array can be shown when its items can. -/
theorem exists_shown_array_iff {items : List Json} :
    (∃ text, (array items).shown = .ok text) ↔ ∀ j ∈ items, ∃ text, j.shown = .ok text := by
  rw [← exists_shownItems_iff, shown, exists_map_pure_iff]

/-- An object can be shown when the values of its members can, whatever its names are. -/
theorem exists_shown_brokenObject_iff {members : List (List Nat × Json)} :
    (∃ text, (brokenObject members).shown = .ok text) ↔
      ∀ m ∈ members, ∃ text, m.2.shown = .ok text := by
  rw [← exists_shownBrokenMembers_iff, shown, exists_map_pure_iff]

theorem exists_shown_object_iff {members : List (String × Json)} :
    (∃ text, (object members).shown = .ok text) ↔
      ∀ m ∈ members, ∃ text, m.2.shown = .ok text := by
  rw [shown, exists_map_pure_iff, shownMembers_eq, exists_shownBrokenMembers_iff, pointed,
    List.forall_mem_map]

/-- A value with a member is an object. -/
theorem get_eq_some_iff {j value : Json} {name : String} :
    j.get? name = some value ↔
      (∃ members, j = .object members ∧ member? members name = some value) ∨
        ∃ members, j = .brokenObject members ∧
          member? members (Text.points name) = some value := by
  constructor
  · intro h
    cases j with
    | object members => exact .inl ⟨members, rfl, h⟩
    | brokenObject members => exact .inr ⟨members, rfl, h⟩
    | _ => cases h
  · rintro (⟨members, rfl, h⟩ | ⟨members, rfl, h⟩) <;> exact h

/-- A member of an object that can be shown can be shown. -/
theorem exists_shown_of_get {j value : Json} {name : String} (h : ∃ text, j.shown = .ok text)
    (hget : j.get? name = some value) : ∃ text, value.shown = .ok text := by
  rcases get_eq_some_iff.mp hget with ⟨members, rfl, hmember⟩ | ⟨members, rfl, hmember⟩
  · obtain ⟨before, behind, rfl, -⟩ := List.lookup_eq_some_iff.mp hmember
    exact exists_shown_object_iff.mp h (name, value) (by simp)
  · obtain ⟨before, behind, rfl, -⟩ := List.lookup_eq_some_iff.mp hmember
    exact exists_shown_brokenObject_iff.mp h (Text.points name, value) (by simp)

/-- **A value that is read can be shown.** -/
theorem exists_shown_of_read {text : String} {j : Json} (h : read text = .ok j) :
    ∃ shown, j.shown = .ok shown := by
  refine inherited_of_read (P := fun j => ∃ shown, j.shown = .ok shown)
    ⟨fun s => ⟨_, rfl⟩, fun points => ⟨_, rfl⟩, fun items => exists_shown_array_iff.mpr,
      fun members => exists_shown_object_iff.mpr,
      fun members => exists_shown_brokenObject_iff.mpr⟩ ?_ h
  intro cs w hw
  cases w with
  | null => exact ⟨_, rfl⟩
  | bool b => cases b <;> exact ⟨_, rfl⟩
  | real x => exact ⟨_, rfl⟩
  | int n =>
      have hshort : n.natAbs < Decimal.writeBound := of_decide_eq_true (writable_of_ofChars hw)
      exact ⟨_, Decimal.write_eq_ok_iff.mpr ⟨hshort, rfl⟩⟩

/-- A value that can be shown can be written as a line. -/
theorem exists_line_of_shown {j : Json} (h : ∃ text, j.shown = .ok text) :
    ∃ line, j.line = .ok line := by
  cases j with
  | text s => exact ⟨s, rfl⟩
  | broken points => exact ⟨_, rfl⟩
  | _ => exact h

end PrefixCalc.Json
