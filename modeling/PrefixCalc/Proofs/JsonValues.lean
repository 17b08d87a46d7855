import PrefixCalc.Proofs.JsonTokens

/-!
# JSON Values Are Read as They Are Written

The text of a value, if it has one, is read: as the value itself when that holds no floating-point
number and no object with a name given twice (`Plain`), and otherwise as a value that differs only
there (`reread`). A value with a broken text or name has no text.

The reader takes the tokens of a value one at a time and comes to stand behind the value, whatever
containers are open around it, as long as the nesting limit leaves room for its depth
(`readSteps_tokens_append`). In a container this is said for what is still to come, with what has
been read already carried along.

## Main results

* `readable_tokens`: the tokens of a value can be scanned from their texts.
* `readSteps_tokens_append`: the reader takes the tokens of a value for the value.
* `read_of_write`: what the text of a value is read as.
* `read_write`: a plain value is read from its text.
-/

namespace PrefixCalc.Json

/-- The floating-point numbers in a value are in the format. -/
inductive InFormat : Json → Prop
  | null : InFormat .null
  | bool (b : Bool) : InFormat (.bool b)
  | int (n : Int) : InFormat (.int n)
  | real {x : Real64} (h : x.InFormat) : InFormat (.real x)
  | text (s : String) : InFormat (.text s)
  | broken (points : List Nat) : InFormat (.broken points)
  | brokenObject {members : List (List Nat × Json)} (h : ∀ m ∈ members, InFormat m.2) :
      InFormat (.brokenObject members)
  | array {items : List Json} (h : ∀ j ∈ items, InFormat j) : InFormat (.array items)
  | object {members : List (String × Json)} (h : ∀ m ∈ members, InFormat m.2) :
      InFormat (.object members)

/-! ### What a text is read as -/

mutual

/-- The value that the text of a value is read as, if it has one. Of members with one name, the
first keeps its place and the last its value. -/
def reread : Json → Json
  | .null => .null
  | .bool b => .bool b
  | .int n => .int n
  | .real x => (Word.real x).reread.value
  | .text s => .text s
  | .broken points => .broken points
  | .array items => .array (rereadItems items)
  | .object members => .object (rereadMembers [] members)
  | .brokenObject members => ofMembers (rereadBrokenMembers [] members)

/-- The items that the texts of items are read as. -/
def rereadItems : List Json → List Json
  | [] => []
  | j :: js => j.reread :: rereadItems js

/-- The members of an object when the texts of further ones have been read. -/
def rereadMembers (before : List (String × Json)) :
    List (String × Json) → List (String × Json)
  | [] => before
  | (name, j) :: ms => rereadMembers (put before name j.reread) ms

/-- The same for an object with a broken name. -/
def rereadBrokenMembers (before : List (List Nat × Json)) :
    List (List Nat × Json) → List (List Nat × Json)
  | [] => before
  | (name, j) :: ms => rereadBrokenMembers (put before name j.reread) ms

end

/-- A value that is read back from its text. -/
inductive Plain : Json → Prop
  | null : Plain .null
  | bool (b : Bool) : Plain (.bool b)
  | int (n : Int) : Plain (.int n)
  | text (s : String) : Plain (.text s)
  | array {items : List Json} (h : ∀ j ∈ items, Plain j) : Plain (.array items)
  | object {members : List (String × Json)} (names : (members.map Prod.fst).Nodup)
      (h : ∀ m ∈ members, Plain m.2) : Plain (.object members)

/-! ### Tokens of values -/

@[simp] theorem tokens_array_cons (j : Json) (js : List Json) :
    (array (j :: js)).tokens = .openArray :: (j.tokens ++ itemTokens js) := by
  simp only [tokens, List.cons_append]

@[simp] theorem tokens_object_cons (name : String) (j : Json) (ms : List (String × Json)) :
    (object ((name, j) :: ms)).tokens =
      .openObject :: .text name :: .colon :: (j.tokens ++ memberTokens ms) := by
  simp only [tokens, List.cons_append]

@[simp] theorem itemTokens_nil : itemTokens [] = [.closeArray] := by
  simp only [itemTokens]

@[simp] theorem itemTokens_cons (j : Json) (js : List Json) :
    itemTokens (j :: js) = .comma :: (j.tokens ++ itemTokens js) := by
  simp only [itemTokens, List.cons_append]

@[simp] theorem memberTokens_nil : memberTokens [] = [.closeObject] := by
  simp only [memberTokens]

@[simp] theorem memberTokens_cons (name : String) (j : Json) (ms : List (String × Json)) :
    memberTokens ((name, j) :: ms) =
      .comma :: .text name :: .colon :: (j.tokens ++ memberTokens ms) := by
  simp only [memberTokens, List.cons_append]

@[simp] theorem tokens_brokenObject_cons (name : List Nat) (j : Json)
    (ms : List (List Nat × Json)) :
    (brokenObject ((name, j) :: ms)).tokens =
      .openObject :: .ofPoints name :: .colon :: (j.tokens ++ brokenMemberTokens ms) := by
  simp only [tokens, List.cons_append]

@[simp] theorem brokenMemberTokens_nil : brokenMemberTokens [] = [.closeObject] := by
  simp only [brokenMemberTokens]

@[simp] theorem brokenMemberTokens_cons (name : List Nat) (j : Json)
    (ms : List (List Nat × Json)) :
    brokenMemberTokens ((name, j) :: ms) =
      .comma :: .ofPoints name :: .colon :: (j.tokens ++ brokenMemberTokens ms) := by
  simp only [brokenMemberTokens, List.cons_append]

/-! ### Names as code points

What is said of objects is proved of those whose names are given as code points. Any object is one
of them. -/

theorem memberTokens_eq (ms : List (String × Json)) :
    memberTokens ms = brokenMemberTokens (pointed ms) := by
  induction ms with
  | nil => simp
  | cons m ms ih =>
      obtain ⟨name, j⟩ := m
      simp [ih, Token.ofPoints_points]

theorem tokens_object_eq (members : List (String × Json)) :
    (object members).tokens = (brokenObject (pointed members)).tokens := by
  cases members with
  | nil => simp [tokens]
  | cons m ms =>
      obtain ⟨name, j⟩ := m
      simp [memberTokens_eq, Token.ofPoints_points]

theorem depthMembers_eq (ms : List (String × Json)) :
    depthMembers ms = depthBrokenMembers (pointed ms) := by
  induction ms with
  | nil => simp [depthMembers, depthBrokenMembers]
  | cons m ms ih => simp [depthMembers, depthBrokenMembers, ih]

theorem rereadMembers_eq (before ms : List (String × Json)) :
    pointed (rereadMembers before ms) = rereadBrokenMembers (pointed before) (pointed ms) := by
  induction ms generalizing before with
  | nil => rw [rereadMembers, pointed_nil, rereadBrokenMembers]
  | cons m ms ih => rw [rereadMembers, ih, pointed_cons, rereadBrokenMembers, put_pointed]

theorem reread_object_eq (members : List (String × Json)) :
    (object members).reread = (brokenObject (pointed members)).reread := by
  rw [reread, reread, ← pointed_nil, ← rereadMembers_eq, ofMembers_pointed]

namespace Token

/-- Code points are a text or a broken text. -/
theorem ofPoints_cases (ns : List Nat) :
    (∃ s, ofPoints ns = .text s ∧ Text.points s = ns) ∨ ofPoints ns = .broken ns := by
  rw [ofPoints]
  split
  · next hwhole => exact .inl ⟨_, rfl, Text.points_ofPoints hwhole⟩
  · exact .inr rfl

theorem inFormat_ofPoints (ns : List Nat) : (ofPoints ns).InFormat := by
  rcases ofPoints_cases ns with ⟨s, h, -⟩ | h <;> rw [h] <;> trivial

theorem isWord_ofPoints (ns : List Nat) : (ofPoints ns).isWord = false := by
  rcases ofPoints_cases ns with ⟨s, h, -⟩ | h <;> rw [h] <;> rfl

/-- Where the first name of an object or a further one must come, code points are a name. -/
theorem readStep_ofPoints (ns : List Nat) (outer : List Frame) :
    readStep ⟨.firstName, outer⟩ (ofPoints ns).reread = .ok ⟨.colon [] ns, outer⟩ ∧
      ∀ before, readStep ⟨.name before, outer⟩ (ofPoints ns).reread =
        .ok ⟨.colon before ns, outer⟩ := by
  rcases ofPoints_cases ns with ⟨s, h, rfl⟩ | h <;> rw [h] <;> exact ⟨rfl, fun _ => rfl⟩

end Token

/-- The tokens of a value do not start with the end of a container. -/
theorem exists_tokens_eq_cons (j : Json) :
    ∃ t ts, j.tokens.map Token.reread = t :: ts ∧ t ≠ .closeArray := by
  cases j with
  | null => exact ⟨_, _, by rw [tokens]; rfl, by simp [Token.reread]⟩
  | bool b => exact ⟨_, _, by rw [tokens]; rfl, by simp [Token.reread]⟩
  | int n => exact ⟨_, _, by rw [tokens]; rfl, by simp [Token.reread]⟩
  | real x => exact ⟨_, _, by rw [tokens]; rfl, by simp [Token.reread]⟩
  | text s => exact ⟨_, _, by rw [tokens]; rfl, by simp [Token.reread]⟩
  | broken points => exact ⟨_, _, by rw [tokens]; rfl, by simp [Token.reread]⟩
  | array items =>
      cases items with
      | nil => exact ⟨_, _, by rw [tokens]; rfl, by simp [Token.reread]⟩
      | cons j js => exact ⟨_, _, by rw [tokens_array_cons]; rfl, by simp [Token.reread]⟩
  | object members =>
      cases members with
      | nil => exact ⟨_, _, by rw [tokens]; rfl, by simp [Token.reread]⟩
      | cons m ms => exact ⟨_, _, by rw [tokens_object_cons]; rfl, by simp [Token.reread]⟩
  | brokenObject members =>
      cases members with
      | nil => exact ⟨_, _, by rw [tokens]; rfl, by simp [Token.reread]⟩
      | cons m ms => exact ⟨_, _, by rw [tokens_brokenObject_cons]; rfl, by simp [Token.reread]⟩

/-! ### The tokens of a value are readable -/

theorem Readable.mark {t : Token} {ts : List Token} (hformat : t.InFormat)
    (hword : t.isWord = false) (h : Readable ts) : Readable (t :: ts) :=
  .cons hformat (fun hw => absurd hw (by simp [hword])) h

/-- What comes behind a value leaves it readable. -/
def EndsValue (rest : List Token) : Prop :=
  Readable rest ∧ ∀ t ∈ rest.head?, t.isWord = false

theorem endsValue_cons {t : Token} {ts : List Token} (hformat : t.InFormat)
    (hword : t.isWord = false) (h : Readable ts) : EndsValue (t :: ts) := by
  refine ⟨.mark hformat hword h, ?_⟩
  intro u hu
  obtain rfl : t = u := by simpa using hu
  exact hword

theorem endsValue_itemTokens_append {js : List Json}
    (h : ∀ j ∈ js, ∀ rest, EndsValue rest → Readable (j.tokens ++ rest)) {rest : List Token}
    (hrest : Readable rest) : EndsValue (itemTokens js ++ rest) := by
  induction js with
  | nil =>
      rw [itemTokens_nil, List.singleton_append]
      exact endsValue_cons trivial rfl hrest
  | cons j js ih =>
      rw [List.forall_mem_cons] at h
      rw [itemTokens_cons, List.cons_append, List.append_assoc]
      exact endsValue_cons trivial rfl (h.1 _ (ih h.2))

theorem endsValue_brokenMemberTokens_append {ms : List (List Nat × Json)}
    (h : ∀ m ∈ ms, ∀ rest, EndsValue rest → Readable (m.2.tokens ++ rest)) {rest : List Token}
    (hrest : Readable rest) : EndsValue (brokenMemberTokens ms ++ rest) := by
  induction ms with
  | nil =>
      rw [brokenMemberTokens_nil, List.singleton_append]
      exact endsValue_cons trivial rfl hrest
  | cons m ms ih =>
      rw [List.forall_mem_cons] at h
      rw [brokenMemberTokens_cons, List.cons_append, List.cons_append, List.cons_append,
        List.append_assoc]
      exact endsValue_cons trivial rfl (.mark (Token.inFormat_ofPoints _) (Token.isWord_ofPoints _)
        (.mark trivial rfl (h.1 _ (ih h.2))))

theorem readable_brokenObject_append {members : List (List Nat × Json)}
    (h : ∀ m ∈ members, ∀ rest, EndsValue rest → Readable (m.2.tokens ++ rest))
    {rest : List Token} (hrest : Readable rest) :
    Readable ((brokenObject members).tokens ++ rest) := by
  cases members with
  | nil => rw [tokens]; exact .mark trivial rfl (.mark trivial rfl hrest)
  | cons m ms =>
      rw [List.forall_mem_cons] at h
      rw [tokens_brokenObject_cons, List.cons_append, List.cons_append, List.cons_append,
        List.append_assoc]
      exact .mark trivial rfl (.mark (Token.inFormat_ofPoints _) (Token.isWord_ofPoints _)
        (.mark trivial rfl (h.1 _ (endsValue_brokenMemberTokens_append h.2 hrest))))

theorem readable_tokens_append {j : Json} (h : InFormat j) {rest : List Token}
    (hrest : EndsValue rest) : Readable (j.tokens ++ rest) := by
  induction h generalizing rest with
  | null => rw [tokens]; exact .cons trivial (fun _ => hrest.2) hrest.1
  | bool b => rw [tokens]; exact .cons trivial (fun _ => hrest.2) hrest.1
  | int n => rw [tokens]; exact .cons trivial (fun _ => hrest.2) hrest.1
  | real h => rw [tokens]; exact .cons h (fun _ => hrest.2) hrest.1
  | text s => rw [tokens]; exact .mark trivial rfl hrest.1
  | broken points => rw [tokens]; exact .mark trivial rfl hrest.1
  | @array items _ ih =>
      cases items with
      | nil => rw [tokens]; exact .mark trivial rfl (.mark trivial rfl hrest.1)
      | cons j js =>
          rw [List.forall_mem_cons] at ih
          rw [tokens_array_cons, List.cons_append, List.append_assoc]
          exact .mark trivial rfl
            (ih.1 (endsValue_itemTokens_append (fun j hj _ hr => ih.2 j hj hr) hrest.1))
  | object _ ih =>
      rw [tokens_object_eq]
      exact readable_brokenObject_append
        (List.forall_mem_map.mpr fun m hm _ hr => ih m hm hr) hrest.1
  | brokenObject _ ih =>
      exact readable_brokenObject_append (fun m hm _ hr => ih m hm hr) hrest.1

/-- The tokens of a value are readable. -/
theorem readable_tokens {j : Json} (h : InFormat j) : Readable j.tokens := by
  have hend : EndsValue [] := ⟨.nil, fun t ht => absurd ht (by simp)⟩
  have hreadable := readable_tokens_append h hend
  rwa [List.append_nil] at hreadable

/-! ### Steps of the reader -/

theorem depthItems_le_iff {js : List Json} {n : Nat} :
    depthItems js ≤ n ↔ ∀ j ∈ js, j.depth ≤ n := by
  induction js with
  | nil => simp [depthItems]
  | cons j js ih => rw [depthItems, Nat.max_le, ih, List.forall_mem_cons]

theorem depthBrokenMembers_le_iff {ms : List (List Nat × Json)} {n : Nat} :
    depthBrokenMembers ms ≤ n ↔ ∀ m ∈ ms, m.2.depth ≤ n := by
  induction ms with
  | nil => simp [depthBrokenMembers]
  | cons m ms ih => rw [depthBrokenMembers, Nat.max_le, ih, List.forall_mem_cons]

theorem depthMembers_le_iff {ms : List (String × Json)} {n : Nat} :
    depthMembers ms ≤ n ↔ ∀ m ∈ ms, m.2.depth ≤ n := by
  rw [depthMembers_eq, depthBrokenMembers_le_iff, pointed, List.forall_mem_map]

variable {s s' : ReadState} {t : Token} {ts : List Token}

theorem readSteps_cons_of_step (h : readStep s t = .ok s') :
    readSteps s (t :: ts) = readSteps s' ts := by
  rw [readSteps, h]

/-- The first item of an array is read like any value. -/
theorem readSteps_firstItem (j : Json) (outer : List Frame) (rest : List Token) :
    readSteps ⟨.firstItem, outer⟩ (j.tokens.map Token.reread ++ rest) =
      readSteps ⟨.value, .array [] :: outer⟩ (j.tokens.map Token.reread ++ rest) := by
  obtain ⟨t, ts, hj, ht⟩ := exists_tokens_eq_cons j
  have hstep : readStep ⟨.firstItem, outer⟩ t = readStep ⟨.value, .array [] :: outer⟩ t := by
    cases t with
    | closeArray => exact absurd rfl ht
    | _ => rfl
  rw [hj, List.cons_append, readSteps, readSteps, hstep]

/-- A container is opened below the limit. -/
theorem openIn_of_lt {outer : List Frame} {expecting : Expecting}
    (h : outer.length < maxNesting) : openIn outer expecting = .ok ⟨expecting, outer⟩ := by
  rw [openIn, if_neg (Nat.not_le.mpr h)]

/-- The reader takes the tokens that are scanned for a value for the value, whatever is open around
it. -/
def ReadsBack (j : Json) : Prop :=
  ∀ (outer : List Frame) (rest : List Token), j.depth + outer.length ≤ maxNesting →
    readSteps ⟨.value, outer⟩ (j.tokens.map Token.reread ++ rest) =
      readSteps ⟨.next j.reread, outer⟩ rest

/-- Behind an item, the further items of an array and its end are read. -/
theorem readSteps_itemTokens_append {js : List Json} (h : ∀ j ∈ js, ReadsBack j)
    (before : List Json) (done : Json) {outer : List Frame}
    (hdepth : ∀ j ∈ js, j.depth + (outer.length + 1) ≤ maxNesting) (rest : List Token) :
    readSteps ⟨.next done, .array before :: outer⟩
        ((itemTokens js).map Token.reread ++ rest) =
      readSteps ⟨.next (.array (before ++ done :: rereadItems js)), outer⟩ rest := by
  induction js generalizing before done with
  | nil =>
      have hclose : readStep ⟨.next done, .array before :: outer⟩ (Token.reread .closeArray) =
          .ok ⟨.next (.array (before ++ [done])), outer⟩ := rfl
      rw [itemTokens_nil, List.map_singleton, List.singleton_append,
        readSteps_cons_of_step hclose, rereadItems]
  | cons j js ih =>
      rw [List.forall_mem_cons] at h hdepth
      have hcomma : readStep ⟨.next done, .array before :: outer⟩ (Token.reread .comma) =
          .ok ⟨.value, .array (before ++ [done]) :: outer⟩ := rfl
      rw [itemTokens_cons, List.map_cons, List.map_append, List.cons_append, List.append_assoc,
        readSteps_cons_of_step hcomma, h.1 (_ :: outer) _ hdepth.1,
        ih h.2 (before ++ [done]) j.reread hdepth.2, List.append_assoc, List.singleton_append,
        rereadItems]

/-- Behind a member, the further members of an object and its end are read. -/
theorem readSteps_brokenMemberTokens_append {ms : List (List Nat × Json)}
    (h : ∀ m ∈ ms, ReadsBack m.2) (before : List (List Nat × Json)) (name : List Nat) (done : Json)
    {outer : List Frame} (hdepth : ∀ m ∈ ms, m.2.depth + (outer.length + 1) ≤ maxNesting)
    (rest : List Token) :
    readSteps ⟨.next done, .object before name :: outer⟩
        ((brokenMemberTokens ms).map Token.reread ++ rest) =
      readSteps
        ⟨.next (ofMembers (rereadBrokenMembers (put before name done) ms)), outer⟩ rest := by
  induction ms generalizing before name done with
  | nil =>
      have hclose : readStep ⟨.next done, .object before name :: outer⟩
          (Token.reread .closeObject) = .ok ⟨.next (ofMembers (put before name done)), outer⟩ := rfl
      rw [brokenMemberTokens_nil, List.map_singleton, List.singleton_append,
        readSteps_cons_of_step hclose, rereadBrokenMembers]
  | cons m ms ih =>
      obtain ⟨next, j⟩ := m
      rw [List.forall_mem_cons] at h hdepth
      have hcomma : readStep ⟨.next done, .object before name :: outer⟩ (Token.reread .comma) =
          .ok ⟨.name (put before name done), outer⟩ := rfl
      have hcolon : readStep ⟨.colon (put before name done) next, outer⟩ (Token.reread .colon) =
          .ok ⟨.value, .object (put before name done) next :: outer⟩ := rfl
      simp only [brokenMemberTokens_cons, List.map_cons, List.map_append, List.cons_append,
        List.append_assoc]
      rw [readSteps_cons_of_step hcomma,
        readSteps_cons_of_step ((Token.readStep_ofPoints next outer).2 _),
        readSteps_cons_of_step hcolon, h.1 (_ :: outer) _ hdepth.1,
        ih h.2 _ next j.reread hdepth.2, rereadBrokenMembers]

theorem readsBack_array {items : List Json} (h : ∀ j ∈ items, ReadsBack j) :
    ReadsBack (.array items) := by
  intro outer rest hdepth
  rw [depth] at hdepth
  have hlt : outer.length < maxNesting := by omega
  have hopen : readStep ⟨.value, outer⟩ (Token.reread .openArray) = .ok ⟨.firstItem, outer⟩ :=
    openIn_of_lt hlt
  cases items with
  | nil =>
      have hclose : readStep ⟨.firstItem, outer⟩ (Token.reread .closeArray) =
          .ok ⟨.next (.array []), outer⟩ := rfl
      rw [tokens, List.map_cons, List.map_singleton, List.cons_append, List.singleton_append,
        readSteps_cons_of_step hopen, readSteps_cons_of_step hclose, reread, rereadItems]
  | cons j js =>
      have hroom : ∀ i ∈ j :: js, i.depth + (outer.length + 1) ≤ maxNesting := by
        intro i hi
        have hle := depthItems_le_iff.mp (Nat.le_refl _) i hi
        omega
      rw [List.forall_mem_cons] at h hroom
      rw [tokens_array_cons, List.map_cons, List.map_append, List.cons_append, List.append_assoc,
        readSteps_cons_of_step hopen, readSteps_firstItem, h.1 (_ :: outer) _ hroom.1,
        readSteps_itemTokens_append h.2 [] j.reread hroom.2, List.nil_append, reread, rereadItems]

theorem readsBack_brokenObject {members : List (List Nat × Json)}
    (h : ∀ m ∈ members, ReadsBack m.2) : ReadsBack (.brokenObject members) := by
  intro outer rest hdepth
  rw [depth] at hdepth
  have hlt : outer.length < maxNesting := by omega
  have hopen : readStep ⟨.value, outer⟩ (Token.reread .openObject) = .ok ⟨.firstName, outer⟩ :=
    openIn_of_lt hlt
  cases members with
  | nil =>
      have hclose : readStep ⟨.firstName, outer⟩ (Token.reread .closeObject) =
          .ok ⟨.next (.object []), outer⟩ := rfl
      rw [tokens, List.map_cons, List.map_singleton, List.cons_append, List.singleton_append,
        readSteps_cons_of_step hopen, readSteps_cons_of_step hclose, reread, rereadBrokenMembers]
      rfl
  | cons m ms =>
      obtain ⟨name, j⟩ := m
      have hroom : ∀ i ∈ (name, j) :: ms, i.2.depth + (outer.length + 1) ≤ maxNesting := by
        intro i hi
        have hle := depthBrokenMembers_le_iff.mp (Nat.le_refl _) i hi
        omega
      have hcolon : readStep ⟨.colon [] name, outer⟩ (Token.reread .colon) =
          .ok ⟨.value, .object [] name :: outer⟩ := rfl
      rw [List.forall_mem_cons] at h hroom
      simp only [tokens_brokenObject_cons, List.map_cons, List.map_append, List.cons_append,
        List.append_assoc]
      rw [readSteps_cons_of_step hopen,
        readSteps_cons_of_step (Token.readStep_ofPoints name outer).1,
        readSteps_cons_of_step hcolon, h.1 (_ :: outer) _ hroom.1,
        readSteps_brokenMemberTokens_append h.2 [] name j.reread hroom.2, reread,
        rereadBrokenMembers]

theorem readsBack_object {members : List (String × Json)} (h : ∀ m ∈ members, ReadsBack m.2) :
    ReadsBack (.object members) := by
  intro outer rest hdepth
  rw [depth, depthMembers_eq] at hdepth
  rw [tokens_object_eq, reread_object_eq]
  exact readsBack_brokenObject (List.forall_mem_map.mpr h) outer rest hdepth

/-- **The reader takes the tokens of a value for the value.** -/
theorem readSteps_tokens_append {j : Json} (h : InFormat j) : ReadsBack j := by
  induction h with
  | null => intro outer rest _; rw [tokens, reread]; rfl
  | bool b => intro outer rest _; rw [tokens, reread]; rfl
  | int n => intro outer rest _; rw [tokens, reread]; rfl
  | real h => intro outer rest _; rw [tokens, reread]; rfl
  | text s => intro outer rest _; rw [tokens, reread]; rfl
  | broken points => intro outer rest _; rw [tokens, reread]; rfl
  | array _ ih => exact readsBack_array ih
  | object _ ih => exact readsBack_object ih
  | brokenObject _ ih => exact readsBack_brokenObject ih

/-! ### Plain values -/

theorem Plain.inFormat {j : Json} (h : Plain j) : InFormat j := by
  induction h with
  | null => exact .null
  | bool b => exact .bool b
  | int n => exact .int n
  | text s => exact .text s
  | array _ ih => exact .array ih
  | object _ _ ih => exact .object ih

/-- A name that is not there yet comes last. -/
theorem put_of_not_mem {before : List (String × Json)} {name : String} {value : Json}
    (h : name ∉ before.map Prod.fst) : put before name value = before ++ [(name, value)] := by
  have hany : (before.any fun m => m.1 == name) = false := by
    rw [List.any_eq_false]
    intro m hm hname
    exact h (List.mem_map.mpr ⟨m, hm, by simpa using hname⟩)
  rw [put, hany, if_neg (by simp)]

theorem rereadItems_eq_map (js : List Json) : rereadItems js = js.map reread := by
  induction js with
  | nil => rw [rereadItems, List.map_nil]
  | cons j js ih => rw [rereadItems, List.map_cons, ih]

/-- Of different names each comes behind those before it. -/
theorem rereadMembers_of_nodup {before ms : List (String × Json)}
    (h : ((before ++ ms).map Prod.fst).Nodup) :
    rereadMembers before ms = before ++ ms.map fun m => (m.1, m.2.reread) := by
  induction ms generalizing before with
  | nil => rw [rereadMembers, List.map_nil, List.append_nil]
  | cons m ms ih =>
      obtain ⟨name, j⟩ := m
      rw [List.map_append, List.map_cons] at h
      have hnew : name ∉ before.map Prod.fst := fun hmem =>
        (List.nodup_append.mp h).2.2 name hmem name List.mem_cons_self rfl
      have hnames : (((before ++ [(name, j.reread)]) ++ ms).map Prod.fst).Nodup := by
        simpa using h
      rw [rereadMembers, put_of_not_mem hnew, ih hnames, List.map_cons, List.append_assoc,
        List.singleton_append]

/-- The members of an object with different names are read one by one. -/
theorem reread_object {members : List (String × Json)} (h : (members.map Prod.fst).Nodup) :
    (object members).reread = .object (members.map fun m => (m.1, m.2.reread)) := by
  rw [reread, rereadMembers_of_nodup (by simpa using h), List.nil_append]

/-- A plain value is read as itself. -/
theorem Plain.reread_eq {j : Json} (h : Plain j) : j.reread = j := by
  induction h with
  | null => rw [reread]
  | bool b => rw [reread]
  | int n => rw [reread]
  | text s => rw [reread]
  | array _ ih => rw [reread, rereadItems_eq_map, List.map_congr_left ih, List.map_id']
  | @object members names _ ih =>
      have hsame : ∀ m ∈ members, (m.1, m.2.reread) = m := fun m hm => by rw [ih m hm]
      rw [reread_object names, List.map_congr_left hsame, List.map_id']

/-! ### Texts of values -/

/-- A value has a text when its tokens have texts; that numbers are written first does not show. -/
theorem compact_eq_ok_iff {j : Json} {text : String} :
    j.compact = .ok text ↔
      ∃ parts, j.tokens.mapM Token.write = .ok parts ∧ text = String.join parts := by
  rw [compact, bind_eq_ok_iff]
  constructor
  · rintro ⟨-, -, h⟩
    obtain ⟨parts, hparts, h⟩ := bind_eq_ok_iff.mp h
    cases h
    exact ⟨parts, hparts, rfl⟩
  · rintro ⟨parts, hparts, rfl⟩
    have hwritable := exists_mapM_write_iff.mp ⟨parts, hparts⟩
    obtain ⟨whole, hwhole⟩ := exists_mapM_write_iff.mpr fun t ht =>
      hwritable t (List.mem_of_mem_filter (p := (!·.isBroken)) ht)
    exact ⟨whole, hwhole, bind_eq_ok_iff.mpr ⟨parts, hparts, rfl⟩⟩

theorem write_eq_ok_iff {j : Json} {text : String} :
    j.write = .ok text ↔
      j.depth ≤ maxNesting ∧ ∃ parts, j.tokens.mapM Token.write = .ok parts ∧
        text = String.join parts := by
  rw [write]
  by_cases hdepth : j.depth ≤ maxNesting
  · rw [if_pos hdepth, and_iff_right hdepth, compact_eq_ok_iff]
  · rw [if_neg hdepth]
    constructor
    · intro h
      cases h
    · rintro ⟨h, -⟩
      exact absurd h hdepth

/-- The value has a text at a place where containers may be nested so deep. -/
def Fits (levels : Nat) (j : Json) : Prop :=
  j.depth ≤ levels ∧ ∀ t ∈ j.tokens, t.Writable

/-- A value with a broken text has no text. -/
theorem not_fits_of_broken {levels : Nat} {j : Json} {points : List Nat}
    (h : .broken points ∈ j.tokens) : ¬ j.Fits levels := by
  rintro ⟨-, hwritable⟩
  obtain ⟨text, htext⟩ := hwritable _ h
  cases htext

theorem exists_write_iff {j : Json} : (∃ text, j.write = .ok text) ↔ j.Fits maxNesting := by
  rw [Fits, ← exists_mapM_write_iff]
  constructor
  · rintro ⟨text, h⟩
    obtain ⟨hdepth, parts, hparts, -⟩ := write_eq_ok_iff.mp h
    exact ⟨hdepth, parts, hparts⟩
  · rintro ⟨hdepth, parts, hparts⟩
    exact ⟨_, write_eq_ok_iff.mpr ⟨hdepth, parts, hparts, rfl⟩⟩

theorem fits_text {levels : Nat} (s : String) : (text s).Fits levels := by
  refine ⟨by simp [depth], ?_⟩
  rw [tokens, List.forall_mem_singleton]
  exact Token.writable_of_not_word rfl rfl

/-- The marks and the names of an object have texts, so that its values decide. -/
theorem fits_object_iff {members : List (String × Json)} {levels : Nat} :
    (object members).Fits (levels + 1) ↔ ∀ m ∈ members, m.2.Fits levels := by
  have hmark : ∀ {t : Token}, t.isWord = false → t.isBroken = false → (t.Writable ↔ True) :=
    fun hword hwhole => iff_true_intro (Token.writable_of_not_word hword hwhole)
  have hmembers : ∀ ms : List (String × Json), (∀ t ∈ memberTokens ms, t.Writable) ↔
      ∀ m ∈ ms, ∀ t ∈ m.2.tokens, t.Writable := by
    intro ms
    induction ms with
    | nil => simp [hmark (t := .closeObject) rfl rfl]
    | cons m ms ih =>
        obtain ⟨name, j⟩ := m
        simp only [memberTokens_cons, List.forall_mem_cons, List.forall_mem_append, ih,
          hmark (t := .comma) rfl rfl, hmark (t := .text name) rfl rfl,
          hmark (t := .colon) rfl rfl, true_and]
  have htokens : (∀ t ∈ (object members).tokens, t.Writable) ↔
      ∀ m ∈ members, ∀ t ∈ m.2.tokens, t.Writable := by
    cases members with
    | nil => simp [tokens, hmark (t := .openObject) rfl rfl, hmark (t := .closeObject) rfl rfl]
    | cons m ms =>
        obtain ⟨name, j⟩ := m
        simp only [tokens_object_cons, List.forall_mem_cons, List.forall_mem_append, hmembers,
          hmark (t := .openObject) rfl rfl, hmark (t := .text name) rfl rfl,
          hmark (t := .colon) rfl rfl, true_and]
  simp only [Fits, depth, Nat.add_le_add_iff_right, depthMembers_le_iff, htokens, forall_and]

/-- **What the text of a value is read as.** -/
theorem read_of_write {j : Json} (h : InFormat j) {text : String} (htext : j.write = .ok text) :
    read text = .ok j.reread := by
  obtain ⟨hdepth, parts, hparts, rfl⟩ := write_eq_ok_iff.mp htext
  have hsteps : readSteps ⟨.value, []⟩ (j.tokens.map Token.reread) =
      .ok ⟨.next j.reread, []⟩ := by
    have hback := readSteps_tokens_append h [] [] (by simpa using hdepth)
    rw [List.append_nil] at hback
    rw [hback, readSteps]
  rw [read, scan_join_of_readable (readable_tokens h) hparts]
  simp only [hsteps, ReadState.done?]

/-- **A plain value is read from its text.** -/
theorem read_write {j : Json} (h : Plain j) {text : String} (htext : j.write = .ok text) :
    read text = .ok j := by
  rw [read_of_write h.inFormat htext, h.reread_eq]

end PrefixCalc.Json
