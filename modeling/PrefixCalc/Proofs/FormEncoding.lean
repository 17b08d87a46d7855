import PrefixCalc.Web.Message
import PrefixCalc.Web.Form

/-!
# Form Encoding Is Undone by Decoding

A text in the query of a URL comes back as it was, whatever its characters are. The layers are
undone one at a time, each over what follows it: the reader of UTF-8 takes the octets of a
character for the character (`Utf8.read_encodeChar_append`), the reader of percent encoding takes
three characters for an octet (`Percent.octetsFrom_triplet_append`), and a plus sign stands for a
blank, which no other character is written with.

What is written is ASCII without the marks that structure a query (`isEncodedChar`), so that a
query of one name and one value is taken apart at the right places, and is its own octets.

## Main results

* `Utf8.ofOctets_octets`: a text is read from its octets.
* `decode_encode`: a text is read from its form encoding.
* `value_pairQuery`: the value of a name in a query of one pair.
* `octetQuery_of_ascii`: a query in ASCII is its own octets.
-/

namespace PrefixCalc

/-! ### UTF-8 -/

namespace Text.Utf8

theorem toNat_ofNat {n : Nat} (h : n < 256) : (UInt8.ofNat n).toNat = n := by
  rw [UInt8.toNat_ofNat', Nat.mod_eq_of_lt h]

/-- An octet that goes on with a character but does not end it. -/
theorem step_further {p : Pending} {b : Nat} (hlow : p.low ≤ b) (hhigh : b ≤ p.high)
    (howed : 1 < p.owed) :
    step (some p) b = ([], some ⟨p.owed - 1, p.bits * 64 + (b - 0x80), 0x80, 0xBF⟩) := by
  simp only [step, if_pos (And.intro hlow hhigh), if_neg (Nat.not_le.mpr howed)]

/-- The last octet of a character. -/
theorem step_last {p : Pending} {b : Nat} (hlow : p.low ≤ b) (hhigh : b ≤ p.high)
    (howed : p.owed ≤ 1) :
    step (some p) b = ([Char.ofNat (p.bits * 64 + (b - 0x80))], none) := by
  simp only [step, if_pos (And.intro hlow hhigh), if_pos howed]

theorem first_of_two {b : Nat} (hlow : 0xC2 ≤ b) (hhigh : b < 0xE0) :
    first b = ([], some ⟨1, b - 0xC0, 0x80, 0xBF⟩) := by
  rw [first, if_neg (by omega), if_neg (by omega), if_pos hhigh]

theorem first_of_three {b : Nat} (hlow : 0xE0 ≤ b) (hhigh : b < 0xF0) :
    first b = ([], some ⟨2, b - 0xE0, if b = 0xE0 then 0xA0 else 0x80,
      if b = 0xED then 0x9F else 0xBF⟩) := by
  rw [first, if_neg (by omega), if_neg (by omega), if_neg (by omega), if_pos hhigh]

theorem first_of_four {b : Nat} (hlow : 0xF0 ≤ b) (hhigh : b < 0xF5) :
    first b = ([], some ⟨3, b - 0xF0, if b = 0xF0 then 0x90 else 0x80,
      if b = 0xF4 then 0x8F else 0xBF⟩) := by
  rw [first, if_neg (by omega), if_neg (by omega), if_neg (by omega), if_neg (by omega),
    if_pos hhigh]

/-- A code point is no half of a surrogate pair, and below the last plane's end. -/
theorem toNat_range (c : Char) : c.toNat < 0xD800 ∨ 0xDFFF < c.toNat ∧ c.toNat < 0x110000 :=
  c.valid

/-- **A character is read from its octets**, whatever follows them. -/
theorem read_encodeChar_append (c : Char) (bs : List UInt8) :
    read none (String.utf8EncodeChar c ++ bs) = c :: read none bs := by
  have hrange := toNat_range c
  have hname : Char.ofNat c.toNat = c := Char.ofNat_toNat c
  have hval : c.val.toNat = c.toNat := rfl
  simp only [String.utf8EncodeChar, hval]
  generalize hv : c.toNat = v at *
  by_cases hone : v ≤ 127
  · have hfirst : first v = ([Char.ofNat v], none) := by rw [first, if_pos (by omega)]
    rw [if_pos hone, List.singleton_append, read_cons, toNat_ofNat (by omega), step, hfirst,
      hname]
    rfl
  rw [if_neg hone]
  by_cases htwo : v ≤ 2047
  · have hbits : (v / 64 % 32 + 192 - 0xC0) * 64 + (v % 64 + 128 - 0x80) = v := by omega
    rw [if_pos htwo, List.cons_append, List.singleton_append, read_cons, read_cons,
      toNat_ofNat (by omega), toNat_ofNat (by omega), step,
      first_of_two (by omega) (by omega),
      step_last (by simp only; omega) (by simp only; omega) (by simp only; omega), hbits, hname]
    rfl
  rw [if_neg htwo]
  by_cases hthree : v ≤ 65535
  · have hbits : ((v / 4096 % 16 + 224 - 0xE0) * 64 + (v / 64 % 64 + 128 - 0x80)) * 64 +
        (v % 64 + 128 - 0x80) = v := by omega
    -- behind the least and the greatest first octet some second octets would be no character
    have hlow : (if v / 4096 % 16 + 224 = 0xE0 then 0xA0 else 0x80) ≤ v / 64 % 64 + 128 := by
      split <;> omega
    have hhigh : v / 64 % 64 + 128 ≤ (if v / 4096 % 16 + 224 = 0xED then 0x9F else 0xBF) := by
      split <;> omega
    rw [if_pos hthree, List.cons_append, List.cons_append, List.singleton_append, read_cons,
      read_cons, read_cons, toNat_ofNat (by omega), toNat_ofNat (by omega),
      toNat_ofNat (by omega), step, first_of_three (by omega) (by omega),
      step_further hlow hhigh (by simp only; omega),
      step_last (by simp only; omega) (by simp only; omega) (by simp only; omega), hbits, hname]
    rfl
  · have hbits : (((v / 262144 % 8 + 240 - 0xF0) * 64 + (v / 4096 % 64 + 128 - 0x80)) * 64 +
        (v / 64 % 64 + 128 - 0x80)) * 64 + (v % 64 + 128 - 0x80) = v := by omega
    have hlow : (if v / 262144 % 8 + 240 = 0xF0 then 0x90 else 0x80) ≤
        v / 4096 % 64 + 128 := by
      split <;> omega
    have hhigh : v / 4096 % 64 + 128 ≤
        (if v / 262144 % 8 + 240 = 0xF4 then 0x8F else 0xBF) := by
      split <;> omega
    rw [if_neg hthree, List.cons_append, List.cons_append, List.cons_append,
      List.singleton_append, read_cons, read_cons, read_cons, read_cons,
      toNat_ofNat (by omega), toNat_ofNat (by omega), toNat_ofNat (by omega),
      toNat_ofNat (by omega), step, first_of_four (by omega) (by omega),
      step_further hlow hhigh (by simp only; omega),
      step_further (by simp only; omega) (by simp only; omega) (by simp only; omega),
      step_last (by simp only; omega) (by simp only; omega) (by simp only; omega), hbits, hname]
    rfl

/-- **A text is read from its octets.** -/
theorem ofOctets_octets (cs : List Char) : ofOctets (octets cs) = cs := by
  rw [ofOctets, octets]
  induction cs with
  | nil => rfl
  | cons c cs ih => rw [List.flatMap_cons, read_encodeChar_append, ih]

/-- An ASCII character is one octet. -/
theorem encodeChar_of_ascii {c : Char} (h : c.toNat < 128) :
    String.utf8EncodeChar c = [UInt8.ofNat c.toNat] := by
  have hle : c.val.toNat ≤ 127 := Nat.le_of_lt_succ h
  simp only [String.utf8EncodeChar, if_pos hle]
  rfl

end Text.Utf8

namespace Web

/-! ### Percent encoding -/

namespace Percent

variable {cs : List Char}

/-- Three characters are read as the octet that they were written for. -/
theorem octetsFrom_triplet_append (b : UInt8) (cs : List Char) :
    octetsFrom .plain (triplet b ++ cs) = b :: octetsFrom .plain cs := by
  have hhigh : b.toNat / 16 % 16 < 16 := Nat.mod_lt _ (by decide)
  have hlow : b.toNat % 16 < 16 := Nat.mod_lt _ (by decide)
  have hlt : b.toNat < 256 := b.toNat_lt
  have hvalue : b.toNat / 16 % 16 * 16 + b.toNat % 16 = b.toNat := by omega
  have hsign : readStep .plain '%' = ([], .sign) := rfl
  have hdigit : readStep .sign (Text.hexDigit .upper (b.toNat / 16 % 16)) =
      ([], .digit (Text.hexDigit .upper (b.toNat / 16 % 16))) := by
    simp [readStep, Text.hexValue?_hexDigit .upper hhigh]
  have hoctet : readStep (.digit (Text.hexDigit .upper (b.toNat / 16 % 16)))
      (Text.hexDigit .upper (b.toNat % 16)) = ([b], .plain) := by
    simp [readStep, octet?, Text.hexValue?_hexDigit .upper hhigh,
      Text.hexValue?_hexDigit .upper hlow, hvalue]
  simp only [triplet, Text.hexNumeral, List.nil_append, List.cons_append]
  simp only [octetsFrom, hsign, hdigit, hoctet, List.nil_append, List.singleton_append]

theorem octetsFrom_flatMap_triplet_append (bs : List UInt8) (cs : List Char) :
    octetsFrom .plain (bs.flatMap triplet ++ cs) = bs ++ octetsFrom .plain cs := by
  induction bs with
  | nil => rfl
  | cons b bs ih =>
      rw [List.flatMap_cons, List.append_assoc, octetsFrom_triplet_append, ih, List.cons_append]

/-- A character that is no percent sign stands for itself. -/
theorem octetsFrom_cons_of_ne {c : Char} (h : c ≠ '%') (cs : List Char) :
    octetsFrom .plain (c :: cs) = String.utf8EncodeChar c ++ octetsFrom .plain cs := by
  have hstep : readStep .plain c = (String.utf8EncodeChar c, .plain) := by
    rw [readStep, readPlain, if_neg h]
  rw [octetsFrom, hstep]

end Percent

/-! ### Characters that are written -/

namespace Form

/-- A character that form encodings are written with. -/
def isEncodedChar (c : Char) : Bool :=
  isUnreserved c || c == '+' || c == '%'

theorem isUnreserved_hexDigit : ∀ d, d < 16 → isUnreserved (Text.hexDigit .upper d) = true := by
  decide

theorem ne_of_isUnreserved {c d : Char} (h : isUnreserved c = true)
    (hd : isUnreserved d = false) : c ≠ d := by
  rintro rfl
  rw [hd] at h
  exact absurd h (by simp)

theorem isEncodedChar_of_mem_triplet {b : UInt8} {c : Char} (h : c ∈ Percent.triplet b) :
    c = '%' ∨ isUnreserved c = true := by
  simp only [Percent.triplet, Text.hexNumeral, List.nil_append, List.mem_cons, List.cons_append,
    List.not_mem_nil, or_false] at h
  rcases h with rfl | rfl | rfl
  · exact .inl rfl
  · exact .inr (isUnreserved_hexDigit _ (Nat.mod_lt _ (by decide)))
  · exact .inr (isUnreserved_hexDigit _ (Nat.mod_lt _ (by decide)))

/-- A character is written as a plus sign, as itself, or as its octets. -/
theorem encodeChar_cases (c : Char) :
    (c = ' ' ∧ encodeChar c = ['+']) ∨ (isUnreserved c = true ∧ encodeChar c = [c]) ∨
      encodeChar c = (String.utf8EncodeChar c).flatMap Percent.triplet := by
  unfold encodeChar
  split
  · next h => exact .inl ⟨h, rfl⟩
  · cases hsafe : isUnreserved c with
    | true => exact .inr (.inl ⟨rfl, by simp [Percent.quote, hsafe]⟩)
    | false => exact .inr (.inr (by simp [Percent.quote, Percent.quoteChar, hsafe]))

/-- A form encoding is no shorter than its text. -/
theorem length_le_encode (s : String) : s.length ≤ (encode s).length := by
  have hchar : ∀ c, 0 < (encodeChar c).length := by
    intro c
    rw [List.length_pos_iff]
    rcases encodeChar_cases c with ⟨-, heq⟩ | ⟨-, heq⟩ | heq
    · simp [heq]
    · simp [heq]
    · obtain ⟨b, bs, hbytes⟩ := List.exists_cons_of_ne_nil (@String.utf8EncodeChar_ne_nil c)
      simp [heq, hbytes, Percent.triplet]
  have hchars : ∀ cs : List Char, cs.length ≤ (cs.flatMap encodeChar).length := by
    intro cs
    induction cs with
    | nil => exact Nat.le_refl _
    | cons c cs ih =>
        have hfirst := hchar c
        rw [List.length_cons, List.flatMap_cons, List.length_append]
        omega
  rw [← String.length_toList, ← String.length_toList, encode, String.toList_ofList]
  exact hchars s.toList

theorem isEncodedChar_of_mem_encode {s : String} {c : Char} (h : c ∈ (encode s).toList) :
    isEncodedChar c = true := by
  rw [encode, String.toList_ofList, List.mem_flatMap] at h
  obtain ⟨d, -, hc⟩ := h
  rcases encodeChar_cases d with ⟨-, heq⟩ | ⟨hsafe, heq⟩ | heq
  · rw [heq, List.mem_singleton] at hc
    subst hc
    rfl
  · rw [heq, List.mem_singleton] at hc
    subst hc
    simp [isEncodedChar, hsafe]
  · rw [heq, List.mem_flatMap] at hc
    obtain ⟨b, -, hb⟩ := hc
    rcases isEncodedChar_of_mem_triplet hb with rfl | hsafe
    · rfl
    · simp [isEncodedChar, hsafe]

/-- Form encodings are ASCII. -/
theorem toNat_lt_of_isEncodedChar {c : Char} (h : isEncodedChar c = true) : c.toNat < 128 := by
  have halpha : c.isAlpha =
      (decide (c.val ≥ 'A'.val ∧ c.val ≤ 'Z'.val) ||
        (decide (c.val ≥ 'a'.val) && decide (c.val ≤ 'z'.val))) := rfl
  simp only [isEncodedChar, isUnreserved, Char.isAlphanum, halpha, Char.isDigit, Bool.or_eq_true,
    Bool.and_eq_true, decide_eq_true_eq, beq_iff_eq, UInt32.le_iff_toNat_le] at h
  have hval : c.toNat = c.val.toNat := rfl
  rcases h with (((((((h | h) | h) | rfl) | rfl) | rfl) | rfl) | rfl) | rfl
  · have hmax : 'Z'.val.toNat = 90 := rfl
    omega
  · have hmax : 'z'.val.toNat = 122 := rfl
    omega
  · have hmax : '9'.val.toNat = 57 := rfl
    omega
  all_goals decide

/-! ### Reading what was written -/

theorem blankOfPlus_of_ne {c : Char} (h : c ≠ '+') : blankOfPlus c = c := by
  rw [blankOfPlus, if_neg h]

/-- No plus sign is written for an octet. -/
theorem map_blankOfPlus_flatMap_triplet (bs : List UInt8) :
    (bs.flatMap Percent.triplet).map blankOfPlus = bs.flatMap Percent.triplet := by
  have hkept : ∀ c ∈ bs.flatMap Percent.triplet, blankOfPlus c = id c := by
    intro c hc
    obtain ⟨b, -, hb⟩ := List.mem_flatMap.mp hc
    rcases isEncodedChar_of_mem_triplet hb with rfl | hsafe
    · rfl
    · exact blankOfPlus_of_ne (ne_of_isUnreserved hsafe rfl)
  rw [List.map_congr_left hkept, List.map_id]

/-- A character is read as its octets. -/
theorem octetsFrom_encodeChar_append (c : Char) (cs : List Char) :
    Percent.octetsFrom .plain ((encodeChar c).map blankOfPlus ++ cs) =
      String.utf8EncodeChar c ++ Percent.octetsFrom .plain cs := by
  rcases encodeChar_cases c with ⟨rfl, heq⟩ | ⟨hsafe, heq⟩ | heq
  · rw [heq]
    exact Percent.octetsFrom_cons_of_ne (by decide) cs
  · rw [heq, List.map_singleton, blankOfPlus_of_ne (ne_of_isUnreserved hsafe rfl),
      List.singleton_append, Percent.octetsFrom_cons_of_ne (ne_of_isUnreserved hsafe rfl)]
  · rw [heq, map_blankOfPlus_flatMap_triplet, Percent.octetsFrom_flatMap_triplet_append]

/-- **A text is read from its form encoding.** -/
theorem decode_encode (s : String) : decode (encode s).toList = s := by
  have hoctets : ∀ cs : List Char,
      Percent.octetsFrom .plain ((cs.flatMap encodeChar).map blankOfPlus) =
        Text.Utf8.octets cs := by
    intro cs
    induction cs with
    | nil => rfl
    | cons c cs ih =>
        rw [List.flatMap_cons, List.map_append, octetsFrom_encodeChar_append, ih,
          Text.Utf8.octets, Text.Utf8.octets, List.flatMap_cons]
  rw [decode, encode, String.toList_ofList, Percent.decode, hoctets, Text.Utf8.ofOctets_octets,
    String.ofList_toList]

/-! ### Queries of one pair -/

theorem splitAt_of_not_mem {separator : Char} {cs : List Char} (h : separator ∉ cs) :
    Text.splitAt separator cs = [cs] := by
  induction cs with
  | nil => rfl
  | cons c cs ih =>
      rw [List.mem_cons, not_or] at h
      rw [Text.splitAt, if_neg (Ne.symm h.1), ih h.2]

theorem cut_append {separator : Char} {before : List Char} (h : separator ∉ before)
    (behind : List Char) :
    Text.cut separator (before ++ separator :: behind) = (before, some behind) := by
  have hpass : ∀ c ∈ before, (c != separator) = true := by
    intro c hc
    rw [bne_iff_ne]
    rintro rfl
    exact h hc
  rw [Text.cut, List.takeWhile_append_of_pos hpass, List.dropWhile_append_of_pos hpass]
  simp

/-- The query of one pair. -/
def pairQuery (name value : String) : String :=
  encode name ++ "=" ++ encode value

theorem toList_pairQuery (name value : String) :
    (pairQuery name value).toList = (encode name).toList ++ '=' :: (encode value).toList := by
  simp [pairQuery]

theorem mem_pairQuery {name value : String} {c : Char} (h : c ∈ (pairQuery name value).toList) :
    c = '=' ∨ isEncodedChar c = true := by
  rw [toList_pairQuery, List.mem_append, List.mem_cons] at h
  rcases h with h | h | h
  · exact .inr (isEncodedChar_of_mem_encode h)
  · exact .inl h
  · exact .inr (isEncodedChar_of_mem_encode h)

/-- A query of one pair is taken apart into the pair. -/
theorem pairs_pairQuery (name value : String) : pairs (pairQuery name value) = [(name, value)] := by
  have hwhole : '&' ∉ (pairQuery name value).toList := by
    intro h
    rcases mem_pairQuery h with h | h
    · exact absurd h (by decide)
    · exact absurd h (by decide)
  have hname : '=' ∉ (encode name).toList := by
    intro h
    exact absurd (isEncodedChar_of_mem_encode h) (by decide)
  have hkept : ([(pairQuery name value).toList].filter fun part => !part.isEmpty) =
      [(pairQuery name value).toList] := by
    simp [toList_pairQuery]
  rw [pairs, splitAt_of_not_mem hwhole, hkept, List.map_singleton, toList_pairQuery, pair,
    cut_append hname]
  simp only [Option.getD_some, decode_encode]

/-- **The value of a name in a query of one pair.** -/
theorem value_pairQuery (name value : String) :
    value? (pairQuery name value) name = some value := by
  simp [value?, pairs_pairQuery]

end Form

/-- **A query in ASCII is its own octets.** -/
theorem Request.octetQuery_of_ascii {r : Request} (h : ∀ c ∈ r.query.toList, c.toNat < 128) :
    r.octetQuery = r.query := by
  have hoctets : ∀ cs : List Char, (∀ c ∈ cs, c.toNat < 128) →
      (Text.Utf8.octets cs).map (fun o => Char.ofNat o.toNat) = cs := by
    intro cs hcs
    induction cs with
    | nil => rfl
    | cons c cs ih =>
        rw [List.forall_mem_cons] at hcs
        have hsmall : c.toNat < 256 := Nat.lt_of_lt_of_le hcs.1 (by decide)
        rw [Text.Utf8.octets, List.flatMap_cons, Text.Utf8.encodeChar_of_ascii hcs.1,
          ← Text.Utf8.octets, List.map_append, List.map_singleton, ih hcs.2,
          Text.Utf8.toNat_ofNat hsmall, Char.ofNat_toNat, List.singleton_append]
  rw [octetQuery, hoctets _ h, String.ofList_toList]

/-- A query of one pair is ASCII. -/
theorem Form.ascii_pairQuery {name value : String} :
    ∀ c ∈ (pairQuery name value).toList, c.toNat < 128 := by
  intro c hc
  rcases mem_pairQuery hc with rfl | h
  · decide
  · exact toNat_lt_of_isEncodedChar h

end Web

end PrefixCalc
