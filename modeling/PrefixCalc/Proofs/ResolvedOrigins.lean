import Mathlib.Data.List.Induction
import Mathlib.Data.List.Nodup
import Mathlib.Data.List.TakeWhile
import PrefixCalc.Web.App

/-!
# Resolved Origins

The origins that a browser may call from are given as a list and one more origin, written with or
without slashes at their ends, and possibly several times. Resolving them takes the slashes off and
keeps the first of equal ones. This module says what the result is without the loop that makes it:
the stripped forms of the origins that are not empty, each at its first occurrence
(`resolveOrigins_eq_eraseDups`). The invariant of the loop is that equation for the origins so far.

An origin is left out when it is empty as it is given, not as it is stripped, so one that is made
of slashes leaves an empty entry. Resolving once more takes that entry out and nothing else, hence
the result is a normal form exactly when no origin is made of slashes.

## Main results

* `stripOrigin_eq_iff`: what is left of an origin.
* `resolveOrigins_eq_eraseDups`: what the loop comes to.
* `Settings.origins_are_resolved`: the entries, their order, and what the one more origin adds.
* `Settings.resolving_again_drops_empty_origin`: when the result is a normal form.
-/

namespace PrefixCalc

/-! ### Stripped forms -/

/-- What is left of an origin when all slashes at its end are taken off. -/
structure IsStripped (origin stripped : String) : Prop where
  slashes : ∃ k, origin.toList = stripped.toList ++ List.replicate k '/'
  bare : stripped.toList.getLast? ≠ some '/'

theorem toList_stripOrigin (origin : String) :
    (stripOrigin origin).toList = (origin.toList.reverse.dropWhile (· == '/')).reverse := by
  rw [stripOrigin, Text.trimRight, String.toList_ofList]

theorem isStripped_stripOrigin (origin : String) : IsStripped origin (stripOrigin origin) where
  slashes := by
    have hslashes := List.eq_replicate_of_mem (a := '/')
      (l := origin.toList.reverse.takeWhile (· == '/')) fun c hc => by
        simpa using List.mem_takeWhile_imp hc
    have hparts := congrArg List.reverse
      (List.takeWhile_append_dropWhile (p := (· == '/')) (l := origin.toList.reverse))
    rw [List.reverse_append, List.reverse_reverse, hslashes, List.reverse_replicate] at hparts
    exact ⟨_, by rw [toList_stripOrigin, hparts]⟩
  bare := by
    rw [toList_stripOrigin, List.getLast?_reverse]
    intro hhead
    have hnot := List.head?_dropWhile_not (· == '/') origin.toList.reverse
    rw [hhead] at hnot
    simp at hnot

/-- **What is left of an origin** when the slashes at its end are taken off, and only that. -/
theorem stripOrigin_eq_iff {origin stripped : String} :
    stripOrigin origin = stripped ↔ IsStripped origin stripped := by
  refine ⟨fun h => h ▸ isStripped_stripOrigin origin, ?_⟩
  rintro ⟨⟨k, hk⟩, hbare⟩
  have hkept : stripped.toList.reverse.dropWhile (· == '/') = stripped.toList.reverse := by
    cases hreverse : stripped.toList.reverse with
    | nil => rfl
    | cons c cs =>
        rw [List.getLast?_eq_head?_reverse, hreverse] at hbare
        exact List.dropWhile_cons_of_neg (by simpa using hbare)
  rw [← String.toList_inj, toList_stripOrigin, hk, List.reverse_append, List.reverse_replicate,
    List.dropWhile_append_of_pos (by simp), hkept, List.reverse_reverse]

/-- A stripped form has no more slashes to take off. -/
theorem stripOrigin_stripOrigin (origin : String) :
    stripOrigin (stripOrigin origin) = stripOrigin origin :=
  stripOrigin_eq_iff.mpr ⟨⟨0, by simp⟩, (isStripped_stripOrigin origin).bare⟩

/-- Nothing is left of an origin that is made of slashes. -/
theorem stripOrigin_eq_empty_iff {origin : String} :
    stripOrigin origin = "" ↔ ∀ c ∈ origin.toList, c = '/' := by
  rw [stripOrigin_eq_iff]
  constructor
  · rintro ⟨⟨k, hk⟩, -⟩ c hc
    rw [hk] at hc
    exact List.eq_of_mem_replicate (by simpa using hc)
  · intro h
    exact ⟨⟨_, List.eq_replicate_of_mem h⟩, by simp⟩

/-! ### First occurrences -/

section FirstOccurrences

variable {α : Type} [BEq α] [LawfulBEq α]

/-- One more entry adds nothing when it is there already. -/
theorem eraseDups_concat (l : List α) (a : α) [Decidable (a ∈ l)] :
    (l ++ [a]).eraseDups = if a ∈ l then l.eraseDups else l.eraseDups ++ [a] := by
  rw [List.eraseDups_append]
  by_cases ha : a ∈ l <;> simp [List.removeAll, List.eraseDups_cons, ha]

/-- The entries that are kept stand in the order in which they first occur. -/
theorem pairwise_idxOf_eraseDups (l : List α) :
    l.eraseDups.Pairwise fun a b => l.idxOf a < l.idxOf b := by
  classical
  induction l using List.reverseRecOn with
  | nil => simp
  | append_singleton l c ih =>
      have hkept : l.eraseDups.Pairwise fun a b => (l ++ [c]).idxOf a < (l ++ [c]).idxOf b := by
        refine ih.imp_of_mem fun ha hb hab => ?_
        rwa [List.idxOf_append_of_mem (List.mem_eraseDups.mp ha),
          List.idxOf_append_of_mem (List.mem_eraseDups.mp hb)]
      rw [eraseDups_concat]
      split_ifs with hc
      · exact hkept
      · refine List.pairwise_append.mpr ⟨hkept, List.pairwise_singleton .., ?_⟩
        intro a ha b hb
        have hl : a ∈ l := List.mem_eraseDups.mp ha
        rw [List.mem_singleton.mp hb, List.idxOf_append_of_mem hl,
          List.idxOf_append_of_notMem hc]
        exact Nat.lt_add_right _ (List.idxOf_lt_length_iff.mpr hl)

theorem nodup_eraseDups (l : List α) : l.eraseDups.Nodup :=
  (pairwise_idxOf_eraseDups l).imp fun hlt => by
    rintro rfl
    exact Nat.lt_irrefl _ hlt

/-- Without repetitions there is nothing to take out. -/
theorem eraseDups_eq_self {l : List α} (h : l.Nodup) : l.eraseDups = l := by
  classical
  induction l using List.reverseRecOn with
  | nil => rfl
  | append_singleton l a ih =>
      rw [List.nodup_append_comm, List.singleton_append, List.nodup_cons] at h
      rw [eraseDups_concat, if_neg h.1, ih h.2]

end FirstOccurrences

/-! ### The loop -/

/-- The stripped forms of the origins that are not empty, with repetitions. -/
def originForms (origins : List String) : List String :=
  (origins.filter fun origin => origin ≠ "").map stripOrigin

theorem originForms_append (origins more : List String) :
    originForms (origins ++ more) = originForms origins ++ originForms more := by
  rw [originForms, List.filter_append, List.map_append, originForms, originForms]

theorem mem_originForms {origins : List String} {entry : String} :
    entry ∈ originForms origins ↔ ∃ o ∈ origins, o ≠ "" ∧ IsStripped o entry := by
  simp only [originForms, List.mem_map, List.mem_filter, decide_eq_true_iff, stripOrigin_eq_iff,
    and_assoc]

/-- **A step of the loop**: the entries for the origins so far become those for one more. -/
theorem addOrigin_eraseDups (origins : List String) (origin : String) :
    addOrigin (originForms origins).eraseDups origin =
      (originForms (origins ++ [origin])).eraseDups := by
  rw [originForms_append, addOrigin]
  by_cases hempty : origin = ""
  · simp [originForms, hempty]
  · have hforms : originForms [origin] = [stripOrigin origin] := by
      simp [originForms, hempty]
    rw [if_neg (by simpa using hempty), hforms, eraseDups_concat]
    simp only [List.mem_eraseDups]

/-- **The loop comes to the stripped forms** of the origins that are not empty, each at its first
occurrence. -/
theorem resolveOrigins_eq_eraseDups (origins : List String) (frontend : Option String) :
    resolveOrigins origins frontend =
      (originForms (origins ++ frontend.toList)).eraseDups := by
  rw [resolveOrigins]
  generalize origins ++ frontend.toList = given
  induction given using List.reverseRecOn with
  | nil => rfl
  | append_singleton given origin ih =>
      rw [List.foldl_append, List.foldl_cons, List.foldl_nil, ih, addOrigin_eraseDups]

theorem mem_resolveOrigins {origins : List String} {frontend : Option String} {entry : String} :
    entry ∈ resolveOrigins origins frontend ↔
      ∃ o ∈ origins ++ frontend.toList, o ≠ "" ∧ IsStripped o entry := by
  rw [resolveOrigins_eq_eraseDups, List.mem_eraseDups, mem_originForms]

/-! ### The one more origin -/

/-- One more origin adds an entry when it is there, is not empty, and has another stripped form
than all origins of the list that are not empty. -/
def AddsEntry (origins : List String) (frontend : Option String) : Prop :=
  ∃ f, frontend = some f ∧ f ≠ "" ∧ ∀ o ∈ origins, o ≠ "" → stripOrigin o ≠ stripOrigin f

theorem resolveOrigins_some (origins : List String) (f : String) :
    resolveOrigins origins (some f) = addOrigin (resolveOrigins origins none) f := by
  rw [resolveOrigins, resolveOrigins, Option.toList_some, List.foldl_append, List.foldl_cons,
    List.foldl_nil, Option.toList_none, List.append_nil]

theorem stripOrigin_mem_resolveOrigins {origins : List String} {f : String} :
    stripOrigin f ∈ resolveOrigins origins none ↔
      ∃ o ∈ origins, o ≠ "" ∧ stripOrigin o = stripOrigin f := by
  simp only [mem_resolveOrigins, Option.toList_none, List.append_nil, ← stripOrigin_eq_iff]

/-- The one more origin adds its stripped form at the end. -/
theorem resolveOrigins_of_addsEntry {origins : List String} {f : String}
    (h : AddsEntry origins (some f)) :
    resolveOrigins origins (some f) = resolveOrigins origins none ++ [stripOrigin f] := by
  obtain ⟨f, hf, hne, hnew⟩ := h
  cases hf
  have hnot : stripOrigin f ∉ resolveOrigins origins none := by
    rw [stripOrigin_mem_resolveOrigins]
    rintro ⟨o, ho, hempty, hsame⟩
    exact hnew o ho hempty hsame
  rw [resolveOrigins_some, addOrigin, if_neg (by simpa using hne)]
  exact if_neg hnot

/-- Without an entry to add nothing changes. -/
theorem resolveOrigins_of_not_addsEntry {origins : List String} {frontend : Option String}
    (h : ¬ AddsEntry origins frontend) :
    resolveOrigins origins frontend = resolveOrigins origins none := by
  cases frontend with
  | none => rfl
  | some f =>
      rw [resolveOrigins_some, addOrigin]
      by_cases hempty : f = ""
      · rw [if_pos (by simpa using hempty)]
      · rw [if_neg (by simpa using hempty)]
        refine if_pos (stripOrigin_mem_resolveOrigins.mpr ?_)
        by_contra hnone
        exact h ⟨f, rfl, hempty, fun o ho hne hsame => hnone ⟨o, ho, hne, hsame⟩⟩

/-- An entry is added exactly when the one more origin adds its own. -/
theorem exists_eq_concat_iff {origins : List String} {frontend : Option String} :
    (∃ e, resolveOrigins origins frontend = resolveOrigins origins none ++ [e]) ↔
      AddsEntry origins frontend := by
  constructor
  · rintro ⟨e, he⟩
    by_contra hnone
    rw [resolveOrigins_of_not_addsEntry hnone] at he
    exact absurd (congrArg List.length he) (by simp)
  · intro h
    obtain ⟨f, rfl, -⟩ := id h
    exact ⟨_, resolveOrigins_of_addsEntry h⟩

namespace Settings

/-- The origins that the settings give, the one more origin last. -/
def givenOrigins (s : Settings) : List String :=
  s.corsOrigins ++ s.frontendOrigin.toList

/-- **Origins are resolved** to the stripped forms of those that are given and not empty, each at
its first occurrence. An entry is what is left of such an origin without the slashes at its end;
no two entries are equal, none ends in a slash, and they stand in the order in which they first
occur. The one more origin adds an entry exactly when it is given, is not empty, and has another
stripped form than all origins of the list that are not empty; it adds its stripped form, at the
end. -/
theorem origins_are_resolved (s : Settings) :
    let forms := originForms s.givenOrigins
    let base := { s with frontendOrigin := none }.resolvedOrigins
    (∀ origin stripped, stripOrigin origin = stripped ↔ IsStripped origin stripped) ∧
    s.resolvedOrigins = forms.eraseDups ∧
    (∀ e, e ∈ s.resolvedOrigins ↔ ∃ o ∈ s.givenOrigins, o ≠ "" ∧ IsStripped o e) ∧
    s.resolvedOrigins.Nodup ∧
    (∀ e ∈ s.resolvedOrigins, e.toList.getLast? ≠ some '/') ∧
    s.resolvedOrigins.Pairwise (fun a b => forms.idxOf a < forms.idxOf b) ∧
    ((∃ e, s.resolvedOrigins = base ++ [e]) ↔ AddsEntry s.corsOrigins s.frontendOrigin) ∧
    (∀ f, s.frontendOrigin = some f → AddsEntry s.corsOrigins s.frontendOrigin →
      s.resolvedOrigins = base ++ [stripOrigin f]) ∧
    (¬ AddsEntry s.corsOrigins s.frontendOrigin → s.resolvedOrigins = base) := by
  intro forms base
  have hresolved : s.resolvedOrigins = forms.eraseDups :=
    resolveOrigins_eq_eraseDups s.corsOrigins s.frontendOrigin
  have hmem : ∀ e, e ∈ s.resolvedOrigins ↔ ∃ o ∈ s.givenOrigins, o ≠ "" ∧ IsStripped o e :=
    fun e => mem_resolveOrigins
  refine ⟨fun _ _ => stripOrigin_eq_iff, hresolved, hmem, ?_, ?_, ?_, exists_eq_concat_iff, ?_,
    resolveOrigins_of_not_addsEntry⟩
  · rw [hresolved]
    exact nodup_eraseDups forms
  · intro e he
    obtain ⟨o, -, -, hstripped⟩ := (hmem e).mp he
    exact hstripped.bare
  · rw [hresolved]
    exact pairwise_idxOf_eraseDups forms
  · intro f hf hadds
    have hsome : s.resolvedOrigins = resolveOrigins s.corsOrigins (some f) := by
      rw [resolvedOrigins, hf]
    rw [hf] at hadds
    exact hsome.trans (resolveOrigins_of_addsEntry hadds)

/-- A list with an empty origin and one that is given twice, with a new origin behind it and with
one that is there already. -/
theorem origins_are_resolved_of_four :
    let origins := ["http://b/", "", "http://a", "http://b//"]
    let s : Settings := { corsOrigins := origins, frontendOrigin := "http://c/" }
    let t : Settings := { corsOrigins := origins, frontendOrigin := "http://a/" }
    AddsEntry s.corsOrigins s.frontendOrigin ∧ ¬ AddsEntry t.corsOrigins t.frontendOrigin ∧
      s.resolvedOrigins = ["http://b", "http://a"] ++ ["http://c"] ∧
      t.resolvedOrigins = ["http://b", "http://a"] := by
  intro origins s t
  have hadds : AddsEntry s.corsOrigins s.frontendOrigin :=
    ⟨"http://c/", rfl, by decide, by decide⟩
  have hnot : ¬ AddsEntry t.corsOrigins t.frontendOrigin := by
    rintro ⟨f, hf, -, hnew⟩
    cases hf
    exact hnew "http://a" (by decide) (by decide) (by decide)
  obtain ⟨-, -, -, -, -, -, -, hsome, -⟩ := origins_are_resolved s
  obtain ⟨-, -, -, -, -, -, -, -, hnone⟩ := origins_are_resolved t
  have hbase : resolveOrigins origins none = ["http://b", "http://a"] := by decide
  refine ⟨hadds, hnot, ?_, (hnone hnot).trans hbase⟩
  rw [← hbase]
  exact hsome "http://c/" rfl hadds

/-! ### Normal forms -/

/-- Settings that give the resolved origins, and no other. -/
def resolved (s : Settings) : Settings :=
  { s with corsOrigins := s.resolvedOrigins, frontendOrigin := none }

/-- An origin is given that is made of slashes. -/
def GivesSlashes (s : Settings) : Prop :=
  ∃ o ∈ s.givenOrigins, o ≠ "" ∧ ∀ c ∈ o.toList, c = '/'

theorem empty_mem_resolvedOrigins (s : Settings) :
    "" ∈ s.resolvedOrigins ↔ s.GivesSlashes := by
  rw [resolvedOrigins, mem_resolveOrigins, GivesSlashes, givenOrigins]
  simp only [← stripOrigin_eq_iff, stripOrigin_eq_empty_iff]

/-- Resolving once more takes out the empty entry and nothing else. -/
theorem resolvedOrigins_resolved (s : Settings) :
    s.resolved.resolvedOrigins = s.resolvedOrigins.filter fun e => e ≠ "" := by
  have hstripped : ∀ e ∈ s.resolvedOrigins, stripOrigin e = e := by
    intro e he
    obtain ⟨o, -, -, h⟩ := mem_resolveOrigins.mp he
    rw [← stripOrigin_eq_iff.mpr h, stripOrigin_stripOrigin]
  have hnodup : s.resolvedOrigins.Nodup := by
    rw [resolvedOrigins, resolveOrigins_eq_eraseDups]
    exact nodup_eraseDups _
  have hforms : originForms s.resolvedOrigins = s.resolvedOrigins.filter fun e => e ≠ "" := by
    rw [originForms, List.map_congr_left fun e he => hstripped e (List.mem_filter.mp he).1,
      List.map_id']
  rw [resolvedOrigins, resolveOrigins_eq_eraseDups]
  change (originForms (s.resolvedOrigins ++ [])).eraseDups = _
  rw [List.append_nil, hforms, eraseDups_eq_self (hnodup.filter _)]

theorem resolvedOrigins_resolved_eq_self_iff {s : Settings} :
    s.resolved.resolvedOrigins = s.resolvedOrigins ↔ ¬ s.GivesSlashes := by
  rw [resolvedOrigins_resolved, ← empty_mem_resolvedOrigins, List.filter_eq_self]
  constructor
  · intro h hempty
    simpa using h "" hempty
  · intro h e he
    rw [decide_eq_true_iff]
    rintro rfl
    exact h he

/-- **The resolved origins are a normal form exactly when no origin is made of slashes.** Such an
origin is not empty, but its stripped form is, and so there is an empty entry, which resolving once
more takes out. Without such an origin no entry is empty, and there is a policy on other origins
only when at least one origin is allowed that is not empty. -/
theorem resolving_again_drops_empty_origin (s : Settings) (d : Web.Documentation) :
    let app := Web.App.ofSettings s d
    ("" ∈ s.resolvedOrigins ↔ s.GivesSlashes) ∧
    s.resolved.resolvedOrigins = s.resolvedOrigins.filter (fun e => e ≠ "") ∧
    (s.resolved.resolvedOrigins = s.resolvedOrigins ↔ ¬ s.GivesSlashes) ∧
    (¬ s.GivesSlashes → ∀ kept, app.answer kept ≠ app.dispatch kept →
      ∃ o ∈ app.origins, o ≠ "") := by
  intro app
  refine ⟨empty_mem_resolvedOrigins s, resolvedOrigins_resolved s,
    resolvedOrigins_resolved_eq_self_iff, fun hnone kept hpolicy => ?_⟩
  have horigins : app.origins = s.resolvedOrigins := rfl
  cases hentries : app.origins with
  | nil =>
      refine absurd ?_ hpolicy
      rw [Web.App.answer, hentries]
      rfl
  | cons o os =>
      refine ⟨o, List.mem_cons_self, ?_⟩
      rintro rfl
      rw [← empty_mem_resolvedOrigins, ← horigins, hentries] at hnone
      exact hnone List.mem_cons_self

/-- The default origins are a normal form, under which there is a policy. -/
theorem resolving_again_keeps_default_origins :
    let s : Settings := {}
    let app := Web.App.ofSettings s
    ¬ s.GivesSlashes ∧ s.resolved.resolvedOrigins = s.resolvedOrigins ∧
      app.answer none ≠ app.dispatch none ∧ ∃ o ∈ app.origins, o ≠ "" := by
  intro s app
  obtain ⟨hempty, -, hnormal, hpolicy⟩ := resolving_again_drops_empty_origin s .blank
  have hnone : ¬ s.GivesSlashes := by
    rw [← hempty]
    decide
  have hanswer : app.answer none ≠ app.dispatch none := by
    intro hsame
    have hheaders := congrArg
      (fun handler => (handler none { path := "/health" }).answer.toOption.map
        Web.Response.headers) hsame
    exact absurd hheaders (by decide)
  exact ⟨hnone, hnormal.mpr hnone, hanswer, hpolicy hnone none hanswer⟩

/-- A slash alone leaves an empty origin, under which there is a policy, and which is granted
access; it is gone when the origins are resolved once more. -/
theorem slash_leaves_an_empty_origin :
    let s : Settings := { corsOrigins := ["/"] }
    let request : Web.Request := { path := "/health", headers := [("origin", "")] }
    s.resolvedOrigins = [""] ∧ s.resolved.resolvedOrigins = [] ∧
      (Web.App.ofSettings s).origins = [""] ∧
      ∃ response, ((Web.App.ofSettings s).answer none none request).answer = .ok response ∧
        ("access-control-allow-origin", "") ∈ response.headers ∧
        ("access-control-allow-credentials", "true") ∈ response.headers := by
  refine ⟨by decide, by decide, by decide, _, rfl, by decide, by decide⟩

end Settings

end PrefixCalc
