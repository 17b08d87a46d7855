import PrefixCalc.Proofs.Replies

/-!
# The Kept Description

An application makes the description of its routes when it is asked for it for the first time, and
keeps it from then on. What it keeps is the description that it would make anew (`App.KeepsOwn`),
and every request leaves that so. Hence nothing that is answered shows whether a description is
kept.

## Main results

* `App.answer_of_keepsOwn`: answers as without a kept description.
* `App.dispatch_page`, `App.dispatch_description`: what the documentation answers.
* `App.keepsOwn_serveAll`: what is kept behind a row of requests.
-/

namespace PrefixCalc.Web.App

variable {a : App} {kept : Option Json}

/-- What an application keeps is its own description, if it keeps any. -/
def KeepsOwn (a : App) (kept : Option Json) : Prop :=
  ∀ d ∈ a.documentation, ∀ j ∈ kept, j = d.describe a.title a.version

@[simp] theorem keepsOwn_none (a : App) : a.KeepsOwn none := by
  intro d _ j hj
  cases hj

theorem described_of_keepsOwn (h : a.KeepsOwn kept) {d : Documentation}
    (hd : d ∈ a.documentation) : a.described kept d = a.described none d := by
  cases kept with
  | none => rfl
  | some j => exact h d hd j rfl

theorem endpoints_of_keepsOwn (h : a.KeepsOwn kept) : a.endpoints kept = a.endpoints none := by
  cases hdocumentation : a.documentation with
  | none => simp only [endpoints, hdocumentation, Option.elim]
  | some d =>
      simp only [endpoints, hdocumentation, Option.elim, described_of_keepsOwn h hdocumentation]

/-- **Nothing shows that a description is kept.** -/
theorem answer_of_keepsOwn (h : a.KeepsOwn kept) : a.answer kept = a.answer none := by
  have hendpoint : a.endpoint? kept = a.endpoint? none := by
    funext path
    rw [endpoint?, endpoint?, endpoints_of_keepsOwn h]
  have hdispatch : a.dispatch kept = a.dispatch none := by
    unfold dispatch
    rw [hendpoint]
  rw [answer, answer, hdispatch]

variable {s : Settings} {d : Documentation} {requestId : Option String} {r : Request}

/-! ### Answers of the documentation -/

/-- **A page is shown** to those who ask for it, with its body or without. -/
theorem dispatch_page (p : Page) (hpath : r.path = p.path)
    (hmethod : r.method = "GET" ∨ r.method = "HEAD") :
    (ofSettings s d).dispatch kept requestId r =
      Documentation.shownPage (d.page p s.apiTitle) requestId r := by
  have hendpoint : (ofSettings s d).endpoint? kept r.path =
      some ⟨⟨p.path, Documentation.shownPage (d.page p s.apiTitle)⟩, d.methods⟩ := by
    rw [hpath]
    cases p <;> rfl
  simp only [dispatch, hendpoint, if_pos (Documentation.mem_methods_iff.mpr hmethod)]

/-- **The description is shown** likewise, and kept. -/
theorem dispatch_description (hkept : (ofSettings s d).KeepsOwn kept)
    (hpath : r.path = Documentation.descriptionPath)
    (hmethod : r.method = "GET" ∨ r.method = "HEAD") :
    (ofSettings s d).dispatch kept requestId r =
      Documentation.description (d.describe s.apiTitle s.apiVersion) requestId r := by
  have hdescribed : (ofSettings s d).described kept d = d.describe s.apiTitle s.apiVersion :=
    described_of_keepsOwn hkept rfl
  have hendpoint : (ofSettings s d).endpoint? kept r.path =
      some ⟨⟨"/openapi.json", Documentation.description (d.describe s.apiTitle s.apiVersion)⟩,
        d.methods⟩ := by
    rw [hpath, ← hdescribed]
    rfl
  simp only [dispatch, hendpoint, if_pos (Documentation.mem_methods_iff.mpr hmethod)]

/-! ### Keeping -/

theorem keepsOwn_iff : (ofSettings s d).KeepsOwn kept ↔
    ∀ j ∈ kept, j = d.describe s.apiTitle s.apiVersion := by
  simp [KeepsOwn, ofSettings]

/-- A failure makes nothing be kept. -/
theorem keeps_ofFailure (requestId : Option String) (path : Except Unplaced String)
    (f : Failure) : (Reply.ofFailure requestId path f).keeps = none := by
  unfold Reply.ofFailure
  split
  · cases path <;> rfl
  · rfl

theorem keeps_evaluation (service : Service) (requestId : Option String) (r : Request) :
    (evaluation service requestId r).keeps = none := by
  cases hvalue : Form.value? r.octetQuery expressionName with
  | none => simp only [evaluation, hvalue, Reply.json]
  | some expression =>
      rcases hanswer : (service.evaluate expression).answer with (f | e) | v <;>
        simp only [evaluation, hvalue, hanswer, keeps_ofFailure, Reply.json]

/-- **What a path makes the application keep**: its description, if anything. -/
theorem keeps_handler {e : Endpoint} (h : e ∈ (ofSettings s d).endpoints kept)
    (requestId : Option String) (r : Request) :
    ∀ j ∈ (e.handler requestId r).keeps, j = (ofSettings s d).described kept d := by
  rcases handler_cases h with he | ⟨p, he⟩ | he | he <;> rw [he]
  · rintro j ⟨⟩
    rfl
  · rintro j ⟨⟩
  · rw [keeps_evaluation]
    rintro j ⟨⟩
  · rintro j ⟨⟩

theorem keeps_dispatch (requestId : Option String) (r : Request) :
    ∀ j ∈ ((ofSettings s d).dispatch kept requestId r).keeps,
      j = (ofSettings s d).described kept d := by
  intro j hj
  rw [dispatch] at hj
  cases hendpoint : (ofSettings s d).endpoint? kept r.path with
  | some e =>
      simp only [hendpoint] at hj
      split at hj
      · exact keeps_handler (List.mem_of_find?_eq_some hendpoint) requestId r j hj
      · cases hj
  | none =>
      simp only [hendpoint] at hj
      split at hj <;> cases hj

theorem keeps_answer (requestId : Option String) (r : Request) :
    ∀ j ∈ ((ofSettings s d).answer kept requestId r).keeps,
      j = (ofSettings s d).described kept d := by
  intro j hj
  rw [answer] at hj
  split at hj
  · exact keeps_dispatch requestId r j hj
  · rw [Cors.Policy.guard] at hj
    split at hj
    · cases hj
    · exact keeps_dispatch requestId r j hj

/-- The policy on what is kept holds on behind an answer. -/
theorem keepsOwn_answer (h : (ofSettings s d).KeepsOwn kept) (requestId : Option String)
    (r : Request) :
    (ofSettings s d).KeepsOwn (((ofSettings s d).answer kept requestId r).keeps.or kept) := by
  rw [keepsOwn_iff]
  intro j hj
  rcases Option.or_eq_some_iff.mp hj with hj | ⟨-, hj⟩
  · rw [keeps_answer requestId r j hj, described_of_keepsOwn h rfl]
    rfl
  · exact keepsOwn_iff.mp h j hj

variable {supply : RequestId.Supply} {st : State}

/-- **One request** leaves nothing kept but the description. -/
theorem keepsOwn_serve (h : (ofSettings s d).KeepsOwn st.kept) (r : Request) :
    (ofSettings s d).KeepsOwn ((ofSettings s d).serve supply st r).2.kept := by
  have hserve : (ofSettings s d).serve supply st r =
      (ofSettings s d).serveIdentified supply st r := if_pos rfl
  rw [hserve, serveIdentified]
  cases r.addressPath with
  | error u => exact h
  | ok path => exact keepsOwn_answer h _ r

theorem keepsOwn_serveAll (h : (ofSettings s d).KeepsOwn st.kept) (rs : List Request) :
    (ofSettings s d).KeepsOwn ((ofSettings s d).serveAll supply st rs).2.kept := by
  induction rs generalizing st with
  | nil => exact h
  | cons r rs ih => exact ih (keepsOwn_serve h r)

end PrefixCalc.Web.App
