import PrefixCalc.Proofs.RequestIdentity
import PrefixCalc.Proofs.Spacing

/-!
# The Evaluation Log

What the log says of a run of the service. A call appends to the log at most one record, and that
record is an account of the tree that was evaluated (`Service.Accounts`): its text is read back as
the tree, and its message, level and error kind are those of the value. A log that is kept from
level DEBUG on is therefore a ledger of the run (`Service.Ledger`), with a record for each
expression that is evaluated, in order, and none for the others. A log from level INFO on drops the
records of numbers, and no others.

The record is written before the value is, so that a number with too many digits, which has no
result, has its record all the same.

## Main results

* `Service.call_cases`: what one call does to the log.
* `Service.ledger_run`: the log of a run is a ledger of it.
* `Service.log_accounts_for_run`: ledgers, the two levels, and numbers that cannot be written.
-/

namespace PrefixCalc.Service

open Log (Record Level Threshold)

/-! ### Calls and runs -/

/-- A call of the service: the answer, and the log behind it. -/
def call (s : Service) (threshold : Threshold) (requestId : Option String) (log : List Record)
    (text : String) : Except Fault Evaluation × List Record :=
  let outcome := s.evaluate text
  (outcome.answer, log ++ Log.keep threshold requestId outcome.log)

/-- Calls one after another: the answers, and the log behind them. -/
def run (s : Service) (threshold : Threshold) (requestId : Option String) :
    List Record → List String → List (Except Fault Evaluation) × List Record
  | log, [] => ([], log)
  | log, text :: texts =>
    let called := s.call threshold requestId log text
    let rest := run s threshold requestId called.2 texts
    (called.1 :: rest.1, rest.2)

/-- The service evaluates an expression that is not too long and is read as a tree. It rejects an
expression when there is no such tree. -/
def Evaluates (s : Service) (text : String) (t : Tree) : Prop :=
  (Text.trim text).length ≤ s.limit ∧ Tree.parse (Text.trim text) = .ok t

/-! ### Accounts -/

/-- A record is an account of a tree: the text in it is read as the tree, and the rest of it says
what the tree evaluates to. -/
structure Accounts (r : Record) (t : Tree) : Prop where
  logger : r.logger = "lispy.evaluator"
  tree : ∃ canonical, Json.member? r.extra "tree" = some (.text canonical) ∧
    Tree.parse canonical = .ok t
  error : ∀ k, t.evaluate = .ok (.error k) ↔
    r.message = "evaluation.error" ∧ r.level = .info ∧
      Json.member? r.extra "error_kind" = some (.text k.name)
  number : (∃ n, t.evaluate = .ok (.number n)) ↔ r.message = "evaluation.ok" ∧ r.level = .debug

/-- The records of a run, in order: one for each expression that is evaluated, which is an account
of its tree, and none for an expression that is rejected. -/
inductive Ledger (s : Service) : List String → List Record → Prop
  | nil : Ledger s [] []
  | rejected {text : String} {texts : List String} {records : List Record}
      (h : ∀ t, ¬ s.Evaluates text t) (rest : Ledger s texts records) :
      Ledger s (text :: texts) records
  | evaluated {text : String} {t : Tree} {r : Record} {texts : List String}
      {records : List Record} (h : s.Evaluates text t) (account : Accounts r t)
      (rest : Ledger s texts records) : Ledger s (text :: texts) (r :: records)

variable {s : Service} {text : String} {requestId : Option String}

/-- The entry for a tree that was read is an account of it. -/
theorem accounts_entry {t : Tree} {v : Value} (ht : t.WellFormed) (hv : t.evaluate = .ok v)
    (requestId : Option String) : Accounts { entry t v with requestId } t := by
  obtain ⟨canonical, hcanonical⟩ := Tree.exists_sexpr ht.proper
  have hparse := Tree.parse_sexpr ht hcanonical
  cases v with
  | number n =>
      refine ⟨rfl, ⟨canonical, ?_, hparse⟩, ?_, ?_⟩
      · simp [entry, Json.member?, hcanonical]
      · simp [entry, hv]
      · simp [entry, hv]
  | error k =>
      refine ⟨rfl, ⟨canonical, ?_, hparse⟩, ?_, ?_⟩
      · simp [entry, Json.member?, hcanonical]
      · intro j
        constructor
        · intro h
          rw [hv] at h
          cases h
          exact ⟨rfl, rfl, rfl⟩
        · rintro ⟨-, -, hkind⟩
          have hname : some (Json.text k.name) = some (.text j.name) := hkind
          rw [Option.some.injEq, Json.text.injEq] at hname
          have hsame := ErrorKind.ofName?_name k
          rw [hname, ErrorKind.ofName?_name, Option.some.injEq] at hsame
          rw [hv, hsame]
      · simp [entry, hv]

/-- The tree of an expression that is evaluated is the one in its record. -/
theorem Ledger.of_evaluated {t : Tree} {texts : List String} {records : List Record}
    (h : s.Ledger (text :: texts) records) (ht : s.Evaluates text t) :
    ∃ r rest, records = r :: rest ∧ Accounts r t ∧ s.Ledger texts rest := by
  cases h with
  | rejected hnone => exact absurd ht (hnone t)
  | @evaluated _ u r _ rest hu account hrest =>
      have hsame := hu.2
      rw [ht.2, Except.ok.injEq] at hsame
      exact ⟨r, rest, rfl, hsame ▸ account, hrest⟩

/-- An expression that is rejected has no record. -/
theorem Ledger.of_rejected {texts : List String} {records : List Record}
    (h : s.Ledger (text :: texts) records) (hnone : ∀ t, ¬ s.Evaluates text t) :
    s.Ledger texts records := by
  cases h with
  | rejected _ hrest => exact hrest
  | evaluated ht => exact absurd ht (hnone _)

/-! ### One call -/

/-- **One call**: the expression is rejected and the log stays as it is, or it is evaluated and the
log has the entry for its tree, if the threshold lets it through. -/
theorem call_cases (s : Service) (threshold : Threshold) (requestId : Option String)
    (log : List Record) (text : String) :
    (∀ t, ¬ s.Evaluates text t) ∧ (s.call threshold requestId log text).2 = log ∨
      ∃ t v, s.Evaluates text t ∧ t.evaluate = .ok v ∧
        (s.call threshold requestId log text).2 =
          log ++ Log.keep threshold requestId [entry t v] := by
  cases hread : s.read text with
  | error f =>
      refine .inl ⟨fun t ht => ?_, ?_⟩
      · rw [read_eq_ok_iff.mpr ht] at hread
        cases hread
      · rw [call, evaluate, hread]
        exact List.append_nil log
  | ok t =>
      obtain ⟨v, hv⟩ := exists_evaluate_of_read hread
      refine .inr ⟨t, v, read_eq_ok_iff.mp hread, hv, ?_⟩
      rw [call, evaluate, hread]
      simp only [hv]

/-- From level DEBUG on, every entry is kept. -/
theorem keep_debug (requestId : Option String) (t : Tree) (v : Value) :
    Log.keep Level.debug.rank requestId [entry t v] = [{ entry t v with requestId }] := by
  cases v <;> rfl

/-- The records of errors. -/
def errors (log : List Record) : List Record :=
  log.filter fun r => r.message == "evaluation.error"

/-- From level INFO on, what is kept are the records of errors. -/
theorem keep_info (requestId : Option String) (t : Tree) (v : Value) :
    Log.keep Level.info.rank requestId [entry t v] =
      errors (Log.keep Level.debug.rank requestId [entry t v]) := by
  cases v <;> rfl

/-- **One call keeps the logs of the two levels in step**, and they do not show in its answer. -/
theorem call_info (s : Service) (requestId : Option String) (log : List Record) (text : String) :
    let called := s.call Level.debug.rank requestId log text
    s.call Level.info.rank requestId (errors log) text = (called.1, errors called.2) := by
  have hkept : Log.keep Level.info.rank requestId (s.evaluate text).log =
      errors (Log.keep Level.debug.rank requestId (s.evaluate text).log) := by
    rcases evaluate_cases s text with ⟨f, -, heq⟩ | ⟨t, v, -, heq⟩
    · rw [heq]
      rfl
    · rw [heq]
      exact keep_info requestId t v
  simp only [call, hkept, errors, List.filter_append]

/-! ### Runs -/

/-- **The log of a run from level DEBUG on is a ledger of the run**, behind what was in it. -/
theorem ledger_run (s : Service) (requestId : Option String) (log : List Record)
    (texts : List String) :
    ∃ records, (s.run Level.debug.rank requestId log texts).2 = log ++ records ∧
      s.Ledger texts records := by
  induction texts generalizing log with
  | nil => exact ⟨[], (List.append_nil log).symm, .nil⟩
  | cons text texts ih =>
      obtain ⟨records, hrest, hledger⟩ :=
        ih (s.call Level.debug.rank requestId log text).2
      rw [run, hrest]
      rcases call_cases s Level.debug.rank requestId log text with
        ⟨hnone, hlog⟩ | ⟨t, v, ht, hv, hlog⟩
      · exact ⟨records, by rw [hlog], .rejected hnone hledger⟩
      · have hwell := (Tree.parse_eq_ok_iff.mp ht.2).1
        refine ⟨{ entry t v with requestId } :: records, ?_,
          .evaluated ht (accounts_entry hwell hv requestId) hledger⟩
        rw [hlog, keep_debug, List.append_assoc, List.singleton_append]

/-- **A run keeps the logs of the two levels in step.** -/
theorem run_info (s : Service) (requestId : Option String) (log : List Record)
    (texts : List String) :
    let ran := s.run Level.debug.rank requestId log texts
    s.run Level.info.rank requestId (errors log) texts = (ran.1, errors ran.2) := by
  induction texts generalizing log with
  | nil => rfl
  | cons text texts ih => simp only [run, call_info, ih]

/-- A run answers each expression as a single call does. -/
theorem run_answers (s : Service) (threshold : Threshold) (requestId : Option String)
    (log : List Record) (texts : List String) :
    (s.run threshold requestId log texts).1 = texts.map fun text => (s.evaluate text).answer := by
  induction texts generalizing log with
  | nil => rfl
  | cons text texts ih =>
      rw [run, List.map_cons, ih]
      rfl

/-- **The log accounts for a run.** From level DEBUG on, the log of a run has one record for each
expression that is evaluated, in order, and none for the others; the text of the tree in a record
is read as the tree that was evaluated, which evaluates to an error of a kind exactly when the
record is one of level INFO that names the kind, and to a number exactly when it is one of level
DEBUG. A number with too many digits, for which the call has no result, has its record too. From
level INFO on, the same run has the same answers, and its log the records of errors alone, in
order. -/
theorem log_accounts_for_run (s : Service) (requestId : Option String) (texts : List String) :
    let debug := s.run Level.debug.rank requestId [] texts
    let info := s.run Level.info.rank requestId [] texts
    s.Ledger texts debug.2 ∧
      debug.1 = texts.map (fun text => (s.evaluate text).answer) ∧ info.1 = debug.1 ∧
      info.2 = debug.2.filter (fun r => r.message == "evaluation.error") ∧
      ∀ (text : String) (t : Tree) (n : Int), s.Evaluates text t → t.evaluate = .ok (.number n) →
        Decimal.maxDigits < Decimal.digitCount n →
          (s.evaluate text).answer = .error (.escape (.unwritable .tooManyDigits)) ∧
            ∃ r, (s.run Level.debug.rank requestId [] [text]).2 = [r] ∧ Accounts r t := by
  intro debug info
  have hinfo : info = (debug.1, errors debug.2) := run_info s requestId [] texts
  refine ⟨?_, run_answers s _ requestId [] texts, by rw [hinfo], by rw [hinfo, errors], ?_⟩
  · obtain ⟨records, hrecords, hledger⟩ := ledger_run s requestId [] texts
    rw [List.nil_append] at hrecords
    exact hrecords ▸ hledger
  · intro text t n ht hv hdigits
    refine ⟨answer_of_tooManyDigits (read_eq_ok_iff.mpr ht) hv hdigits, ?_⟩
    obtain ⟨records, hrecords, hledger⟩ := ledger_run s requestId [] [text]
    obtain ⟨r, rest, rfl, haccount, hrest⟩ := hledger.of_evaluated ht
    cases hrest
    exact ⟨r, hrecords, haccount⟩

/-- A run of three calls: one is rejected, one ends in an error, and one in a number that cannot be
written. The last two have their records. -/
theorem log_accounts_for_run_of_three :
    let s : Service := { limit := 5000 }
    let texts := ["(+ 1", "/ 1 0", longProduct " "]
    ∃ r r', (s.run Level.debug.rank none [] texts).2 = [r, r'] ∧
      (s.run Level.info.rank none [] texts).2 = [r] ∧ r.message = "evaluation.error" ∧
      r'.message = "evaluation.ok" ∧
      (s.evaluate (longProduct " ")).answer = .error (.escape (.unwritable .tooManyDigits)) := by
  intro s texts
  have hrejected : ∀ t, ¬ s.Evaluates "(+ 1" t := by
    rintro t ⟨-, hparse⟩
    cases hparse
  have hquotient : s.Evaluates "/ 1 0" (.application "/" [.leaf "1", .leaf "0"]) :=
    ⟨by decide, rfl⟩
  have hproduct : s.Evaluates (longProduct " ")
      (.application "*" (List.replicate 230 (.leaf "9223372036854775807"))) :=
    ⟨Int.ofNat_le.mpr (length_trim_longProduct_le rfl),
      parse_longProduct (by decide) (by decide)⟩
  obtain ⟨n, hv, hdigits⟩ := evaluate_longProduct
  obtain ⟨hledger, -, -, hinfo, hescape⟩ := log_accounts_for_run s none texts
  obtain ⟨hanswer, -⟩ := hescape _ _ n hproduct hv hdigits
  generalize (s.run Level.debug.rank none [] texts).2 = records at hledger hinfo
  obtain ⟨r, rest, rfl, hr, hrest⟩ := (hledger.of_rejected hrejected).of_evaluated hquotient
  obtain ⟨r', rest', rfl, hr', hrest'⟩ := hrest.of_evaluated hproduct
  cases hrest'
  have herror := ((hr.error .divisionByZero).mp rfl).1
  have hnumber := (hr'.number.mp ⟨n, hv⟩).1
  refine ⟨r, r', rfl, ?_, herror, hnumber, hanswer⟩
  rw [hinfo]
  simp [herror, hnumber]

end PrefixCalc.Service
