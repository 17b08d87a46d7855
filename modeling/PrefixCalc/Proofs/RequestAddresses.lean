import Mathlib.Data.List.TakeWhile
import PrefixCalc.Web.Message

/-!
# Addresses of Requests

The address of a request is its path behind the host that it names. The path in the address is the
path of the request as long as no character of either means anything there but itself (`PlainHost`,
`PlainPath`); and then the address has no fault.

## Main results

* `PlainHost.fault?_eq_none`: a plain host is an authority.
* `addressPath_of_plain`: the path in the address of a request.
-/

namespace PrefixCalc.Web

/-- A host whose characters stand for themselves in an address: none of them separates or is a
bracket, is left out, or is taken for another. -/
def PlainHost (host : String) : Prop :=
  ∀ c ∈ host.toList, c ∉ "/?#[]\t\n\r".toList ∧ Place.isFolding c = false

/-- A path whose characters stand for themselves in an address, and which starts with a slash. -/
def PlainPath (path : String) : Prop :=
  path.toList.head? = some '/' ∧ ∀ c ∈ path.toList, c ∉ "?#\t\n\r".toList

instance (host : String) : Decidable (PlainHost host) :=
  List.decidableBAll _ host.toList

instance (path : String) : Decidable (PlainPath path) :=
  @instDecidableAnd _ _ inferInstance (List.decidableBAll _ path.toList)

/-- No character of a plain host is left out of an address or ends its authority. -/
theorem PlainHost.stands {host : String} (h : PlainHost host) {c : Char}
    (hc : c ∈ host.toList) : Request.isDropped c = false ∧ Request.endsAuthority c = false := by
  obtain ⟨hslash, hquestion, hsharp, -, -, htab, hline, hreturn⟩ :
      c ≠ '/' ∧ c ≠ '?' ∧ c ≠ '#' ∧ c ≠ '[' ∧ c ≠ ']' ∧ c ≠ '\t' ∧ c ≠ '\n' ∧ c ≠ '\r' := by
    simpa using (h c hc).1
  simp [Request.isDropped, Request.endsAuthority, hslash, hquestion, hsharp, htab, hline, hreturn]

/-- No character of a plain path is left out of an address or ends a path. -/
theorem PlainPath.stands {path : String} (h : PlainPath path) {c : Char}
    (hc : c ∈ path.toList) : Request.isDropped c = false ∧ (c != '?' && c != '#') = true := by
  obtain ⟨hquestion, hsharp, htab, hline, hreturn⟩ :
      c ≠ '?' ∧ c ≠ '#' ∧ c ≠ '\t' ∧ c ≠ '\n' ∧ c ≠ '\r' := by
    simpa using h.2 c hc
  simp [Request.isDropped, hquestion, hsharp, htab, hline, hreturn]

/-- **A plain host is an authority** without a fault. -/
theorem PlainHost.fault?_eq_none {host : String} (h : PlainHost host) :
    Place.fault? host.toList = none := by
  have hopening : host.toList.contains '[' = false := by
    rw [← Bool.not_eq_true, List.contains_iff_mem]
    exact fun hmem => absurd (h _ hmem).1 (by decide)
  have hclosing : host.toList.contains ']' = false := by
    rw [← Bool.not_eq_true, List.contains_iff_mem]
    exact fun hmem => absurd (h _ hmem).1 (by decide)
  have hfolding : host.toList.any Place.isFolding = false := by
    rw [List.any_eq_false]
    intro c hc
    simp [(h c hc).2]
  rw [Place.fault?, Place.bracketFault?, hopening, hclosing, hfolding]
  rfl

variable {r : Request}

/-- Plain hosts and paths make up addresses, and the path ends the host. -/
theorem address_of_plain (hhost : PlainHost r.host) (hpath : PlainPath r.path) :
    r.address.takeWhile (!Request.endsAuthority ·) = r.host.toList ∧
      r.address.dropWhile (!Request.endsAuthority ·) = r.path.toList := by
  have haddress : r.address = r.host.toList ++ r.path.toList := by
    rw [Request.address, String.toList_append, List.filter_eq_self, List.forall_mem_append]
    exact ⟨fun c hc => by simp [(hhost.stands hc).1], fun c hc => by simp [(hpath.stands hc).1]⟩
  have hinside : ∀ c ∈ r.host.toList, (!Request.endsAuthority c) = true :=
    fun c hc => by simp [(hhost.stands hc).2]
  obtain ⟨cs, hcs⟩ : ∃ cs, r.path.toList = '/' :: cs := List.head?_eq_some_iff.mp hpath.1
  rw [haddress, List.takeWhile_append_of_pos hinside, List.dropWhile_append_of_pos hinside, hcs]
  simp [Request.endsAuthority]

/-- **The path in the address of a request is its path**, if host and path are plain. -/
theorem addressPath_of_plain (hhost : PlainHost r.host) (hpath : PlainPath r.path) :
    r.addressPath = .ok r.path := by
  obtain ⟨hauthority, hrest⟩ := address_of_plain hhost hpath
  have hwhole : r.path.toList.takeWhile (fun c => c != '?' && c != '#') = r.path.toList := by
    rw [List.takeWhile_eq_self_iff]
    exact fun c hc => (hpath.stands hc).2
  rw [Request.addressPath, Request.addressFault?, hauthority, hhost.fault?_eq_none]
  simp only [hrest, hwhole, String.ofList_toList]

end PrefixCalc.Web
