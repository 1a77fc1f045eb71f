import BrokerGuard.Handshake.Origin
import BrokerGuard.Proofs.Http.HeaderText
/-!
# Origins — when the check fails closed

A check that fails closed lets a request with an `Origin` header pass only if the value of the header is a text that is
compared and accepted, and a request without the header only if none is demanded (`FailsClosed`).  The check looks at the
text of the header alone, and a value that does not read as a text counts as no header at all.  So it fails closed exactly
where an origin is demanded or the value is readable (`failsClosed_iff_readable`).
-/
namespace BrokerGuard

namespace OriginPolicy

variable {p : OriginPolicy} {r : HttpRequest}

/-- The origin is the server's own, or the list allows it. -/
def Accepts (p : OriginPolicy) (r : HttpRequest) (origin : String) : Prop := isOwn r origin = true ∨ p.allows origin = true

/-- The check of the request fails closed: what it lets pass was compared, unless there was nothing to compare and nothing
is demanded. -/
structure FailsClosed (p : OriginPolicy) (r : HttpRequest) : Prop where
  reported : ∀ value, r.header? "origin" = some value → p.check r = .ok () →
    ∃ origin, value.text? = some origin ∧ p.Accepts r origin
  unreported : r.header? "origin" = none → p.check r = .ok () → p.requireOrigin = false

theorem check_of_text (hany : p.allowAny = false) {origin : String} (h : r.headerText? "origin" = some origin) :
    (p.Accepts r origin ∧ p.check r = .ok ()) ∨ (¬ p.Accepts r origin ∧ p.check r = .error (.invalidOrigin origin)) := by
  have hcheck : p.check r = if isOwn r origin || p.allows origin then .ok () else .error (.invalidOrigin origin) := by
    simp only [check, hany, h, Bool.false_eq_true, if_false]
  have hiff : (isOwn r origin || p.allows origin) = true ↔ p.Accepts r origin := Bool.or_eq_true_iff
  by_cases haccepts : p.Accepts r origin
  · exact .inl ⟨haccepts, hcheck.trans (if_pos (hiff.2 haccepts))⟩
  · exact .inr ⟨haccepts, hcheck.trans (if_neg fun h => haccepts (hiff.1 h))⟩

theorem check_of_no_text (hany : p.allowAny = false) (h : r.headerText? "origin" = none) :
    p.check r = if p.requireOrigin then .error .missingOrigin else .ok () := by
  simp only [check, hany, h, Bool.false_eq_true, if_false]

theorem requireOrigin_of_no_text (hany : p.allowAny = false) (h : r.headerText? "origin" = none)
    (hpasses : p.check r = .ok ()) : p.requireOrigin = false := by
  rw [check_of_no_text hany h] at hpasses
  by_cases hrequired : p.requireOrigin = true
  · rw [if_pos hrequired] at hpasses
    cases hpasses
  · exact Bool.eq_false_iff.2 hrequired

/-- **The check fails closed exactly on requests whose origin is readable, and on all requests when an origin is
demanded.**  A value with any other byte than printable ASCII and tabs passes unseen. -/
theorem failsClosed_iff_readable (hany : p.allowAny = false) :
    p.FailsClosed r ↔
      p.requireOrigin = true ∨ ∀ value, r.header? "origin" = some value → value.bytes.all HeaderValue.isReadable = true := by
  constructor
  · intro hclosed
    by_cases hrequired : p.requireOrigin = true
    · exact .inl hrequired
    refine .inr fun value hvalue => Classical.byContradiction fun hunreadable => ?_
    have htext : value.text? = none := HeaderValue.text?_eq_none_iff.2 (Bool.eq_false_iff.2 hunreadable)
    have hnone : r.headerText? "origin" = none := (HttpRequest.headerText?_of_header? hvalue).trans htext
    have hpasses : p.check r = .ok () := (check_of_no_text hany hnone).trans (if_neg hrequired)
    obtain ⟨origin, horigin, -⟩ := hclosed.reported value hvalue hpasses
    rw [htext] at horigin
    cases horigin
  · intro h
    refine ⟨fun value hvalue hpasses => ?_, fun hnone hpasses => ?_⟩
    · have htext := HttpRequest.headerText?_of_header? hvalue
      cases horigin : value.text? with
      | some origin =>
        rcases check_of_text hany (htext.trans horigin) with ⟨haccepts, -⟩ | ⟨-, herror⟩
        · exact ⟨origin, rfl, haccepts⟩
        · rw [herror] at hpasses
          cases hpasses
      | none =>
        -- an unreadable value passes only where no origin is demanded
        have hoptional := requireOrigin_of_no_text hany (htext.trans horigin) hpasses
        have hreadable := h.resolve_left (Bool.eq_false_iff.1 hoptional) value hvalue
        rw [HeaderValue.text?_eq_none_iff, hreadable] at horigin
        cases horigin
    · exact requireOrigin_of_no_text hany (HttpRequest.headerText?_of_header?_eq_none hnone) hpasses

/-- A request to a chat server from a page of the site. -/
def requestFrom (origin : String) : HttpRequest :=
  { headers := [("Host", .ofText "chat.example.com"), ("Origin", .ofText origin)] }

theorem failsClosed_iff_readable_foreign :
    ({ allowed := ["https://app.example"] } : OriginPolicy).allowAny = false ∧
      ({ allowed := ["https://app.example"] } : OriginPolicy).FailsClosed (requestFrom "https://evil.com") := by
  refine ⟨rfl, (failsClosed_iff_readable rfl).2 (.inr fun value hvalue => ?_)⟩
  obtain rfl : HeaderValue.ofText "https://evil.com" = value := Option.some.inj hvalue
  decide +kernel

/-- The default policy lets a page of another site pass, if the name of that site is not written in ASCII. -/
theorem not_failsClosed_unreadable :
    ({} : OriginPolicy).check (requestFrom "https://évil.com") = .ok () ∧
      ¬ ({} : OriginPolicy).FailsClosed (requestFrom "https://évil.com") := by
  have hunreadable : (HeaderValue.ofText "https://évil.com").text? = none := by decide +kernel
  have hnone : (requestFrom "https://évil.com").headerText? "origin" = none := hunreadable
  have hpasses : ({} : OriginPolicy).check (requestFrom "https://évil.com") = .ok () :=
    (check_of_no_text rfl hnone).trans (if_neg Bool.false_ne_true)
  refine ⟨hpasses, fun hclosed => ?_⟩
  obtain ⟨origin, htext, -⟩ := hclosed.reported _ rfl hpasses
  rw [hunreadable] at htext
  cases htext

end OriginPolicy
end BrokerGuard
