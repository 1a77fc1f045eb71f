import BrokerGuard.Channel.Security
import BrokerGuard.Proofs.Message.Attributes
/-!
# The check of the token

What `ChannelInterceptor.checkToken` answers, by the token that the session of a connecting message holds.
-/
namespace BrokerGuard
namespace ChannelInterceptor

variable {m : Message} {token : CsrfToken}

theorem checkToken_of_type_ne (h : m.type ≠ .connect) : checkToken m = .ok () := if_pos h

theorem checkToken_of_missing (htype : m.type = .connect) (h : sessionToken? m = none) :
    checkToken m = .error .missingCsrfToken := by
  unfold checkToken
  rw [if_neg (not_not_intro htype), h]

theorem checkToken_of_repeats (htype : m.type = .connect) (h : sessionToken? m = some token)
    (hheader : m.firstHeader? token.headerName = some token.value) : checkToken m = .ok () := by
  have haccepts : token.accepts token.value = true := beq_self_eq_true token.value
  unfold checkToken
  rw [if_neg (not_not_intro htype), h]
  simp only [hheader, if_pos haccepts]

theorem checkToken_of_differs (htype : m.type = .connect) (h : sessionToken? m = some token)
    (hheader : m.firstHeader? token.headerName ≠ some token.value) :
    checkToken m = .error (.invalidCsrfToken token.headerName) := by
  unfold checkToken
  rw [if_neg (not_not_intro htype), h]
  cases hvalue : m.firstHeader? token.headerName with
  | none => simp only [hvalue]
  | some value =>
    have hne : ¬ token.accepts value = true := by
      intro haccepts
      apply hheader
      rw [hvalue, eq_of_beq haccepts]
    simp only [hvalue, if_neg hne]

theorem sessionToken?_of_get? {token? : Option CsrfToken}
    (h : m.attributes.get? CsrfToken.attributeName = token?.map CsrfToken.toJson) : sessionToken? m = token? := by
  unfold sessionToken?
  rw [h]
  cases token? with
  | none => rfl
  | some token => exact CsrfToken.ofJson?_toJson token

end ChannelInterceptor
end BrokerGuard
