import AlertService.Token.Service

/-!
# Tokens can be issued

Lifetimes are bounded, so that all that lies a lifetime after a time of the years 1970 to 9999 is
far from the end of the calendar.

* `IsCurrent.canIssue`: lifetimes can be added to such a time.
* `CanIssue.sessionExpiry_ne_none`, `CanIssue.issuePair_ne_none`: then a session and its tokens can
  be had.
-/

namespace AlertService

/-- Four hundred years are 146097 days, whatever the year begins with. -/
theorem Date.year_ofDays (days : Int) :
    400 * ((days + 719468) / 146097) ≤ (Date.ofDays days).year ∧
      (Date.ofDays days).year ≤ 400 * ((days + 719468) / 146097) + 401 := by
  unfold Date.ofDays
  dsimp only
  split <;> split <;> omega

/-- The clock shows a time of the years 1970 to 9999. -/
structure Instant.IsCurrent (now : Instant) : Prop where
  since : 0 ≤ now.seconds
  upTo : now.date.year ≤ 9999

theorem TokenService.lifetime_le (service : TokenService) (kind : TokenKind) :
    service.lifetime kind ≤ maxLifetime := by
  cases kind with
  | access => exact service.access_le
  | refresh => exact service.refresh_le

namespace TokenService

variable {service : TokenService} {now : Instant}

/-- No lifetime leads from the time to beyond the end of the calendar. -/
def CanIssue (service : TokenService) (now : Instant) : Prop :=
  ∀ kind, now.add? (service.lifetime kind) ≠ none

theorem CanIssue.sessionExpiry_ne_none (h : service.CanIssue now) :
    service.sessionExpiry now ≠ none := by
  simpa [sessionExpiry, lifetime] using h .refresh

theorem CanIssue.issue_ne_none (h : service.CanIssue now) (user session : Uuid)
    (kind : TokenKind) : service.issue now user session kind ≠ none := by
  simpa [issue, claims] using h kind

theorem CanIssue.issuePair_ne_none (h : service.CanIssue now) (user session : Uuid) :
    service.issuePair now user session ≠ none := by
  obtain ⟨access, ha⟩ := Option.ne_none_iff_exists'.mp (h.issue_ne_none user session .access)
  obtain ⟨refresh, hr⟩ := Option.ne_none_iff_exists'.mp (h.issue_ne_none user session .refresh)
  simp [issuePair, ha, hr]

end TokenService

namespace Instant.IsCurrent

variable {now : Instant} (h : now.IsCurrent)

include h

theorem add?_eq_some {lifetime : Nat} (hl : lifetime ≤ maxLifetime) :
    now.add? lifetime = some ⟨now.seconds + lifetime, now.nanos⟩ := by
  obtain ⟨hsince, hupTo⟩ := h
  have hnow := (Date.year_ofDays (now.seconds / Instant.secondsPerDay)).1
  have hlater := Date.year_ofDays ((now.seconds + lifetime) / Instant.secondsPerDay)
  unfold Instant.date at hupTo
  have hrange : Date.inRange
      (Date.ofDays ((now.seconds + lifetime) / Instant.secondsPerDay)).year = true := by
    simp only [Date.inRange, Bool.and_eq_true, decide_eq_true_eq]
    simp only [Instant.secondsPerDay, maxLifetime] at *
    omega
  exact if_pos hrange

theorem canIssue (service : TokenService) : service.CanIssue now := by
  intro kind
  simp [h.add?_eq_some (service.lifetime_le kind)]

end Instant.IsCurrent

end AlertService
