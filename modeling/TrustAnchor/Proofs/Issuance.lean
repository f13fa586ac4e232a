import TrustAnchor.Authority.Issuer
import TrustAnchor.Proofs.Calendar
import TrustAnchor.Settings

/-! New authorities. In universal time, and as long as years have four digits, a window can be shown
and written, so an authority is made, and it is valid as long as was asked for. -/

namespace TrustAnchor

namespace Instant

/-- Universal time. -/
theorem localSeconds_of_utc {t : Instant} (h : t.offset = 0) : t.localSeconds = t.unixSeconds := by
  rw [localSeconds, h, Int.add_zero]

theorem localDate_of_utc {t : Instant} (h : t.offset = 0) : t.localDate = t.utcDate := by
  rw [localDate, localSeconds_of_utc h, utcDate]

theorem unixSeconds_wholeSecond (t : Instant) : t.wholeSecond.unixSeconds = t.unixSeconds := by
  simp only [wholeSecond, unixSeconds]
  omega

end Instant

theorem Certificate.writeTime_ok {t : Instant} (h : t.offset = 0) (hfirst : 1950 ≤ t.utcDate.year)
    (hlast : t.utcDate.year < 10000) : ∃ encoded, writeTime t = .ok encoded := by
  rw [writeTime, Instant.localDate_of_utc h, if_neg (by omega)]
  split
  · rename_i hshort
    exact ⟨_, rfl⟩
  · rw [if_pos (by omega)]
    exact ⟨_, rfl⟩

private theorem exists_ok_bind {ε α β : Type} {x : Except ε α} {a : α} {f : α → Except ε β}
    (h : x = .ok a) (H : ∃ b, f a = .ok b) : ∃ b, (x >>= f) = .ok b := by
  subst h
  exact H

theorem Certificate.Draft.sign_ok {d : Draft} {key : Signature.P256.PrivateKey}
    {notBefore notAfter : List UInt8} (hbefore : writeTime d.notBefore = .ok notBefore)
    (hafter : writeTime d.notAfter = .ok notAfter) : ∃ encoded, d.sign key = .ok encoded := by
  rw [sign]
  refine exists_ok_bind hbefore (exists_ok_bind hafter ?_)
  extract_lets signed
  obtain ⟨r, s⟩ := key.sign signed
  exact ⟨_, rfl⟩

namespace Date

theorem toDays_9900 : toDays ⟨9900, 1, 1⟩ = 2896373 := by decide

theorem toDays_10000 : toDays ⟨10000, 1, 1⟩ * 86400 = Instant.lastSecond + 1 := by decide

end Date

namespace Issuer

variable {i : Issuer} {now : Instant}

/-- A hundred years before the last year that can be shown, every window can still be shown. -/
theorem window_ok (hutc : now.offset = 0) (hlast : now.utcDate.year ≤ 9899)
    (hvalidity : i.validity.nanos ≤ Settings.maxValidity.nanos) :
    ∃ stop, i.window now = .ok (now.wholeSecond, stop) ∧ stop.offset = 0 ∧
      stop.nanos = now.wholeSecond.nanos + i.validity.nanos ∧
      now.utcDate.year ≤ stop.utcDate.year ∧ stop.utcDate.year < 10000 := by
  have hday : now.unixSeconds / 86400 < 2896373 := by
    rw [← Date.toDays_9900, ← Date.year_lt_iff]
    exact Int.lt_add_one_of_le hlast
  have hmax : Settings.maxValidity.nanos = 3153600000 * 1000000000 := by decide
  have hrange : ¬ Nat.pow 2 63 ≤ i.validity.seconds := by
    have hpow : Nat.pow 2 63 = 9223372036854775808 := by decide
    rw [hpow, Duration.seconds, Duration.perSecond]
    omega
  let stop : Instant := { now.wholeSecond with nanos := now.wholeSecond.nanos + i.validity.nanos }
  have hstop : stop.unixSeconds = now.unixSeconds + i.validity.seconds := by
    simp only [stop, Instant.unixSeconds, Instant.wholeSecond, Duration.seconds, Duration.perSecond]
    omega
  have hseconds : i.validity.seconds ≤ 3153600000 := by
    rw [Duration.seconds, Duration.perSecond]
    omega
  have hshown : stop.localSeconds ≤ Instant.lastSecond := by
    rw [Instant.localSeconds_of_utc (t := stop) hutc, hstop, Instant.lastSecond]
    omega
  refine ⟨stop, ?_, hutc, rfl, ?_, ?_⟩
  · have hafter : now.wholeSecond.after? i.validity = some stop := if_pos hshown
    rw [window, if_neg hrange, hafter]
  · refine Date.year_mono (Int.ediv_le_ediv (by decide) ?_)
    rw [hstop]
    exact Int.le_add_of_nonneg_right (Int.natCast_nonneg _)
  · rw [Instant.utcDate, Date.year_lt_iff]
    rw [Instant.localSeconds_of_utc (t := stop) hutc] at hshown
    have := Date.toDays_10000
    omega

/-- A new authority is valid as long as was asked for. -/
theorem issue_ok (hutc : now.offset = 0) (hfirst : 1950 ≤ now.utcDate.year)
    (hlast : now.utcDate.year ≤ 9899) (hpos : 0 < i.validity.nanos)
    (hvalidity : i.validity.nanos ≤ Settings.maxValidity.nanos)
    (key : Signature.P256.PrivateKey) :
    ∃ a, i.issue key now = .ok (.ok a) ∧ a.notBefore = now.wholeSecond ∧
      a.remaining a.notBefore = .ok i.validity := by
  obtain ⟨stop, hwindow, hoffset, hnanos, hyear, hend⟩ := window_ok hutc hlast hvalidity
  have hdate : now.wholeSecond.utcDate = now.utcDate := by
    rw [Instant.utcDate, Instant.unixSeconds_wholeSecond, Instant.utcDate]
  obtain ⟨notBefore, hbefore⟩ := Certificate.writeTime_ok (t := now.wholeSecond) hutc
    (by rwa [hdate]) (by rw [hdate]; omega)
  obtain ⟨notAfter, hafter⟩ :=
    Certificate.writeTime_ok hoffset (Int.le_trans hfirst hyear) hend
  let draft : Certificate.Draft :=
    { commonName := i.commonName, organization := i.organization,
      notBefore := now.wholeSecond, notAfter := stop }
  obtain ⟨encoded, hsign⟩ : ∃ encoded, draft.sign key = .ok encoded :=
    Certificate.Draft.sign_ok hbefore hafter
  refine ⟨⟨Pem.encode "CERTIFICATE" encoded, Pem.encode "PRIVATE KEY" (PrivateKey.writeP256 key),
    now.wholeSecond, stop⟩, ?_, rfl, ?_⟩
  · rw [issue, hwindow]
    show (draft.sign key >>= fun encoded => _) = _
    rw [hsign]
    rfl
  · have hleft : stop.since? now.wholeSecond = some i.validity := by
      rw [Instant.since?, hnanos, if_pos (by omega), Int.add_comm, Int.add_sub_cancel,
        Int.toNat_natCast]
    rw [Authority.remaining, hleft]

end Issuer

end TrustAnchor
