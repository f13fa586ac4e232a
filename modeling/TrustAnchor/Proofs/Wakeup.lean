import TrustAnchor.Proofs.Acceptance
import TrustAnchor.Proofs.Expiry
import TrustAnchor.Proofs.Performance

/-! When to look again. A change of another secret asks for nothing. A change of the secret of the
authority makes a pass, in which the change itself is not looked at; and after the pass the next look
is due just when the authority expires, or by less than a second later if it is new. -/

namespace TrustAnchor

open Script (Attempt)

theorem Duration.smaller_eq (d e : Duration) : d.smaller e = ⟨min d.nanos e.nanos⟩ :=
  congrArg Duration.mk (nanos_smaller d e)

namespace Script

variable {α β : Type} {x : Attempt α} {es : List Exchange}

/-- What becomes of a good result changes neither what is asked nor how it fails. -/
theorem attempt_map_trace (g : α → β) (result : Except Stop (Except Error β)) :
    (x >>= fun a => pure (g a)).run.Trace es result ↔
      ∃ inner, x.run.Trace es inner ∧ result = inner.map (Except.map g) := by
  have hrun : (x >>= fun a => pure (g a)).run = x.run >>= fun answer => .done (answer.map g) := by
    rw [ExceptT.run_bind]
    refine congrArg _ (funext fun answer => ?_)
    cases answer <;> rfl
  rw [hrun]
  refine ⟨Trace.map, ?_⟩
  rintro ⟨inner, H, rfl⟩
  exact H.mapped _

theorem Trace.attempt_seq {g : α → Attempt β} {a : α} {rest : List Exchange}
    {result : Except Stop (Except Error β)} (H : x.run.Trace es (.ok (.ok a)))
    (K : (g a).run.Trace rest result) : (x >>= g).run.Trace (es ++ rest) result := by
  rw [ExceptT.run_bind]
  exact H.seq K

theorem request_trace {r : Request} {answer : r.Answer}
    (H : (request r).Trace es (.ok answer)) : es = [⟨r, .ok answer⟩] := by
  obtain ⟨heard, rest, rfl, hheard⟩ := H
  cases heard with
  | error text => cases hheard.2
  | ok answer' =>
    obtain ⟨rfl, hsame⟩ := hheard
    cases hsame
    rfl

theorem lift_trace {r : Request} {answer : r.Answer}
    (H : (liftM (request r) : Attempt r.Answer).run.Trace es (.ok (.ok answer))) :
    es = [⟨r, .ok answer⟩] := by
  rcases Trace.bind H with ⟨why, hwhy, -⟩ | ⟨answer', first, rest, rfl, hrequest, rfl, hsame⟩
  · cases hwhy
  · cases hsame
    rw [List.append_nil]
    exact request_trace hrequest

theorem ofExcept_trace {result : Except Error α} {a : α}
    (H : (ofExcept result : Attempt α).run.Trace es (.ok (.ok a))) : es = [] ∧ result = .ok a := by
  cases result with
  | ok b =>
    obtain ⟨hes, hresult⟩ := H
    cases hresult
    exact ⟨hes, rfl⟩
  | error e => cases H.2

end Script

namespace Rotation

variable {horizon : Nat} {c : Controller} {now : Instant} {found : Option Authority} {a : Authority}
  {name : String} {validity : Duration} {report : PassReport} {es : List Exchange}
  {reader : Authority.Reader}

/-! ## What the steps of a good pass have asked -/

/-- The exchange in which the clock is read. -/
def readClock (now : Instant) : Exchange := ⟨.now, .ok now⟩

/-- The exchange in which a secret is read. -/
def readSecret (name : String) (x : Option Secret) : Exchange :=
  ⟨.store .secret (.get name), .ok (.ok x)⟩

/-- The exchange in which a new authority is made. -/
def made (now : Instant) (a : Authority) : Exchange := ⟨.generate now, .ok (.ok a)⟩

theorem load_trace (H : (load name reader).run.Trace es (.ok (.ok found))) :
    ∃ x : Option Secret, es = [readSecret name x] ∧
      Authority.ofEntries (x.bind Secret.data) reader = .ok found := by
  obtain ⟨x, first, rest, rfl, hget, hentries⟩ := H.attempt_ok
  rw [Script.request_trace hget]
  cases x with
  | none =>
    obtain ⟨rfl, hfound⟩ := hentries
    cases hfound
    exact ⟨none, rfl, rfl⟩
  | some secret =>
    obtain ⟨rfl, hread⟩ := Script.ofExcept_trace hentries
    exact ⟨some secret, rfl, mapError_eq_ok_iff.1 hread⟩

theorem generate_trace (H : (generate now).run.Trace es (.ok (.ok (a, validity)))) :
    es = [made now a] ∧ a.remaining a.notBefore = .ok validity := by
  obtain ⟨answer, first, rest, rfl, hanswer, H₁⟩ := H.attempt_ok
  obtain ⟨b, _, rest₁, rfl, hb, H₂⟩ := H₁.attempt_ok
  obtain ⟨d, _, rest₂, rfl, hd, rfl, hresult⟩ := H₂.attempt_ok
  obtain ⟨rfl, hmade⟩ := Script.ofExcept_trace hb
  obtain ⟨rfl, hremaining⟩ := Script.ofExcept_trace hd
  cases hresult
  rw [Script.lift_trace hanswer, mapError_eq_ok_iff.1 hmade]
  exact ⟨rfl, mapError_eq_ok_iff.1 hremaining⟩

theorem choose_trace {regenerated : Option RegenerateReason}
    (H : (choose found now).run.Trace es (.ok (.ok (a, regenerated, validity)))) :
    Decision.at found now = .keep a validity ∧ regenerated = none ∧ es = [] ∨
      regenerated ≠ none ∧ es = [made now a] ∧ a.remaining a.notBefore = .ok validity := by
  rw [choose] at H
  split at H
  · rename_i hkeep
    obtain ⟨rfl, hresult⟩ := H
    cases hresult
    exact .inl ⟨hkeep, rfl, rfl⟩
  · obtain ⟨⟨b, d⟩, first, rest, rfl, hgenerate, hrest⟩ := H.attempt_ok
    obtain ⟨rfl, hresult⟩ := hrest
    cases hresult
    obtain ⟨rfl, hremaining⟩ := generate_trace hgenerate
    exact .inr ⟨Option.some_ne_none _, rfl, hremaining⟩

/-- How a good pass has begun, and how long it will be until the next look: either the authority that
was found stored is kept, or a new one was made. -/
structure Begins (c : Controller) (es : List Exchange) (now : Instant) (a : Authority)
    (report : PassReport) : Prop where
  kept : report.regenerated = none → ∃ x rest, es = readClock now :: readSecret c.caSecret x :: rest ∧
    Authority.ofEntries (x.bind Secret.data) c.reader = .ok (some a) ∧
    now.nanos + report.requeueAfter.nanos = a.notAfter.nanos
  new : report.regenerated ≠ none → ∃ x rest,
    es = readClock now :: readSecret c.caSecret x :: made now a :: rest ∧
    (report.requeueAfter.nanos : Int) = a.notAfter.nanos - a.notBefore.nanos

theorem pass_begins (H : (pass horizon c).run.Trace es (.ok (.ok report))) :
    ∃ now a, Begins c es now a report := by
  rw [pass_eq] at H
  obtain ⟨now, _, rest₁, rfl, hnow, H₁⟩ := H.attempt_ok
  obtain ⟨found, _, rest₂, rfl, hload, H₂⟩ := H₁.attempt_ok
  obtain ⟨⟨a, regenerated, requeueAfter⟩, _, rest₃, rfl, hchoose, H₃⟩ := H₂.attempt_ok
  obtain ⟨propagated, _, rest₄, rfl, -, H₄⟩ := H₃.attempt_ok
  obtain ⟨persistence, _, rest₅, rfl, -, H₅⟩ := H₄.attempt_ok
  obtain ⟨leaf, _, rest₆, rfl, -, -, hreport⟩ := H₅.attempt_ok
  cases hreport
  obtain rfl := Script.lift_trace hnow
  obtain ⟨x, rfl, hentries⟩ := load_trace hload
  refine ⟨now, a, ?_⟩
  rcases choose_trace hchoose with ⟨hkeep, rfl, rfl⟩ | ⟨hnew, rfl, hremaining⟩
  · refine ⟨fun _ => ⟨x, _, rfl, ?_, ?_⟩, fun h => absurd rfl h⟩
    · obtain ⟨rfl, -⟩ := Decision.at_keep hkeep
      exact hentries
    · have hexact := Authority.nanos_of_remaining (Decision.at_keep hkeep).2
      dsimp only
      omega
  · exact ⟨fun h => absurd h hnew, fun _ => ⟨x, _, rfl, Authority.nanos_of_remaining hremaining⟩⟩

end Rotation

/-- Measured from its first whole second, the end of an authority that has just been issued seems to be
later by the fraction of a second that was cut off. -/
theorem Issuer.overshoot {i : Issuer} {key : Signature.P256.PrivateKey} {now : Instant}
    {a : Authority} (h : i.issue key now = .ok (.ok a)) :
    now.nanos + (a.notAfter.nanos - a.notBefore.nanos) = a.notAfter.nanos + now.subsecond := by
  have hnow := now.nanos_eq_add_subsecond
  rw [(issued_exact h).1]
  omega

namespace Rotation

/-- The controller does nothing for a change of another secret. For a change of its own it makes one
pass, whatever else has changed, and is woken after the time that the pass reports, or when it is not
willing to wait any longer. That time is not zero; for an authority that is kept it ends just when the
authority does, and for one that was just issued it is as long as the authority is valid, and ends less
than a second too late, and in time just if the second was whole. -/
theorem wakes_in_time (horizon : Nat) (c : Controller) :
    (∀ changed : Secret, Resource.anyName changed ≠ c.caSecret → ∀ es result,
      (reconcile horizon c changed).run.Trace es result ↔ es = [] ∧ result = .ok (.ok .onChange)) ∧
    (∀ changed : Secret, Resource.anyName changed = c.caSecret → ∀ es result,
      (reconcile horizon c changed).run.Trace es result ↔
        ∃ inner, (pass horizon c).run.Trace es inner ∧ result = inner.map (Except.map fun report =>
          .after ⟨min report.requeueAfter.nanos c.maxRequeue.nanos⟩)) ∧
    ∀ es report, (pass horizon c).run.Trace es (.ok (.ok report)) →
      0 < report.requeueAfter.nanos ∧
      ∃ now a, Begins c es now a report ∧
        (report.regenerated ≠ none → ∀ i key, Issuer.issue i key now = .ok (.ok a) →
          a.notAfter.nanos ≤ now.nanos + report.requeueAfter.nanos ∧
          now.nanos + report.requeueAfter.nanos < a.notAfter.nanos + 1000000000 ∧
          (now.nanos + report.requeueAfter.nanos = a.notAfter.nanos ↔ 1000000000 ∣ now.nanos)) := by
  refine ⟨fun changed hname es result => ?_, fun changed hname es result => ?_,
    fun es report H => ⟨pass_gives H, ?_⟩⟩
  · rw [reconcile, if_pos hname]
    rfl
  · rw [reconcile, if_neg (not_not.2 hname)]
    simp only [Duration.smaller_eq]
    exact Script.attempt_map_trace _ _
  · obtain ⟨now, a, hbegins⟩ := pass_begins H
    refine ⟨now, a, hbegins, fun hnew i key hissue => ?_⟩
    obtain ⟨x, rest, -, hrequeue⟩ := hbegins.new hnew
    have hlate := Issuer.overshoot hissue
    have hless := now.subsecond_lt
    have hwhole : now.subsecond = 0 ↔ 1000000000 ∣ now.nanos := by
      rw [Instant.subsecond]
      omega
    rw [hrequeue, hlate]
    refine ⟨by omega, by omega, ?_⟩
    rw [← hwhole]
    omega

/-- A controller that has to bring its certificates nowhere. -/
def quiet : Controller where
  namespaceName := "default"
  caSecret := "ca"
  leafSecret := "leaf"
  targets := []
  schedule := .onConflict
  maxRequeue := .ofSeconds 60

/-- Three quarters into a second, an authority is made for a minute and a half where there was none.
The next look at it would be due three quarters of a second too late, but it comes after a minute. -/
theorem wakes_in_time_mid_second : ∃ a es report,
    Issuer.issue ⟨"ca", "org", .ofSeconds 90⟩ (.ofNat 1) ⟨750000000, 0⟩ = .ok (.ok a) ∧
    (pass 1 quiet).run.Trace es (.ok (.ok report)) ∧
    750000000 + (report.requeueAfter.nanos : Int) = a.notAfter.nanos + 750000000 ∧
    (reconcile 1 quiet (Resource.named "ca" none)).run.Trace es
      (.ok (.ok (.after (.ofSeconds 60)))) := by
  let i : Issuer := ⟨"ca", "org", .ofSeconds 90⟩
  let now : Instant := ⟨750000000, 0⟩
  obtain ⟨a, hissue, hstart, hremaining⟩ : ∃ a, i.issue (.ofNat 1) now = .ok (.ok a) ∧
      a.notBefore = now.wholeSecond ∧ a.remaining a.notBefore = .ok i.validity :=
    Issuer.issue_ok rfl (by decide) (by decide) (by decide) (by decide) _
  let stored := Secret.holding a (emptySecret "ca" "default")
  let report : PassReport := ⟨i.validity, .created, some .missing, none, []⟩
  have hnow : (liftM (Script.request .now) : Attempt Instant).run.Trace [readClock now]
      (.ok (.ok now)) := ⟨_, _, rfl, rfl, rfl⟩
  have hload : (load "ca").run.Trace [readSecret "ca" none] (.ok (.ok none)) :=
    ⟨_, _, rfl, rfl, rfl⟩
  have hgenerate : (generate now).run.Trace [made now a] (.ok (.ok (a, i.validity))) := by
    refine ⟨_, _, rfl, ?_⟩
    show (ofExcept ((a.remaining a.notBefore).mapError Error.authority) >>= fun validity =>
      pure (a, validity) : Attempt _).run.Trace [] _
    rw [hremaining]
    exact ⟨rfl, rfl⟩
  have hchoose : (choose none now).run.Trace [made now a]
      (.ok (.ok (a, some .missing, i.validity))) := hgenerate.attempt_seq ⟨rfl, rfl⟩
  have hpropagate : (propagate 1 [] a.bundle .onConflict).run.Trace [] (.ok (.ok [])) := ⟨rfl, rfl⟩
  have hpersist : (persist 1 "ca" "default" a .onConflict).run.Trace
      [readSecret "ca" none, ⟨.store .secret (.create stored), .ok (.ok stored)⟩]
      (.ok (.ok .created)) := ⟨_, _, rfl, _, _, rfl, rfl, rfl⟩
  obtain ⟨es, hpass⟩ : ∃ es, (pass 1 quiet).run.Trace es (.ok (.ok report)) := by
    rw [pass_eq]
    exact ⟨_, hnow.attempt_seq (hload.attempt_seq (hchoose.attempt_seq (hpropagate.attempt_seq
      (hpersist.attempt_seq ⟨rfl, rfl⟩))))⟩
  have hafter : a.notAfter.nanos = 90000000000 := by
    rw [(Issuer.issued_exact hissue).2, hstart]
    decide
  have hwake : Duration.ofSeconds 60 = ⟨min report.requeueAfter.nanos quiet.maxRequeue.nanos⟩ := by
    decide
  refine ⟨a, es, report, hissue, hpass, ?_, ?_⟩
  · rw [hafter]
    decide
  · exact ((wakes_in_time 1 quiet).2.1 _ rfl _ _).2
      ⟨_, hpass, congrArg (fun d => Except.ok (Except.ok (Wake.after d))) hwake⟩

end Rotation

end TrustAnchor
