import TrustAnchor.Proofs.Counts
import TrustAnchor.Proofs.Issuance
import TrustAnchor.Rotation.Reconcile

/-! Settings that are accepted, and what they can be relied on for. A new authority has all of the
validity that was asked for, no write is tried more often than was allowed, and the next look at the
authority comes neither at once nor too late. -/

namespace TrustAnchor

/-! ## What is accepted -/

namespace Settings

/-- The text has a character other than white space. -/
def Named (text : String) : Prop := ∃ c ∈ text.toList, ¬ Text.isBlank c

theorem not_named_iff {text : String} : ¬ Named text ↔ Text.allBlank text := by
  simp [Named, Text.allBlank]

instance (text : String) : Decidable (Named text) :=
  inferInstanceAs (Decidable (∃ c ∈ text.toList, ¬ Text.isBlank c))

/-- The controller can run with the settings. -/
structure Sound (s : Settings) : Prop where
  namespaceName : Named s.namespaceName
  caSecret : Named s.caSecret
  leafSecret : Named s.leafSecret
  mutatingConfiguration : Named s.mutatingConfiguration
  validatingConfiguration : Named s.validatingConfiguration
  commonName : Named s.commonName
  secrets : s.caSecret ≠ s.leafSecret
  validity : 1 ≤ s.validityDays ∧ s.validityDays ≤ 36500
  attempts : 1 ≤ s.conflictAttempts
  requeue : 1 ≤ s.maxRequeueSeconds

/-- A condition on settings, with the complaint if it does not hold. -/
structure Check where
  complaint : String
  Holds : Prop
  [decidable : Decidable Holds]

attribute [instance] Check.decidable

namespace Check

variable {check : Check} {checks : List Check}

theorem find?_broken (h : ¬ check.Holds) : (check :: checks).find? (¬ ·.Holds) = some check :=
  List.find?_cons_of_pos (decide_eq_true h)

theorem find?_kept (h : check.Holds) :
    (check :: checks).find? (¬ ·.Holds) = checks.find? (¬ ·.Holds) :=
  List.find?_cons_of_neg (by simpa using h)

/-- The condition on a name, which comes with its flag. -/
def named (name : String × String) : Check := ⟨name.1 ++ " must not be empty", Named name.2⟩

theorem find?_named {names : List (String × String)} :
    (names.map named).find? (¬ ·.Holds) =
      (names.find? fun (_, value) => Text.allBlank value).map named := by
  induction names with
  | nil => rfl
  | cons name names ih =>
    obtain ⟨flag, value⟩ := name
    rw [List.map_cons]
    by_cases h : Named value
    · rw [find?_kept h, ih, List.find?_cons_of_neg (by exact mt not_named_iff.2 (not_not.2 h))]
    · rw [find?_broken h, List.find?_cons_of_pos (by exact not_named_iff.1 h)]
      rfl

end Check

/-- The conditions on the names that must not be blank. -/
def nameChecks (s : Settings) : List Check :=
  [⟨"--namespace must not be empty", Named s.namespaceName⟩,
    ⟨"--ca-secret-name must not be empty", Named s.caSecret⟩,
    ⟨"--tls-secret-name must not be empty", Named s.leafSecret⟩,
    ⟨"--mutating-webhook-configuration must not be empty", Named s.mutatingConfiguration⟩,
    ⟨"--validating-webhook-configuration must not be empty", Named s.validatingConfiguration⟩,
    ⟨"--ca-common-name must not be empty", Named s.commonName⟩]

/-- The conditions on secrets and numbers. -/
def limitChecks (s : Settings) : List Check :=
  [⟨"--ca-secret-name and --tls-secret-name must differ", s.caSecret ≠ s.leafSecret⟩,
    ⟨"--ca-validity-days must be at least 1", 1 ≤ s.validityDays⟩,
    ⟨"--ca-validity-days must be at most 36500", s.validityDays ≤ 36500⟩,
    ⟨"--conflict-retry-attempts must be at least 1", 1 ≤ s.conflictAttempts⟩,
    ⟨"--max-requeue-secs must be at least 1", 1 ≤ s.maxRequeueSeconds⟩]

/-- All conditions, in the order in which they are checked. -/
def checks (s : Settings) : List Check := s.nameChecks ++ s.limitChecks

variable {s : Settings}

theorem sound_iff : s.Sound ↔ ∀ check ∈ s.checks, check.Holds := by
  simp only [checks, nameChecks, limitChecks, List.cons_append, List.nil_append,
    List.forall_mem_cons, List.not_mem_nil, false_implies, implies_true, and_true]
  refine ⟨?_, ?_⟩
  · rintro ⟨h₁, h₂, h₃, h₄, h₅, h₆, h₇, ⟨h₈, h₉⟩, h₁₀, h₁₁⟩
    exact ⟨h₁, h₂, h₃, h₄, h₅, h₆, h₇, h₈, h₉, h₁₀, h₁₁⟩
  · rintro ⟨h₁, h₂, h₃, h₄, h₅, h₆, h₇, h₈, h₉, h₁₀, h₁₁⟩
    exact ⟨h₁, h₂, h₃, h₄, h₅, h₆, h₇, ⟨h₈, h₉⟩, h₁₀, h₁₁⟩

theorem maxValidity_lt_iff : maxValidity.nanos < s.validity.nanos ↔ 36500 < s.validityDays := by
  simp only [maxValidity, validity, Duration.ofSeconds, Duration.perSecond]
  omega

/-- What is refused is refused for the first condition that does not hold. -/
theorem validate_eq (s : Settings) : s.validate =
    match s.checks.find? (¬ ·.Holds) with
    | some check => .error (.invalid check.complaint)
    | none => .ok () := by
  have hnames : s.nameChecks = s.names.map Check.named := rfl
  rw [checks, hnames, List.find?_append, Check.find?_named, validate, fault?]
  cases s.names.find? fun (_, value) => Text.allBlank value with
  | some name => rfl
  | none =>
    rw [Option.map_none, Option.none_or, limitChecks]
    dsimp only
    by_cases hsecrets : s.caSecret = s.leafSecret
    · rw [if_pos hsecrets, Check.find?_broken (not_not.2 hsecrets)]
      rfl
    rw [if_neg hsecrets, Check.find?_kept hsecrets]
    by_cases hdays : s.validityDays = 0
    · rw [if_pos hdays, Check.find?_broken (show ¬ 1 ≤ s.validityDays by omega)]
      rfl
    rw [if_neg hdays, Check.find?_kept (show 1 ≤ s.validityDays by omega)]
    by_cases hlong : 36500 < s.validityDays
    · rw [if_pos (maxValidity_lt_iff.2 hlong), Check.find?_broken (not_le.2 hlong)]
      rfl
    rw [if_neg (mt maxValidity_lt_iff.1 hlong), Check.find?_kept (not_lt.1 hlong)]
    by_cases hattempts : s.conflictAttempts = 0
    · rw [if_pos hattempts, Check.find?_broken (show ¬ 1 ≤ s.conflictAttempts by omega)]
      rfl
    rw [if_neg hattempts, Check.find?_kept (show 1 ≤ s.conflictAttempts by omega)]
    by_cases hrequeue : s.maxRequeueSeconds = 0
    · rw [if_pos hrequeue, Check.find?_broken (show ¬ 1 ≤ s.maxRequeueSeconds by omega)]
      rfl
    · rw [if_neg hrequeue, Check.find?_kept (show 1 ≤ s.maxRequeueSeconds by omega)]
      rfl

/-- Of these conditions this is the first one that does not hold. -/
def FirstBroken (checks : List Check) (check : Check) : Prop :=
  ∃ kept rest, checks = kept ++ check :: rest ∧ (∀ c ∈ kept, c.Holds) ∧ ¬ check.Holds

theorem find?_eq_some_iff {checks : List Check} {check : Check} :
    checks.find? (¬ ·.Holds) = some check ↔ FirstBroken checks check := by
  rw [List.find?_eq_some_iff_append]
  refine ⟨?_, ?_⟩
  · rintro ⟨hbroken, kept, rest, rfl, hkept⟩
    exact ⟨kept, rest, rfl, by simpa using hkept, by simpa using hbroken⟩
  · rintro ⟨kept, rest, rfl, hkept, hbroken⟩
    exact ⟨decide_eq_true hbroken, kept, rest, rfl, by simpa using hkept⟩

theorem find?_eq_none_iff {checks : List Check} :
    checks.find? (¬ ·.Holds) = none ↔ ∀ check ∈ checks, check.Holds := by
  simp

theorem validate_ok_iff : s.validate = .ok () ↔ s.Sound := by
  rw [validate_eq, sound_iff, ← find?_eq_none_iff]
  cases s.checks.find? (¬ ·.Holds) with
  | some check => exact ⟨nofun, nofun⟩
  | none => exact ⟨fun _ => rfl, fun _ => rfl⟩

/-- Settings that are refused are refused for the first condition that does not hold. -/
theorem validate_error (h : ¬ s.Sound) :
    ∃ check, FirstBroken s.checks check ∧ s.validate = .error (.invalid check.complaint) := by
  cases hfind : s.checks.find? (¬ ·.Holds) with
  | some check =>
    refine ⟨check, find?_eq_some_iff.1 hfind, ?_⟩
    rw [validate_eq, hfind]
  | none => exact absurd (sound_iff.2 (find?_eq_none_iff.1 hfind)) h

end Settings

/-! ## When to look again -/

theorem Authority.remaining_pos {a : Authority} {now : Instant} {d : Duration}
    (h : a.remaining now = .ok d) : 0 < d.nanos := by
  rw [remaining, Instant.since?] at h
  split at h
  · rename_i d' hsince
    cases h
    split at hsince
    · cases hsince
      dsimp only
      omega
    · cases hsince
  · cases h

theorem Duration.nanos_smaller (d e : Duration) : (d.smaller e).nanos = min d.nanos e.nanos := by
  rw [smaller]
  split <;> omega

namespace Script

variable {α β : Type} {P : α → Prop} {Q : β → Prop} {x : Attempt α} {g : α → Attempt β}

/-- Every good result is as `Q` says, whatever the answers were. -/
def Gives (Q : α → Prop) (x : Attempt α) : Prop :=
  ∀ ⦃es a⦄, x.run.Trace es (.ok (.ok a)) → Q a

namespace Gives

theorem any : Gives (fun _ => True) x := fun _ _ _ => trivial

theorem done {a : α} (h : P a) : Gives P (pure a) := by
  rintro es b ⟨-, hb⟩
  cases hb
  exact h

theorem ofExcept {result : Except Error α} :
    Gives (fun a => result = .ok a) (ofExcept result) := by
  rintro es a H
  cases result with
  | ok b =>
    cases H.2
    rfl
  | error e => cases H.2

theorem bind (H : Gives P x) (K : ∀ a, P a → Gives Q (g a)) : Gives Q (x >>= g) := by
  intro es b htrace
  obtain ⟨a, first, rest, -, hx, hg⟩ := htrace.attempt_ok
  exact K a (H hx) hg

end Gives

end Script

namespace Rotation

open Script (Attempt Gives)

variable {horizon : Nat} {c : Controller} {now : Instant} {found : Option Authority}

theorem generate_gives : Gives (fun made => 0 < made.2.nanos) (generate now) := by
  refine .bind .any fun answer _ => .bind .any fun a _ => ?_
  exact .bind .ofExcept fun d hd => .done (Authority.remaining_pos (mapError_eq_ok_iff.1 hd))

/-- An authority is chosen only if it has time left. -/
theorem choose_gives : Gives (fun chosen => 0 < chosen.2.2.nanos) (choose found now) := by
  rw [choose]
  split
  · rename_i hkeep
    exact .done (Authority.remaining_pos (Decision.at_keep hkeep).2)
  · exact .bind generate_gives fun _ hpos => .done hpos

theorem pass_gives : Gives (fun report => 0 < report.requeueAfter.nanos) (pass horizon c) := by
  rw [pass_eq]
  refine .bind .any fun now _ => .bind .any fun found _ => ?_
  refine .bind choose_gives fun _ hpos => ?_
  refine .bind .any fun _ _ => .bind .any fun _ _ => .bind .any fun _ _ => .done hpos

/-- After a good pass the next look comes in time, but not at once. -/
theorem reconcile_gives {changed : Secret} (hchanged : Resource.anyName changed = c.caSecret)
    (hmax : 0 < c.maxRequeue.nanos) :
    Gives (fun wake => ∃ d, wake = .after d ∧ 0 < d.nanos ∧ d.nanos ≤ c.maxRequeue.nanos)
      (reconcile horizon c changed) := by
  rw [reconcile, if_neg (not_not.2 hchanged)]
  refine .bind pass_gives fun report hpos => .done ⟨_, rfl, ?_⟩
  rw [Duration.nanos_smaller]
  exact ⟨lt_min hpos hmax, min_le_right _ _⟩

end Rotation

/-! ## Accepted settings -/

namespace Settings

open Rotation

variable {s : Settings}

/-- What settings can be relied on for. -/
structure Safe (s : Settings) : Prop where
  /-- In universal time, in the years from 1950 to 9899, a new authority has a window. -/
  window : ∀ (i : Issuer) (now : Instant), i.validity = s.validity → now.offset = 0 →
    1950 ≤ now.utcDate.year → now.utcDate.year ≤ 9899 →
    ∃ stop, i.window now = .ok (now.wholeSecond, stop)
  /-- There it is made under any key, and has all of its validity left when it begins. -/
  issue : ∀ (i : Issuer) (now : Instant) (key : Signature.P256.PrivateKey),
    i.validity = s.validity → now.offset = 0 → 1950 ≤ now.utcDate.year →
    now.utcDate.year ≤ 9899 →
    ∃ a, i.issue key now = .ok (.ok a) ∧ a.remaining a.notBefore = .ok s.validity
  /-- Whatever the answers are, a loop makes no more attempts than are allowed. -/
  loops : ∀ {α : Type} (horizon : Nat) (operation : String) (body : Nat → Script (Except Error α))
    (es : List Exchange) (result : Except Stop (Except Error α)),
    (Retry.onConflict horizon (Controller.ofSettings s).schedule operation body).Trace es result →
    ∃ trials inner,
      Retry.Tries (Controller.ofSettings s).schedule Error.isConflict body 0 trials es inner ∧
      result = inner.map (Except.mapError
        (Retry.exhausted (Controller.ofSettings s).schedule operation)) ∧
      trials.length ≤ s.conflictAttempts
  /-- So a pass reads a target no more often than that, nor the secret of the issued certificate;
  and the secret of the authority at most once more. -/
  reads : ∀ (horizon : Nat) (es : List Exchange) (result : Except Stop (Except Error PassReport)),
    (pass horizon (Controller.ofSettings s)).run.Trace es result →
    (∀ t ∈ (Controller.ofSettings s).targets,
      es.countP (Exchange.reads (.webhook t.kind) t.name) ≤ s.conflictAttempts) ∧
    es.countP (Exchange.reads .secret s.leafSecret) ≤ s.conflictAttempts ∧
    es.countP (Exchange.reads .secret s.caSecret) ≤ 1 + s.conflictAttempts
  /-- After a good pass that the secret of the authority has given rise to, the next look comes in
  time, but not at once. -/
  wakes : ∀ (horizon : Nat) (changed : Secret) (es : List Exchange) (wake : Wake),
    Resource.anyName changed = s.caSecret →
    (reconcile horizon (Controller.ofSettings s) changed).run.Trace es (.ok (.ok wake)) →
    ∃ d, wake = .after d ∧ 0 < d.nanos ∧ d.nanos ≤ s.maxRequeue.nanos

theorem Sound.schedule (H : s.Sound) : (Controller.ofSettings s).schedule.maxAttempts ≠ 0 :=
  Nat.ne_of_gt H.attempts

theorem Sound.validity_pos (H : s.Sound) : 0 < s.validity.nanos := by
  have := H.validity.1
  show 0 < s.validityDays * 86400 * Duration.perSecond
  rw [Duration.perSecond]
  omega

theorem Sound.validity_le (H : s.Sound) : s.validity.nanos ≤ maxValidity.nanos :=
  not_lt.1 (mt maxValidity_lt_iff.1 (not_lt.2 H.validity.2))

theorem Sound.reads (H : s.Sound) {horizon : Nat} {es : List Exchange}
    {result : Except Stop (Except Error PassReport)}
    (htrace : (pass horizon (Controller.ofSettings s)).run.Trace es result) :
    (∀ t ∈ (Controller.ofSettings s).targets,
      es.countP (Exchange.reads (.webhook t.kind) t.name) ≤ s.conflictAttempts) ∧
    es.countP (Exchange.reads .secret s.leafSecret) ≤ s.conflictAttempts ∧
    es.countP (Exchange.reads .secret s.caSecret) ≤ 1 + s.conflictAttempts := by
  have hsecrets := H.secrets
  have hcount (k : Kind) (name : String) : es.countP (Exchange.reads k name) ≤ _ :=
    pass_atMost H.schedule htrace
  simp only [Controller.ofSettings, Settings.schedule, List.map_cons, List.map_nil, List.sum_cons,
    List.sum_nil] at hcount
  refine ⟨fun t ht => ?_, ?_, ?_⟩
  · refine (hcount _ _).trans ?_
    simp only [Controller.ofSettings, List.mem_cons, List.not_mem_nil, or_false] at ht
    rcases ht with rfl | rfl <;> simp
  · refine (hcount _ _).trans ?_
    simp [hsecrets]
  · refine (hcount _ _).trans ?_
    simp [hsecrets.symm]

theorem Sound.safe (H : s.Sound) : s.Safe where
  window i now hvalidity hutc hfirst hlast := by
    obtain ⟨stop, hwindow, -⟩ := Issuer.window_ok hutc hlast (hvalidity ▸ H.validity_le)
    exact ⟨stop, hwindow⟩
  issue i now key hvalidity hutc hfirst hlast := by
    rw [← hvalidity]
    obtain ⟨a, hissue, -, hremaining⟩ := Issuer.issue_ok hutc hfirst hlast
      (hvalidity ▸ H.validity_pos) (hvalidity ▸ H.validity_le) key
    exact ⟨a, hissue, hremaining⟩
  loops horizon operation body es result htrace := by
    obtain ⟨trials, inner, htries, hresult⟩ := Retry.onConflict_tries htrace
    have hlength := htries.length_le (Nat.pos_of_ne_zero H.schedule)
    rw [Nat.zero_add] at hlength
    exact ⟨trials, inner, htries, hresult, hlength⟩
  reads horizon es result htrace := H.reads htrace
  wakes horizon changed es wake hchanged htrace := by
    refine reconcile_gives hchanged ?_ htrace
    have := H.requeue
    show 0 < s.maxRequeueSeconds * Duration.perSecond
    rw [Duration.perSecond]
    omega

/-- Settings are accepted just if the controller can run with them, and otherwise refused for the
first condition that does not hold; and with all settings that are accepted it is safe to run. -/
theorem validate_safe (s : Settings) :
    (s.validate = .ok () ↔ s.Sound) ∧
      (¬ s.Sound → ∃ check, FirstBroken s.checks check ∧
        s.validate = .error (.invalid check.complaint)) ∧
      (s.validate = .ok () → s.Safe) :=
  ⟨validate_ok_iff, validate_error, fun h => (validate_ok_iff.1 h).safe⟩

/-- The settings without any choice are accepted; those that ask for a day too many are not. -/
theorem validate_safe_default :
    (({} : Settings).validate = .ok () ∧ ({} : Settings).Safe) ∧
      ∃ check, FirstBroken (checks { validityDays := 36501, maxRequeueSeconds := 0 }) check ∧
        validate { validityDays := 36501, maxRequeueSeconds := 0 } =
          .error (.invalid check.complaint) := by
  have hfault : ({} : Settings).fault? = none := by decide +kernel
  have hdefault : ({} : Settings).validate = .ok () := by rw [validate, hfault]
  refine ⟨⟨hdefault, (validate_safe {}).2.2 hdefault⟩, (validate_safe _).2.1 fun H => ?_⟩
  exact absurd H.validity.2 (by decide)

end Settings

end TrustAnchor
