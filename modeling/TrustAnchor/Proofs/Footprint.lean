import TrustAnchor.Proofs.Spread

/-! What a pass leaves behind wherever it ends, told by what it has asked for: its own writes, and
the authority that it had made. Nothing is written before an authority is settled on, no secret
before every target carries the certificate, and the issued certificate is withdrawn last. -/

namespace TrustAnchor

open Script (Attempt Runs)

/-- How a step can fail. -/
inductive Failure where
  | stop (why : Stop)
  | error (e : Error)

/-- The failure as the result of an attempt. -/
def Failure.result {α : Type} : Failure → Except Stop (Except Error α)
  | .stop why => .error why
  | .error e => .ok (.error e)

theorem Failure.not_wentWell {α : Type} (f : Failure) :
    ¬ Script.WentWell (f.result : Except Stop (Except Error α)) := by
  cases f with
  | stop why => exact Script.not_wentWell_stop why
  | error e => exact Script.not_wentWell_error e

theorem Failure.result_injective {α : Type} :
    Function.Injective (Failure.result : Failure → Except Stop (Except Error α)) := by
  intro f g h
  cases f <;> cases g <;> cases h <;> rfl

/-- A sequence of attempts fails as the first one does, or goes on. -/
theorem Script.Runs.attempt_failure {α β : Type} {R : Scene → Scene → Prop} [IsPreorder Scene R]
    {s t : Scene} {x : Attempt α} {g : α → Attempt β} {result : Except Stop (Except Error β)}
    (H : (x >>= g).run.Runs R s result t) :
    (∃ f : Failure, result = f.result ∧ x.run.Runs R s f.result t) ∨
      ∃ a m, x.run.Runs R s (.ok (.ok a)) m ∧ (g a).run.Runs R m result t := by
  rcases H.attempt with ⟨why, rfl, hx⟩ | ⟨e, rfl, hx⟩ | H
  · exact .inl ⟨.stop why, rfl, hx⟩
  · exact .inl ⟨.error e, rfl, hx⟩
  · exact .inr H

/-- What a past tells of the care for the targets: those that were written, each of which then
carries the bundle, and no write to any secret, not even one that failed. -/
structure History.Tended (bundle : Bytes) (updated : List Target) (past : History) : Prop where
  written : past.written.Perm (updated.map Target.object)
  mends : past.Every (Request.Mends bundle)
  spares : past.Every fun r _ => r.Spares .secret

theorem History.Tended.not_mem_written {bundle : Bytes} {updated : List Target} {past : History}
    {name : String} (H : past.Tended bundle updated) : (Kind.secret, name) ∉ past.written := by
  intro hmem
  obtain ⟨target, -, h⟩ := List.mem_map.1 (H.written.mem_iff.1 hmem)
  cases h

/-- What is written when an authority is stored. -/
def Written.writes (name : String) : Written → List (Kind × String)
  | .created | .updated => [(.secret, name)]
  | .unchanged => []

theorem Written.not_mem_writes {name other : String} (h : other ≠ name) {w : Written} :
    (Kind.secret, other) ∉ w.writes name := by
  cases w with
  | unchanged => exact List.not_mem_nil
  | created | updated => exact fun hmem => h (congrArg Prod.snd (List.mem_singleton.1 hmem))

/-- What is written when a secret is emptied. -/
def LeafChange.writes (name : String) : LeafChange → List (Kind × String)
  | .cleared => [(.secret, name)]
  | .alreadyEmpty | .absent => []

namespace Rotation

open Scene

section Requests

variable {horizon : Nat} {name namespaceName : String} {now : Instant} {a : Authority}
  {schedule : Schedule} {bundle : Bytes} {targets : List Target} {target : Target}
  {reader : Authority.Reader}

theorem not_generates_of_settling {r : Request} {k : Kind} (h : r.Idle ∨ r.On k name) :
    ¬ r.Generates := by
  cases r with
  | generate start => exact fun _ => h.elim id id
  | _ => exact id

theorem now_not_generates :
    (liftM (Script.request .now) : Attempt Instant).run.Asks fun r => ¬ r.Generates :=
  now_asks_of id

theorem load_not_generates : (load name reader).run.Asks fun r => ¬ r.Generates := load_asks_of id

theorem propagate_not_generates :
    (propagate horizon targets bundle schedule).run.Asks fun r => ¬ r.Generates :=
  propagate_public.mono fun _ => Request.Public.not_generates

theorem persist_not_generates :
    (persist horizon name namespaceName a schedule).run.Asks fun r => ¬ r.Generates :=
  persist_concludes.asks.mono fun _ => not_generates_of_settling

theorem withdraw_not_generates {c : Controller} {persistence : Written} :
    (withdraw horizon c persistence).run.Asks fun r => ¬ r.Generates := by
  cases persistence with
  | updated =>
    have hasks : (invalidateLeaf horizon c.leafSecret c.schedule).run.Asks
        fun r => ¬ r.Generates :=
      invalidateLeaf_concludes.asks.mono fun _ => not_generates_of_settling
    exact hasks.attempt fun _ => trivial
  | created => trivial
  | unchanged => trivial

theorem propagate_spares : (propagate horizon targets bundle schedule).run.Asks
    (Request.Spares .secret) := by
  refine propagate_asks.mono fun r hr => ?_
  cases r with
  | store k c => exact fun h => absurd h hr
  | _ => trivial

end Requests

section Phases

variable {R : Scene → Scene → Prop} {horizon : Nat} {c : Controller} {s : Scene}

/-- The pass has found what is stored, and has asked for nothing else. -/
inductive Loaded (R : Scene → Scene → Prop) (c : Controller) (s : Scene)
    (found : Option Authority) : Scene → Prop
  | intro {m t : Scene} :
    (liftM (Script.request .now) : Attempt Instant).run.Runs R s (.ok (.ok s.clock)) m →
    (load c.caSecret c.reader).run.Runs R m (.ok (.ok found)) t →
    t.past.Every (fun r _ => r.ReadsOnly) → t.past.generations = [] → Loaded R c s found t

/-- The pass has settled on an authority. Only if there was none to keep was one made, and then just
one. -/
inductive Chosen (R : Scene → Scene → Prop) (c : Controller) (s : Scene) (a : Authority)
    (d : Duration) : Option RegenerateReason → Scene → Prop
  | kept {found : Option Authority} {m t : Scene} : Loaded R c s found m →
    Decision.at found s.clock = .keep a d → R m t → t.past.Every (fun r _ => r.ReadsOnly) →
    t.past.generations = [] → Chosen R c s a d none t
  | made {found : Option Authority} {reason : RegenerateReason} {m t : Scene} :
    Loaded R c s found m → Decision.at found s.clock = .regenerate reason →
    (generate s.clock).run.Runs R m (.ok (.ok (a, d))) t →
    t.past.Every (fun r _ => r.ReadsOnly) → t.past.generations = [s.clock] →
    Chosen R c s a d (some reason) t

/-- The pass has seen every target carry the certificate. -/
inductive Trusted (R : Scene → Scene → Prop) (horizon : Nat) (c : Controller) (s : Scene)
    (a : Authority) (d : Duration) (regenerated : Option RegenerateReason)
    (outcomes : List TargetOutcome) : Scene → Prop
  | intro {m t : Scene} : Chosen R c s a d regenerated m →
    (propagate horizon c.targets a.bundle c.schedule).run.Runs R m (.ok (.ok outcomes)) t →
    outcomes.map (·.target) = c.targets →
    t.past.Tended a.bundle ((outcomes.filter (·.outcome = .updated)).map (·.target)) →
    (∀ target ∈ c.targets, t.past.LastCall (.webhook target.kind) target.name
      (Request.Shows (.webhook target.kind) (WebhookConfiguration.Trusts a.bundle))) →
    t.past.generations = m.past.generations →
    Trusted R horizon c s a d regenerated outcomes t

/-- Where a pass can end, and what it has done by then. -/
inductive Footprint (R : Scene → Scene → Prop) (horizon : Nat) (c : Controller) (s : Scene) :
    Except Stop (Except Error PassReport) → Scene → Prop
  | unread {f : Failure} {m t : Scene} :
    (liftM (Script.request .now) : Attempt Instant).run.Runs R s (.ok (.ok s.clock)) m →
    (load c.caSecret c.reader).run.Runs R m f.result t →
    t.past.Every (fun r _ => r.ReadsOnly) → t.past.generations = [] →
    Footprint R horizon c s f.result t
  | unmade {f : Failure} {found : Option Authority} {reason : RegenerateReason} {m t : Scene} :
    Loaded R c s found m → Decision.at found s.clock = .regenerate reason →
    (generate s.clock).run.Runs R m f.result t →
    t.past.Every (fun r _ => r.ReadsOnly) → t.past.generations = [s.clock] →
    Footprint R horizon c s f.result t
  | unspread {f : Failure} {a : Authority} {d : Duration} {regenerated : Option RegenerateReason}
    {updated : List Target} {m t : Scene} : Chosen R c s a d regenerated m →
    (propagate horizon c.targets a.bundle c.schedule).run.Runs R m f.result t →
    Spread c.targets f.result updated → t.past.Tended a.bundle updated →
    t.past.generations = m.past.generations → Footprint R horizon c s f.result t
  | unstored {f : Failure} {a : Authority} {d : Duration} {regenerated : Option RegenerateReason}
    {outcomes : List TargetOutcome} {m t : Scene} :
    Trusted R horizon c s a d regenerated outcomes m →
    (persist horizon c.caSecret c.namespaceName a c.schedule).run.Runs R m f.result t →
    t.past.written = m.past.written → t.past.generations = m.past.generations →
    Footprint R horizon c s f.result t
  /-- The failure of this last step is always told as such. -/
  | unwithdrawn {f : Failure} {a : Authority} {d : Duration}
    {regenerated : Option RegenerateReason} {outcomes : List TargetOutcome} {m n t : Scene} :
    Trusted R horizon c s a d regenerated outcomes m →
    (persist horizon c.caSecret c.namespaceName a c.schedule).run.Runs R m (.ok (.ok .updated)) n →
    (withdraw horizon c .updated).run.Runs R n f.result t →
    (∀ e, f = .error e → ∃ cause, e = .cascade c.leafSecret cause) →
    t.past.written = (.secret, c.caSecret) :: m.past.written →
    t.past.generations = m.past.generations → Footprint R horizon c s f.result t
  | good {report : PassReport} {a : Authority} {m n t : Scene} :
    Trusted R horizon c s a report.requeueAfter report.regenerated report.propagated m →
    (persist horizon c.caSecret c.namespaceName a c.schedule).run.Runs R m
      (.ok (.ok report.persistence)) n →
    (withdraw horizon c report.persistence).run.Runs R n (.ok (.ok report.leaf)) t →
    t.past.written = report.leaf.elim [] (·.writes c.leafSecret) ++
      (report.persistence.writes c.caSecret ++ m.past.written) →
    t.past.generations = m.past.generations → Footprint R horizon c s (.ok (.ok report)) t

variable {a : Authority} {d : Duration} {regenerated : Option RegenerateReason}
  {found : Option Authority} {outcomes : List TargetOutcome} {m t : Scene}
  {result : Except Stop (Except Error PassReport)}

theorem Loaded.reads (H : Loaded R c s found m) : m.past.Every fun r _ => r.ReadsOnly := by
  cases H with
  | intro _ _ h _ => exact h

theorem Chosen.reads (H : Chosen R c s a d regenerated m) :
    m.past.Every fun r _ => r.ReadsOnly := by
  cases H with
  | kept _ _ _ h _ => exact h
  | made _ _ _ h _ => exact h

/-- An authority is asked for at most once, and only after a look has shown that there is none to
keep. -/
def AskedOnce (R : Scene → Scene → Prop) (c : Controller) (s : Scene) (past : History) : Prop :=
  past.generations = [] ∨ past.generations = [s.clock] ∧
    ∃ found reason m, Loaded R c s found m ∧ Decision.at found s.clock = .regenerate reason

theorem Chosen.askedOnce (H : Chosen R c s a d regenerated m) : AskedOnce R c s m.past := by
  cases H with
  | kept _ _ _ _ h => exact .inl h
  | made hloaded hreason _ _ h => exact .inr ⟨h, _, _, _, hloaded, hreason⟩

theorem Trusted.askedOnce (H : Trusted R horizon c s a d regenerated outcomes m) :
    AskedOnce R c s m.past := by
  cases H with
  | intro hchosen _ _ _ _ h =>
    rw [AskedOnce, h]
    exact hchosen.askedOnce

theorem Footprint.askedOnce (H : Footprint R horizon c s result t) : AskedOnce R c s t.past := by
  cases H with
  | unread _ _ _ h => exact .inl h
  | unmade hloaded hreason _ _ h => exact .inr ⟨h, _, _, _, hloaded, hreason⟩
  | unspread hchosen _ _ _ h =>
    rw [AskedOnce, h]
    exact hchosen.askedOnce
  | unstored htrusted _ _ h | unwithdrawn htrusted _ _ _ _ h | good htrusted _ _ _ h =>
    rw [AskedOnce, h]
    exact htrusted.askedOnce

theorem Trusted.not_mem_written {name : String}
    (H : Trusted R horizon c s a d regenerated outcomes m) :
    (Kind.secret, name) ∉ m.past.written := by
  cases H with
  | intro _ _ _ htended => exact htended.not_mem_written

theorem withdraw_leaf {persistence : Written} {leaf : Option LeafChange}
    (hrun : (withdraw horizon c persistence).run.Runs R m (.ok (.ok leaf)) t) :
    leaf = none ∨ persistence = .updated := by
  cases persistence with
  | created | unchanged => exact .inl (Except.ok.inj (Except.ok.inj hrun.1))
  | updated => exact .inr rfl

private theorem mem_of_append_eq {α : Type} {x y : α} {xs ys later before : List α}
    (h : xs ++ ys = later ++ x :: before) (hx : x ∉ ys) (hy : y ∈ ys) : y ∈ before := by
  rcases List.append_eq_append_iff.1 h with ⟨rest, -, rfl⟩ | ⟨rest, -, hrest⟩
  · exact absurd (List.mem_append_right rest List.mem_cons_self) hx
  · cases rest with
    | nil =>
      rw [List.nil_append] at hrest
      rw [← hrest] at hx
      exact absurd List.mem_cons_self hx
    | cons z rest =>
      rw [(List.cons.inj hrest).2]
      exact List.mem_append_right rest hy

/-- The secret of the issued certificate is written only after that of the authority was. -/
theorem Footprint.leaf_written_last (hnames : c.caSecret ≠ c.leafSecret)
    (H : Footprint R horizon c s result t) {later before : List (Kind × String)}
    (h : t.past.written = later ++ (.secret, c.leafSecret) :: before) :
    (.secret, c.caSecret) ∈ before := by
  have hne : (Kind.secret, c.leafSecret) ≠ (.secret, c.caSecret) :=
    fun heq => hnames (congrArg Prod.snd heq).symm
  have hmem : (Kind.secret, c.leafSecret) ∈ t.past.written := by
    rw [h]
    exact List.mem_append_right _ List.mem_cons_self
  cases H with
  | unread _ _ hreads _ | unmade _ _ _ hreads _ =>
    rw [History.written_of_readsOnly hreads] at hmem
    exact absurd hmem List.not_mem_nil
  | unspread _ _ _ htended _ => exact absurd hmem htended.not_mem_written
  | unstored htrusted _ hwritten _ =>
    rw [hwritten] at hmem
    exact absurd hmem htrusted.not_mem_written
  | unwithdrawn htrusted _ _ _ hwritten _ =>
    rw [hwritten] at hmem
    exact absurd ((List.mem_cons.1 hmem).resolve_left hne) htrusted.not_mem_written
  | @good report _ m _ _ htrusted _ hwithdraw hwritten _ =>
    have hlast : (Kind.secret, c.leafSecret) ∉
        report.persistence.writes c.caSecret ++ m.past.written :=
      List.not_mem_append (Written.not_mem_writes hnames.symm) htrusted.not_mem_written
    rw [hwritten] at h hmem
    rcases withdraw_leaf hwithdraw with hleaf | hupdated
    · rw [hleaf] at hmem
      exact absurd hmem hlast
    · refine mem_of_append_eq h hlast ?_
      rw [hupdated]
      exact List.mem_cons_self

section Runs

variable [Allowed R]

/-- The clock always answers. -/
theorem now_result {result : Except Stop (Except Error Instant)}
    (H : (liftM (Script.request .now) : Attempt Instant).run.Runs R s result t) :
    result = .ok (.ok s.clock) := by
  obtain ⟨m, answer, stores, hm, h, H⟩ := H
  cases h
  rw [← (Allowed.outside hm).clock_eq]
  exact H.1

/-- A new authority is asked for just once, whatever the answer. -/
theorem generate_generations {now : Instant} {starts : List Instant}
    {result : Except Stop (Except Error (Authority × Duration))} (hs : s.past.generations = starts)
    (H : (generate now).run.Runs Outside s result t) : t.past.generations = now :: starts := by
  obtain ⟨m, answer, stores, hm, h, H⟩ := H
  have hm' : (m.after h).past.generations = now :: starts :=
    congrArg (now :: ·) (generations_stable hm hs)
  refine generations_keeps ?_ hm' H
  match answer with
  | .error text => trivial
  | .ok (.error e) => trivial
  | .ok (.ok a) =>
    exact (asks_ofExcept _).attempt fun _ => (asks_ofExcept _).attempt fun _ => trivial

theorem choose_fails {now : Instant} {f : Failure}
    (H : (choose found now).run.Runs R m f.result t) :
    ∃ reason, Decision.at found now = .regenerate reason ∧
      (generate now).run.Runs R m f.result t := by
  rw [choose] at H
  split at H
  · exact absurd ⟨_, H.1⟩ f.not_wentWell
  · rename_i reason hreason
    refine ⟨reason, hreason, ?_⟩
    rcases H.attempt_failure with ⟨f', hresult, hgenerate⟩ | ⟨_, n, -, hresult, -⟩
    · cases Failure.result_injective hresult
      exact hgenerate
    · exact absurd ⟨_, hresult⟩ f.not_wentWell

theorem Loaded.chosen (H : Loaded R c s found m)
    (hchoose : (choose found s.clock).run.Runs R m (.ok (.ok (a, regenerated, d))) t) :
    Chosen R c s a d regenerated t := by
  have hreads : t.past.Every fun r _ => r.ReadsOnly :=
    every_keeps choose_asks (fun _ _ h => h) H.reads hchoose.outside
  have hnone : m.past.generations = [] := by
    cases H with
    | intro _ _ _ h => exact h
  rw [choose] at hchoose
  split at hchoose
  · rename_i hkeep
    obtain ⟨hresult, hR⟩ := hchoose
    cases hresult
    exact .kept H hkeep hR hreads (generations_stable (Allowed.outside hR) hnone)
  · rename_i reason hreason
    obtain ⟨⟨b, validity⟩, n, hgenerate, hresult, hR⟩ := Runs.attempt_ok hchoose
    cases hresult
    have hgenerate := hgenerate.after hR
    exact .made H hreason hgenerate hreads (generate_generations hnone hgenerate.outside)

/-- However a propagation ends, it has cared for the targets only. -/
theorem Chosen.tended {result : Except Stop (Except Error (List TargetOutcome))}
    (H : Chosen R c s a d regenerated m)
    (hrun : (propagate horizon c.targets a.bundle c.schedule).run.Runs R m result t) :
    ∃ updated, Spread c.targets result updated ∧ t.past.Tended a.bundle updated := by
  have hmends : m.past.Every (Request.Mends a.bundle) :=
    H.reads.mono fun _ _ hr hwrote => absurd hwrote hr.not_wrote
  obtain ⟨updated, hspread, hwritten, hmends⟩ :=
    propagate_spreads (History.written_of_readsOnly H.reads) hmends hrun.outside
  refine ⟨updated, hspread, hwritten, hmends, ?_⟩
  exact every_keeps propagate_spares (fun _ _ h => h) (H.reads.mono fun _ _ hr => hr.spares)
    hrun.outside

theorem Chosen.trusted (H : Chosen R c s a d regenerated m)
    (hrun : (propagate horizon c.targets a.bundle c.schedule).run.Runs R m (.ok (.ok outcomes)) t) :
    Trusted R horizon c s a d regenerated outcomes t := by
  obtain ⟨updated, hspread, htended⟩ := H.tended hrun
  cases hspread with
  | good htargets =>
    exact .intro H hrun htargets htended (propagate_settled hrun.outside)
      (generations_keeps propagate_not_generates rfl hrun.outside)

theorem persist_writes {persistence : Written}
    (hrun : (persist horizon c.caSecret c.namespaceName a c.schedule).run.Runs Outside m
      (.ok (.ok persistence)) t) :
    t.past.written = persistence.writes c.caSecret ++ m.past.written := by
  rcases persist_concludes.written_of_ok rfl hrun with ⟨hwrote, h⟩ | ⟨hquiet, h⟩
  · cases persistence with
    | unchanged => exact absurd rfl hwrote
    | created => exact h
    | updated => exact h
  · cases persistence with
    | unchanged => exact h
    | created => exact absurd nofun hquiet
    | updated => exact absurd nofun hquiet

theorem withdraw_writes {persistence : Written} {leaf : Option LeafChange}
    (hrun : (withdraw horizon c persistence).run.Runs Outside m (.ok (.ok leaf)) t) :
    t.past.written = leaf.elim [] (·.writes c.leafSecret) ++ m.past.written := by
  cases persistence with
  | created =>
    obtain ⟨hleaf, hout⟩ := hrun
    cases hleaf
    exact written_stable hout rfl
  | unchanged =>
    obtain ⟨hleaf, hout⟩ := hrun
    cases hleaf
    exact written_stable hout rfl
  | updated =>
    obtain ⟨change, n, hinvalidate, hleaf, hout⟩ := Runs.attempt_ok hrun
    cases hleaf
    refine written_stable hout ?_
    rcases invalidateLeaf_concludes.written_of_ok rfl hinvalidate with ⟨rfl, h⟩ | ⟨hquiet, h⟩
    · exact h
    · cases change with
      | cleared => exact absurd rfl hquiet
      | alreadyEmpty => exact h
      | absent => exact h

/-- Only a replaced authority makes the last step try anything, and it says so when it fails. -/
theorem withdraw_fails {persistence : Written} {f : Failure}
    (hrun : (withdraw horizon c persistence).run.Runs Outside m f.result t) :
    persistence = .updated ∧ (∀ e, f = .error e → ∃ cause, e = .cascade c.leafSecret cause) ∧
      t.past.written = m.past.written := by
  cases persistence with
  | created => exact absurd ⟨_, hrun.1⟩ f.not_wentWell
  | unchanged => exact absurd ⟨_, hrun.1⟩ f.not_wentWell
  | updated =>
    obtain ⟨f', hresult, hinvalidate⟩ | ⟨_, _, -, hresult, -⟩ := Runs.attempt_failure hrun
    case inr => exact absurd ⟨_, hresult⟩ f.not_wentWell
    refine ⟨rfl, fun e he => ?_, ?_⟩
    · subst he
      cases f' with
      | stop why => cases hresult
      | error e' =>
        cases hresult
        rw [invalidateLeaf_eq] at hinvalidate
        obtain ⟨answer, n, -, hanswer, -⟩ := hinvalidate.bind_ok
        cases answer with
        | ok change => cases hanswer
        | error cause =>
          cases hanswer
          exact ⟨cause, rfl⟩
    · exact invalidateLeaf_concludes.written_of_fails rfl hinvalidate f'.not_wentWell

theorem footprint_of_runs (hreads : s.past.Every fun r _ => r.ReadsOnly)
    (hnone : s.past.generations = []) (hrun : (pass horizon c).run.Runs R s result t) :
    Footprint R horizon c s result t := by
  rw [pass_eq] at hrun
  rcases hrun.attempt_failure with ⟨f, -, h⟩ | ⟨now, m₁, hnow, hrun⟩
  · exact absurd ⟨_, now_result h⟩ f.not_wentWell
  cases now_result hnow
  have hreads₁ : m₁.past.Every fun r _ => r.ReadsOnly :=
    every_keeps now_asks (fun _ _ h => h) hreads hnow.outside
  have hnone₁ : m₁.past.generations = [] := generations_keeps now_not_generates hnone hnow.outside
  rcases hrun.attempt_failure with ⟨f, rfl, h⟩ | ⟨found, m₂, hload, hrun⟩
  · exact .unread hnow h (every_keeps load_asks (fun _ _ h => h) hreads₁ h.outside)
      (generations_keeps load_not_generates hnone₁ h.outside)
  have hreads₂ : m₂.past.Every fun r _ => r.ReadsOnly :=
    every_keeps load_asks (fun _ _ h => h) hreads₁ hload.outside
  have hnone₂ : m₂.past.generations = [] :=
    generations_keeps load_not_generates hnone₁ hload.outside
  have hloaded : Loaded R c s found m₂ := .intro hnow hload hreads₂ hnone₂
  rcases hrun.attempt_failure with ⟨f, rfl, h⟩ | ⟨⟨a, regenerated, d⟩, m₃, hchoose, hrun⟩
  · obtain ⟨reason, hreason, hgenerate⟩ := choose_fails h
    exact .unmade hloaded hreason hgenerate
      (every_keeps generate_asks (fun _ _ h => h) hreads₂ hgenerate.outside)
      (generate_generations hnone₂ hgenerate.outside)
  have hchosen : Chosen R c s a d regenerated m₃ := hloaded.chosen hchoose
  rcases hrun.attempt_failure with ⟨f, rfl, h⟩ | ⟨outcomes, m₄, hpropagate, hrun⟩
  · obtain ⟨updated, hspread, htended⟩ := hchosen.tended h
    exact .unspread hchosen h hspread htended
      (generations_keeps propagate_not_generates rfl h.outside)
  have htrusted := hchosen.trusted hpropagate
  rcases hrun.attempt_failure with ⟨f, rfl, h⟩ | ⟨persistence, m₅, hpersist, hrun⟩
  · exact .unstored htrusted h
      (persist_concludes.written_of_fails rfl h.outside f.not_wentWell)
      (generations_keeps persist_not_generates rfl h.outside)
  have hstored := persist_writes hpersist.outside
  have hnone₅ := generations_keeps persist_not_generates rfl hpersist.outside
  rcases hrun.attempt_failure with ⟨f, rfl, h⟩ | ⟨leaf, m₆, hwithdraw, hreport, hR⟩
  · obtain ⟨rfl, hcascade, hwritten⟩ := withdraw_fails h.outside
    exact .unwithdrawn htrusted hpersist h hcascade (hwritten.trans hstored)
      (generations_keeps withdraw_not_generates hnone₅ h.outside)
  · cases hreport
    have hwithdraw := hwithdraw.after hR
    refine .good htrusted hpersist hwithdraw ?_
      (generations_keeps withdraw_not_generates hnone₅ hwithdraw.outside)
    rw [withdraw_writes hwithdraw.outside, hstored]

end Runs

/-- Wherever a pass ends, with others writing all the while, its own writes and its own authority
are as the place tells. -/
theorem writes_of_pass (hnames : c.caSecret ≠ c.leafSecret) (hpast : s.past = [])
    (hrun : (pass horizon c).run.Runs Outside s result t) :
    Footprint Outside horizon c s result t ∧ AskedOnce Outside c s t.past ∧
      ∀ later before, t.past.written = later ++ (.secret, c.leafSecret) :: before →
        (.secret, c.caSecret) ∈ before := by
  have hreads : s.past.Every fun r _ => r.ReadsOnly := by
    rw [hpast]
    exact History.every_nil
  have hnone : s.past.generations = [] := by
    rw [hpast]
    rfl
  have hfootprint := footprint_of_runs hreads hnone hrun
  exact ⟨hfootprint, hfootprint.askedOnce, fun _ _ => hfootprint.leaf_written_last hnames⟩

end Phases

/-- The secret of the authority is empty, and the write that withdraws the issued certificate will
fail. -/
def halfway : World Cluster :=
  Sample.world ⟨0, 0⟩ [⟨"certificate", "key", ⟨0, 0⟩, ⟨60000000000, 0⟩⟩] (Sample.secret "ca" [])
    { writes := [.calm, .fail (.api 500 "Injected")] }

theorem writes_of_halfway_pass : ∃ s result t, s.past = [] ∧
    (pass 1 Sample.controller).run.Runs Outside s result t ∧ ¬ Script.WentWell result ∧
      t.past.written = [(.secret, "ca"), (.webhook .validating, "validating"),
        (.webhook .mutating, "mutating")] ∧
      t.past.generations = [s.clock] ∧ Footprint Outside 1 Sample.controller s result t := by
  obtain ⟨hfails, hwritten, hgenerations⟩ : ¬ Script.WentWell (Sample.pass (halfway, [])).1 ∧
      (Sample.pass (halfway, [])).2.2.written = [(.secret, "ca"),
        (.webhook .validating, "validating"), (.webhook .mutating, "mutating")] ∧
      (Sample.pass (halfway, [])).2.2.generations = [halfway.env.clock] := by decide +kernel
  obtain ⟨sound, hrun⟩ := Sample.pass_outside halfway [] (Sample.sound rfl)
  have hnames : Sample.controller.caSecret ≠ Sample.controller.leafSecret := by decide
  obtain ⟨hfootprint, -, -⟩ := writes_of_pass hnames rfl hrun
  exact ⟨_, _, _, rfl, hrun, hfails, hwritten, hgenerations, hfootprint⟩

end Rotation

end TrustAnchor
