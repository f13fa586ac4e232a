import TrustAnchor.Proofs.Trust

/-! What a pass does to the secrets when nobody else writes. -/

namespace TrustAnchor

open Script (Attempt WentWell KeepsFailing)

namespace Scene

/-- Others do nothing. -/
abbrev Alone : Scene → Scene → Prop := Eq

/-- The secrets are the same. -/
def SameSecrets (s t : Scene) : Prop := (t.stores .secret).objects = (s.stores .secret).objects

variable {s t u : Scene} {name : String}

theorem SameSecrets.trans (H : SameSecrets s t) (K : SameSecrets t u) : SameSecrets s u :=
  Eq.trans K H

theorem SameSecrets.object (H : SameSecrets s t) : t.object .secret name = s.object .secret name :=
  congrArg (KeyMap.get? · name) H

theorem stable_alone {J : Scene → Prop} : Script.Stable Alone J := fun _ _ h hs => h ▸ hs

variable {α : Type} {p : Script α}

theorem sameSecrets_of_readsOnly (H : p.Asks Request.ReadsOnly) :
    p.Keeps Alone (SameSecrets s) := by
  refine H.keeps stable_alone fun m r answer stores h hreads hm => hm.trans ?_
  cases h with
  | performed k c =>
    cases c with
    | get name => exact (Stores.alike_update ((m.stores k).alike_get name) .secret).objects
    | create x => cases hreads
    | replace x => cases hreads
  | _ => rfl

theorem sameSecrets_of_asks {S : Kind → String → Prop} (H : p.Asks (Request.Within S))
    (hS : ∀ name, ¬ S .secret name) : p.Keeps Alone (SameSecrets s) := by
  refine H.keeps stable_alone fun m r answer stores h hwithin hm => hm.trans ?_
  exact KeyMap.ext_get? fun name => h.object_eq (hwithin.not_on (hS name))

end Scene

namespace Amendment

open Scene

variable {k : Kind} {name : String} {β : Type} {A : Amendment k name β} {s t : Scene}

/-- An attempt that does not end well has written nothing. -/
theorem alike_of_fails {S : Stores} :
    A.attempt.run.KeepsFailing Alone fun t => S.Alike t.stores := by
  intro s result t hs hrun hresult
  obtain ⟨m, answer, stores, rfl, hread, H⟩ := A.attempt_runs hrun
  have hs' : S.Alike stores := hs.trans hread.get.1
  rcases H with ⟨-, rfl⟩ | ⟨rfl, H⟩
  · exact hs'
  · cases hplan : A.plan (s.object k name) with
    | finish result =>
      rw [hplan] at H
      obtain ⟨-, rfl⟩ := H
      exact hs'
    | write x b =>
      rw [hplan] at H
      rcases H.attempt_cases with ⟨-, result', hfails, hput⟩ | ⟨y, m, -, hb, -⟩
      · obtain ⟨n, r, answer, stores', rfl, hwrite, rfl, hcases⟩ := put_runs hput
        rcases hcases with ⟨-, -, halike⟩ | ⟨hwell, -⟩
        · exact hs'.trans halike
        · exact absurd hwell hfails
      · exact absurd ⟨b, hb⟩ hresult

/-- An attempt that ends well has done as planned for the object as it was. -/
theorem done_of_well {b : β} (hrun : A.attempt.run.Runs Alone s (.ok (.ok b)) t) :
    A.plan (s.object k name) = .finish (.ok b) ∧ s.stores.Alike t.stores ∨
      ∃ x, A.plan (s.object k name) = .write x b ∧ s.stores.Gains k x t.stores := by
  obtain ⟨m, answer, stores, rfl, hread, H⟩ := A.attempt_runs hrun
  have halike := hread.get.1
  rcases H with ⟨hfails, -⟩ | ⟨rfl, H⟩
  · exact absurd ⟨b, rfl⟩ hfails
  · cases hplan : A.plan (s.object k name) with
    | finish result =>
      rw [hplan] at H
      obtain ⟨hresult, rfl⟩ := H
      exact .inl ⟨congrArg Plan.finish (Except.ok.inj hresult).symm, halike⟩
    | write x b' =>
      rw [hplan] at H
      obtain ⟨y, m, hput, hb, rfl⟩ := H.attempt_ok
      cases hb
      obtain ⟨n, r, answer, stores', rfl, hwrite, rfl, hcases⟩ := put_runs hput
      rcases hcases with ⟨hfails, -⟩ | ⟨-, -, hgains⟩
      · exact absurd ⟨y, rfl⟩ hfails
      · exact .inr ⟨x, rfl, halike.gains hgains⟩

theorem alike_of_idle {S : Stores} {m : Scene} {r : Request} {answer : Except String r.Answer}
    {stores : Stores} (h : m.Answers r answer stores) (hr : r.Idle) (hm : S.Alike m.stores) :
    S.Alike (m.after h).stores := by
  rw [stores_after, h.stores_eq fun _ _ => hr.not_on]
  exact hm

variable {horizon : Nat} {schedule : Schedule} {operation : String}

theorem loop_alike_of_fails {S : Stores} :
    (Retry.onConflict horizon schedule operation fun _ => A.attempt.run).KeepsFailing Alone
      fun t => S.Alike t.stores :=
  Retry.onConflict_fails stable_alone (fun _ _ _ _ h hr hm => alike_of_idle h hr hm)
    fun _ => alike_of_fails

theorem loop_done_of_well {b : β}
    (hrun : (Retry.onConflict horizon schedule operation fun _ => A.attempt.run).Runs Alone s
      (.ok (.ok b)) t) :
    A.plan (s.object k name) = .finish (.ok b) ∧ s.stores.Alike t.stores ∨
      ∃ x, A.plan (s.object k name) = .write x b ∧ s.stores.Gains k x t.stores := by
  obtain ⟨_, m, halike, hlast⟩ := Retry.onConflict_ok (J := fun m => s.stores.Alike m.stores)
    stable_alone (fun _ _ _ _ h hr hm => alike_of_idle h hr hm) (fun _ => alike_of_fails)
    (Stores.Alike.refl _) hrun
  have hsame : m.object k name = s.object k name := congrArg (KeyMap.get? · name) (halike k).objects
  rcases done_of_well hlast with ⟨hplan, hrest⟩ | ⟨x, hplan, hgains⟩
  · exact .inl ⟨hsame ▸ hplan, halike.trans hrest⟩
  · exact .inr ⟨x, hsame ▸ hplan, halike.gains hgains⟩

end Amendment

namespace Rotation

open Scene

variable {horizon : Nat} {name namespaceName : String} {a : Authority} {schedule : Schedule}
  {s t : Scene}

/-- What storing an authority comes to, for the secret of a name. -/
inductive Persisted (name : String) (a : Authority) (s t : Scene) : Written → Prop
  | unchanged {x : Secret} : s.object .secret name = some x → x.holding a = x → SameSecrets s t →
    Persisted name a s t .unchanged
  | created : s.object .secret name = none → Secret.Stores a (t.object .secret name) →
    (∀ other ≠ name, t.object .secret other = s.object .secret other) →
    Persisted name a s t .created
  | updated {x : Secret} : s.object .secret name = some x → x.holding a ≠ x →
    Secret.Stores a (t.object .secret name) →
    (∀ other ≠ name, t.object .secret other = s.object .secret other) →
    Persisted name a s t .updated

theorem Persisted.stores {written : Written} (H : Persisted name a s t written) :
    Secret.Stores a (t.object .secret name) := by
  cases H with
  | unchanged hfound hsame hst =>
    rw [hst.object]
    exact ⟨_, hfound, Secret.holding_eq_self_iff_data.1 hsame⟩
  | created _ hstores => exact hstores
  | updated _ _ hstores => exact hstores

/-- What emptying the secret of a name comes to, where the last step of a pass has to do so. -/
inductive Withdrawn (name : String) (s t : Scene) : Written → Option LeafChange → Prop
  | spared {written : Written} : written ≠ .updated → SameSecrets s t →
    Withdrawn name s t written none
  | emptied {change : LeafChange} : Secret.Blank (t.object .secret name) →
    (∀ other ≠ name, t.object .secret other = s.object .secret other) →
    Withdrawn name s t .updated (some change)

/-- The secrets after a write: a new one under its name, and the others as they were. -/
theorem object_of_gains {x : Secret} (hx : Resource.anyName x = name)
    (H : s.stores.Gains .secret x t.stores) :
    (∃ n, t.object .secret name = some (Resource.withVersion x n)) ∧
      ∀ other ≠ name, t.object .secret other = s.object .secret other := by
  subst hx
  exact ⟨⟨_, H.gains.get?_self⟩, fun other hother => H.gains.get?_of_ne hother⟩

theorem persist_alone {written : Written}
    (hrun : (persist horizon name namespaceName a schedule).run.Runs Alone s (.ok (.ok written))
      t) :
    Persisted name a s t written := by
  rw [persist_eq] at hrun
  rcases Amendment.loop_done_of_well hrun with ⟨hplan, halike⟩ | ⟨x, hplan, hgains⟩
  · obtain ⟨x, hfound, hsame, rfl⟩ := storing_finish hplan
    exact .unchanged hfound hsame (halike .secret).objects
  · obtain ⟨⟨n, hx⟩, hothers⟩ := object_of_gains ((storing _ _ _).anyName_of_object hplan) hgains
    obtain ⟨hstores, hcases⟩ := storing_write hplan
    have hstores : Secret.Stores a (t.object .secret name) := hx ▸ hstores n
    rcases hcases with ⟨hnone, rfl⟩ | ⟨y, hfound, hother, rfl⟩
    · exact .created hnone hstores hothers
    · exact .updated hfound hother hstores hothers

theorem persist_fails_alone :
    (persist horizon name namespaceName a schedule).run.KeepsFailing Alone (SameSecrets s) := by
  intro m result t hm hrun hresult
  rw [persist_eq] at hrun
  have halike := Amendment.loop_alike_of_fails (S := m.stores) (.refl _) hrun hresult
  exact hm.trans (halike .secret).objects

theorem invalidateLeaf_alone {change : LeafChange}
    (hrun : (invalidateLeaf horizon name schedule).run.Runs Alone s (.ok (.ok change)) t) :
    Secret.Blank (t.object .secret name) ∧
      ∀ other ≠ name, t.object .secret other = s.object .secret other := by
  rw [invalidateLeaf_eq] at hrun
  obtain ⟨answer, m, hloop, hmap, rfl⟩ := hrun.bind_ok
  cases answer with
  | error e => cases hmap
  | ok change' =>
    rcases Amendment.loop_done_of_well hloop with ⟨hplan, halike⟩ | ⟨x, hplan, hgains⟩
    · have hsame : SameSecrets s m := (halike .secret).objects
      refine ⟨?_, fun _ _ => hsame.object⟩
      rw [hsame.object]
      exact clearing_finish hplan
    · obtain ⟨⟨n, hx⟩, hothers⟩ := object_of_gains ((clearing _).anyName_of_object hplan) hgains
      rw [hx]
      exact ⟨clearing_write hplan n, hothers⟩

theorem invalidateLeaf_fails_alone :
    (invalidateLeaf horizon name schedule).run.KeepsFailing Alone (SameSecrets s) := by
  intro m result t hm hrun hresult
  rw [invalidateLeaf_eq] at hrun
  refine hm.trans ?_
  rcases hrun.bind with ⟨why, -, hloop⟩ | ⟨answer, n, hloop, hmap, rfl⟩
  · exact (Amendment.loop_alike_of_fails (S := m.stores) (.refl _) hloop
      (Script.not_wentWell_stop why) .secret).objects
  · refine (Amendment.loop_alike_of_fails (S := m.stores) (.refl _) hloop ?_ .secret).objects
    rintro ⟨change, hchange⟩
    cases hchange
    exact hresult ⟨change, hmap⟩

theorem withdraw_alone {c : Controller} {written : Written} {leaf : Option LeafChange}
    (hrun : (withdraw horizon c written).run.Runs Alone s (.ok (.ok leaf)) t) :
    Withdrawn c.leafSecret s t written leaf := by
  cases written with
  | updated =>
    obtain ⟨change, m, hinvalidate, hleaf, rfl⟩ := Script.Runs.attempt_ok hrun
    cases hleaf
    obtain ⟨hblank, hothers⟩ := invalidateLeaf_alone hinvalidate
    exact .emptied hblank hothers
  | created =>
    obtain ⟨hleaf, rfl⟩ := hrun
    cases hleaf
    exact .spared nofun rfl
  | unchanged =>
    obtain ⟨hleaf, rfl⟩ := hrun
    cases hleaf
    exact .spared nofun rfl

theorem withdraw_fails_alone {c : Controller} {written : Written}
    {result : Except Stop (Except Error (Option LeafChange))}
    (hrun : (withdraw horizon c written).run.Runs Alone s result t)
    (hresult : ¬ WentWell result) : written = .updated ∧ SameSecrets s t := by
  cases written with
  | updated =>
    rcases Script.Runs.attempt_cases hrun with ⟨-, result', hfails, hrun⟩ | ⟨a, m, -, hok, -⟩
    · exact ⟨rfl, invalidateLeaf_fails_alone (s := s) rfl hrun hfails⟩
    · exact absurd ⟨_, hok⟩ hresult
  | created => exact absurd ⟨none, hrun.1⟩ hresult
  | unchanged => exact absurd ⟨none, hrun.1⟩ hresult

/-- The authority that a pass goes by: the one that was found, if it is valid, or else some new
one. -/
def Goes (found : Option Authority) (now : Instant) (a : Authority)
    (regenerated : Option RegenerateReason) : Prop :=
  (∃ d, Decision.at found now = .keep a d ∧ regenerated = none) ∨
    ∃ reason, Decision.at found now = .regenerate reason ∧ regenerated = some reason

/-- What a pass alone comes to, for the secrets. -/
inductive Passed (c : Controller) (s t : Scene) : Except Stop (Except Error PassReport) → Prop
  /-- It has failed before it stored an authority. -/
  | idle {result : Except Stop (Except Error PassReport)} : ¬ WentWell result → SameSecrets s t →
    Passed c s t result
  /-- It has replaced the authority, and failed to withdraw the issued certificate. -/
  | stuck {result : Except Stop (Except Error PassReport)} {found : Option Authority}
    {a : Authority} {regenerated : Option RegenerateReason} : ¬ WentWell result →
    Authority.ofEntries ((s.object .secret c.caSecret).bind Secret.data) c.reader = .ok found →
    Goes found s.clock a regenerated → Persisted c.caSecret a s t .updated → Passed c s t result
  | good {report : PassReport} {found : Option Authority} {a : Authority} {m : Scene} :
    Authority.ofEntries ((s.object .secret c.caSecret).bind Secret.data) c.reader = .ok found →
    Goes found s.clock a report.regenerated → Persisted c.caSecret a s m report.persistence →
    Withdrawn c.leafSecret m t report.persistence report.leaf → Passed c s t (.ok (.ok report))

theorem Persisted.of_same {m n : Scene} {written : Written} (hs : SameSecrets s m)
    (H : Persisted name a m n written) (ht : SameSecrets n t) : Persisted name a s t written := by
  cases H with
  | unchanged hfound hsame hn =>
    exact .unchanged (hs.object ▸ hfound) hsame ((hs.trans hn).trans ht)
  | created hfound hstores hothers =>
    refine .created (hs.object ▸ hfound) (ht.object ▸ hstores) fun other hother => ?_
    rw [ht.object, hothers other hother, hs.object]
  | updated hfound hother hstores hothers =>
    refine .updated (hs.object ▸ hfound) hother (ht.object ▸ hstores) fun other hother => ?_
    rw [ht.object, hothers other hother, hs.object]

theorem pass_alone {c : Controller} {result : Except Stop (Except Error PassReport)}
    (hrun : (pass horizon c).run.Runs Alone s result t) : Passed c s t result := by
  rw [pass_eq] at hrun
  -- Up to where the authority is stored, nothing is written but targets.
  rcases Script.Runs.attempt_cases hrun with ⟨hresult, _, -, h⟩ | ⟨now, m₁, hnow, hrun⟩
  · exact .idle hresult (sameSecrets_of_readsOnly now_asks (Eq.refl _) h)
  have hs₁ : SameSecrets s m₁ := sameSecrets_of_readsOnly now_asks (Eq.refl _) hnow
  rcases hrun.attempt_cases with ⟨hresult, _, -, h⟩ | ⟨found, m₂, hload, hrun⟩
  · exact .idle hresult (sameSecrets_of_readsOnly load_asks hs₁ h)
  have hs₂ := sameSecrets_of_readsOnly load_asks hs₁ hload
  rcases hrun.attempt_cases with ⟨hresult, _, -, h⟩ | ⟨⟨a, regenerated, d⟩, m₃, hchoose, hrun⟩
  · exact .idle hresult (sameSecrets_of_readsOnly choose_asks hs₂ h)
  have hs₃ := sameSecrets_of_readsOnly choose_asks hs₂ hchoose
  have hsecret : ∀ _ : String, ¬ Kind.secret ≠ Kind.secret := fun _ h => h rfl
  rcases hrun.attempt_cases with ⟨hresult, _, -, h⟩ | ⟨propagated, m₄, hpropagate, hrun⟩
  · exact .idle hresult (sameSecrets_of_asks propagate_asks hsecret hs₃ h)
  have hs₄ := sameSecrets_of_asks propagate_asks hsecret hs₃ hpropagate
  rcases hrun.attempt_cases with ⟨hresult, _, hfails, h⟩ | ⟨written, m₅, hpersist, hrun⟩
  · exact .idle hresult (persist_fails_alone hs₄ h hfails)
  have hpersisted := persist_alone hpersist
  have hclock : now = s.clock := by
    obtain ⟨_, _, rfl, hanswer, -⟩ := now_runs hnow
    cases hanswer
    rfl
  have hentries : Authority.ofEntries ((s.object .secret c.caSecret).bind Secret.data) c.reader =
      .ok found := by
    obtain ⟨_, x, _, rfl, hread, -, hentries⟩ := load_runs hload
    rwa [← hs₁.object, hread.get.2 rfl]
  have hgoes : Goes found s.clock a regenerated := by
    subst hclock
    rcases choose_runs hchoose with ⟨hkeep, hnone, -⟩ | ⟨reason, hreason, hsome, -⟩
    · exact .inl ⟨d, hkeep, hnone⟩
    · exact .inr ⟨reason, hreason, hsome⟩
  rcases hrun.attempt_cases with ⟨hresult, _, hfails, h⟩ | ⟨leaf, m₆, hwithdraw, hreport, rfl⟩
  · obtain ⟨rfl, hs₅⟩ := withdraw_fails_alone h hfails
    exact .stuck hresult hentries hgoes (hpersisted.of_same hs₄ hs₅)
  · cases hreport
    exact .good hentries hgoes (hpersisted.of_same hs₄ (Eq.refl _)) (withdraw_alone hwithdraw)

end Rotation

end TrustAnchor
