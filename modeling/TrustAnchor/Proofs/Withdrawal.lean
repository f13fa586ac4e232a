import TrustAnchor.Proofs.Alone

/-! When the issued certificate is withdrawn. A pass decides this by whether it had to write the
secret of the authority, which is not the same as whether it has replaced the authority. A secret
that holds more than a valid authority is written too, and the certificate is withdrawn for
nothing. And once an authority has been replaced, later passes find nothing to write, so that a
withdrawal that failed then is not made good. -/

namespace TrustAnchor

open Script (WentWell)

theorem Decision.at_of_valid {a : Authority} {now : Instant} {d : Duration}
    (h : a.remaining now = .ok d) : Decision.at (some a) now = .keep a d := by
  simp only [Decision.at, h]

namespace Scene

/-- The entries of the secret of a name. -/
def entries (s : Scene) (name : String) : Option (KeyMap Bytes) :=
  (s.object .secret name).bind Secret.data

/-- The same stores at another time. -/
def atTime (s : Scene) (now : Instant) : Scene := { s with clock := now }

end Scene

namespace Sample

/-- A block of wrapped data. -/
def block (tag data : String) : String :=
  "-----BEGIN " ++ tag ++ "-----\n" ++ data ++ "\n-----END " ++ tag ++ "-----\n"

def key : String :=
  block "PRIVATE KEY" "MC4CAQAwBQYDK2VwBCIEIAAAAAAAAAAAAAAAAAAAAAAAAAAAAAAAAAAAAAAAAAAA"

/-- Valid from March 2026 to March 2027. -/
def first : Authority where
  certificate :=
    block "CERTIFICATE"
      ("MEYwOgIBATAFBgMrZXAwADAeFw0yNjAzMDExMjAwMDBaFw0yNzAzMDExMjAwMDBa"
        ++ "MAAwCjAFBgMrZXADAQAwBQYDK2VwAwEA")
  key := key
  notBefore := ⟨1772366400000000000, 0⟩
  notAfter := ⟨1803902400000000000, 0⟩

/-- Valid from March 2027 to February 2028. -/
def second : Authority where
  certificate :=
    block "CERTIFICATE"
      ("MEYwOgIBATAFBgMrZXAwADAeFw0yNzAzMDExMjAwMDBaFw0yODAyMjkxMjAwMDBa"
        ++ "MAAwCjAFBgMrZXADAQAwBQYDK2VwAwEA")
  key := key
  notBefore := ⟨1803902400000000000, 0⟩
  notAfter := ⟨1835438400000000000, 0⟩

theorem ofEntries_first : Authority.ofEntries (some first.toEntries) = .ok (some first) := by
  have h : (Authority.ofEntries (some first.toEntries)).toOption = some (some first) := by
    decide +kernel
  match hread : Authority.ofEntries (some first.toEntries) with
  | .ok found =>
    rw [hread] at h
    exact congrArg Except.ok (Option.some.inj h)
  | .error e =>
    rw [hread] at h
    cases h

end Sample

namespace Rotation

open Scene

variable {horizon : Nat} {c : Controller} {s t : Scene} {a : Authority} {x : Secret} {d : Duration}
  {now : Instant} {result : Except Stop (Except Error PassReport)} {report : PassReport}

/-- A valid authority is the one to go by. -/
theorem Goes.of_valid {b : Authority} {regenerated : Option RegenerateReason}
    (H : Goes (some a) now b regenerated) (hvalid : a.remaining now = .ok d) :
    b = a ∧ regenerated = none := by
  rcases H with ⟨d', hkeep, hnone⟩ | ⟨reason, hregenerate, -⟩
  · rw [Decision.at_of_valid hvalid] at hkeep
    cases hkeep
    exact ⟨rfl, hnone⟩
  · rw [Decision.at_of_valid hvalid] at hregenerate
    cases hregenerate

/-- What a pass that fails alone leaves: the secret of the issued certificate as it was, and that of
the authority as it was or with another authority. -/
theorem secrets_of_failed (hnames : c.caSecret ≠ c.leafSecret)
    (hrun : (pass horizon c).run.Runs Alone s result t) (hresult : ¬ WentWell result) :
    t.object .secret c.leafSecret = s.object .secret c.leafSecret ∧
      (t.object .secret c.caSecret = s.object .secret c.caSecret ∨
        ∃ a, Secret.Stores a (t.object .secret c.caSecret)) := by
  cases pass_alone hrun with
  | idle _ hidle => exact ⟨hidle.object, .inl hidle.object⟩
  | stuck _ _ _ hpersisted =>
    cases hpersisted with
    | updated _ _ hstores hothers => exact ⟨hothers _ hnames.symm, .inr ⟨_, hstores⟩⟩
  | good => exact absurd ⟨_, rfl⟩ hresult

/-- A pass alone that finds a valid authority keeps it. It leaves all secrets as they are if that of
the authority is bare; otherwise, if it ends well, it empties that of the issued certificate. -/
theorem keep_of_valid (hfound : s.object .secret c.caSecret = some x)
    (hentries : Authority.ofEntries x.data c.reader = .ok (some a))
    (hvalid : a.remaining s.clock = .ok d)
    (hrun : (pass horizon c).run.Runs Alone s result t) :
    (x.Bare → SameSecrets s t) ∧
      (c.caSecret ≠ c.leafSecret → ¬ WentWell result →
        t.object .secret c.leafSecret = s.object .secret c.leafSecret) ∧
      ∀ report, result = .ok (.ok report) → report.regenerated = none ∧
        (report.leaf = none ↔ x.Bare) ∧
          (¬ x.Bare → Secret.Blank (t.object .secret c.leafSecret)) := by
  have hsame : x.holding a = x ↔ x.Bare := Secret.holding_eq_self_iff hentries
  have hread : Authority.ofEntries ((s.object .secret c.caSecret).bind Secret.data) c.reader =
      .ok (some a) := by
    rw [hfound]
    exact hentries
  suffices h : (x.Bare → SameSecrets s t) ∧
      ∀ report, result = .ok (.ok report) → report.regenerated = none ∧
        (report.leaf = none ↔ x.Bare) ∧
          (¬ x.Bare → Secret.Blank (t.object .secret c.leafSecret)) from
    ⟨h.1, fun hnames hresult => (secrets_of_failed hnames hrun hresult).1, h.2⟩
  cases pass_alone hrun with
  | idle hresult hidle =>
    exact ⟨fun _ => hidle, fun report hreport => absurd ⟨report, hreport⟩ hresult⟩
  | stuck hresult hentries' hgoes hpersisted =>
    cases hread.symm.trans hentries'
    obtain ⟨rfl, -⟩ := hgoes.of_valid hvalid
    cases hpersisted with
    | updated hfound' hother =>
      cases hfound.symm.trans hfound'
      exact ⟨fun hbare => absurd (hsame.2 hbare) hother,
        fun report hreport => absurd ⟨report, hreport⟩ hresult⟩
  | @good report _ _ m hentries' hgoes hpersisted hwithdrawn =>
    cases hread.symm.trans hentries'
    obtain ⟨rfl, hnone⟩ := hgoes.of_valid hvalid
    suffices h : (x.Bare → SameSecrets s t) ∧ (report.leaf = none ↔ x.Bare) ∧
        (¬ x.Bare → Secret.Blank (t.object .secret c.leafSecret)) by
      refine ⟨h.1, fun report' hreport => ?_⟩
      cases hreport
      exact ⟨hnone, h.2⟩
    generalize report.persistence = written, report.leaf = leaf at hpersisted hwithdrawn ⊢
    cases hpersisted with
    | unchanged hfound' hholding hsm =>
      cases hfound.symm.trans hfound'
      have hbare := hsame.1 hholding
      cases hwithdrawn with
      | spared _ hmt => exact ⟨fun _ => hsm.trans hmt, iff_of_true rfl hbare, absurd hbare⟩
    | created hnone' => cases hfound.symm.trans hnone'
    | updated hfound' hother =>
      cases hfound.symm.trans hfound'
      have hbare : ¬ x.Bare := fun h => hother (hsame.2 h)
      cases hwithdrawn with
      | spared hne => exact absurd rfl hne
      | emptied hblank =>
        exact ⟨fun h => absurd h hbare, iff_of_false nofun hbare, fun _ => hblank⟩

/-- The first authority is stored and valid. -/
def steady : World Cluster :=
  Sample.world ⟨1780000000000000000, 0⟩ [] ((Sample.secret "ca" []).holding Sample.first) {}

theorem keep_of_steady : ∃ s t report x, s.object .secret "ca" = some x ∧ x.Bare ∧
    Authority.ofEntries x.data = .ok (some Sample.first) ∧
      (pass 1 Sample.controller).run.Runs Alone s (.ok (.ok report)) t ∧
        SameSecrets s t ∧ report.regenerated = none ∧ report.leaf = none := by
  have hend : EndsIn (fun _ => True) (Sample.pass (steady, [])).1 := by decide +kernel
  obtain ⟨report, hreport, -⟩ := hend.exists
  obtain ⟨sound, hrun⟩ :=
    Sample.pass_alone [] (Sample.calm (w := steady) rfl .none) (Sample.sound rfl)
  rw [hreport] at hrun
  let x : Secret := Resource.withVersion ((Sample.secret "ca" []).holding Sample.first) 1
  have hbare : x.Bare := Secret.bare_of_data (a := Sample.first) rfl rfl
  have hfound : (steady.scene (Sample.sound rfl) []).object .secret "ca" = some x :=
    Sample.get?_ca rfl rfl
  obtain ⟨hsame, -, hreport⟩ := keep_of_valid (c := Sample.controller)
    (d := ⟨23902400000000000⟩) hfound Sample.ofEntries_first rfl hrun
  obtain ⟨hnone, hleaf, -⟩ := hreport report rfl
  exact ⟨_, _, report, x, hfound, hbare, Sample.ofEntries_first, hrun, hsame hbare, hnone,
    hleaf.2 hbare⟩

/-- Besides the first authority the secret has a note. -/
def annotated : Secret :=
  { Sample.secret "ca" [] with data := some (Sample.first.toEntries.insert "note" [1]) }

/-- The first authority is stored and valid, but not alone. -/
def crowded : World Cluster := Sample.world ⟨1780000000000000000, 0⟩ [] annotated {}

/-- The issued certificate is withdrawn although the authority is kept. -/
theorem withdrawn_though_valid : ∃ s t report x a d, s.object .secret "ca" = some x ∧
    Authority.ofEntries x.data = .ok (some a) ∧ a.remaining s.clock = .ok d ∧
      (pass 1 Sample.controller).run.Runs Alone s (.ok (.ok report)) t ∧
        report.regenerated = none ∧ report.leaf = some .cleared ∧
          ¬ Secret.Blank (s.object .secret "leaf") ∧ Secret.Blank (t.object .secret "leaf") := by
  obtain ⟨hend, hblank⟩ :
      EndsIn (fun report => report.regenerated = none ∧ report.leaf = some .cleared)
        (Sample.pass (crowded, [])).1 ∧
      Secret.Blank (((Sample.pass (crowded, [])).2.1.objects.stores .secret).objects.get? "leaf") :=
    by decide +kernel
  obtain ⟨report, hreport, hnone, hcleared⟩ := hend.exists
  obtain ⟨sound, hrun⟩ :=
    Sample.pass_alone [] (Sample.calm (w := crowded) rfl .none) (Sample.sound rfl)
  rw [hreport] at hrun
  have hentries : Authority.ofEntries annotated.data = .ok (some Sample.first) :=
    (Authority.ofEntries_insert_of_ne (by decide) (by decide)).trans Sample.ofEntries_first
  have hfound : (crowded.scene (Sample.sound rfl) []).object .secret "ca" =
      some (Resource.withVersion annotated 1) := Sample.get?_ca rfl rfl
  exact ⟨_, _, report, _, Sample.first, ⟨23902400000000000⟩, hfound, hentries, rfl, hrun, hnone,
    hcleared, by decide, hblank⟩

/-- Passes made alone one after the other, each at a time of its own, none of which ends well. -/
inductive FailedPasses (c : Controller) : Scene → Scene → Prop
  | none {s : Scene} : FailedPasses c s s
  | more {horizon : Nat} {now : Instant} {s m t : Scene}
      {result : Except Stop (Except Error PassReport)} :
    (pass horizon c).run.Runs Alone (s.atTime now) result m → ¬ WentWell result →
    FailedPasses c m t → FailedPasses c s t

theorem FailedPasses.secrets (H : FailedPasses c s t) (hnames : c.caSecret ≠ c.leafSecret)
    (hstores : ∃ a, Secret.Stores a (s.object .secret c.caSecret)) :
    t.object .secret c.leafSecret = s.object .secret c.leafSecret ∧
      ∃ a, Secret.Stores a (t.object .secret c.caSecret) := by
  induction H with
  | none => exact ⟨rfl, hstores⟩
  | more hrun hresult _ ih =>
    obtain ⟨hleaf, hca⟩ := secrets_of_failed hnames hrun hresult
    have hstores' := hca.elim (fun hsame => hsame ▸ hstores) id
    obtain ⟨hleaf', hstores''⟩ := ih hstores'
    exact ⟨hleaf'.trans hleaf, hstores''⟩

/-- A pass alone that writes an existing secret of the authority stores an authority in it, and
empties the secret of the issued certificate if it ends well. -/
theorem secrets_of_written (hnames : c.caSecret ≠ c.leafSecret)
    (hfound : s.object .secret c.caSecret = some x)
    (hwritten : t.object .secret c.caSecret ≠ some x)
    (hrun : (pass horizon c).run.Runs Alone s result t) :
    (∃ a, Secret.Stores a (t.object .secret c.caSecret)) ∧
      (WentWell result → Secret.Blank (t.object .secret c.leafSecret)) := by
  cases pass_alone hrun with
  | idle _ hidle => exact absurd (hidle.object.trans hfound) hwritten
  | stuck hresult _ _ hpersisted =>
    cases hpersisted with
    | updated _ _ hstores => exact ⟨⟨_, hstores⟩, fun hwell => absurd hwell hresult⟩
  | @good report _ _ m _ _ hpersisted hwithdrawn =>
    generalize report.persistence = written, report.leaf = leaf at hpersisted hwithdrawn
    cases hpersisted with
    | unchanged _ _ hsm =>
      cases hwithdrawn with
      | spared _ hmt => exact absurd ((hsm.trans hmt).object.trans hfound) hwritten
    | created hnone => cases hfound.symm.trans hnone
    | updated _ _ hstores =>
      cases hwithdrawn with
      | spared hne => exact absurd rfl hne
      | emptied hblank hothers =>
        rw [hothers _ hnames]
        exact ⟨⟨_, hstores⟩, fun _ => hblank⟩

/-- A good pass alone over a stored authority: the secret of the issued certificate is empty
afterwards if it was empty before, or if the pass has replaced the authority. -/
theorem blank_of_good (hnames : c.caSecret ≠ c.leafSecret)
    (hstores : ∃ a, Secret.Stores a (s.object .secret c.caSecret))
    (hrun : (pass horizon c).run.Runs Alone s (.ok (.ok report)) t) :
    (Secret.Blank (t.object .secret c.leafSecret) ↔
      Secret.Blank (s.object .secret c.leafSecret) ∨
        t.entries c.caSecret ≠ s.entries c.caSecret) ∧
      ∀ a d, Authority.ofEntries (s.entries c.caSecret) c.reader = .ok (some a) →
        a.remaining s.clock = .ok d → t.entries c.caSecret = s.entries c.caSecret := by
  obtain ⟨b, x, hfound, hdata, hstringData⟩ := hstores
  have hentries : s.entries c.caSecret = some b.toEntries := by
    rw [Scene.entries, hfound]
    exact hdata
  cases pass_alone hrun with
  | idle hresult => exact absurd ⟨report, rfl⟩ hresult
  | stuck hresult => exact absurd ⟨report, rfl⟩ hresult
  | @good _ found a m hread hgoes hpersisted hwithdrawn =>
    generalize report.persistence = written, report.leaf = leaf at hpersisted hwithdrawn
    cases hpersisted with
    | unchanged _ _ hsm =>
      cases hwithdrawn with
      | spared _ hmt =>
        have hst := hsm.trans hmt
        have hkept : t.entries c.caSecret = s.entries c.caSecret := by
          rw [Scene.entries, hst.object, Scene.entries]
        rw [hst.object]
        exact ⟨⟨.inl, fun h => h.resolve_right (absurd hkept)⟩, fun _ _ _ _ => hkept⟩
    | created hnone => cases hfound.symm.trans hnone
    | updated hfound' hother hstores' =>
      cases hfound.symm.trans hfound'
      cases hwithdrawn with
      | spared hne => exact absurd rfl hne
      | emptied hblank hothers =>
        have hreplaced : t.entries c.caSecret ≠ s.entries c.caSecret := by
          obtain ⟨y, hy, hydata, -⟩ := hstores'
          rw [Scene.entries, hothers _ hnames, hy, hentries]
          intro heq
          have heq : y.data = some b.toEntries := heq
          refine hother (Secret.holding_eq_self_iff_data.2 ⟨?_, hstringData⟩)
          rw [hdata, ← heq, hydata]
        refine ⟨⟨fun _ => .inr hreplaced, fun _ => hblank⟩, fun a' d hvalid hremaining => ?_⟩
        cases hvalid.symm.trans hread
        obtain ⟨rfl, -⟩ := hgoes.of_valid hremaining
        have hdata' : Authority.ofEntries x.data c.reader = .ok (some a) := by
          rw [hdata, ← hentries]
          exact hread
        exact absurd ((Secret.holding_eq_self_iff hdata').2
          (Secret.bare_of_data hdata hstringData)) hother

/-- After a pass that has written the secret of the authority, and any number of passes that fail,
a good pass, all of them alone: the secret of the issued certificate is empty if the first of them
ended well. If it did not, because the withdrawal failed, that secret is empty only if it was before
or if the last pass has replaced the authority once more; and it does not replace a valid one. -/
theorem leaf_after_rotation {horizon' : Nat} {s₁ s₂ s₃ : Scene} (hnames : c.caSecret ≠ c.leafSecret)
    (hfound : s.object .secret c.caSecret = some x)
    (hrotation : (pass horizon c).run.Runs Alone s result s₁)
    (hwritten : s₁.object .secret c.caSecret ≠ some x) (hfailed : FailedPasses c s₁ s₂)
    (hgood : (pass horizon' c).run.Runs Alone (s₂.atTime now) (.ok (.ok report)) s₃) :
    (WentWell result → Secret.Blank (s₃.object .secret c.leafSecret)) ∧
      (¬ WentWell result → (Secret.Blank (s₃.object .secret c.leafSecret) ↔
        Secret.Blank (s.object .secret c.leafSecret) ∨
          s₃.entries c.caSecret ≠ s₂.entries c.caSecret)) ∧
      ∀ a d, Authority.ofEntries (s₂.entries c.caSecret) c.reader = .ok (some a) →
        a.remaining now = .ok d → s₃.entries c.caSecret = s₂.entries c.caSecret := by
  obtain ⟨hstores, hwell⟩ := secrets_of_written hnames hfound hwritten hrotation
  obtain ⟨hleaf, hstores₂⟩ := hfailed.secrets hnames hstores
  obtain ⟨hblank, hvalid⟩ := blank_of_good (s := s₂.atTime now) hnames hstores₂ hgood
  refine ⟨fun h => hblank.2 (.inl ?_), fun h => ?_, hvalid⟩
  · exact hleaf ▸ hwell h
  · rw [← (secrets_of_failed hnames hrotation h).1, ← hleaf]
    exact hblank

/-- Five seconds later. -/
def later (w : World Cluster × History) : World Cluster × History :=
  ({ w.1 with env := { w.1.env with clock := ⟨w.1.env.clock.nanos + 5000000000, 0⟩ } }, w.2)

theorem pass_later (w : World Cluster × History) (hcalm : w.1.Calm)
    (sound : ∀ k, (w.1.objects.stores k).Sound) : ∃ sound',
    (pass 1 Sample.controller).run.Runs Alone ((w.1.scene sound w.2).atTime (later w).1.env.clock)
      (Sample.pass (later w)).1
      ((Sample.pass (later w)).2.1.scene sound' (Sample.pass (later w)).2.2) :=
  Sample.pass_alone w.2 (w := (later w).1) hcalm sound

/-- Three passes, each five seconds after the one before. -/
theorem passes_alone {w : World Cluster}
    {p q r : Except Stop (Except Error PassReport) × World Cluster × History} (hcalm : w.Calm)
    (sound : ∀ k, (w.objects.stores k).Sound) (hp : Sample.pass (w, []) = p)
    (hq : Sample.pass (later p.2) = q) (hr : Sample.pass (later q.2) = r) :
    ∃ sound₁ sound₂ sound₃,
      (pass 1 Sample.controller).run.Runs Alone (w.scene sound []) p.1
        (p.2.1.scene sound₁ p.2.2) ∧
      (pass 1 Sample.controller).run.Runs Alone
        ((p.2.1.scene sound₁ p.2.2).atTime (later p.2).1.env.clock) q.1
        (q.2.1.scene sound₂ q.2.2) ∧
      (pass 1 Sample.controller).run.Runs Alone
        ((q.2.1.scene sound₂ q.2.2).atTime (later q.2).1.env.clock) r.1
        (r.2.1.scene sound₃ r.2.2) := by
  subst hp hq hr
  have hcalm₁ : (Sample.pass (w, [])).2.1.Calm := Sample.calm_pass hcalm
  have hcalm₂ : (Sample.pass (later (Sample.pass (w, [])).2)).2.1.Calm := Sample.calm_pass hcalm₁
  obtain ⟨sound₁, hrun₁⟩ := Sample.pass_alone [] hcalm sound
  obtain ⟨sound₂, hrun₂⟩ := pass_later _ hcalm₁ sound₁
  obtain ⟨sound₃, hrun₃⟩ := pass_later _ hcalm₂ sound₂
  exact ⟨sound₁, sound₂, sound₃, hrun₁, hrun₂, hrun₃⟩

/-- The first authority has expired. The write that withdraws the issued certificate will fail, and
so will the first request of the next pass. -/
def interrupted : World Cluster :=
  Sample.world ⟨1810000000000000000, 0⟩ [Sample.second]
    ((Sample.secret "ca" []).holding Sample.first)
    { reads := [.calm, .calm, .calm, .fail (.api 500 "Injected")]
      writes := [.calm, .fail (.api 500 "Injected")] }

/-- The pass that stores the second authority. -/
def rotated : Except Stop (Except Error PassReport) × World Cluster × History :=
  Sample.pass (interrupted, [])

def failedAgain : Except Stop (Except Error PassReport) × World Cluster × History :=
  Sample.pass (later rotated.2)

def recovered : Except Stop (Except Error PassReport) × World Cluster × History :=
  Sample.pass (later failedAgain.2)

theorem interrupted_passes : ∃ s s₁ s₂ s₃ result result' report now now',
    s.object .secret "ca" =
      some (Resource.withVersion ((Sample.secret "ca" []).holding Sample.first) 1) ∧
    (pass 1 Sample.controller).run.Runs Alone s result s₁ ∧ ¬ WentWell result ∧
    s₁.entries "ca" = some Sample.second.toEntries ∧ s₁.entries "ca" ≠ s.entries "ca" ∧
    (pass 1 Sample.controller).run.Runs Alone (s₁.atTime now) result' s₂ ∧ ¬ WentWell result' ∧
    (pass 1 Sample.controller).run.Runs Alone (s₂.atTime now') (.ok (.ok report)) s₃ ∧
    s.clock.nanos ≤ now.nanos ∧ now.nanos ≤ now'.nanos ∧
    ¬ Secret.Blank (s₃.object .secret "leaf") := by
  obtain ⟨hrotated, hstored, hreplaced, hagain, hend, hleaf, hclock, hclock'⟩ :
      ¬ WentWell rotated.1 ∧
      ((rotated.2.1.objects.stores .secret).objects.get? "ca").bind Secret.data =
        some Sample.second.toEntries ∧
      ((rotated.2.1.objects.stores .secret).objects.get? "ca").bind Secret.data ≠
        some Sample.first.toEntries ∧
      ¬ WentWell failedAgain.1 ∧ EndsIn (fun _ => True) recovered.1 ∧
      ¬ Secret.Blank ((recovered.2.1.objects.stores .secret).objects.get? "leaf") ∧
      interrupted.env.clock.nanos ≤ (later rotated.2).1.env.clock.nanos ∧
      (later rotated.2).1.env.clock.nanos ≤ (later failedAgain.2).1.env.clock.nanos := by
    decide +kernel
  have hcalm : interrupted.Calm := Sample.calm rfl ⟨by decide, by decide, rfl, rfl⟩
  obtain ⟨sound₁, sound₂, sound₃, hrun₁, hrun₂, hrun₃⟩ := passes_alone (p := rotated)
    (q := failedAgain) (r := recovered) hcalm (Sample.sound rfl) rfl rfl rfl
  obtain ⟨report, hreport, -⟩ := hend.exists
  rw [hreport] at hrun₃
  have hfound : (interrupted.scene (Sample.sound rfl) []).object .secret "ca" =
    some (Resource.withVersion ((Sample.secret "ca" []).holding Sample.first) 1) :=
    Sample.get?_ca rfl rfl
  refine ⟨_, _, _, _, _, _, report, _, _, hfound, hrun₁, hrotated, hstored, ?_, hrun₂, hagain,
    hrun₃, hclock, hclock', hleaf⟩
  rw [Scene.entries, Scene.entries, hfound]
  exact hreplaced

theorem leaf_after_interrupted : ∃ s s₁ s₂ s₃ result report now x,
    s.object .secret "ca" = some x ∧ s₁.object .secret "ca" ≠ some x ∧
    (pass 1 Sample.controller).run.Runs Alone s result s₁ ∧ ¬ WentWell result ∧
    FailedPasses Sample.controller s₁ s₂ ∧
    (pass 1 Sample.controller).run.Runs Alone (s₂.atTime now) (.ok (.ok report)) s₃ ∧
    (Secret.Blank (s₃.object .secret "leaf") ↔
      Secret.Blank (s.object .secret "leaf") ∨ s₃.entries "ca" ≠ s₂.entries "ca") := by
  obtain ⟨s, s₁, s₂, s₃, result, result', report, now, now', hfound, hrun₁, hresult, -, hreplaced,
    hrun₂, hresult', hrun₃, -⟩ := interrupted_passes
  have hwritten : s₁.object .secret "ca" ≠ some _ := fun h =>
    hreplaced (by rw [Scene.entries, Scene.entries, h, hfound])
  have hfailed : FailedPasses Sample.controller s₁ s₂ := .more hrun₂ hresult' .none
  obtain ⟨-, hleaf, -⟩ := leaf_after_rotation (c := Sample.controller) (by decide) hfound hrun₁
    hwritten hfailed hrun₃
  exact ⟨s, s₁, s₂, s₃, result, report, now', _, hfound, hwritten, hrun₁, hresult, hfailed, hrun₃,
    hleaf hresult⟩

/-- A good pass after a rotation leaves the certificate that was issued under the replaced
authority. -/
theorem leaf_kept_after_rotation : ∃ s s₁ s₂ s₃ result result' report now now',
    s.entries "ca" = some Sample.first.toEntries ∧
    (pass 1 Sample.controller).run.Runs Alone s result s₁ ∧
    s₁.entries "ca" = some Sample.second.toEntries ∧ s₁.entries "ca" ≠ s.entries "ca" ∧
    (pass 1 Sample.controller).run.Runs Alone (s₁.atTime now) result' s₂ ∧ ¬ WentWell result' ∧
    (pass 1 Sample.controller).run.Runs Alone (s₂.atTime now') (.ok (.ok report)) s₃ ∧
    s.clock.nanos ≤ now.nanos ∧ now.nanos ≤ now'.nanos ∧
    ¬ Secret.Blank (s₃.object .secret "leaf") := by
  obtain ⟨s, s₁, s₂, s₃, result, result', report, now, now', hfound, hrun₁, -, hstored, hreplaced,
    hrest⟩ := interrupted_passes
  have hentries : s.entries "ca" = some Sample.first.toEntries := by
    rw [Scene.entries, hfound]
    rfl
  exact ⟨s, s₁, s₂, s₃, result, result', report, now, now', hentries, hrun₁, hstored, hreplaced,
    hrest⟩

end Rotation

end TrustAnchor
