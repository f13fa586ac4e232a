import TrustAnchor.Proofs.Startup
import TrustAnchor.Proofs.Withdrawal

/-! What becomes of the stored material when the controller works alone, whatever it does, in
whatever order and at whatever times, and however its requests fail. Material that can be read is
replaced only when it has expired, and only by what was made for that very step; material that
cannot be read is never written. -/

namespace TrustAnchor

open Script (Attempt Keeps)

namespace Authority

/-- What is stored in the two entries of an authority. -/
def material (data : Option (KeyMap Bytes)) : Option Bytes × Option Bytes :=
  (data.bind (·.get? certificateEntry), data.bind (·.get? keyEntry))

/-- An authority is read from nothing but the two entries. -/
theorem ofEntries_of_material {data data' : Option (KeyMap Bytes)} {R : Reader}
    (h : material data = material data') : ofEntries data R = ofEntries data' R := by
  obtain ⟨hcertificate, hkey⟩ := Prod.ext_iff.1 h
  cases data with
  | none =>
    cases data' with
    | none => rfl
    | some entries' =>
      have hnone : entries'.get? certificateEntry = none := hcertificate.symm
      simp only [ofEntries, hnone]
  | some entries =>
    cases data' with
    | none =>
      have hnone : entries.get? certificateEntry = none := hcertificate
      simp only [ofEntries, hnone]
    | some entries' =>
      have hcertificate : entries.get? certificateEntry = entries'.get? certificateEntry :=
        hcertificate
      have hkey : entries.get? keyEntry = entries'.get? keyEntry := hkey
      simp only [ofEntries, hcertificate, hkey]

/-- Storing an authority where it was read from leaves the material as it is. -/
theorem material_toEntries {data : Option (KeyMap Bytes)} {R : Reader} {a : Authority}
    (h : ofEntries data R = .ok (some a)) : material (some a.toEntries) = material data := by
  obtain ⟨entries, rfl, hcertificate, hkey⟩ := entries_of_ofEntries h
  simp only [material, Option.bind_some, hcertificate, hkey, get?_toEntries_certificate,
    get?_toEntries_key, bundle]

end Authority

theorem Authority.remaining_of_lt {a : Authority} {now : Instant}
    (h : now.nanos < a.notAfter.nanos) :
    a.remaining now = .ok ⟨(a.notAfter.nanos - now.nanos).toNat⟩ := by
  rw [remaining, Instant.since?, if_pos h]

theorem Decision.expired_of_regenerate {a : Authority} {now : Instant} {reason : RegenerateReason}
    (h : Decision.at (some a) now = .regenerate reason) : a.notAfter.nanos ≤ now.nanos := by
  by_contra hvalid
  rw [Decision.at_of_valid (Authority.remaining_of_lt (not_le.1 hvalid))] at h
  cases h

namespace Scene

variable {s t : Scene} {name : String} {a : Authority}

theorem SameSecrets.entries (H : SameSecrets s t) : t.entries name = s.entries name :=
  congrArg (Option.bind · Secret.data) H.object

theorem entries_of_stores (H : Secret.Stores a (s.object .secret name)) :
    s.entries name = some a.toEntries := by
  obtain ⟨x, hx, hdata, -⟩ := H
  rw [Scene.entries, hx]
  exact hdata

/-- The same stores at another time, and nothing has happened yet. -/
def anew (s : Scene) (now : Instant) : Scene := { s with clock := now, past := [] }

/-- The clock stands still during a step. -/
theorem clock_keeps {α : Type} (p : Script α) {now : Instant} :
    p.Keeps Alone fun s => s.clock = now :=
  (Script.Asks.any p).keeps stable_alone fun _ _ _ _ _ _ hs => hs

end Scene

namespace Rotation

open Scene Authority

variable {horizon : Nat} {c : Controller} {s m t : Scene} {a : Authority} {d : Duration}
  {regenerated : Option RegenerateReason} {found : Option Authority}
  {outcomes : List TargetOutcome}

/-- What a pass alone finds stored decides what it goes by. -/
theorem Loaded.alone (H : Loaded Alone c s found m) :
    SameSecrets s m ∧ ofEntries (s.entries c.caSecret) c.reader = .ok found := by
  cases H with
  | intro hnow hload _ _ =>
    have hs := sameSecrets_of_readsOnly now_asks (Eq.refl _) hnow
    refine ⟨sameSecrets_of_readsOnly load_asks hs hload, ?_⟩
    obtain ⟨_, x, _, rfl, hread, -, hentries⟩ := load_runs hload
    rw [← hs.entries, Scene.entries, hread.get.2 rfl]
    exact hentries

/-- An authority that may be stored: the one that is, or one that was made because there was none
or it had expired. -/
inductive Rightful (c : Controller) (s : Scene) (past : History) (a : Authority) : Prop
  | kept : ofEntries (s.entries c.caSecret) c.reader = .ok (some a) → Rightful c s past a
  | made {found : Option Authority} {before : Stores} :
    ofEntries (s.entries c.caSecret) c.reader = .ok found →
    (∀ b, found = some b → b.notAfter.nanos ≤ s.clock.nanos) →
    .request before (.generate s.clock) (.ok (.ok a)) ∈ past → Rightful c s past a

theorem Rightful.mono {past past' : History} (H : Rightful c s past a)
    (h : ∀ e ∈ past, e ∈ past') : Rightful c s past' a := by
  cases H with
  | kept hstored => exact .kept hstored
  | made hfound hexpired hmade => exact .made hfound hexpired (h _ hmade)

theorem Chosen.alone (H : Chosen Alone c s a d regenerated m) :
    SameSecrets s m ∧ Rightful c s m.past a := by
  cases H with
  | kept hloaded hkeep hR _ _ =>
    cases hR
    obtain ⟨hs, hfound⟩ := hloaded.alone
    obtain ⟨rfl, -⟩ := Decision.at_keep hkeep
    exact ⟨hs, .kept hfound⟩
  | made hloaded hreason hgenerate _ _ =>
    obtain ⟨hs, hfound⟩ := hloaded.alone
    obtain ⟨n, _, rfl, h, rfl⟩ := generate_runs hgenerate
    refine ⟨sameSecrets_of_readsOnly generate_asks hs hgenerate, .made hfound ?_ List.mem_cons_self⟩
    rintro b rfl
    exact Decision.expired_of_regenerate hreason

theorem Trusted.alone (H : Trusted Alone horizon c s a d regenerated outcomes m) :
    SameSecrets s m ∧ Rightful c s m.past a := by
  cases H with
  | intro hchosen hpropagate _ _ _ _ =>
    obtain ⟨hs, hrightful⟩ := hchosen.alone
    refine ⟨?_, hrightful.mono fun e he => mem_past_keeps e _ he hpropagate.outside⟩
    exact sameSecrets_of_asks propagate_asks (fun _ h => h rfl) hs hpropagate

/-- The stored authority was replaced by one that was made for that, because there was none or it
had expired. -/
inductive Renewed (c : Controller) (s t : Scene) : Prop
  | intro {found : Option Authority} {a : Authority} {before : Stores} :
    ofEntries (s.entries c.caSecret) c.reader = .ok found →
    (∀ b, found = some b → b.notAfter.nanos ≤ s.clock.nanos) →
    .request before (.generate s.clock) (.ok (.ok a)) ∈ t.past →
    t.entries c.caSecret = some a.toEntries → Renewed c s t

/-- The material is as it was, or was renewed; what cannot be read was not touched. -/
structure Careful (c : Controller) (s t : Scene) : Prop where
  material : material (t.entries c.caSecret) = material (s.entries c.caSecret) ∨ Renewed c s t
  unreadable {e : AuthorityError} : ofEntries (s.entries c.caSecret) c.reader = .error e →
    t.object .secret c.caSecret = s.object .secret c.caSecret ∧
      (.secret, c.caSecret) ∉ t.past.written

namespace Careful

theorem of_same (hs : SameSecrets s t)
    (hwritten : ∀ {e}, ofEntries (s.entries c.caSecret) c.reader = .error e →
      (.secret, c.caSecret) ∉ t.past.written) : Careful c s t where
  material := .inl (congrArg Authority.material hs.entries)
  unreadable h := ⟨hs.object, hwritten h⟩

/-- A rightful authority has been stored, if anything was. -/
theorem of_persisted {n : Scene} {w : Written} (hs : SameSecrets s m)
    (hrightful : Rightful c s t.past a) (hpersisted : Persisted c.caSecret a m n w)
    (ht : t.object .secret c.caSecret = n.object .secret c.caSecret) : Careful c s t where
  unreadable h := by
    cases hrightful with
    | kept hstored => cases h.symm.trans hstored
    | made hfound _ _ => cases h.symm.trans hfound
  material := by
    have hentries : t.entries c.caSecret = n.entries c.caSecret := congrArg (·.bind Secret.data) ht
    have of_stores (hstores : Secret.Stores a (n.object .secret c.caSecret)) :
        Authority.material (t.entries c.caSecret) = Authority.material (s.entries c.caSecret) ∨
          Renewed c s t := by
      have hstored := hentries.trans (entries_of_stores hstores)
      cases hrightful with
      | kept hkept =>
        rw [hstored]
        exact .inl (material_toEntries hkept)
      | made hfound hexpired hmade => exact .inr (.intro hfound hexpired hmade hstored)
    cases hpersisted with
    | unchanged _ _ hn =>
      rw [hentries, hn.entries, hs.entries]
      exact .inl rfl
    | created _ hstores _ => exact of_stores hstores
    | updated _ _ hstores _ => exact of_stores hstores

/-- Where nothing has become of the secrets yet one may as well begin. -/
theorem of_start (hs : SameSecrets s m) (hclock : m.clock = s.clock) (H : Careful c m t) :
    Careful c s t where
  unreadable h := by
    rw [← hs.object]
    exact H.unreadable (hs.entries ▸ h)
  material := by
    rw [← hs.entries]
    refine H.material.imp_right fun hrenewed => ?_
    cases hrenewed with
    | intro hfound hexpired hmade hstored =>
      rw [hclock] at hexpired hmade
      exact .intro (hs.entries ▸ hfound) hexpired hmade hstored

end Careful

theorem Withdrawn.object_of_ne {name other : String} {w : Written} {leaf : Option LeafChange}
    (H : Withdrawn name s t w leaf) (h : other ≠ name) :
    t.object .secret other = s.object .secret other := by
  cases H with
  | spared _ hsame => exact hsame.object
  | emptied _ hothers => exact hothers _ h

theorem careful_of_pass {result : Except Stop (Except Error PassReport)}
    (hnames : c.caSecret ≠ c.leafSecret) (hreads : s.past.Every fun r _ => r.ReadsOnly)
    (hnone : s.past.generations = []) (hrun : (pass horizon c).run.Runs Alone s result t) :
    Careful c s t := by
  -- What cannot be read makes the pass end before it writes anything.
  have readable {found e} (h : ofEntries (s.entries c.caSecret) c.reader = .ok found)
      (h' : ofEntries (s.entries c.caSecret) c.reader = .error e) :
      (.secret, c.caSecret) ∉ t.past.written :=
    nomatch h.symm.trans h'
  cases footprint_of_runs hreads hnone hrun with
  | unread hnow hload hreads _ =>
    have hs := sameSecrets_of_readsOnly now_asks (Eq.refl _) hnow
    refine .of_same (sameSecrets_of_readsOnly load_asks hs hload) fun _ => ?_
    rw [History.written_of_readsOnly hreads]
    exact List.not_mem_nil
  | unmade hloaded _ hgenerate _ _ =>
    obtain ⟨hs, hfound⟩ := hloaded.alone
    exact .of_same (sameSecrets_of_readsOnly generate_asks hs hgenerate) (readable hfound)
  | unspread hchosen hpropagate _ htended _ =>
    obtain ⟨hs, -⟩ := hchosen.alone
    exact .of_same (sameSecrets_of_asks propagate_asks (fun _ h => h rfl) hs hpropagate) fun _ =>
      htended.not_mem_written
  | @unstored f _ _ _ _ _ _ htrusted hpersist hwritten _ =>
    obtain ⟨hs, -⟩ := htrusted.alone
    refine .of_same (persist_fails_alone hs hpersist f.not_wentWell) fun _ => ?_
    rw [hwritten]
    exact htrusted.not_mem_written
  | @unwithdrawn f _ _ _ _ _ n _ htrusted hpersist hwithdraw _ _ _ =>
    obtain ⟨hs, hrightful⟩ := htrusted.alone
    obtain ⟨-, hn⟩ := withdraw_fails_alone hwithdraw f.not_wentWell
    refine .of_persisted hs (hrightful.mono fun e he => ?_) (persist_alone hpersist) hn.object
    exact mem_past_keeps e _ (mem_past_keeps e _ he hpersist.outside) hwithdraw.outside
  | good htrusted hpersist hwithdraw _ _ =>
    obtain ⟨hs, hrightful⟩ := htrusted.alone
    refine .of_persisted hs (hrightful.mono fun e he => ?_) (persist_alone hpersist) ?_
    · exact mem_past_keeps e _ (mem_past_keeps e _ he hpersist.outside) hwithdraw.outside
    · exact (withdraw_alone hwithdraw).object_of_ne hnames

/-! ## Leaving an empty secret -/

namespace Careful

variable {r : Request} {answer : Except String r.Answer} {stores : Stores}

/-- A request is harmless if it leaves the entries as they are, and a secret that is there
altogether. -/
theorem after (H : Careful c s m) (h : m.Answers r answer stores)
    (hentries : (m.after h).entries c.caSecret = m.entries c.caSecret)
    (hquiet : m.object .secret c.caSecret ≠ none →
      (m.after h).object .secret c.caSecret = m.object .secret c.caSecret ∧
        (.secret, c.caSecret) ∉ r.landed answer) : Careful c s (m.after h) where
  material := by
    rw [hentries]
    refine H.material.imp_right fun hrenewed => ?_
    cases hrenewed with
    | intro hfound hexpired hmade hstored =>
      exact .intro hfound hexpired (List.mem_cons_of_mem _ hmade) (hentries.trans hstored)
  unreadable hunreadable := by
    obtain ⟨hobject, hwritten⟩ := H.unreadable hunreadable
    have hpresent : m.object .secret c.caSecret ≠ none := by
      intro hnone
      rw [hobject] at hnone
      rw [Scene.entries, hnone] at hunreadable
      cases hunreadable
    obtain ⟨hsame, hlanded⟩ := hquiet hpresent
    exact ⟨hsame.trans hobject, List.not_mem_append hlanded hwritten⟩

theorem after_quiet (H : Careful c s m) (h : m.Answers r answer stores) (hr : ¬ r.Wrote answer) :
    Careful c s (m.after h) := by
  have hobject : (m.after h).object .secret c.caSecret = m.object .secret c.caSecret :=
    h.object_eq_of_not_wrote fun hwrote => hr hwrote.2
  refine H.after h (congrArg (·.bind Secret.data) hobject) fun _ => ⟨hobject, ?_⟩
  rw [Request.landed_of_not_wrote hr]
  exact List.not_mem_nil

/-- An empty secret is no material. -/
theorem after_create {name namespaceName : String}
    {answer : Except String (Except Error Secret)} (H : Careful c s m)
    (h : m.Answers (.store .secret (.create (emptySecret name namespaceName))) answer stores) :
    Careful c s (m.after h) := by
  rcases h.create with ⟨hfails, -⟩ | ⟨rfl, hnone, hgains⟩
  · refine H.after_quiet h fun hwrote => ?_
    obtain ⟨y, hy⟩ := hwrote.of_create
    exact hfails hy
  · have hname : Resource.anyName (emptySecret name namespaceName) = name := Resource.anyName_named
    obtain ⟨⟨n, hnew⟩, hothers⟩ := object_of_gains (s := m) (t := m.after h) hname hgains
    by_cases hca : c.caSecret = name
    · rw [hname, ← hca] at hnone
      refine H.after h ?_ fun hpresent => absurd hnone hpresent
      rw [Scene.entries, Scene.entries, hnone, hca, hnew]
      rfl
    · have hobject := hothers _ hca
      refine H.after h (congrArg (·.bind Secret.data) hobject) fun _ => ⟨hobject, fun hmem => ?_⟩
      exact hca ((Request.on_of_mem_landed hmem).2.symm.trans hname)

end Careful

section Ensure

variable {name namespaceName : String} {schedule : Schedule}

theorem ensure_keeps :
    (ensureSecret horizon name namespaceName schedule).run.Keeps Alone (Careful c s) := by
  rw [ensureSecret_eq]
  refine Retry.attempts_keeps stable_alone
    (fun _ _ _ _ h hidle hm => hm.after_quiet h hidle.not_wrote) fun _ => ?_
  intro m result t hm hrun
  have hread {answer} : ¬ (Request.store .secret (.get name)).Wrote answer :=
    Request.ReadsOnly.not_wrote (r := .store .secret (.get name)) rfl
  cases ensuring_of_runs hrun with
  | unread h hR hR' | found h hR hR' =>
    subst hR hR'
    exact hm.after_quiet h hread
  | created h h' hR hR' hR'' | overtaken h h' _ hR hR' hR'' | refused h h' _ hR hR' hR'' =>
    subst hR hR' hR''
    exact (hm.after_quiet h hread).after_create h'

end Ensure

/-! ## Runs of operations -/

/-- All that the controller does, whatever comes of it. -/
inductive Operates (c : Controller) (s t : Scene) : Prop
  | pass {horizon : Nat} {result : Except Stop (Except Error PassReport)} :
    (Rotation.pass horizon c).run.Runs Alone s result t → Operates c s t
  | reconcile {horizon : Nat} {changed : Secret} {result : Except Stop (Except Error Wake)} :
    (Rotation.reconcile horizon c changed).run.Runs Alone s result t → Operates c s t
  | bootstrap {horizon : Nat} {schedule : Schedule} {result : Except Stop (Except Error Bootstrap)} :
    (Rotation.bootstrap horizon c schedule).run.Runs Alone s result t → Operates c s t
  | ensure {horizon : Nat} {name namespaceName : String} {schedule : Schedule}
    {result : Except Stop (Except Error Bool)} :
    (ensureSecret horizon name namespaceName schedule).run.Runs Alone s result t → Operates c s t

theorem careful_of_bootstrap {schedule : Schedule} {result : Except Stop (Except Error Bootstrap)}
    (hnames : c.caSecret ≠ c.leafSecret) (hreads : s.past.Every fun r _ => r.ReadsOnly)
    (hnone : s.past.generations = [])
    (hrun : (bootstrap horizon c schedule).run.Runs Alone s result t) : Careful c s t := by
  -- Looking for the secret changes nothing but the past.
  have looked {result n}
      (h : (presence horizon c.caSecret schedule).run.Runs Alone s result n) :
      SameSecrets s n ∧ n.past.Every fun r _ => r.ReadsOnly :=
    ⟨sameSecrets_of_readsOnly (presence_asks.mono fun _ hr => hr.1) (Eq.refl _) h,
      every_keeps presence_asks (fun _ _ hr => hr.1) hreads h.outside⟩
  have of_looked {n} (h : SameSecrets s n ∧ n.past.Every fun r _ => r.ReadsOnly) :
      Careful c s n := by
    refine .of_same h.1 fun _ => ?_
    rw [History.written_of_readsOnly h.2]
    exact List.not_mem_nil
  have passed {m n result} (h : (presence horizon c.caSecret schedule).run.Runs Alone s
      (.ok (.ok false)) m) (hpass : (pass horizon c).run.Runs Alone m result n) : Careful c s n := by
    obtain ⟨hs, hreads'⟩ := looked h
    have hnone' : m.past.generations = [] :=
      generations_keeps (presence_asks.mono fun _ hr => hr.2) hnone h.outside
    exact .of_start hs (clock_keeps _ rfl h) (careful_of_pass hnames hreads' hnone' hpass)
  cases startup_of_runs hrun with
  | unseen h | present h => exact of_looked (looked h)
  | stopped h hpass | issued h hpass => exact passed h hpass
  | unfilled h hpass hensure | deferred h hpass hensure =>
    exact ensure_keeps (passed h hpass) hensure

/-- A step that begins with nothing in its past is careful. -/
theorem Operates.careful (hnames : c.caSecret ≠ c.leafSecret) (hpast : s.past = [])
    (H : Operates c s t) : Careful c s t := by
  have hreads : s.past.Every fun r _ => r.ReadsOnly := by
    rw [hpast]
    exact History.every_nil
  have hnone : s.past.generations = [] := by
    rw [hpast]
    rfl
  have hstart : Careful c s s := .of_same (Eq.refl _) fun _ => by
    rw [hpast]
    exact List.not_mem_nil
  cases H with
  | pass hrun => exact careful_of_pass hnames hreads hnone hrun
  | ensure hrun => exact ensure_keeps hstart hrun
  | reconcile hrun =>
    rw [Rotation.reconcile] at hrun
    split at hrun
    · obtain ⟨-, rfl⟩ := hrun
      exact hstart
    · rcases Script.Runs.attempt_failure hrun with ⟨_, -, hpass⟩ | ⟨_, _, hpass, -, rfl⟩
      · exact careful_of_pass hnames hreads hnone hpass
      · exact careful_of_pass hnames hreads hnone hpass
  | bootstrap hrun => exact careful_of_bootstrap hnames hreads hnone hrun

/-- Operations one after the other, each at a time of its own, with what each of them begins and
ends with. -/
inductive Operations (c : Controller) : Scene → List (Scene × Scene) → Scene → Prop
  | none {s : Scene} : Operations c s [] s
  | more {now : Instant} {s m t : Scene} {steps : List (Scene × Scene)} :
    Operates c (s.anew now) m → Operations c m steps t →
    Operations c s ((s.anew now, m) :: steps) t

theorem Operations.careful {steps : List (Scene × Scene)} (hnames : c.caSecret ≠ c.leafSecret)
    (H : Operations c s steps t) : ∀ step ∈ steps, Careful c step.1 step.2 := by
  induction H with
  | none => nofun
  | more hoperates _ ih => exact List.forall_mem_cons.2 ⟨hoperates.careful hnames rfl, ih⟩

/-- A step before the end of the stored authority leaves its material as it is. -/
theorem Careful.material_eq (H : Careful c s t)
    (hstored : ofEntries (s.entries c.caSecret) c.reader = .ok (some a))
    (hvalid : s.clock.nanos < a.notAfter.nanos) :
    Authority.material (t.entries c.caSecret) = Authority.material (s.entries c.caSecret) := by
  refine H.material.resolve_right fun hrenewed => ?_
  cases hrenewed with
  | intro hfound hexpired _ _ =>
    cases hstored.symm.trans hfound
    exact absurd hvalid (not_lt.2 (hexpired a rfl))

theorem Operations.material_eq {steps : List (Scene × Scene)} (hnames : c.caSecret ≠ c.leafSecret)
    (H : Operations c s steps t)
    (hstored : ofEntries (s.entries c.caSecret) c.reader = .ok (some a))
    (hvalid : ∀ step ∈ steps, step.1.clock.nanos < a.notAfter.nanos) :
    Authority.material (t.entries c.caSecret) = Authority.material (s.entries c.caSecret) := by
  induction H with
  | none => rfl
  | @more now s m t steps hoperates _ ih =>
    obtain ⟨hnow, hlater⟩ := List.forall_mem_cons.1 hvalid
    have hstep : Authority.material (m.entries c.caSecret) =
        Authority.material (s.entries c.caSecret) :=
      (hoperates.careful hnames rfl).material_eq hstored hnow
    exact (ih ((ofEntries_of_material hstep).trans hstored) hlater).trans hstep

theorem Operations.unreadable {steps : List (Scene × Scene)} {e : AuthorityError}
    (hnames : c.caSecret ≠ c.leafSecret) (H : Operations c s steps t)
    (hunreadable : ofEntries (s.entries c.caSecret) c.reader = .error e) :
    t.object .secret c.caSecret = s.object .secret c.caSecret ∧
      ∀ step ∈ steps, (.secret, c.caSecret) ∉ step.2.past.written := by
  induction H with
  | none => exact ⟨rfl, nofun⟩
  | @more now s m t steps hoperates _ ih =>
    obtain ⟨hobject, hwritten⟩ := (hoperates.careful hnames rfl).unreadable hunreadable
    have hentries : m.entries c.caSecret = s.entries c.caSecret :=
      congrArg (·.bind Secret.data) hobject
    obtain ⟨hrest, hlater⟩ := ih (hentries ▸ hunreadable)
    exact ⟨hrest.trans hobject, List.forall_mem_cons.2 ⟨hwritten, hlater⟩⟩

/-- However long the controller works alone, whatever it does and however that ends, and whatever it
takes for keys and certificates: each step leaves the stored material as it is, unless there was none
or it had expired by then, and in that case it stores what was made in this very step. So an
authority keeps its material to its end, and what cannot be read is never written. -/
theorem material_of_operations {steps : List (Scene × Scene)} (hnames : c.caSecret ≠ c.leafSecret)
    (hrun : Operations c s steps t) :
    (∀ step ∈ steps, Careful c step.1 step.2) ∧
      (∀ a, ofEntries (s.entries c.caSecret) c.reader = .ok (some a) →
        (∀ step ∈ steps, step.1.clock.nanos < a.notAfter.nanos) →
        Authority.material (t.entries c.caSecret) = Authority.material (s.entries c.caSecret)) ∧
      ∀ e, ofEntries (s.entries c.caSecret) c.reader = .error e →
        t.object .secret c.caSecret = s.object .secret c.caSecret ∧
          ∀ step ∈ steps, (.secret, c.caSecret) ∉ step.2.past.written :=
  ⟨hrun.careful hnames, fun _ => hrun.material_eq hnames, fun _ => hrun.unreadable hnames⟩

/-- The authority that is made here cannot be read. -/
def garbled : Authority := ⟨"certificate", "key", ⟨0, 0⟩, ⟨60000000000, 0⟩⟩

theorem ofEntries_garbled : ∃ e, ofEntries (some garbled.toEntries) = .error e := by
  have h : (ofEntries (some garbled.toEntries)).toOption = none := by decide +kernel
  cases hread : ofEntries (some garbled.toEntries) with
  | error e => exact ⟨e, rfl⟩
  | ok found =>
    rw [hread] at h
    cases h

/-- Nothing is stored yet. -/
def vacant : World Cluster := Sample.world ⟨0, 0⟩ [garbled] (Sample.secret "ca" []) {}

/-- What is stored once is left alone from then on, because it cannot be read. -/
theorem material_of_garbled : ∃ s m t,
    Operations Sample.controller s [(s.anew s.clock, m), (m.anew m.clock, t)] t ∧
      Careful Sample.controller (s.anew s.clock) m ∧
      m.entries "ca" = some garbled.toEntries ∧ s.entries "ca" ≠ m.entries "ca" ∧
      t.object .secret "ca" = m.object .secret "ca" := by
  obtain ⟨hbefore, hstored⟩ :
      ((vacant.objects.stores .secret).objects.get? "ca").bind Secret.data ≠
        some garbled.toEntries ∧
      (((Sample.pass (vacant, [])).2.1.objects.stores .secret).objects.get? "ca").bind Secret.data =
        some garbled.toEntries := by decide +kernel
  have hcalm : vacant.Calm := Sample.calm rfl .none
  obtain ⟨sound, hfirst⟩ := Sample.pass_alone [] hcalm (Sample.sound rfl)
  obtain ⟨sound', hsecond⟩ := Sample.pass_alone [] (Sample.calm_pass hcalm) sound
  have hnames : Sample.controller.caSecret ≠ Sample.controller.leafSecret := by decide
  let s : Scene := vacant.scene (Sample.sound rfl) []
  let m : Scene := (Sample.pass (vacant, [])).2.1.scene sound (Sample.pass (vacant, [])).2.2
  have hrest : Operations Sample.controller m [(m.anew m.clock, _)] _ :=
    .more (.pass hsecond) .none
  have hrun : Operations Sample.controller s [(s.anew s.clock, m), _] _ :=
    .more (.pass hfirst) hrest
  obtain ⟨hcareful, -, -⟩ := material_of_operations hnames hrun
  obtain ⟨-, -, hunreadable⟩ := material_of_operations hnames hrest
  obtain ⟨e, he⟩ := ofEntries_garbled
  have he : ofEntries (m.entries "ca") = .error e := by rwa [show m.entries "ca" = _ from hstored]
  exact ⟨s, m, _, hrun, hcareful _ List.mem_cons_self, hstored, fun h => hbefore (h.trans hstored),
    (hunreadable e he).1⟩

end Rotation

end TrustAnchor
