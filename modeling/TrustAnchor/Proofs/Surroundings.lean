import TrustAnchor.Proofs.Runs
import TrustAnchor.Rotation.Pass

/-! The cluster in memory as surroundings of a script. Whatever its weather brings, what a script
does in it is something that the script can do among other writers; and if no other writer is on
the way, it is something that the script can do alone. -/

namespace TrustAnchor

open Scene

namespace Cluster

def stores (c : Cluster) : Stores := fun k => (c.site k).store

@[simp] theorem site_withSite_self (c : Cluster) (k : Kind) (s : Site k.Object) :
    (c.withSite k s).site k = s := by
  match k with
  | .secret | .webhook .mutating | .webhook .validating => rfl

theorem site_withSite_of_ne (c : Cluster) {k k' : Kind} (s : Site k.Object) (h : k' ≠ k) :
    (c.withSite k s).site k' = c.site k' := by
  match k, k' with
  | .secret, .secret | .webhook .mutating, .webhook .mutating
  | .webhook .validating, .webhook .validating => exact absurd rfl h
  | .secret, .webhook .mutating | .secret, .webhook .validating
  | .webhook .mutating, .secret | .webhook .mutating, .webhook .validating
  | .webhook .validating, .secret | .webhook .validating, .webhook .mutating => rfl

theorem stores_withSite (c : Cluster) (k : Kind) (s : Site k.Object) :
    (c.withSite k s).stores = Function.update c.stores k s.store := by
  funext k'
  by_cases hk : k' = k
  · subst hk
    rw [Function.update_self, stores, site_withSite_self]
  · rw [Function.update_of_ne hk, stores, stores, site_withSite_of_ne c s hk]

end Cluster

def Disturbance.isRace {α : Type} : Disturbance α → Bool
  | .race _ => true
  | .calm | .fail _ | .panic _ => false

/-- No other writer is on the way. -/
structure Weather.Calm {α : Type} (w : Weather α) : Prop where
  reads : ∀ d ∈ w.reads, d.isRace = false
  writes : ∀ d ∈ w.writes, d.isRace = false
  otherReads : w.otherReads.isRace = false
  otherWrites : w.otherWrites.isRace = false

namespace Weather.Calm

variable {α : Type} {w : Weather α}

theorem none : ({} : Weather α).Calm where
  reads _ h := (List.not_mem_nil h).elim
  writes _ h := (List.not_mem_nil h).elim
  otherReads := rfl
  otherWrites := rfl

theorem forRead (H : w.Calm) : w.forRead.1.isRace = false ∧ w.forRead.2.Calm := by
  rw [Weather.forRead]
  split
  · exact ⟨H.otherReads, H⟩
  · rename_i d rest hreads
    have hcalm := H.reads
    rw [hreads, List.forall_mem_cons] at hcalm
    exact ⟨hcalm.1, hcalm.2, H.writes, H.otherReads, H.otherWrites⟩

theorem forWrite (H : w.Calm) : w.forWrite.1.isRace = false ∧ w.forWrite.2.Calm := by
  rw [Weather.forWrite]
  split
  · exact ⟨H.otherWrites, H⟩
  · rename_i d rest hwrites
    have hcalm := H.writes
    rw [hwrites, List.forall_mem_cons] at hcalm
    exact ⟨hcalm.1, H.reads, hcalm.2, H.otherReads, H.otherWrites⟩

end Weather.Calm

namespace Site

variable {α : Type} {s : Site α} {c : Call α}

theorem calm_disturbance (H : s.weather.Calm) :
    (s.disturbance c).1.isRace = false ∧ (s.disturbance c).2.Calm := by
  rw [disturbance]
  split
  · exact H.forWrite
  · exact H.forRead

theorem weather_call [Resource α] : (s.call c).2.weather = (s.disturbance c).2 := by
  rw [call]
  generalize s.disturbance c = before
  obtain ⟨d, weather⟩ := before
  cases d with
  | calm | fail | panic | race => rfl

end Site

namespace World

/-- The world as a scene. -/
def scene (w : World Cluster) (sound : ∀ k, (w.objects.stores k).Sound) (past : History) : Scene :=
  ⟨w.objects.stores, sound, w.env.clock, past⟩

/-- What another writer does just before a request. -/
def meanwhile (w : World Cluster) : Request → Option ((k : Kind) × Deed k.Object)
  | .store k c =>
    match ((w.objects.site k).disturbance c).1 with
    | .race x => some ⟨k, .write x⟩
    | _ => none
  | _ => none

/-- The stores that a request meets. -/
def met (w : World Cluster) (r : Request) : Stores :=
  match w.meanwhile r with
  | some ⟨k, d⟩ => Function.update w.objects.stores k ((w.objects.stores k).suffer d)
  | none => w.objects.stores

/-- All that has happened when a request is made. -/
def lately (w : World Cluster) (past : History) (r : Request) : History :=
  match w.meanwhile r with
  | some ⟨k, d⟩ => .deed k d :: past
  | none => past

/-- Answers from the world and keeps a record of what happens. -/
def logged : Handler (World Cluster × History) := fun r (w, past) =>
  let (answer, w') := handler Cluster.backend r w
  (answer, w', .request (w.met r) r answer :: w.lately past r)

theorem run_logged {α : Type} (p : Script α) (w : World Cluster) (past : History) :
    (p.run logged (w, past)).1 = (p.run (handler Cluster.backend) w).1 ∧
      (p.run logged (w, past)).2.1 = (p.run (handler Cluster.backend) w).2 := by
  induction p generalizing w past with
  | done | stop => exact ⟨rfl, rfl⟩
  | ask r next ih => exact ih _ _ _

variable {w : World Cluster} {sound : ∀ k, (w.objects.stores k).Sound} {past : History}

/-- The scene that a request meets is one that other writers can lead to. -/
theorem outside_met (r : Request) : ∃ sound', Outside (w.scene sound past)
    ⟨w.met r, sound', w.env.clock, w.lately past r⟩ := by
  rw [met, lately]
  cases w.meanwhile r with
  | none => exact ⟨sound, .refl⟩
  | some deed =>
    obtain ⟨k, d⟩ := deed
    exact ⟨((w.scene sound past).suffer k d).sound, .single ⟨k, d, rfl⟩⟩

/-- What the world answers is an answer that can be given where the request is made. -/
theorem answers_handler {s : Scene} {r : Request} (hstores : s.stores = w.met r)
    (hclock : s.clock = w.env.clock) : s.Answers r (handler Cluster.backend r w).1
      (handler Cluster.backend r w).2.objects.stores := by
  cases r with
  | store k c =>
    simp only [met, meanwhile] at hstores
    simp only [handler, Cluster.backend, Cluster.stores_withSite, Site.call]
    generalize hbefore : (w.objects.site k).disturbance c = before at hstores ⊢
    obtain ⟨d, weather⟩ := before
    have hself : Function.update w.objects.stores k (w.objects.site k).store = w.objects.stores :=
      Function.update_eq_self k w.objects.stores
    cases d with
    | calm =>
      have h := Answers.performed (s := s) k c
      rwa [hstores] at h
    | fail e =>
      have h := Answers.refused (s := s) k c e
      rwa [hstores, ← hself] at h
    | panic text =>
      have h := Answers.panicked (s := s) k c text
      rwa [hstores, ← hself] at h
    | race x =>
      have hraced : s.stores =
        Function.update w.objects.stores k ((w.objects.stores k).suffer (.write x)) := hstores
      have h := Answers.performed (s := s) k c
      rwa [hraced, Function.update_self, Function.update_idem] at h
  | now =>
    have h := Answers.now (s := s)
    rwa [hstores, hclock] at h
  | generate start =>
    have h := Answers.generated (s := s) start (w.env.generate start).1
    rwa [hstores] at h
  | chance =>
    have h := Answers.chance (s := s) w.env.chance
    rwa [hstores] at h
  | report setback =>
    have h := Answers.reported (s := s) setback
    rwa [hstores] at h
  | sleep d =>
    have h := Answers.slept (s := s) d
    rwa [hstores] at h

theorem clock_handler {r : Request} :
    (handler Cluster.backend r w).2.env.clock = w.env.clock := by
  cases r with
  | store | now | generate | chance | report | sleep => rfl

variable {α : Type} {R : Scene → Scene → Prop} [IsPreorder Scene R] {I : World Cluster → Prop}

/-- A run in the world is a run of the script, if what is before each request is what `R` allows. -/
theorem runs_of_met (hI : ∀ {w r}, I w → I (handler Cluster.backend r w).2)
    (hR : ∀ {w} sound past r, I w → ∃ sound', R (w.scene sound past)
      ⟨w.met r, sound', w.env.clock, w.lately past r⟩) (p : Script α) (hw : I w) :
    ∃ sound', p.Runs R (w.scene sound past) (p.run logged (w, past)).1
      ((p.run logged (w, past)).2.1.scene sound' (p.run logged (w, past)).2.2) := by
  induction p generalizing w past with
  | done a => exact ⟨sound, rfl, refl_of R _⟩
  | stop why => exact ⟨sound, rfl, refl_of R _⟩
  | ask r next ih =>
    obtain ⟨sound', hmet⟩ := hR sound past r hw
    let m : Scene := ⟨w.met r, sound', w.env.clock, w.lately past r⟩
    have hanswer := answers_handler (s := m) rfl rfl
    have hscene : (handler Cluster.backend r w).2.scene (m.after hanswer).sound
        (m.after hanswer).past = m.after hanswer := by
      simp only [scene, clock_handler, Scene.after, m]
    obtain ⟨sound'', hrest⟩ := ih _ (hI hw)
    exact ⟨sound'', m, _, _, hmet, hanswer, hscene ▸ hrest⟩

/-- What a script does in the world it can do among other writers. -/
theorem runs_outside (p : Script α) : ∃ sound', p.Runs Outside (w.scene sound past)
    (p.run logged (w, past)).1
      ((p.run logged (w, past)).2.1.scene sound' (p.run logged (w, past)).2.2) :=
  runs_of_met (I := fun _ => True) (fun _ => trivial) (fun _ _ r _ => outside_met r) p trivial

/-- No other writer is on the way to any store. -/
def Calm (w : World Cluster) : Prop := ∀ k, (w.objects.site k).weather.Calm

theorem Calm.handler {r : Request} (H : w.Calm) : (handler Cluster.backend r w).2.Calm := by
  cases r with
  | store k c =>
    intro k'
    by_cases hk : k' = k
    · subst hk
      simp only [World.handler, Cluster.backend, Cluster.site_withSite_self, Site.weather_call]
      exact (Site.calm_disturbance (H k')).2
    · simp only [World.handler, Cluster.backend]
      rw [Cluster.site_withSite_of_ne _ _ hk]
      exact H k'
  | now | generate | chance | report | sleep => exact H

theorem Calm.meanwhile (H : w.Calm) (r : Request) : w.meanwhile r = none := by
  cases r with
  | store k c =>
    rw [World.meanwhile]
    split
    · rename_i x hrace
      have hcalm := (Site.calm_disturbance (c := c) (H k)).1
      rw [hrace] at hcalm
      cases hcalm
    · rfl
  | now | generate | chance | report | sleep => rfl

theorem Calm.run (H : w.Calm) (p : Script α) : (p.run logged (w, past)).2.1.Calm := by
  induction p generalizing w past with
  | done | stop => exact H
  | ask r next ih => exact ih _ H.handler

/-- What a script does in a world without other writers it can do alone. -/
theorem runs_alone (H : w.Calm) (p : Script α) : ∃ sound', p.Runs Eq (w.scene sound past)
    (p.run logged (w, past)).1
      ((p.run logged (w, past)).2.1.scene sound' (p.run logged (w, past)).2.2) := by
  refine runs_of_met (I := Calm) (fun h => h.handler) (fun sound past r h => ⟨?_, ?_⟩) p H
  · rw [met, h.meanwhile]
    exact sound
  · simp only [met, lately, h.meanwhile]
    rfl

end World

/-- The store that other writers have filled with objects. -/
def Store.filled {α : Type} [Resource α] (xs : List α) : Store α := xs.foldl Store.insert {}

theorem Store.sound_filled {α : Type} [Resource α] (xs : List α) : (Store.filled xs).Sound := by
  suffices h : ∀ s : Store α, s.Sound → (xs.foldl Store.insert s).Sound from h _ sound_empty
  induction xs with
  | nil => exact fun _ hs => hs
  | cons x xs ih => exact fun s hs => ih _ ((s.drift_suffer (.write x)).sound hs)

namespace Cluster

/-- A cluster with objects, and with some weather over its secrets. -/
def filled (secrets : List Secret) (mutating validating : List WebhookConfiguration)
    (weather : Weather Secret := {}) : Cluster where
  secrets := { store := .filled secrets, weather }
  mutating := { store := .filled mutating }
  validating := { store := .filled validating }

variable {secrets : List Secret} {mutating validating : List WebhookConfiguration}
  {weather : Weather Secret}

theorem sound_filled (k : Kind) :
    ((filled secrets mutating validating weather).stores k).Sound := by
  match k with
  | .secret => exact Store.sound_filled secrets
  | .webhook .mutating => exact Store.sound_filled mutating
  | .webhook .validating => exact Store.sound_filled validating

theorem calm_filled (H : weather.Calm) (k : Kind) :
    ((filled secrets mutating validating weather).site k).weather.Calm := by
  match k with
  | .secret => exact H
  | .webhook .mutating | .webhook .validating => exact .none

end Cluster

/-- The result is neither an error nor a stop, and `P` holds of it. -/
inductive EndsIn {α ε : Type} (P : α → Prop) : Except Stop (Except ε α) → Prop
  | intro {a : α} : P a → EndsIn P (.ok (.ok a))

instance {α ε : Type} (P : α → Prop) [DecidablePred P] :
    (result : Except Stop (Except ε α)) → Decidable (EndsIn P result)
  | .ok (.ok a) => decidable_of_iff (P a) ⟨.intro, fun h => by cases h; assumption⟩
  | .ok (.error _) | .error _ => isFalse nofun

theorem EndsIn.exists {α ε : Type} {P : α → Prop} {result : Except Stop (Except ε α)}
    (h : EndsIn P result) : ∃ a, result = .ok (.ok a) ∧ P a := by
  cases h with
  | intro hP => exact ⟨_, rfl, hP⟩

namespace Sample

/-- A controller to try things on. -/
def controller : Controller where
  namespaceName := "system"
  caSecret := "ca"
  leafSecret := "leaf"
  targets := [⟨.mutating, "mutating"⟩, ⟨.validating, "validating"⟩]
  schedule := .onConflict
  maxRequeue := .ofSeconds 86400

def secret (name : String) (entries : List (String × Bytes)) : Secret where
  metadata := { name := some name }
  data := some (.ofList entries)

/-- A webhook that is reached by a service, and one that is not. -/
def configuration (name : String) : WebhookConfiguration where
  metadata := { name := some name }
  webhooks := some [{ name := "inside", service := some { name := "webhook" } },
    { name := "outside", url := some "elsewhere" }]

/-- A world in which the controller has all it looks after. -/
def world (clock : Instant) (made : List Authority) (ca : Secret) (weather : Weather Secret) :
    World Cluster where
  env := { clock, source := .queue (made.map .ok) }
  objects := .filled [ca, secret "leaf" [("tls.crt", [1])]] [configuration "mutating"]
    [configuration "validating"] weather

/-- A pass, and what it leaves behind. -/
def pass (w : World Cluster × History) :
    Except Stop (Except Error PassReport) × World Cluster × History :=
  (Rotation.pass 1 controller).run.run World.logged w

variable {w : World Cluster} {past : History} {P : PassReport → Prop} {clock : Instant}
  {made : List Authority} {ca : Secret} {weather : Weather Secret}

theorem sound (h : w = world clock made ca weather) (k : Kind) :
    (w.objects.stores k).Sound := by
  subst h
  exact Cluster.sound_filled k

theorem calm (h : w = world clock made ca weather) (H : weather.Calm) : w.Calm := by
  subst h
  exact Cluster.calm_filled H

theorem get?_ca (h : w = world clock made ca weather) (hname : Resource.anyName ca = "ca") :
    (w.objects.stores .secret).objects.get? "ca" = some (Resource.withVersion ca 1) := by
  subst h
  have hleaf : "ca" ≠ Resource.anyName (secret "leaf" [("tls.crt", [1])]) := by decide
  show (((KeyMap.empty.insert _ _).insert _ _).get? "ca") = _
  rw [Resource.anyName_withVersion, Resource.anyName_withVersion,
    KeyMap.get?_insert_of_ne hleaf, hname, KeyMap.get?_insert_self]

theorem pass_outside (w : World Cluster) (past : History)
    (sound : ∀ k, (w.objects.stores k).Sound) :
    ∃ sound', (Rotation.pass 1 controller).run.Runs Outside (w.scene sound past) (pass (w, past)).1
      ((pass (w, past)).2.1.scene sound' (pass (w, past)).2.2) :=
  World.runs_outside (Rotation.pass 1 controller).run

theorem pass_alone (past : History) (hcalm : w.Calm)
    (sound : ∀ k, (w.objects.stores k).Sound) : ∃ sound',
    (Rotation.pass 1 controller).run.Runs Eq (w.scene sound past) (pass (w, past)).1
      ((pass (w, past)).2.1.scene sound' (pass (w, past)).2.2) :=
  World.runs_alone hcalm (Rotation.pass 1 controller).run

theorem calm_pass (hcalm : w.Calm) : (pass (w, past)).2.1.Calm :=
  hcalm.run (Rotation.pass 1 controller).run

end Sample

end TrustAnchor
