import TrustAnchor.Proofs.Lasting
import TrustAnchor.Proofs.Smooth
import TrustAnchor.Proofs.Startup

/-! What the start of the controller leaves behind. The controller is called when the secret of the
authority changes, so there has to be one when the start is over; and a start must not harm what
others have stored in the meantime. -/

namespace TrustAnchor

open Scene (Outside)
open Script (Keeps KeepsFailing Runs Stable)

/-- The errors with which reads failed, the last first. -/
def History.refusals : History → List Error
  | [] => []
  | .request _ (.store _ (.get _)) (.ok (.error e)) :: past => e :: refusals past
  | _ :: past => refusals past

/-- What may happen while an empty secret of a name is to be left: deeds of others, pauses, reads of
the secret, and attempts to create it, none of which succeeds where there is one. -/
inductive Event.Ensures (name namespaceName : String) : Event → Prop
  | deed {k : Kind} {d : Deed k.Object} : Ensures name namespaceName (.deed k d)
  | idle {before : Stores} {r : Request} {answer : Except String r.Answer} : r.Idle →
    Ensures name namespaceName (.request before r answer)
  | read {before : Stores} {answer : Except String (Except Error (Option Secret))} :
    Ensures name namespaceName (.request before (.store .secret (.get name)) answer)
  | tried {before : Stores} {answer : Except String (Except Error Secret)} :
    (∀ {y}, answer = .ok (.ok y) → (before .secret).objects.get? name = none) →
    Ensures name namespaceName
      (.request before (.store .secret (.create (Rotation.emptySecret name namespaceName))) answer)

/-- If the request is a read, it has failed, and with an error. -/
def Request.Refused : (r : Request) → Except String r.Answer → Prop
  | .store _ (.get _), .ok (.error _) => True
  | .store _ (.get _), _ => False
  | _, _ => True

instance : (r : Request) → (answer : Except String r.Answer) → Decidable (r.Refused answer)
  | .store _ (.get _), .ok (.error _) | .store _ (.create _), _ | .store _ (.replace _), _
  | .now, _ | .generate _, _ | .chance, _ | .report _, _ | .sleep _, _ => isTrue trivial
  | .store _ (.get _), .ok (.ok _) | .store _ (.get _), .error _ => isFalse id

/-- What comes to a good end needs no help. -/
theorem World.Yields.tryCatch {α : Type} {w w' : World Cluster} {x : Script.Attempt α} {a : α}
    (f : Error → Script.Attempt α) (H : w.Yields x a w') : w.Yields (tryCatch x f) a w' := by
  have hrun : x.run.run (handler Cluster.backend) w = (.ok (.ok a), w') :=
    Prod.ext H.result H.left
  have htry : (MonadExcept.tryCatch x f).run.run (handler Cluster.backend) w =
      (.ok (.ok a), w') := by
    refine (Script.run_bind _ x.run _ w).trans ?_
    rw [hrun]
    rfl
  exact ⟨congrArg Prod.fst htry, congrArg Prod.snd htry⟩

namespace Rotation

open Scene

variable {horizon : Nat} {c : Controller} {schedule : Schedule} {name namespaceName : String}
  {s m t : Scene}

theorem call_lasting {k : Kind} {c : Call k.Object} {answer : c.Answer} {x : k.Object}
    (H : (Script.request (.store k c)).Runs Outside s (.ok answer) t)
    (hshown : c.shown (.ok answer) = some (some x)) : t.Lasting k c.name := by
  obtain ⟨m, answer', stores, -, h, hout, hanswer⟩ := Script.Runs.request H
  cases answer' with
  | error text => cases hanswer
  | ok answer' =>
    cases hanswer
    exact lasting_stable hout (h.lasting (.shown rfl hshown))

/-! ## Looking for the secret -/

theorem presence_lasting
    (H : (presence horizon name schedule).run.Runs Outside s (.ok (.ok true)) t) :
    t.Lasting .secret name := by
  obtain ⟨_, m, hlook⟩ := Retry.attempts_last H
  rw [map_eq_pure_bind] at hlook
  obtain ⟨found, n, hget, hpresent, hout⟩ := hlook.attempt_ok
  cases found with
  | none => cases hpresent
  | some x => exact lasting_stable hout (call_lasting hget rfl)

theorem refusals_stable {es : List Error} : Stable Outside fun s => s.past.refusals = es :=
  fun _ _ hout hs => hout.keeps (J := fun s => s.past.refusals = es) (fun _ _ _ hs => hs) hs

/-- What comes of a loop when all its reads fail: the last error when the attempts are used up, or a
stop before that when a delay is no span of time. -/
inductive GivesUp (attempts : Nat) : List Error → Failure → Prop
  | exhausted {e : Error} {es : List Error} : es.length + 1 = attempts →
    GivesUp attempts (e :: es) (.error e)
  | broken {es : List Error} {fault : Duration.ConversionFault} : es.length < attempts →
    GivesUp attempts es (.stop (.panicked fault.message))

/-- A delay is computed, or that is the end. -/
theorem checked_runs {α : Type} {R : Scene → Scene → Prop}
    {d : Except Duration.ConversionFault Duration} {f : Duration → Script α}
    {result : Except Stop α} (H : (Retry.checked d >>= f).Runs R s result t) :
    (∃ fault : Duration.ConversionFault, result = .error (.panicked fault.message) ∧ R s t) ∨
      ∃ d, (f d).Runs R s result t := by
  cases d with
  | ok d => exact .inr ⟨d, H⟩
  | error fault => exact .inl ⟨fault, H⟩

/-- Between two attempts nothing is read, and every request is answered. -/
theorem idle_runs {α : Type} {r : Request} {f : r.Answer → Script α} {result : Except Stop α}
    (H : (Script.request r >>= f).Runs Outside s result t) (hr : r.Idle) :
    ∃ a n, n.past.refusals = s.past.refusals ∧ (f a).Runs Outside n result t := by
  obtain ⟨m, answer, stores, hm, h, H⟩ := H
  have hpast : m.past.refusals = s.past.refusals := refusals_stable hm rfl
  cases h with
  | chance u => exact ⟨u, m.after (.chance u), hpast, H⟩
  | reported setback => exact ⟨(), m.after (.reported setback), hpast, H⟩
  | slept d => exact ⟨(), m.after (.slept d), hpast, H⟩
  | performed | refused | panicked | now | generated => exact hr.elim

/-- One look that fails. -/
theorem look_refused {result : Except Stop (Except Error Bool)}
    (hrefused : t.past.Every Request.Refused)
    (H : (Option.isSome <$> Script.get .secret name : Script.Attempt Bool).run.Runs Outside s
      result t) :
    ∃ e, result = .ok (.error e) ∧ t.past.refusals = e :: s.past.refusals := by
  obtain ⟨m, answer, stores, hm, h, H⟩ := H
  have hheard := hrefused (mem_past_keeps _ _ List.mem_cons_self H)
  match answer with
  | .error text | .ok (.ok found) => exact hheard.elim
  | .ok (.error e) =>
    obtain ⟨rfl, hout⟩ := H
    exact ⟨e, rfl, refusals_stable hout (congrArg (e :: ·) (refusals_stable hm rfl))⟩

/-- The attempts that are left of a loop of reads, when some have failed. -/
theorem attempts_refused {operation : String} {rounds attempt : Nat} {delay : Duration}
    {result : Except Stop (Except Error Bool)} (hrounds : rounds ≠ 0)
    (hattempts : rounds + attempt = schedule.maxAttempts) (hs : s.past.refusals.length = attempt)
    (hrefused : t.past.Every Request.Refused)
    (H : (Retry.attempts schedule operation (fun _ => true)
      (fun _ => (Option.isSome <$> Script.get .secret name : Script.Attempt Bool)) rounds attempt
        delay).Runs Outside s result t) :
    ∃ f : Failure, result = f.result ∧ GivesUp schedule.maxAttempts t.past.refusals f := by
  induction rounds generalizing s attempt delay with
  | zero => exact absurd rfl hrounds
  | succ rounds ih =>
    rcases H.bind with ⟨why, -, hlook⟩ | ⟨answer, m, hlook, H⟩
    · obtain ⟨e, he, -⟩ := look_refused hrefused hlook
      cases he
    have hrefused' : m.past.Every Request.Refused :=
      fun _ _ _ hmem => hrefused (mem_past_keeps _ _ hmem H)
    obtain ⟨e, he, hm⟩ := look_refused hrefused' hlook
    cases he
    dsimp only at H
    rw [if_neg (by decide)] at H
    split at H
    · obtain ⟨_, n, hn, rfl, hout⟩ := idle_runs H trivial
      have ht : t.past.refusals = e :: s.past.refusals := refusals_stable hout (hn.trans hm)
      rw [ht]
      exact ⟨.error e, rfl, .exhausted (by omega)⟩
    -- A stop here comes too early for the attempts to be used up.
    have broken {fault : Duration.ConversionFault} {n : Scene}
        (hn : n.past.refusals = e :: s.past.refusals) (hout : Outside n t) :
        GivesUp schedule.maxAttempts t.past.refusals (.stop (.panicked fault.message)) := by
      have ht : t.past.refusals = e :: s.past.refusals := refusals_stable hout hn
      rw [ht]
      exact .broken (by rw [List.length_cons]; omega)
    obtain ⟨u, n, hn, H⟩ := idle_runs H trivial
    rcases checked_runs H with ⟨fault, rfl, hout⟩ | ⟨pause, H⟩
    · exact ⟨_, rfl, broken (hn.trans hm) hout⟩
    obtain ⟨_, n', hn', H⟩ := idle_runs H trivial
    obtain ⟨_, n'', hn'', H⟩ := idle_runs H trivial
    have hcount : n''.past.refusals = e :: s.past.refusals :=
      hn''.trans (hn'.trans (hn.trans hm))
    rcases checked_runs H with ⟨fault, rfl, hout⟩ | ⟨delay, H⟩
    · exact ⟨_, rfl, broken hcount hout⟩
    · exact ih (by omega) (by omega) (by rw [hcount, List.length_cons, hs]) H

theorem presence_refused (hattempts : schedule.maxAttempts ≠ 0) (hs : s.past.refusals = [])
    {result : Except Stop (Except Error Bool)} (hrefused : t.past.Every Request.Refused)
    (H : (presence horizon name schedule).run.Runs Outside s result t) :
    ∃ f : Failure, result = f.result ∧ GivesUp schedule.maxAttempts t.past.refusals f := by
  have hrounds : Retry.rounds horizon schedule = schedule.maxAttempts := if_neg hattempts
  refine attempts_refused (by rwa [hrounds]) ?_ (congrArg List.length hs) hrefused H
  rw [hrounds]
  rfl

/-! ## The secret that a pass stores -/

theorem put_lasting {k : Kind} {found : Option k.Object} {x y : k.Object}
    (H : (Amendment.put k found x).run.Runs Outside s (.ok (.ok y)) t) :
    t.Lasting k (Resource.anyName x) := by
  cases found with
  | none => exact call_lasting H rfl
  | some current => exact call_lasting H rfl

theorem persist_lasting {a : Authority} {written : Written}
    (H : (persist horizon name namespaceName a schedule).run.Runs Outside s (.ok (.ok written)) t) :
    t.Lasting .secret name := by
  rw [persist_eq] at H
  obtain ⟨_, m, hlast⟩ := Retry.onConflict_last H
  obtain ⟨n, answer, stores, -, hread, ⟨hfails, -⟩ | ⟨rfl, hact⟩⟩ := Amendment.attempt_runs _ hlast
  · exact absurd ⟨written, rfl⟩ hfails
  cases hplan : (storing name namespaceName a).plan (n.object .secret name) with
  | finish result =>
    rw [hplan] at hact
    obtain ⟨hresult, hout⟩ := hact
    cases hresult
    obtain ⟨x, hfound, -⟩ := storing_finish hplan
    refine lasting_stable hout (hread.lasting (.shown (x := x) rfl ?_))
    rw [hfound]
    rfl
  | write x b =>
    have hname := (storing name namespaceName a).anyName_of_object hplan
    rw [hplan] at hact
    obtain ⟨y, m', hput, -, hout⟩ := hact.attempt_ok
    rw [← hname]
    exact lasting_stable hout (put_lasting hput)

theorem pass_lasting {report : PassReport}
    (H : (pass horizon c).run.Runs Outside s (.ok (.ok report)) t) :
    t.Lasting .secret c.caSecret := by
  obtain ⟨_, _, _, _, _, _, _, m, -, -, -, -, hpersist, hwithdraw⟩ := pass_runs H
  exact (persist_lasting hpersist).runs hwithdraw

/-! ## The secret that is left empty -/

theorem ensure_lasting {created : Bool}
    (H : (ensureSecret horizon name namespaceName schedule).run.Runs Outside s
      (.ok (.ok created)) t) : t.Lasting .secret name := by
  rw [ensureSecret_eq] at H
  obtain ⟨_, m, hlast⟩ := Retry.attempts_last H
  have hname : Resource.anyName (emptySecret name namespaceName) = name := Resource.anyName_named
  generalize hresult : (Except.ok (Except.ok created) : Except Stop (Except Error Bool)) = result
    at hlast
  cases ensuring_of_runs hlast with
  | unread h _ _ | refused h _ _ _ _ _ =>
    exact absurd ⟨created, hresult.symm⟩ (Failure.not_wentWell _)
  | found h _ hout => exact lasting_stable hout (h.lasting (.shown rfl rfl))
  | created h h' _ _ hout => exact lasting_stable hout (h'.lasting (.shown hname rfl))
  | overtaken h h' hconflict _ _ hout =>
    exact lasting_stable hout (h'.lasting (.conflict hname hconflict))

/-- All that has happened since a scene was to leave an empty secret, and these are the writes. -/
def Ensured (name namespaceName : String) (ws : List (Kind × String)) (s t : Scene) : Prop :=
  ∃ since : History, t.past = since ++ s.past ∧ (∀ e ∈ since, e.Ensures name namespaceName) ∧
    since.written = ws

namespace Ensured

variable {ws : List (Kind × String)} {r : Request} {answer : Except String r.Answer}
  {stores : Stores}

theorem refl (s : Scene) : Ensured name namespaceName [] s s :=
  ⟨[], rfl, List.forall_mem_nil _, rfl⟩

theorem stable : Stable Outside (Ensured name namespaceName ws s) := by
  refine fun _ _ hout hs => hout.keeps (fun m k d hs => ?_) hs
  obtain ⟨since, hpast, hensures, hwritten⟩ := hs
  exact ⟨.deed k d :: since, congrArg (_ :: ·) hpast, List.forall_mem_cons.2 ⟨.deed, hensures⟩,
    hwritten⟩

theorem after (H : Ensured name namespaceName ws s m) (h : m.Answers r answer stores)
    (he : Event.Ensures name namespaceName (.request m.stores r answer)) :
    Ensured name namespaceName (r.landed answer ++ ws) s (m.after h) := by
  obtain ⟨since, hpast, hensures, rfl⟩ := H
  exact ⟨.request m.stores r answer :: since, congrArg (_ :: ·) hpast,
    List.forall_mem_cons.2 ⟨he, hensures⟩, rfl⟩

theorem after_quiet (H : Ensured name namespaceName ws s m) (h : m.Answers r answer stores)
    (he : Event.Ensures name namespaceName (.request m.stores r answer)) (hr : ¬ r.Wrote answer) :
    Ensured name namespaceName ws s (m.after h) := by
  have H' := H.after h he
  rwa [Request.landed_of_not_wrote hr] at H'

theorem after_get {answer : Except String (Except Error (Option Secret))}
    (H : Ensured name namespaceName ws s m)
    (h : m.Answers (.store .secret (.get name)) answer stores) :
    Ensured name namespaceName ws s (m.after h) :=
  H.after_quiet h .read (Request.ReadsOnly.not_wrote (r := .store .secret (.get name)) rfl)

theorem after_create {answer : Except String (Except Error Secret)}
    (H : Ensured name namespaceName ws s m)
    (h : m.Answers (.store .secret (.create (emptySecret name namespaceName))) answer stores)
    (hfails : ∀ y, answer ≠ .ok (.ok y)) : Ensured name namespaceName ws s (m.after h) := by
  refine H.after_quiet h (.tried fun {y} hy => absurd hy (hfails y)) fun hwrote => ?_
  obtain ⟨y, hy⟩ := hwrote.of_create
  exact hfails y hy

end Ensured

/-- An attempt that fails has created nothing. -/
theorem ensureOnce_fails :
    (ensureOnce name namespaceName).run.KeepsFailing Outside (Ensured name namespaceName [] s) := by
  intro m result t hm hrun hfails
  cases ensuring_of_runs hrun with
  | unread h hR hout => exact Ensured.stable hout ((Ensured.stable hR hm).after_get h)
  | refused h h' hrefused hR hR' hout =>
    have hn := Ensured.stable hR' ((Ensured.stable hR hm).after_get h)
    exact Ensured.stable hout (hn.after_create h' hrefused)
  | found | created | overtaken => exact absurd ⟨_, rfl⟩ hfails

theorem ensured_of_runs {created : Bool}
    (H : (ensureSecret horizon name namespaceName schedule).run.Runs Outside s
      (.ok (.ok created)) t) :
    Ensured name namespaceName (if created then [(.secret, name)] else []) s t := by
  rw [ensureSecret_eq] at H
  obtain ⟨_, m, hm, hlast⟩ := Retry.attempts_ok Ensured.stable
    (fun _ _ _ _ h hr hm => Ensured.after_quiet hm h (.idle hr) hr.not_wrote)
    (fun _ => ensureOnce_fails) (Ensured.refl s) H
  generalize hresult : (Except.ok (Except.ok created) : Except Stop (Except Error Bool)) = result
    at hlast
  cases ensuring_of_runs hlast with
  | unread h _ _ | refused h _ _ _ _ _ =>
    exact absurd ⟨created, hresult.symm⟩ (Failure.not_wentWell _)
  | found h hR hout =>
    cases hresult
    exact Ensured.stable hout ((Ensured.stable hR hm).after_get h)
  | created h h' hR hR' hout =>
    cases hresult
    have hn := Ensured.stable hR' ((Ensured.stable hR hm).after_get h)
    have hname : Resource.anyName (emptySecret name namespaceName) = name := Resource.anyName_named
    rcases h'.create with ⟨hfails, -⟩ | ⟨-, hnone, -⟩
    · exact absurd rfl hfails
    rw [hname] at hnone
    exact Ensured.stable hout (hn.after h' (.tried fun _ => hnone))
  | overtaken h h' _ hR hR' hout =>
    cases hresult
    have hn := Ensured.stable hR' ((Ensured.stable hR hm).after_get h)
    exact Ensured.stable hout (hn.after_create h' nofun)

/-! ## How a start ends -/

/-- The secret was looked for and not found, and nothing else was done. -/
structure Missed (horizon : Nat) (c : Controller) (schedule : Schedule) (s m : Scene) : Prop where
  looked : (presence horizon c.caSecret schedule).run.Runs Outside s (.ok (.ok false)) m
  reads : m.past.Every fun r _ => r.ReadsOnly
  generations : m.past.generations = []

/-- What a start has done when it comes to an outcome. It makes no pass if the secret is there, and
just one otherwise; only if that one fails it does anything more, which is to leave an empty secret
where there is none. -/
inductive Started (horizon : Nat) (c : Controller) (schedule : Schedule) (s : Scene) :
    Bootstrap → Scene → Prop
  | alreadyPresent {t : Scene} : t.past.Every (fun r _ => r.ReadsOnly) → t.past.generations = [] →
    Started horizon c schedule s .alreadyPresent t
  | issued {report : PassReport} {m t : Scene} : Missed horizon c schedule s m →
    (pass horizon c).run.Runs Outside m (.ok (.ok report)) t →
    Started horizon c schedule s (.issued report) t
  | deferred {e : Error} {created : Bool} {m n t : Scene} : Missed horizon c schedule s m →
    (pass horizon c).run.Runs Outside m (.ok (.error e)) n →
    Ensured c.caSecret c.namespaceName (if created then [(.secret, c.caSecret)] else []) n t →
    Started horizon c schedule s .deferred t

/-- Looking for the secret at the start does nothing but read. -/
theorem presence_reads {result : Except Stop (Except Error Bool)} (hpast : s.past = [])
    (H : (presence horizon name schedule).run.Runs Outside s result t) :
    t.past.Every (fun r _ => r.ReadsOnly) ∧ t.past.generations = [] := by
  have hreads : s.past.Every fun r _ => r.ReadsOnly := by
    rw [hpast]
    exact History.every_nil
  have hnone : s.past.generations = [] := by
    rw [hpast]
    rfl
  exact ⟨every_keeps presence_asks (fun _ _ hr => hr.1) hreads H,
    generations_keeps (presence_asks.mono fun _ hr => hr.2) hnone H⟩

theorem started_of_runs {b : Bootstrap} (hpast : s.past = [])
    (H : (bootstrap horizon c schedule).run.Runs Outside s (.ok (.ok b)) t) :
    Started horizon c schedule s b t ∧ t.Lasting .secret c.caSecret := by
  have missed {m} (h : (presence horizon c.caSecret schedule).run.Runs Outside s
      (.ok (.ok false)) m) : Missed horizon c schedule s m :=
    have hreads := presence_reads hpast h
    ⟨h, hreads.1, hreads.2⟩
  generalize hresult : (Except.ok (Except.ok b) : Except Stop (Except Error Bootstrap)) = result
    at H
  cases startup_of_runs H with
  | unseen | unfilled => exact absurd ⟨b, hresult.symm⟩ (Failure.not_wentWell _)
  | stopped => cases hresult
  | present h =>
    cases hresult
    obtain ⟨hreads, hnone⟩ := presence_reads hpast h
    exact ⟨.alreadyPresent hreads hnone, presence_lasting h⟩
  | issued h hpass =>
    cases hresult
    exact ⟨.issued (missed h) hpass, pass_lasting hpass⟩
  | deferred h hpass hensure =>
    cases hresult
    exact ⟨.deferred (missed h) hpass (ensured_of_runs hensure), ensure_lasting hensure⟩

/-- When every look for the secret fails, that is all that happens. -/
theorem gives_up_of_runs {result : Except Stop (Except Error Bootstrap)} (hpast : s.past = [])
    (hattempts : schedule.maxAttempts ≠ 0) (hrefused : t.past.Every Request.Refused)
    (H : (bootstrap horizon c schedule).run.Runs Outside s result t) :
    (∃ f : Failure, result = f.result ∧ GivesUp schedule.maxAttempts t.past.refusals f) ∧
      t.past.Every (fun r _ => r.ReadsOnly) ∧ t.past.generations = [] := by
  have hnone : s.past.refusals = [] := by
    rw [hpast]
    rfl
  -- No look has found anything, so the start is over with the last of them.
  have unheard {present m} (h : (presence horizon c.caSecret schedule).run.Runs Outside s
      (.ok (.ok present)) m) (hlater : ∀ e ∈ m.past, e ∈ t.past) : False := by
    obtain ⟨f, hf, -⟩ :=
      presence_refused hattempts hnone (fun _ _ _ hmem => hrefused (hlater _ hmem)) h
    exact f.not_wentWell ⟨present, hf.symm⟩
  cases startup_of_runs H with
  | unseen h =>
    obtain ⟨f, hf, hgives⟩ := presence_refused hattempts hnone hrefused h
    cases Failure.result_injective hf
    exact ⟨⟨_, rfl, hgives⟩, presence_reads hpast h⟩
  | present h => exact (unheard h fun _ he => he).elim
  | stopped h hpass | issued h hpass =>
    exact (unheard h fun e he => mem_past_keeps e _ he hpass).elim
  | unfilled h hpass hensure | deferred h hpass hensure =>
    exact (unheard h fun e he => mem_past_keeps e _ (mem_past_keeps e _ he hpass) hensure).elim

/-- Where nothing fails and nobody else is, the start comes to a new authority that is stored. -/
theorem bootstrap_smooth {U : Binary64 → Prop} {w : World Cluster} {a : Authority}
    (hpass : Retry.rounds horizon c.schedule ≠ 0) (hlooks : Retry.rounds horizon schedule ≠ 0)
    (H : w.Smooth U) (hnone : w.object .secret c.caSecret = none)
    (hpresent : ∀ target ∈ c.targets, w.object (.webhook target.kind) target.name ≠ none)
    (hmade : (w.env.generate w.env.clock).1 = .ok (.ok a))
    (hwindow : a.notBefore.nanos < a.notAfter.nanos) :
    ∃ report w', w.Yields (bootstrap horizon c schedule) (.issued report) w' ∧
      report.persistence = .created := by
  obtain ⟨hanswer, hsame⟩ := H.clear.read .secret c.caSecret
  rw [hnone] at hanswer hsame
  have hlook : w.Reaches U (presence horizon c.caSecret schedule).run (.ok false)
      (w.after (.store .secret (.get c.caSecret))) := by
    have hget : w.Reaches U (Script.get .secret c.caSecret).run (.ok none) _ := .call H hanswer
    exact Retry.attempts_reaches hlooks (hget.bind (.done hget.smooth))
  have hthere : ∀ target ∈ c.targets, (w.after (.store .secret (.get c.caSecret))).object
      (.webhook target.kind) target.name ≠ none :=
    fun target htarget => hlook.remains (hpresent target htarget)
  obtain ⟨report, w', hyields, hcreated⟩ :=
    pass_smooth hpass hlook.smooth hsame hthere hmade hwindow
  have hissued : (w.after (.store .secret (.get c.caSecret))).Yields
      (Bootstrap.issued <$> pass horizon c) (.issued report) w' := by
    rw [map_eq_pure_bind]
    exact hyields.bind .pure
  exact ⟨report, w', hlook.yields.bind (hissued.tryCatch _), hcreated⟩

/-- Whatever the stores hold, whatever fails and whatever others do: a start that comes to an
outcome has done no more than the outcome tells. If no creation was answered with a conflict where
there was no object, the start has seen a secret of the authority, and it is there at the end exactly
if no other writer has removed it since. When every look for the secret fails, the start ends with
the last error, and nothing is written. Where nothing fails and nobody else is, a new authority is
made, trusted by every target and stored. -/
theorem bootstrap_leaves_secret (hpast : s.past = []) :
    (∀ {b : Bootstrap} {t : Scene},
      (bootstrap horizon c schedule).run.Runs Outside s (.ok (.ok b)) t →
      Started horizon c schedule s b t ∧ (t.past.Candid → t.past.Seen .secret c.caSecret ∧
        (t.object .secret c.caSecret ≠ none ↔ ¬ t.past.Removed .secret c.caSecret))) ∧
    (∀ {result : Except Stop (Except Error Bootstrap)} {t : Scene},
      (bootstrap horizon c schedule).run.Runs Outside s result t → schedule.maxAttempts ≠ 0 →
      t.past.Every Request.Refused →
      (∃ f : Failure, result = f.result ∧ GivesUp schedule.maxAttempts t.past.refusals f) ∧
        t.past.Every (fun r _ => r.ReadsOnly) ∧ t.past.generations = []) ∧
    (∀ {U : Binary64 → Prop} {w : World Cluster} {a : Authority}, w.Smooth U →
      Retry.rounds horizon c.schedule ≠ 0 →
      Retry.rounds horizon schedule ≠ 0 → w.object .secret c.caSecret = none →
      (∀ target ∈ c.targets, w.object (.webhook target.kind) target.name ≠ none) →
      (w.env.generate w.env.clock).1 = .ok (.ok a) → a.notBefore.nanos < a.notAfter.nanos →
      ∃ report w', w.Yields (bootstrap horizon c schedule) (.issued report) w' ∧
        report.persistence = .created) := by
  exact ⟨fun H => started_of_runs hpast H,
    fun H hattempts hrefused => gives_up_of_runs hpast hattempts hrefused H,
    fun H hpass hlooks hnone hpresent hmade hwindow =>
      bootstrap_smooth hpass hlooks H hnone hpresent hmade hwindow⟩

/-- There is no secret of the authority yet. -/
def unclaimed (weather : Weather Secret) : World Cluster where
  env := { clock := ⟨1780000000000000000, 0⟩, source := .queue [.ok Sample.first] }
  objects := .filled [Sample.secret "leaf" [("tls.crt", [1])]] [Sample.configuration "mutating"]
    [Sample.configuration "validating"] weather

theorem smooth_unclaimed : (unclaimed {}).Smooth fun _ => True := by
  refine ⟨⟨Cluster.sound_filled, fun k => ?_, fun k => ?_, fun _ _ => trivial⟩, fun k => ?_⟩
  · match k with
    | .secret | .webhook .mutating | .webhook .validating => exact .none
  · match k with
    | .secret | .webhook .mutating | .webhook .validating => exact ⟨rfl, rfl⟩
  · match k with
    | .secret | .webhook .mutating | .webhook .validating => rfl

/-- A start, and what it leaves behind. -/
def start (w : World Cluster) : Except Stop (Except Error Bootstrap) × World Cluster × History :=
  (bootstrap 1 Sample.controller .onConflict).run.run World.logged (w, [])

theorem start_runs {w : World Cluster} (hsound : ∀ k, (w.objects.stores k).Sound) :
    ∃ s t, s.past = [] ∧ t.past = (start w).2.2 ∧
      (bootstrap 1 Sample.controller .onConflict).run.Runs Outside s (start w).1 t := by
  obtain ⟨_, hrun⟩ : ∃ sound, (bootstrap 1 Sample.controller .onConflict).run.Runs Outside
      (w.scene hsound []) (start w).1 ((start w).2.1.scene sound (start w).2.2) :=
    World.runs_outside (bootstrap 1 Sample.controller .onConflict).run
  exact ⟨_, _, rfl, rfl, hrun⟩

/-- In good weather the authority is issued; where no read goes well, the start ends with the last
error. -/
theorem bootstrap_leaves_secret_unclaimed :
    (∃ s t report, (bootstrap 1 Sample.controller .onConflict).run.Runs Outside s
        (.ok (.ok (.issued report))) t ∧ report.persistence = .created ∧
      Started 1 Sample.controller .onConflict s (.issued report) t ∧
      t.object .secret "ca" ≠ none) ∧
    ∃ s result t, (bootstrap 1 Sample.controller .onConflict).run.Runs Outside s result t ∧
      t.past.refusals.length = 4 ∧
      ∃ f : Failure, result = f.result ∧ GivesUp 4 t.past.refusals f := by
  constructor
  · obtain ⟨s, t, hpast, ht, hrun⟩ := start_runs (w := unclaimed {}) Cluster.sound_filled
    obtain ⟨hstart, -, hsmooth⟩ :=
      @bootstrap_leaves_secret 1 Sample.controller .onConflict s hpast
    obtain ⟨hcandid, hdeeds⟩ : (start (unclaimed {})).2.2.Candid ∧
        ∀ e ∈ (start (unclaimed {})).2.2, ¬ e.DeedOn .secret "ca" := by decide +kernel
    rw [← ht] at hcandid hdeeds
    obtain ⟨report, w', hyields, hcreated⟩ := hsmooth smooth_unclaimed (by decide) (by decide)
      (by decide) (by decide) rfl (by decide)
    have hresult : (start (unclaimed {})).1 = .ok (.ok (.issued report)) :=
      (World.run_logged _ _ _).1.trans hyields.result
    rw [hresult] at hrun
    obtain ⟨hstarted, hthere⟩ := hstart hrun
    exact ⟨s, t, report, hrun, hcreated, hstarted,
      (hthere hcandid).2.2 (History.not_removed hdeeds)⟩
  · let weather : Weather Secret := { otherReads := .fail (.api 500 "Injected") }
    obtain ⟨s, t, hpast, ht, hrun⟩ := start_runs (w := unclaimed weather) Cluster.sound_filled
    obtain ⟨hrefused, hcount⟩ : (start (unclaimed weather)).2.2.Every Request.Refused ∧
        (start (unclaimed weather)).2.2.refusals.length = 4 := by decide +kernel
    rw [← ht] at hrefused hcount
    obtain ⟨-, hgives, -⟩ := @bootstrap_leaves_secret 1 Sample.controller .onConflict s hpast
    obtain ⟨⟨f, hf, h⟩, -⟩ := hgives hrun (by decide) hrefused
    exact ⟨s, _, t, hrun, hcount, f, hf, h⟩

/-- What a start has seen may be gone when it is over, however honest the conflicts: another writer
removes the secret after the look that found it. -/
theorem bootstrap_without_secret : ∃ s t, s.past = [] ∧
    (bootstrap 1 Sample.controller .onConflict).run.Runs Outside s (.ok (.ok .alreadyPresent)) t ∧
      t.past.Candid ∧ t.object .secret "ca" = none := by
  let w : World Cluster := Sample.world ⟨0, 0⟩ [] (Sample.secret "ca" []) {}
  obtain ⟨hend, hcandid⟩ : EndsIn (· = .alreadyPresent) (start w).1 ∧ (start w).2.2.Candid := by
    decide +kernel
  obtain ⟨s, t, hpast, ht, hrun⟩ := start_runs (w := w) (Sample.sound rfl)
  obtain ⟨b, hb, rfl⟩ := hend.exists
  rw [hb] at hrun
  rw [← ht] at hcandid
  refine ⟨s, t.suffer .secret (.remove "ca"), hpast,
    hrun.after (.single ⟨.secret, .remove "ca", rfl⟩),
    List.forall_mem_cons.2 ⟨trivial, hcandid⟩, ?_⟩
  rw [object_suffer]
  exact KeyMap.get?_erase_self

end Rotation

end TrustAnchor
