import TrustAnchor.Proofs.Convergence
import TrustAnchor.Proofs.Promptness

/-! A world in which nothing fails at all. Every first attempt succeeds there, so no script ever
sleeps, and the targets are served one after the other even if one of them is listed twice. -/

namespace TrustAnchor

open Script (Attempt wakeful)

theorem Store.object_perform {α : Type} [Resource α] {s : Store α} {c : Call α} {name : String}
    (h : s.objects.get? name ≠ none) : (Site.perform s c).2.objects.get? name ≠ none := by
  rcases s.perform_cases c with halike | ⟨x, -, hgains⟩
  · rwa [halike.objects]
  · by_cases hname : name = Resource.anyName x
    · subst hname
      rw [hgains.get?_self]
      nofun
    · rwa [hgains.get?_of_ne hname]

namespace World

variable {α : Type} {U : Binary64 → Prop} {w w' : World Cluster} {k : Kind} {name : String}

/-- No request removes an object. -/
theorem Clear.object_remains (H : w.Clear U) (r : Request) (h : w.object k name ≠ none) :
    (w.after r).object k name ≠ none := by
  by_cases hon : r.On k name
  · cases r with
    | store k' c =>
      obtain ⟨rfl, -⟩ := hon
      rw [object, H.stores_after c, Function.update_self]
      exact Store.object_perform h
    | _ => exact hon.elim
  · rwa [H.object_after hon]

/-- Nothing can fail, not even for a conflict. -/
structure Smooth (U : Binary64 → Prop) (w : World Cluster) : Prop where
  clear : w.Clear U
  pending : ∀ k, w.pending k = 0

namespace Smooth

theorem after (H : w.Smooth U) (r : Request) : (w.after r).Smooth U :=
  ⟨H.clear.after r, fun k => Nat.le_zero.1 ((H.clear.pending_after r).trans (H.pending k).le)⟩

theorem create {x : k.Object} (H : w.Smooth U) (h : w.object k (Resource.anyName x) = none) :
    ∃ y, w.answer (.store k (.create x)) = .ok (.ok y) := by
  rcases H.clear.create h with hanswer | ⟨-, -, hpending⟩
  · exact hanswer
  · rw [H.pending] at hpending
    cases hpending

theorem replace {x current : k.Object} (H : w.Smooth U)
    (h : w.object k (Resource.anyName x) = some current)
    (hversion : Resource.version x = Resource.version current) :
    ∃ y, w.answer (.store k (.replace x)) = .ok (.ok y) := by
  rcases H.clear.replace h hversion with hanswer | ⟨-, -, hpending⟩
  · exact hanswer
  · rw [H.pending] at hpending
    cases hpending

/-- No script brings failures about, or does anything to objects that it is not about. -/
theorem yields {x : Attempt α} {a : α} {S : Kind → String → Prop} (H : w.Smooth U)
    (hasks : x.run.Asks (Request.Within S)) (hx : w.Yields x a w') :
    w'.Smooth U ∧ ∀ {k name}, ¬ S k name → w'.object k name = w.object k name := by
  obtain ⟨hclear, hpending, hobject⟩ := H.clear.left hasks
  rw [hx.left] at hclear hpending hobject
  exact ⟨⟨hclear, fun k => Nat.le_zero.1 ((hpending k).trans (H.pending k).le)⟩, hobject⟩

end Smooth

/-- The script comes to its end without a sleep, and removes nothing. -/
structure Reaches (U : Binary64 → Prop) (w : World Cluster) (p : Script α) (a : α)
    (w' : World Cluster) : Prop where
  reach : p.reach (wakeful (handler Cluster.backend)) w = some (a, w')
  smooth : w'.Smooth U
  remains : ∀ {k name}, w.object k name ≠ none → w'.object k name ≠ none

namespace Reaches

variable {β : Type} {m : World Cluster} {p : Script α} {f : α → Script β} {a : α} {b : β}

theorem done (H : w.Smooth U) : w.Reaches U (.done a) a w := ⟨rfl, H, id⟩

theorem bind (H : w.Reaches U p a m) (K : m.Reaches U (f a) b w') :
    w.Reaches U (p >>= f) b w' :=
  ⟨(Script.reach_bind H.reach).trans K.reach, K.smooth, fun h => K.remains (H.remains h)⟩

theorem call {c : Call k.Object} {answer : c.Answer} (H : w.Smooth U)
    (h : w.answer (.store k c) = .ok answer) :
    w.Reaches U (Script.request (.store k c)) answer (w.after (.store k c)) := by
  refine ⟨?_, H.after _, H.clear.object_remains _⟩
  rw [World.answer] at h
  rw [Script.request, Script.reach_store, h]
  rfl

theorem yields {x : Attempt α} (H : w.Reaches U x.run (.ok a) w') : w.Yields x a w' :=
  have hrun := Script.run_of_reach H.reach
  ⟨congrArg Prod.fst hrun, congrArg Prod.snd hrun⟩

end Reaches

end World

open World

namespace Amendment

variable {U : Binary64 → Prop} {w : World Cluster} {k : Kind} {name : String} {β : Type}
  {A : Amendment k name β}

theorem put_reaches {x : k.Object} (H : w.Smooth U) (hname : Resource.anyName x = name)
    (hversion : ∀ z, w.object k name = some z → Resource.version x = Resource.version z) :
    ∃ y w', w.Reaches U (put k (w.object k name) x).run (.ok y) w' := by
  subst hname
  cases hobject : w.object k (Resource.anyName x) with
  | none =>
    obtain ⟨y, hy⟩ := H.create hobject
    exact ⟨y, _, .call H hy⟩
  | some z =>
    obtain ⟨y, hy⟩ := H.replace hobject (hversion z hobject)
    exact ⟨y, _, .call H hy⟩

/-- An attempt that finds nothing wrong succeeds, as planned. -/
theorem attempt_reaches (H : w.Smooth U)
    (hplan : ∀ e, A.plan (w.object k name) ≠ .finish (.error e)) :
    ∃ b w', w.Reaches U A.attempt.run (.ok b) w' ∧
      (A.plan (w.object k name) = .finish (.ok b) ∨
        ∃ x, A.plan (w.object k name) = .write x b) := by
  obtain ⟨hanswer, hsame⟩ := H.clear.read k name
  have hread : w.Reaches U (Script.get k name).run _ _ := .call H hanswer
  cases hx : A.plan (w.object k name) with
  | finish result =>
    cases result with
    | error e => exact absurd hx (hplan e)
    | ok b =>
      refine ⟨b, w.after (.store k (.get name)), hread.bind ?_, .inl rfl⟩
      show World.Reaches U _ (act (w.object k name) (A.plan (w.object k name))).run _ _
      rw [hx]
      exact .done hread.smooth
  | write x b =>
    obtain ⟨y, w', hput⟩ : ∃ y w', (w.after (.store k (.get name))).Reaches U
        (put k (w.object k name) x).run (.ok y) w' := by
      rw [← hsame] at hx ⊢
      refine put_reaches hread.smooth ?_ fun z hz => ?_
      · exact A.anyName_of_object (s := World.scene _ hread.smooth.clear.sound []) hx
      · rw [hz] at hx
        exact Resource.version_of_metadata (A.metadata hx)
    refine ⟨b, w', hread.bind ?_, .inr ⟨x, rfl⟩⟩
    show World.Reaches U _ (act (w.object k name) (A.plan (w.object k name))).run _ _
    rw [hx]
    exact hput.bind (.done hput.smooth)

end Amendment

namespace Retry

variable {U : Binary64 → Prop} {w w' : World Cluster} {α ε : Type} {schedule : Schedule}
  {operation : String} {rounds attempt horizon : Nat} {delay : Duration} {a : α}

/-- A loop whose first attempt succeeds is done. -/
theorem attempts_reaches {again : ε → Bool} {body : Nat → Script (Except ε α)} (hrounds : rounds ≠ 0)
    (H : w.Reaches U (body attempt) (.ok a) w') :
    w.Reaches U (attempts schedule operation again body rounds attempt delay) (.ok a) w' := by
  cases rounds with
  | zero => exact absurd rfl hrounds
  | succ rounds =>
    rw [attempts]
    exact H.bind (.done H.smooth)

theorem onConflict_reaches {body : Nat → Script (Except Error α)}
    (hrounds : Retry.rounds horizon schedule ≠ 0) (H : w.Reaches U (body 0) (.ok a) w') :
    w.Reaches U (onConflict horizon schedule operation body) (.ok a) w' :=
  (attempts_reaches hrounds H).bind (.done H.smooth)

end Retry

namespace Rotation

variable {U : Binary64 → Prop} {horizon : Nat} {c : Controller} {w w' : World Cluster}
  {name namespaceName : String} {a : Authority} {bundle : Bytes} {schedule : Schedule}
  {targets : List Target}

theorem sync_reaches {target : Target} (hrounds : Retry.rounds horizon schedule ≠ 0)
    (H : w.Smooth U) (hpresent : w.object (.webhook target.kind) target.name ≠ none) :
    ∃ outcome w', w.Reaches U (target.sync horizon bundle schedule).run (.ok outcome) w' := by
  have hplan : ∀ e, (target.syncing bundle).plan (w.object (.webhook target.kind) target.name) ≠
      .finish (.error e) := by
    intro e h
    cases hobject : w.object (.webhook target.kind) target.name with
    | none => exact hpresent hobject
    | some config =>
      simp only [hobject, Target.syncing] at h
      split at h <;> cases h
  obtain ⟨outcome, w', hreaches, -⟩ := Amendment.attempt_reaches H hplan
  rw [Target.sync_eq]
  exact ⟨outcome, w', Retry.onConflict_reaches hrounds hreaches⟩

theorem propagate_smooth (hrounds : Retry.rounds horizon schedule ≠ 0) (H : w.Smooth U)
    (hpresent : ∀ target ∈ targets, w.object (.webhook target.kind) target.name ≠ none) :
    ∃ outcomes w', w.Yields (propagate horizon targets bundle schedule) outcomes w' := by
  let ready (w : World Cluster) : Prop :=
    w.Smooth U ∧ ∀ target ∈ targets, w.object (.webhook target.kind) target.name ≠ none
  have hsyncs : ∀ p ∈ targets.map fun t => (t.sync horizon bundle schedule).run, ∀ w, ready w →
      ∃ result w', p.reach (wakeful (handler Cluster.backend)) w = some (result, w') ∧
        (∃ outcome, result = .ok outcome) ∧ ready w' := by
    intro p hp w ⟨H, hpresent⟩
    obtain ⟨target, htarget, rfl⟩ := List.mem_map.1 hp
    obtain ⟨outcome, w', hsync⟩ := sync_reaches hrounds H (hpresent target htarget)
    exact ⟨_, w', hsync.reach, ⟨outcome, rfl⟩, hsync.smooth,
      fun t ht => hsync.remains (hpresent t ht)⟩
  obtain ⟨results, w', -, hgood, ⟨H', -⟩, htogether⟩ :=
    Script.reach_together (fun _ _ => rfl) hrounds hsyncs ⟨H, hpresent⟩
  have hjoined : ∀ entry ∈ targets.zip ((results.map Except.ok).map joined),
      ∃ outcome, entry.2 = .ok outcome := by
    intro entry hentry
    obtain ⟨o, ho, hjoin⟩ := List.mem_map.1 (List.of_mem_zip hentry).2
    obtain ⟨result, hresult, rfl⟩ := List.mem_map.1 ho
    obtain ⟨outcome, rfl⟩ := hgood result hresult
    exact ⟨outcome, hjoin.symm⟩
  obtain ⟨outcomes, hzip⟩ := eq_map_of_good hjoined
  have hreach : (propagate horizon targets bundle schedule).run.reach
      (wakeful (handler Cluster.backend)) w = some (.ok outcomes, w') := by
    refine (Script.reach_bind htogether).trans ?_
    rw [hzip, gather_good]
    rfl
  have hrun := Script.run_of_reach hreach
  exact ⟨outcomes, w', congrArg Prod.fst hrun, congrArg Prod.snd hrun⟩

/-- Where there is no secret, one is created. -/
theorem persist_smooth (hrounds : Retry.rounds horizon schedule ≠ 0) (H : w.Smooth U)
    (hnone : w.object .secret name = none) :
    ∃ w', w.Yields (persist horizon name namespaceName a schedule) .created w' := by
  have hplan : (storing name namespaceName a).plan (w.object .secret name) =
      .write (Secret.holding a (Resource.named name (some namespaceName))) .created := by
    rw [hnone]
    rfl
  obtain ⟨written, w', hreaches, h⟩ := Amendment.attempt_reaches H fun e h => by
    rw [hplan] at h
    cases h
  rw [hplan] at h
  obtain ⟨_, h⟩ := h.resolve_left nofun
  cases h
  refine ⟨w', World.Reaches.yields (U := U) ?_⟩
  rw [persist_eq]
  exact Retry.onConflict_reaches hrounds hreaches

/-- Where there is no secret yet and the targets are in place, a pass with an authority that is
valid for some time comes to a good end. -/
theorem pass_smooth (hrounds : Retry.rounds horizon c.schedule ≠ 0) (H : w.Smooth U)
    (hnone : w.object .secret c.caSecret = none)
    (hpresent : ∀ target ∈ c.targets, w.object (.webhook target.kind) target.name ≠ none)
    (hmade : (w.env.generate w.env.clock).1 = .ok (.ok a))
    (hwindow : a.notBefore.nanos < a.notAfter.nanos) :
    ∃ report w', w.Yields (pass horizon c) report w' ∧ report.persistence = .created := by
  have hload : w.Yields (load c.caSecret c.reader) none
      (w.after (.store .secret (.get c.caSecret))) :=
    load_yields H.clear (by rw [hnone]; rfl)
  obtain ⟨H₁, hsame₁⟩ := H.yields load_within hload
  let w₁ := w.after (.store .secret (.get c.caSecret))
  obtain ⟨b, regenerated, d, w₂, hchoose, -⟩ : ∃ b regenerated d w₂,
      w₁.Yields (choose none w₁.env.clock) (b, regenerated, d) w₂ ∧ _ :=
    choose_yields fun _ => ⟨a, hmade, hwindow⟩
  obtain ⟨H₂, hsame₂⟩ := H₁.yields choose_within hchoose
  have hthere : ∀ target ∈ c.targets, w₂.object (.webhook target.kind) target.name ≠ none := by
    intro target htarget
    rw [hsame₂ id, hsame₁ Target.not_secret]
    exact hpresent target htarget
  obtain ⟨outcomes, w₃, hpropagate⟩ : ∃ outcomes w₃,
      w₂.Yields (propagate horizon c.targets b.bundle c.schedule) outcomes w₃ :=
    propagate_smooth hrounds H₂ hthere
  obtain ⟨H₃, hsame₃⟩ := H₂.yields propagate_asks hpropagate
  have hnone₃ : w₃.object .secret c.caSecret = none := by
    rw [hsame₃ (not_not.2 rfl), hsame₂ id]
    rwa [(H.clear.read .secret c.caSecret).2]
  obtain ⟨w₄, hpersist⟩ : ∃ w₄,
      w₃.Yields (persist horizon c.caSecret c.namespaceName b c.schedule) .created w₄ :=
    persist_smooth hrounds H₃ hnone₃
  refine ⟨⟨d, .created, regenerated, none, outcomes⟩, w₄, ?_, rfl⟩
  rw [pass_eq]
  have hnow : w.Yields (liftM (Script.request .now)) w.env.clock w := .lift rfl
  exact hnow.bind (hload.bind (hchoose.bind (hpropagate.bind (hpersist.bind (.bind .pure .pure)))))

end Rotation

end TrustAnchor
