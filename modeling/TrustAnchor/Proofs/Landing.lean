import TrustAnchor.Proofs.Steps
import TrustAnchor.Proofs.Surroundings

/-! Where writes land. A write of the stored authority that goes well lands on exactly what the
call just before it, a read of the same attempt, has found: whatever others have written after that
read is never overwritten. It is this read that the version check protects, not the one by which
the pass has decided. -/

namespace TrustAnchor

open Script (Attempt Stable Keeps)

/-- What a request has found, if it read the object of a kind and a name. -/
def Request.found (k : Kind) (name : String) :
    (r : Request) → Except String r.Answer → Option (Option k.Object)
  | .store k' (.get name'), .ok (.ok x) =>
    if h : k' = k ∧ name' = name then some (h.1 ▸ x) else none
  | _, _ => none

namespace History

/-- What the reads of an object have found, the last one first. -/
def found (k : Kind) (name : String) : History → List (Option k.Object)
  | [] => []
  | .deed _ _ :: past => found k name past
  | .request _ r answer :: past => (r.found k name answer).toList ++ found k name past

/-- What those writes of an object that went well have met, the last one first. -/
def overwritten (k : Kind) (name : String) : History → List (Option k.Object)
  | [] => []
  | .deed _ _ :: past => overwritten k name past
  | .request before r answer :: past =>
    if r.On k name ∧ r.Wrote answer then
      (before k).objects.get? name :: overwritten k name past
    else overwritten k name past

/-- Every write of an object that went well has met the object as the script's last call before
it, a read, had found it; and also as any earlier read had found it, if nobody had done anything to
it in between. -/
def Landed (k : Kind) (name : String) : History → Prop
  | [] => True
  | .deed _ _ :: past => Landed k name past
  | .request before r answer :: past =>
    (r.On k name → r.Wrote answer →
      LastCall k name (Request.Reads k ((before k).objects.get? name)) past ∧
        ∀ found, Kept k name found past → (before k).objects.get? name = found) ∧
      Landed k name past

end History

namespace Scene

variable {s t : Scene} {k : Kind} {name : String} {r : Request} {answer : Except String r.Answer}
  {stores : Stores}

/-- All writes so far have landed well, and what the next one needs is known. -/
def Landing (k : Kind) (name : String) (s : Scene) : Prop :=
  s.past.Landed k name ∧ s.Mindful k name

theorem landing_stable : Stable Outside (Landing k name) := by
  refine fun _ _ hout hs => ⟨?_, Mindful.stable hout hs.2⟩
  exact hout.keeps (J := fun s => s.past.Landed k name) (fun _ _ _ hs => hs) hs.1

theorem landing_after (H : s.Answers r answer stores) (h : ¬ (r.On k name ∧ r.Wrote answer))
    (hs : s.Landing k name) : (s.after H).Landing k name :=
  ⟨⟨fun hon hwrote => absurd ⟨hon, hwrote⟩ h, hs.1⟩, hs.2.after H⟩

theorem landing_of_asks {α : Type} {p : Script α} {S : Kind → String → Prop}
    (H : p.Asks (Request.Within S)) (hS : ¬ S k name) : p.Keeps Outside (Landing k name) :=
  H.keeps landing_stable fun _ _ _ _ h hwithin hs =>
    landing_after h (fun hwrote => hwithin.not_on hS hwrote.1) hs

theorem landing_of_readsOnly {α : Type} {p : Script α} (H : p.Asks Request.ReadsOnly) :
    p.Keeps Outside (Landing k name) :=
  H.keeps landing_stable fun _ _ _ _ h hreads hs =>
    landing_after h (fun hwrote => hreads.not_wrote hwrote.2) hs

end Scene

namespace Amendment

open Scene

variable {k : Kind} {name : String} {β : Type} (A : Amendment k name β)

/-- What an attempt writes over is what it has read: it has seen the version, and no version is
given twice. -/
theorem object_eq_of_fits {s t : Scene} {x : k.Object} {b : β}
    (hplan : A.plan (s.object k name) = .write x b) (hdrift : (s.stores k).Drift (t.stores k))
    (hfits : Fits (s.object k name) (t.object k name) x) : t.object k name = s.object k name := by
  cases hfound : s.object k name with
  | none =>
    rw [hfound] at hfits
    exact hfits
  | some y =>
    rw [hfound] at hfits hplan
    obtain ⟨z, hz, hversion⟩ := hfits
    rw [Resource.version_of_metadata (A.metadata hplan)] at hversion
    rw [hz, hdrift.eq_of_version (s.sound k) hfound hz hversion]

theorem landing : A.attempt.run.Keeps Outside (Landing k name) := by
  intro s result t hs hrun
  obtain ⟨m, answer, stores, hm, hread, H⟩ := A.attempt_runs hrun
  have hm' : (m.after hread).Landing k name :=
    landing_after hread (fun h => Request.ReadsOnly.not_wrote (r := .store k (.get name)) rfl h.2)
      (landing_stable hm hs)
  rcases H with ⟨-, hout⟩ | ⟨rfl, H⟩
  · exact landing_stable hout hm'
  · cases hplan : A.plan (m.object k name) with
    | finish result =>
      rw [hplan] at H
      exact landing_stable H.2 hm'
    | write x b =>
      rw [hplan] at H
      obtain ⟨result', m', hput, hout⟩ : ∃ result' m', (put k (m.object k name) x).run.Runs Outside
          (m.after hread) result' m' ∧ Outside m' t := by
        rcases H.attempt with ⟨why, -, hput⟩ | ⟨e, -, hput⟩ | ⟨y, m', hput, -, hout⟩
        · exact ⟨_, t, hput, .refl⟩
        · exact ⟨_, t, hput, .refl⟩
        · exact ⟨_, m', hput, hout⟩
      refine landing_stable hout ?_
      obtain ⟨n, r, answer, stores', hn, hwrite, hm'', hcases⟩ := put_runs hput
      obtain ⟨hlanded, hmindful⟩ := landing_stable hn hm'
      refine landing_stable hm'' ⟨⟨fun _ hwrote => ⟨?_, fun _ hkept => hmindful hkept⟩, hlanded⟩,
        hmindful.after hwrite⟩
      have hlast : n.past.LastCall k name (Request.Reads k (m.object k name)) :=
        lastCall_stable hn (.inl ⟨⟨rfl, rfl⟩, .intro⟩)
      rcases hcases with ⟨-, hfails, -⟩ | ⟨-, hfits, -⟩
      · exact absurd hwrote hfails
      · rw [A.anyName_of_possible hplan hread.possible] at hfits
        have hdrift := (hread.drift k).trans (hn.drift k)
        have hsame : n.object k name = m.object k name := A.object_eq_of_fits hplan hdrift hfits
        rw [← hsame] at hlast
        exact hlast

end Amendment

namespace Rotation

open Scene

variable {horizon : Nat} {k : Kind} {name namespaceName operation : String} {schedule : Schedule}
  {β : Type}

theorem loop_landing {A : Amendment k name β} :
    (Retry.onConflict horizon schedule operation fun _ => A.attempt.run).Keeps Outside
      (Landing k name) :=
  Retry.onConflict_keeps landing_stable
    (fun _ _ _ _ h hidle hs => landing_after h (fun hwrote => hidle.not_on hwrote.1) hs)
    fun _ => A.landing

theorem persist_landing {a : Authority} :
    (persist horizon name namespaceName a schedule).run.Keeps Outside (Landing .secret name) := by
  rw [persist_eq]
  exact loop_landing

theorem invalidateLeaf_landing :
    (invalidateLeaf horizon name schedule).run.Keeps Outside (Landing .secret name) := by
  rw [invalidateLeaf_eq]
  exact Keeps.bind loop_landing fun _ => .done landing_stable _

theorem withdraw_landing {c : Controller} {persistence : Written} :
    (withdraw horizon c persistence).run.Keeps Outside (Landing .secret name) := by
  by_cases hname : name = c.leafSecret
  · subst hname
    cases persistence with
    | updated => exact Keeps.attempt invalidateLeaf_landing fun _ => .done landing_stable _
    | created => exact .done landing_stable _
    | unchanged => exact .done landing_stable _
  · exact landing_of_asks withdraw_asks fun h => hname h.2

/-- Every write of the stored authority that went well in a pass, whatever the end of the pass and
whatever others did in between, has landed on exactly what its own attempt had read, be it a version
or the absence of the secret. That is what the pass has decided by only if nobody has written the
secret since. -/
theorem landed_of_pass {c : Controller} {s t : Scene}
    {result : Except Stop (Except Error PassReport)} (hpast : s.past = [])
    (hrun : (pass horizon c).run.Runs Outside s result t) : t.past.Landed .secret c.caSecret := by
  have hsecret : ¬ Kind.secret ≠ Kind.secret := fun h => h rfl
  have hstart : s.Landing .secret c.caSecret := by
    refine ⟨?_, .of_past_eq_nil hpast⟩
    rw [hpast]
    trivial
  rw [pass_eq] at hrun
  have hend : t.Landing .secret c.caSecret :=
    Keeps.attempt (landing_of_readsOnly now_asks) (fun _ =>
      Keeps.attempt (landing_of_readsOnly load_asks) fun _ =>
      Keeps.attempt (landing_of_readsOnly choose_asks) fun _ =>
      Keeps.attempt (landing_of_asks propagate_asks hsecret) fun _ =>
      Keeps.attempt persist_landing fun _ =>
      Keeps.attempt withdraw_landing fun _ => .done landing_stable _) hstart hrun
  exact hend.1

/-- The secret of the authority is empty when the pass decides. Another writer fills it before the
pass looks at it once more, and writes it again before the pass does. -/
def overtaken : World Cluster :=
  Sample.world ⟨0, 0⟩ [⟨"certificate", "key", ⟨0, 0⟩, ⟨60000000000, 0⟩⟩] (Sample.secret "ca" [])
    { reads := [.calm, .race (Sample.secret "ca" [("ca.crt", [1]), ("ca.key", [2])])]
      writes := [.race (Sample.secret "ca" [("ca.crt", [3]), ("ca.key", [4])])] }

theorem landed_of_overtaken_pass : ∃ s t report, s.past = [] ∧
    (pass 1 Sample.controller).run.Runs Outside s (.ok (.ok report)) t ∧
      (t.past.overwritten .secret "ca").length = 1 ∧ t.past.Landed .secret "ca" := by
  obtain ⟨hend, hwritten⟩ : EndsIn (fun _ => True) (Sample.pass (overtaken, [])).1 ∧
      ((Sample.pass (overtaken, [])).2.2.overwritten .secret "ca").length = 1 := by decide +kernel
  obtain ⟨sound, hrun⟩ := Sample.pass_outside overtaken [] (Sample.sound rfl)
  obtain ⟨report, hreport, -⟩ := hend.exists
  rw [hreport] at hrun
  exact ⟨_, _, report, rfl, hrun, hwritten, landed_of_pass (c := Sample.controller) rfl hrun⟩

/-- A good pass may overwrite what it had not seen when it decided: what its first read has found,
the one by which it decides, is not what its write has met. -/
theorem overwritten_undecided : ∃ s t report, s.past = [] ∧
    (pass 1 Sample.controller).run.Runs Outside s (.ok (.ok report)) t ∧
      ¬ ∀ x ∈ t.past.overwritten .secret "ca", (t.past.found .secret "ca").getLast? = some x := by
  obtain ⟨hend, hmet⟩ : EndsIn (fun _ => True) (Sample.pass (overtaken, [])).1 ∧
      ¬ ∀ x ∈ (Sample.pass (overtaken, [])).2.2.overwritten .secret "ca",
        ((Sample.pass (overtaken, [])).2.2.found .secret "ca").getLast? = some x := by
    decide +kernel
  obtain ⟨sound, hrun⟩ := Sample.pass_outside overtaken [] (Sample.sound rfl)
  obtain ⟨report, hreport, -⟩ := hend.exists
  rw [hreport] at hrun
  exact ⟨_, _, report, rfl, hrun, hmet⟩

end Rotation

end TrustAnchor
