import TrustAnchor.Proofs.Fates
import TrustAnchor.Proofs.Ledger
import TrustAnchor.Proofs.Rekeying
import TrustAnchor.Proofs.Withdrawal
import Mathlib.Logic.Equiv.Basic

/-! What a pass lets out about private keys: nothing. If two passes start from scenes that are the
same but for the keys, among surroundings that are the same but for the keys that they hand out,
they end in the same way, and nobody who does not look into the secret of the authority can tell one
from the other. No run is left out, as every run is one among some surroundings
(`Surroundings.exists_of_runs`). -/

namespace TrustAnchor

open Scene

/-! ## Two runs -/

namespace Retouching

variable {τ : Retouching} {s : Scene} {r : Request} {A B : Surroundings}

def fate (τ : Retouching) (f : Fate) : Fate where
  deeds := f.deeds.map fun ⟨k, d⟩ => ⟨k, d.map (τ.object k)⟩
  passage := f.passage
  made := f.made.map (Except.map τ.authority)
  drawn := f.drawn

/-- As long as they see the same up to what was replaced, the second surroundings do the same as the
first ones up to what was replaced. -/
def Links (τ : Retouching) (A B : Surroundings) : Prop :=
  ∀ past r, B (τ.history past) (τ.request r) = τ.fate (A past r)

theorem scene_sufferAll {deeds : List ((k : Kind) × Deed k.Object)} :
    τ.scene (s.sufferAll deeds) =
      (τ.scene s).sufferAll (deeds.map fun ⟨k, d⟩ => ⟨k, d.map (τ.object k)⟩) := by
  induction deeds generalizing s with
  | nil => rfl
  | cons d deeds ih => exact ih.trans (congrArg (sufferAll · _) scene_suffer)

theorem respond_scene {f : Fate} : (τ.scene s).respond (τ.fate f) (τ.request r) =
    (τ.answer r (s.respond f r).1, τ.stores (s.respond f r).2) := by
  cases r with
  | store k c =>
    simp only [respond, request, fate]
    cases f.passage with
    | free =>
      show (Except.ok (Site.perform ((s.stores k).map (τ.object k)) (c.map (τ.object k))).1,
        Function.update (τ.stores s.stores) k
          (Site.perform ((s.stores k).map (τ.object k)) (c.map (τ.object k))).2) = _
      rw [Store.perform_map (τ.retouches_object k), stores_update]
      rfl
    | refused e =>
      show (Except.ok (Site.refuse e (c.map (τ.object k))), _) = _
      rw [← Call.mapAnswer_refuse]
      rfl
    | panicked text => rfl
  | now | generate | chance | report | sleep => rfl

theorem meet_scene {f : Fate} : (τ.scene s).meet (τ.fate f) (τ.request r) =
    (τ.answer r (s.meet f r).1, τ.scene (s.meet f r).2) := by
  have hrespond : (τ.scene s).respond (τ.fate f) (τ.request r) = _ := respond_scene
  have hanswer := congrArg Prod.fst hrespond
  have hstores := congrArg Prod.snd hrespond
  refine Prod.ext hanswer (Scene.ext hstores rfl ?_)
  exact congrArg (Event.request _ _ · :: τ.history s.past) hanswer

theorem attend_scene (H : τ.Links A B) : B.attend (τ.request r) (τ.scene s) =
    (τ.answer r (A.attend r s).1, τ.scene (A.attend r s).2) := by
  have hfate : B (τ.scene s).past (τ.request r) = τ.fate (A s.past r) := H _ _
  unfold Surroundings.attend
  rw [hfate, ← meet_scene, scene_sufferAll]
  rfl

end Retouching

/-- Twins come to the same in linked surroundings, and leave the same scene. -/
theorem Script.Twins.run {α β : Type} {τ : Retouching} {g : α → β} {p : Script α} {q : Script β}
    {A B : Surroundings} (H : p.Twins τ g q) (hlinks : τ.Links A B) (s : Scene) :
    q.run B.attend (τ.scene s) = ((p.run A.attend s).1.map g, τ.scene (p.run A.attend s).2) := by
  induction H generalizing s with
  | done h =>
    subst h
    rfl
  | stop why => rfl
  | ask H ih =>
    rw [Script.run_ask, Script.run_ask, Retouching.attend_scene hlinks]
    exact ih _ (answers_respond _ _ _).possible _

/-! ## What can be seen of a run -/

/-- The authority that the secret holds. -/
def Secret.authority? (x : Secret) (R : Authority.Reader) : Option Authority :=
  (Authority.ofEntries x.data R).toOption.join

namespace Request

/-- Which call on which object the request is. -/
def call? : Request → Option (Kind × Verb × String)
  | .store k c => some (k, c.verb, c.name)
  | _ => none

/-- The secrets that are read or written. -/
def secrets : (r : Request) → Except String r.Answer → List Secret
  | .store .secret (.get _), .ok (.ok (some x)) => [x]
  | .store .secret (.create x), _ | .store .secret (.replace x), _ => [x]
  | _, _ => []

end Request

/-- The authorities that a script has to do with: new ones, and those that it reads or writes. -/
def Event.authorities (R : Authority.Reader) : Event → List Authority
  | .deed _ _ => []
  | .request _ r answer => r.made answer ++ (r.secrets answer).filterMap (·.authority? R)

namespace History

def calls (past : History) : List (Kind × Verb × String) :=
  past.filterMap fun
    | .deed _ _ => none
    | .request _ r _ => r.call?

def authorities (past : History) (R : Authority.Reader) : List Authority :=
  past.flatMap (Event.authorities R)

end History

section

variable {τ : Retouching} {r : Request} {answer : Except String r.Answer} {past : History}

theorem Retouching.calls_history : (τ.history past).calls = past.calls := by
  rw [History.calls, Retouching.history, List.filterMap_map]
  refine List.filterMap_congr fun e _ => ?_
  cases e with
  | deed k d => rfl
  | request before r answer =>
    cases r with
    | store k c =>
      show some (k, (c.map (τ.object k)).verb, (c.map (τ.object k)).name) = some (k, c.verb, c.name)
      rw [Call.verb_map, Call.name_map (τ.retouches_object k)]
    | _ => rfl

theorem Retouching.made_answer :
    (τ.request r).made (τ.answer r answer) = (r.made answer).map τ.authority := by
  match r, answer with
  | .generate _, .error _ | .generate _, .ok (.error _) | .generate _, .ok (.ok _) => rfl
  | .store _ _, _ | .now, _ | .chance, _ | .report _, _ | .sleep _, _ => rfl

theorem Retouching.secrets_answer :
    (τ.request r).secrets (τ.answer r answer) = (r.secrets answer).map τ.secret := by
  match r, answer with
  | .store .secret (.get _), .error _ | .store .secret (.get _), .ok (.error _)
  | .store .secret (.get _), .ok (.ok none) | .store .secret (.get _), .ok (.ok (some _)) => rfl
  | .store .secret (.create _), _ | .store .secret (.replace _), _ => rfl
  | .store (.webhook _) (.get _), _ | .store (.webhook _) (.create _), _
  | .store (.webhook _) (.replace _), _ => rfl
  | .generate _, _ | .now, _ | .chance, _ | .report _, _ | .sleep _, _ => rfl

end

namespace Rekeying

variable {R : Authority.Reader} {ρ : Rekeying R} {name : String} {x : Secret} {past : History}
  {s : Scene}

theorem summary_secret : ((ρ.secret name x).authority? R).map Authority.summary =
    (x.authority? R).map Authority.summary := by
  rw [secret]
  split
  · have hentries : Authority.ofEntries (ρ.contents x).data R = _ := ofEntries_entries
    rw [Secret.authority?, hentries, Secret.authority?]
    rcases Authority.ofEntries x.data R with e | found | a <;> rfl
  · rfl

/-- What may be shown of an authority tells nothing of its key. -/
theorem summaries_event (e : Event) :
    (((ρ.retouching name).event e).authorities R).map Authority.summary =
      (e.authorities R).map Authority.summary := by
  cases e with
  | deed k d => rfl
  | request before r answer =>
    simp only [Retouching.event, Event.authorities, Retouching.made_answer,
      Retouching.secrets_answer, List.map_append, List.map_map, List.filterMap_map,
      List.map_filterMap]
    exact congrArg₂ _ rfl (List.filterMap_congr fun x _ => summary_secret)

theorem summaries_history :
    (((ρ.retouching name).history past).authorities R).map Authority.summary =
      (past.authorities R).map Authority.summary := by
  simp only [History.authorities, Retouching.history, List.flatMap_map, List.map_flatMap,
    summaries_event]

theorem object_secret : ((ρ.retouching name).scene s).object .secret name =
    (s.object .secret name).map ρ.contents := by
  refine Retouching.object_scene.trans (Option.map_congr fun x hx => if_pos ?_)
  exact (s.sound .secret).name hx

theorem object_secret_of_ne {other : String} (h : other ≠ name) :
    ((ρ.retouching name).scene s).object .secret other = s.object .secret other := by
  refine Retouching.object_scene.trans
    ((Option.map_congr fun x hx => if_neg ?_).trans Option.map_id')
  exact fun hname => h (((s.sound .secret).name hx).symm.trans hname)

end Rekeying

namespace Sample

def otherKey : String :=
  block "PRIVATE KEY" "MC4CAQAwBQYDK2VwBCIEIAAAAAAAAAAAAAAAAAAAAAAAAAAAAAAAAAAAAAAAAAAB"

/-- One key is put in the place of another, and that in the place of the first. -/
def swapped : Rekeying .standard where
  key := Equiv.swap ⟨key, by decide +kernel⟩ ⟨otherKey, by decide +kernel⟩
  injective := Equiv.injective _

/-- Nobody interferes, and a new authority is at hand. -/
def supplied : Surroundings := fun _ _ => { Fate.quiet with made := .ok (.ok second) }

/-- The first authority is stored and has expired. -/
def due : Scene :=
  (world ⟨1803902400000000000, 0⟩ [] (secret "ca" first.toEntries.entries) {}).scene
    (sound rfl) []

end Sample

namespace Rotation

/-- The private key has no influence on anything but the secret of the authority. Two passes from
scenes and among surroundings that are the same but for a rekeying come to the same result with the
same calls. They leave the same configurations, the same secrets of other names, and the same secret
of the authority but for the rekeying; and what may be shown of the authorities is the same. -/
theorem pass_conceals_keys (horizon : Nat) (c : Controller) (ρ : Rekeying c.reader) (s : Scene)
    {A B : Surroundings} (H : (ρ.retouching c.caSecret).Links A B) :
    let one := (pass horizon c).run.run A.attend s
    let two := (pass horizon c).run.run B.attend ((ρ.retouching c.caSecret).scene s)
    two.1 = one.1 ∧ two.2.past.calls = one.2.past.calls ∧
      (∀ kind, two.2.stores (.webhook kind) = one.2.stores (.webhook kind)) ∧
      (∀ name ≠ c.caSecret, two.2.object .secret name = one.2.object .secret name) ∧
      two.2.object .secret c.caSecret = (one.2.object .secret c.caSecret).map ρ.contents ∧
      (two.2.past.authorities c.reader).map Authority.summary =
        (one.2.past.authorities c.reader).map Authority.summary := by
  intro one two
  have hrun : two = (one.1.map id, (ρ.retouching c.caSecret).scene one.2) :=
    (pass_twins horizon c ρ).run H s
  rw [hrun, Except.map_id]
  exact ⟨rfl, Retouching.calls_history, fun _ => Retouching.stores_webhook,
    fun _ hname => Rekeying.object_secret_of_ne hname, Rekeying.object_secret,
    Rekeying.summaries_history⟩

/-- A rotation with one key and with another: only the secret of the authority is different. -/
theorem pass_conceals_keys_swapped :
    let τ := Sample.swapped.retouching "ca"
    let p := (pass 1 Sample.controller).run
    ∃ B, τ.Links Sample.supplied B ∧
      EndsIn (·.persistence = .updated) (p.run Sample.supplied.attend Sample.due).1 ∧
      (p.run B.attend (τ.scene Sample.due)).1 = (p.run Sample.supplied.attend Sample.due).1 ∧
      (p.run B.attend (τ.scene Sample.due)).2.object .secret "ca" ≠
        (p.run Sample.supplied.attend Sample.due).2.object .secret "ca" := by
  intro τ p
  have hlinks : τ.Links Sample.supplied fun past r => τ.fate (Sample.supplied past r) :=
    fun _ _ => rfl
  obtain ⟨hresult, -, -, -, hsecret, -⟩ :=
    pass_conceals_keys 1 Sample.controller Sample.swapped Sample.due hlinks
  obtain ⟨hend, hother⟩ :
      EndsIn (·.persistence = .updated) (p.run Sample.supplied.attend Sample.due).1 ∧
        ((p.run Sample.supplied.attend Sample.due).2.object .secret "ca").map
          Sample.swapped.contents ≠
            (p.run Sample.supplied.attend Sample.due).2.object .secret "ca" := by
    decide +kernel
  exact ⟨_, hlinks, hend, hresult, hsecret.trans_ne hother⟩

end Rotation

end TrustAnchor
